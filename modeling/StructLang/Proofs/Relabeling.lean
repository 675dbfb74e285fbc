import Mathlib.Data.List.Nodup
import StructLang.Event
import StructLang.Proofs.Checking
import StructLang.Proofs.Idents
import StructLang.Symbol.Arena

/-!
# Relabelings

What can be exchanged in a program, and in what an analysis leaves behind, without any change to
its sense: names by other names, as long as different ones stay different, places by other places,
and handles by other handles.  `Relabeling` collects the three, and everything that holds names,
places or handles has its `relabel`.

Trees are the main thing.  Shape, operators, literals and flags stay, as do the files that places
name.  Two laws are used of them.

* `Decl.relabel_relabel` — one relabeling after another is a relabeling.
* `Decl.relabel_eq_self` — new handles change nothing in a tree that has none of them.
-/

namespace StructLang

/-- New names, places and handles for old ones. -/
structure Relabeling where
  name : String → String
  injective : Function.Injective name
  /-- The new line and column for a line and a column. -/
  place : UInt64 × UInt64 → UInt64 × UInt64
  handle : SymbolId → SymbolId

namespace Relabeling

/-- New handles alone. -/
def ofHandles (handle : SymbolId → SymbolId) : Relabeling where
  name := id
  injective := Function.injective_id
  place := id
  handle := handle

/-- New names and places, as another source text has them. -/
def ofSource (name : String → String) (injective : Function.Injective name)
    (place : UInt64 × UInt64 → UInt64 × UInt64) : Relabeling where
  name := name
  injective := injective
  place := place
  handle := id

/-- The first relabeling after the second. -/
def comp (S T : Relabeling) : Relabeling where
  name := S.name ∘ T.name
  injective := S.injective.comp T.injective
  place := S.place ∘ T.place
  handle := S.handle ∘ T.handle

end Relabeling

variable (T : Relabeling)

/-! ## Symbols and scopes -/

mutual

/-- The type with its struct names exchanged. -/
def Ty.relabel : Ty → Ty
  | .int => .int
  | .bool => .bool
  | .void => .void
  | .string => .string
  | .struct name => .struct (T.name name)
  | .structDef name => .structDef (T.name name)
  | .fn params ret => .fn (Ty.relabelAll params) ret.relabel
  | .error => .error

/-- The types of a list with their struct names exchanged. -/
def Ty.relabelAll : List Ty → List Ty
  | [] => []
  | ty :: tys => ty.relabel :: Ty.relabelAll tys

end

lemma Ty.relabelAll_eq_map (tys : List Ty) : Ty.relabelAll T tys = tys.map (·.relabel T) := by
  induction tys with
  | nil => rfl
  | cons ty tys ih => rw [relabelAll, ih, List.map_cons]

/-- The scope with names and handles exchanged. -/
def Scope.relabel (scope : Scope) : Scope where
  entries := scope.entries.map fun (name, h) => (T.name name, T.handle h)
  distinct := by
    have hnames : (scope.entries.map fun (name, h) => (T.name name, T.handle h)).map Prod.fst =
        (scope.entries.map Prod.fst).map T.name := by
      rw [List.map_map, List.map_map]
      rfl
    rw [hnames]
    exact scope.distinct.map T.injective

/-- The scopes with names and handles exchanged. -/
def ScopeStack.relabel (stack : ScopeStack) : ScopeStack where
  scopes := stack.scopes.map (·.relabel T)

/-- The kind with names and handles exchanged. -/
def Symbol.Kind.relabel : Symbol.Kind → Symbol.Kind
  | .var ty => .var (ty.relabel T)
  | .structDef fields => .structDef (fields.relabel T)
  | .structVar defn => .structVar (T.handle defn)
  | .fn params ret => .fn (Ty.relabelAll T params) (ret.relabel T)

/-- The symbol with names and handles exchanged. -/
def Symbol.relabel (symbol : Symbol) : Symbol where
  name := T.name symbol.name
  kind := symbol.kind.relabel T

/-- The symbols with names and handles exchanged, where they are. -/
def Arena.relabel (A : Arena) : Arena where
  symbols := A.symbols.map (·.relabel T)
  numbered := by rw [Array.size_map]; exact A.numbered

/-! ## Reports and events -/

/-- Another line and column, in the same file. -/
def Location.relabel (loc : Location) : Location where
  line := (T.place (loc.line, loc.column)).1
  column := (T.place (loc.line, loc.column)).2
  file := loc.file

/-- The same message at another place. -/
def Diagnostic.relabel (d : Diagnostic) : Diagnostic where
  severity := d.severity
  loc := d.loc.relabel T
  message := d.message

/-- The same mistake at another place. -/
def Finding.relabel (finding : Finding) : Finding where
  loc := finding.loc.relabel T
  problem := finding.problem

/-- The event with names, places and handles exchanged.  A listing of scopes is text already. -/
def Event.relabel : Event → Event
  | .reported loc problem => .reported (loc.relabel T) problem
  | .declared name h => .declared (T.name name) (T.handle h)
  | .declaredStruct name h => .declaredStruct (T.name name) (T.handle h)
  | .bound name loc h => .bound (T.name name) (loc.relabel T) (T.handle h)
  | .boundField name loc h => .boundField (T.name name) (loc.relabel T) (T.handle h)
  | event => event

lemma Event.finding?_relabel (event : Event) :
    (event.relabel T).finding? = event.finding?.map (·.relabel T) := by
  cases event <;> rfl

lemma reports_relabel (es : List Event) :
    reports (es.map (·.relabel T)) = (reports es).map (·.relabel T) := by
  rw [reports, reports, List.filterMap_map, List.map_filterMap]
  exact List.filterMap_congr fun event _ => event.finding?_relabel T

/-! ## Trees -/

/-- The slot with another value in it, or still empty. -/
def Slot.map {purpose : String} {α β : Type} (f : α → β) (slot : Slot purpose α) :
    Slot purpose β where
  content := slot.content.map f

/-- The identifier with name, place and handle exchanged. -/
def Ident.relabel (id : Ident) : Ident where
  name := T.name id.name
  loc := id.loc.relabel T
  binding := id.binding.map T.handle

@[simp] lemma Ident.symbol?_relabel (id : Ident) :
    (id.relabel T).symbol? = id.symbol?.map T.handle := rfl

/-- The written type with its struct name exchanged. -/
def TypeName.relabel : TypeName → TypeName
  | .int => .int
  | .bool => .bool
  | .void => .void
  | .struct name => .struct (name.relabel T)

/-- The declaration with its identifiers exchanged. -/
def VarDecl.relabel (d : VarDecl) : VarDecl where
  ty := d.ty.relabel T
  id := d.id.relabel T

/-- The note with its place exchanged, and with the names in its type. -/
def Note.relabel (note : Note) : Note where
  loc := note.loc.relabel T
  ty := note.ty.map (·.relabel T)

mutual

/-- The expression with names, places and handles exchanged. -/
def Expr.relabel : Expr → Expr
  | .lit value note => .lit value (note.relabel T)
  | .name id note => .name (id.relabel T) (note.relabel T)
  | .dot base field failed note => .dot base.relabel (field.relabel T) failed (note.relabel T)
  | .assign target value note => .assign target.relabel value.relabel (note.relabel T)
  | .call callee args note => .call (callee.relabel T) (Expr.relabelAll args) (note.relabel T)
  | .unary op operand note => .unary op operand.relabel (note.relabel T)
  | .binary op left right note => .binary op left.relabel right.relabel (note.relabel T)

/-- The expressions of a list with names, places and handles exchanged. -/
def Expr.relabelAll : List Expr → List Expr
  | [] => []
  | e :: es => e.relabel :: Expr.relabelAll es

end

mutual

/-- The block with names, places and handles exchanged. -/
def Block.relabel : Block → Block
  | .mk decls stmts => .mk (decls.map (·.relabel T)) (Stmt.relabelAll stmts)

/-- The statement with names, places and handles exchanged. -/
def Stmt.relabel : Stmt → Stmt
  | .simple verb e => .simple verb (e.relabel T)
  | .guarded guard cond body => .guarded guard (cond.relabel T) body.relabel
  | .ifElse cond yes no => .ifElse (cond.relabel T) yes.relabel no.relabel
  | .ret none loc => .ret none (loc.relabel T)
  | .ret (some value) loc => .ret (some (value.relabel T)) (loc.relabel T)

/-- The statements of a list with names, places and handles exchanged. -/
def Stmt.relabelAll : List Stmt → List Stmt
  | [] => []
  | s :: ss => s.relabel :: Stmt.relabelAll ss

end

/-- The function with names, places and handles exchanged. -/
def FnDecl.relabel (f : FnDecl) : FnDecl where
  ret := f.ret.relabel T
  id := f.id.relabel T
  formals := f.formals.map (·.relabel T)
  body := f.body.relabel T

/-- The struct with names, places and handles exchanged. -/
def StructDecl.relabel (s : StructDecl) : StructDecl where
  id := s.id.relabel T
  fields := s.fields.map (·.relabel T)

/-- The declaration with names, places and handles exchanged. -/
def Decl.relabel : Decl → Decl
  | .var d => .var (d.relabel T)
  | .fn f => .fn (f.relabel T)
  | .struct s => .struct (s.relabel T)

/-- The program with names, places and handles exchanged. -/
def Program.relabel (p : Program) : Program where
  decls := p.decls.map (·.relabel T)

/-! ### Flat views

The expressions and identifiers of a relabeled tree are those of the tree, relabeled.
-/

section

variable {T}

lemma Expr.ident?_relabel (e : Expr) : (e.relabel T).ident? = e.ident?.map (·.relabel T) := by
  cases e <;> rfl

mutual

theorem Expr.exprs_relabel : ∀ e : Expr, (e.relabel T).exprs = e.exprs.map (·.relabel T)
  | .lit _ _ => rfl
  | .name _ _ => rfl
  | .dot base _ _ _ => congrArg (List.cons _) base.exprs_relabel
  | .assign target value _ => by
      simp only [relabel, exprs, target.exprs_relabel, value.exprs_relabel, List.map_cons,
        List.map_append]
  | .call _ args _ => congrArg (List.cons _) (Expr.exprsOfAll_relabelAll args)
  | .unary _ operand _ => congrArg (List.cons _) operand.exprs_relabel
  | .binary _ left right _ => by
      simp only [relabel, exprs, left.exprs_relabel, right.exprs_relabel, List.map_cons,
        List.map_append]

theorem Expr.exprsOfAll_relabelAll : ∀ es : List Expr,
    Expr.exprsOfAll (Expr.relabelAll T es) = (Expr.exprsOfAll es).map (·.relabel T)
  | [] => rfl
  | e :: es => by
      rw [Expr.relabelAll, Expr.exprsOfAll, Expr.exprsOfAll, List.map_append, e.exprs_relabel,
        Expr.exprsOfAll_relabelAll es]

end

lemma TypeName.idents_relabel (ty : TypeName) :
    (ty.relabel T).idents = ty.idents.map (·.relabel T) := by
  cases ty <;> rfl

lemma VarDecl.idents_relabel (d : VarDecl) :
    (d.relabel T).idents = d.idents.map (·.relabel T) := by
  rw [idents, idents, List.map_append]
  exact congrArg (· ++ _) d.ty.idents_relabel

lemma VarDecl.flatMap_idents_relabel (ds : List VarDecl) :
    (ds.map (·.relabel T)).flatMap VarDecl.idents =
      (ds.flatMap VarDecl.idents).map (·.relabel T) := by
  simp only [List.flatMap_map, List.map_flatMap, VarDecl.idents_relabel]

mutual

theorem Block.exprs_relabel : ∀ b : Block, (b.relabel T).exprs = b.exprs.map (·.relabel T)
  | .mk _ stmts => Stmt.exprsOfAll_relabelAll stmts

theorem Stmt.exprs_relabel : ∀ s : Stmt, (s.relabel T).exprs = s.exprs.map (·.relabel T)
  | .simple _ e => e.exprs_relabel
  | .guarded _ cond body => by
      rw [Stmt.relabel, Stmt.exprs, Stmt.exprs, List.map_append, cond.exprs_relabel,
        body.exprs_relabel]
  | .ifElse cond yes no => by
      rw [Stmt.relabel, Stmt.exprs, Stmt.exprs, List.map_append, List.map_append,
        cond.exprs_relabel, yes.exprs_relabel, no.exprs_relabel]
  | .ret none _ => rfl
  | .ret (some value) _ => value.exprs_relabel

theorem Stmt.exprsOfAll_relabelAll : ∀ ss : List Stmt,
    Stmt.exprsOfAll (Stmt.relabelAll T ss) = (Stmt.exprsOfAll ss).map (·.relabel T)
  | [] => rfl
  | s :: ss => by
      rw [Stmt.relabelAll, Stmt.exprsOfAll, Stmt.exprsOfAll, List.map_append, s.exprs_relabel,
        Stmt.exprsOfAll_relabelAll ss]

end

mutual

theorem Block.declIdents_relabel : ∀ b : Block,
    (b.relabel T).declIdents = b.declIdents.map (·.relabel T)
  | .mk decls stmts => by
      rw [Block.relabel, Block.declIdents, Block.declIdents, List.map_append,
        VarDecl.flatMap_idents_relabel, Stmt.declIdentsOfAll_relabelAll stmts]

theorem Stmt.declIdents_relabel : ∀ s : Stmt,
    (s.relabel T).declIdents = s.declIdents.map (·.relabel T)
  | .simple _ _ | .ret none _ | .ret (some _) _ => rfl
  | .guarded _ _ body => body.declIdents_relabel
  | .ifElse _ yes no => by
      rw [Stmt.relabel, Stmt.declIdents, Stmt.declIdents, List.map_append, yes.declIdents_relabel,
        no.declIdents_relabel]

theorem Stmt.declIdentsOfAll_relabelAll : ∀ ss : List Stmt,
    Stmt.declIdentsOfAll (Stmt.relabelAll T ss) =
      (Stmt.declIdentsOfAll ss).map (·.relabel T)
  | [] => rfl
  | s :: ss => by
      rw [Stmt.relabelAll, Stmt.declIdentsOfAll, Stmt.declIdentsOfAll, List.map_append,
        s.declIdents_relabel, Stmt.declIdentsOfAll_relabelAll ss]

end

lemma Decl.exprs_relabel (d : Decl) : (d.relabel T).exprs = d.exprs.map (·.relabel T) := by
  cases d with
  | fn f => exact f.body.exprs_relabel
  | _ => rfl

lemma Decl.declIdents_relabel (d : Decl) :
    (d.relabel T).declIdents = d.declIdents.map (·.relabel T) := by
  cases d with
  | var d => exact d.idents_relabel
  | struct s =>
      simp only [relabel, StructDecl.relabel, declIdents, List.map_cons,
        VarDecl.flatMap_idents_relabel]
  | fn f =>
      simp only [relabel, FnDecl.relabel, declIdents, List.map_append, List.map_cons,
        TypeName.idents_relabel, VarDecl.flatMap_idents_relabel, Block.declIdents_relabel]

lemma Decl.idents_relabel (d : Decl) : (d.relabel T).idents = d.idents.map (·.relabel T) := by
  simp only [idents, declIdents_relabel, exprs_relabel, List.map_append, List.filterMap_map,
    List.map_filterMap, Function.comp_def, Expr.ident?_relabel]

namespace Program

variable (p : Program)

theorem exprs_relabel : (p.relabel T).exprs = p.exprs.map (·.relabel T) := by
  simp only [exprs, relabel, List.flatMap_map, List.map_flatMap, Decl.exprs_relabel]

theorem idents_relabel : (p.relabel T).idents = p.idents.map (·.relabel T) := by
  have hdecls : (p.relabel T).declIdents = p.declIdents.map (·.relabel T) := by
    simp only [declIdents, relabel, List.flatMap_map, List.map_flatMap, Decl.declIdents_relabel]
  have huses : (p.relabel T).uses = p.uses.map (·.relabel T) := by
    simp only [uses, exprs_relabel, List.filterMap_map, List.map_filterMap, Function.comp_def,
      Expr.ident?_relabel]
  rw [idents, hdecls, huses, idents, List.map_append]

end Program

end

/-! ## One after the other -/

section

variable {T} {S : Relabeling}

mutual

theorem Ty.relabel_relabel : ∀ ty : Ty, (ty.relabel T).relabel S = ty.relabel (S.comp T)
  | .int | .bool | .void | .string | .error | .struct _ | .structDef _ => rfl
  | .fn params ret => congrArg₂ Ty.fn (Ty.relabelAll_relabelAll params) ret.relabel_relabel

theorem Ty.relabelAll_relabelAll : ∀ tys : List Ty,
    Ty.relabelAll S (Ty.relabelAll T tys) = Ty.relabelAll (S.comp T) tys
  | [] => rfl
  | ty :: tys => congrArg₂ List.cons ty.relabel_relabel (Ty.relabelAll_relabelAll tys)

end

lemma Slot.map_map {purpose : String} {α β γ : Type} (f : α → β) (g : β → γ)
    (slot : Slot purpose α) : (slot.map f).map g = slot.map (g ∘ f) :=
  congrArg Slot.mk (Option.map_map g f slot.content)

lemma Ident.relabel_relabel (id : Ident) : (id.relabel T).relabel S = id.relabel (S.comp T) :=
  congrArg (Ident.mk _ _) (Slot.map_map _ _ _)

lemma TypeName.relabel_relabel (ty : TypeName) :
    (ty.relabel T).relabel S = ty.relabel (S.comp T) := by
  cases ty with
  | struct name => exact congrArg TypeName.struct name.relabel_relabel
  | _ => rfl

lemma VarDecl.relabel_relabel (d : VarDecl) : (d.relabel T).relabel S = d.relabel (S.comp T) :=
  congrArg₂ VarDecl.mk d.ty.relabel_relabel d.id.relabel_relabel

lemma VarDecl.map_relabel_relabel (ds : List VarDecl) :
    (ds.map (·.relabel T)).map (·.relabel S) = ds.map (·.relabel (S.comp T)) := by
  rw [List.map_map]
  exact List.map_congr_left fun d _ => d.relabel_relabel

lemma Note.relabel_relabel (note : Note) :
    (note.relabel T).relabel S = note.relabel (S.comp T) := by
  have hty : (note.ty.map (·.relabel T)).map (·.relabel S) =
      note.ty.map (·.relabel (S.comp T)) := by
    rw [Slot.map_map]
    exact congrArg (Slot.map · note.ty) (funext Ty.relabel_relabel)
  exact congrArg (Note.mk _) hty

mutual

theorem Expr.relabel_relabel : ∀ e : Expr, (e.relabel T).relabel S = e.relabel (S.comp T)
  | .lit _ note => congrArg _ note.relabel_relabel
  | .name id note => congrArg₂ Expr.name id.relabel_relabel note.relabel_relabel
  | .dot base field _ note => by
      simp only [relabel, base.relabel_relabel, field.relabel_relabel, note.relabel_relabel]
  | .assign target value note => by
      simp only [relabel, target.relabel_relabel, value.relabel_relabel, note.relabel_relabel]
  | .call callee args note => by
      simp only [relabel, callee.relabel_relabel, Expr.relabelAll_relabelAll args,
        note.relabel_relabel]
  | .unary op operand note =>
      congrArg₂ (Expr.unary op) operand.relabel_relabel note.relabel_relabel
  | .binary _ left right note => by
      simp only [relabel, left.relabel_relabel, right.relabel_relabel, note.relabel_relabel]

theorem Expr.relabelAll_relabelAll : ∀ es : List Expr,
    Expr.relabelAll S (Expr.relabelAll T es) = Expr.relabelAll (S.comp T) es
  | [] => rfl
  | e :: es => congrArg₂ List.cons e.relabel_relabel (Expr.relabelAll_relabelAll es)

end

mutual

theorem Block.relabel_relabel : ∀ b : Block, (b.relabel T).relabel S = b.relabel (S.comp T)
  | .mk decls stmts =>
      congrArg₂ Block.mk (VarDecl.map_relabel_relabel decls) (Stmt.relabelAll_relabelAll stmts)

theorem Stmt.relabel_relabel : ∀ s : Stmt, (s.relabel T).relabel S = s.relabel (S.comp T)
  | .simple verb e => congrArg (Stmt.simple verb) e.relabel_relabel
  | .guarded guard cond body =>
      congrArg₂ (Stmt.guarded guard) cond.relabel_relabel body.relabel_relabel
  | .ifElse cond yes no => by
      simp only [Stmt.relabel, cond.relabel_relabel, yes.relabel_relabel, no.relabel_relabel]
  | .ret none _ => rfl
  | .ret (some value) _ => congrArg (fun e => Stmt.ret (some e) _) value.relabel_relabel

theorem Stmt.relabelAll_relabelAll : ∀ ss : List Stmt,
    Stmt.relabelAll S (Stmt.relabelAll T ss) = Stmt.relabelAll (S.comp T) ss
  | [] => rfl
  | s :: ss => congrArg₂ List.cons s.relabel_relabel (Stmt.relabelAll_relabelAll ss)

end

/-- **One relabeling after another.** -/
theorem Decl.relabel_relabel (d : Decl) : (d.relabel T).relabel S = d.relabel (S.comp T) := by
  cases d with
  | var d => exact congrArg Decl.var d.relabel_relabel
  | struct s =>
      simp only [relabel, StructDecl.relabel, Ident.relabel_relabel, VarDecl.map_relabel_relabel]
  | fn f =>
      simp only [relabel, FnDecl.relabel, TypeName.relabel_relabel, Ident.relabel_relabel,
        VarDecl.map_relabel_relabel, Block.relabel_relabel]

end

/-! ## Handles alone -/

section

variable {f : SymbolId → SymbolId}

/-- The handle in the slot, if there is one, is its own new handle. -/
def Ident.FixedBy (f : SymbolId → SymbolId) (id : Ident) : Prop :=
  ∀ h, id.symbol? = some h → f h = h

/-- What is reported has no handles. -/
lemma reports_relabel_ofHandles (es : List Event) :
    reports (es.map (·.relabel (.ofHandles f))) = reports es :=
  (reports_relabel _ es).trans (List.map_id' _)

mutual

theorem Ty.relabel_ofHandles : ∀ ty : Ty, ty.relabel (.ofHandles f) = ty
  | .int | .bool | .void | .string | .error | .struct _ | .structDef _ => rfl
  | .fn params ret => congrArg₂ Ty.fn (Ty.relabelAll_ofHandles params) ret.relabel_ofHandles

theorem Ty.relabelAll_ofHandles : ∀ tys : List Ty, Ty.relabelAll (.ofHandles f) tys = tys
  | [] => rfl
  | ty :: tys => congrArg₂ List.cons ty.relabel_ofHandles (Ty.relabelAll_ofHandles tys)

end

lemma Note.relabel_ofHandles (note : Note) : note.relabel (.ofHandles f) = note := by
  obtain ⟨loc, ⟨content⟩⟩ := note
  cases content with
  | none => rfl
  | some ty => exact congrArg (fun ty => Note.mk loc ⟨some ty⟩) ty.relabel_ofHandles

lemma Ident.relabel_eq_self {id : Ident} (h : id.FixedBy f) : id.relabel (.ofHandles f) = id := by
  obtain ⟨name, loc, ⟨content⟩⟩ := id
  cases content with
  | none => rfl
  | some k => exact congrArg (fun k => Ident.mk name loc ⟨some k⟩) (h k rfl)

lemma TypeName.relabel_eq_self {ty : TypeName} (h : ∀ id ∈ ty.idents, id.FixedBy f) :
    ty.relabel (.ofHandles f) = ty := by
  cases ty with
  | struct name =>
      exact congrArg TypeName.struct (Ident.relabel_eq_self (h name (by simp [idents])))
  | _ => rfl

lemma VarDecl.relabel_eq_self {d : VarDecl} (h : ∀ id ∈ d.idents, id.FixedBy f) :
    d.relabel (.ofHandles f) = d :=
  congrArg₂ VarDecl.mk (TypeName.relabel_eq_self fun id hid => h id (List.mem_append_left _ hid))
    (Ident.relabel_eq_self (h d.id (by simp [idents])))

lemma VarDecl.map_relabel_eq_self {ds : List VarDecl}
    (h : ∀ id ∈ ds.flatMap VarDecl.idents, id.FixedBy f) :
    ds.map (·.relabel (.ofHandles f)) = ds := by
  have hself : ∀ d ∈ ds, d.relabel (.ofHandles f) = d := fun d hd =>
    VarDecl.relabel_eq_self fun id hid => h id (List.mem_flatMap.2 ⟨d, hd, hid⟩)
  rw [List.map_congr_left hself, List.map_id']

mutual

theorem Expr.relabel_eq_self : ∀ {e : Expr}, (∀ id ∈ e.idents, id.FixedBy f) →
    e.relabel (.ofHandles f) = e
  | .lit value note, _ => congrArg (Expr.lit value) note.relabel_ofHandles
  | .name id note, h =>
      congrArg₂ Expr.name (Ident.relabel_eq_self (h id (by simp))) note.relabel_ofHandles
  | .dot base field _ note, h => by
      have hbase := base.relabel_eq_self fun id hid => h id (by simp [hid])
      rw [relabel, hbase, Ident.relabel_eq_self (h field (by simp)), note.relabel_ofHandles]
  | .assign target value note, h => by
      have htarget := target.relabel_eq_self fun id hid => h id (by simp [hid])
      have hvalue := value.relabel_eq_self fun id hid => h id (by simp [hid])
      rw [relabel, htarget, hvalue, note.relabel_ofHandles]
  | .call callee args note, h => by
      have hargs := Expr.relabelAll_eq_self fun id (hid : id ∈ Expr.identsOfAll args) =>
        h id (by simp [hid])
      rw [relabel, hargs, Ident.relabel_eq_self (h callee (by simp)), note.relabel_ofHandles]
  | .unary op operand note, h => by
      have hoperand := operand.relabel_eq_self fun id hid => h id (by simp [hid])
      rw [relabel, hoperand, note.relabel_ofHandles]
  | .binary op left right note, h => by
      have hleft := left.relabel_eq_self fun id hid => h id (by simp [hid])
      have hright := right.relabel_eq_self fun id hid => h id (by simp [hid])
      rw [relabel, hleft, hright, note.relabel_ofHandles]

theorem Expr.relabelAll_eq_self : ∀ {es : List Expr}, (∀ id ∈ Expr.identsOfAll es, id.FixedBy f) →
    Expr.relabelAll (.ofHandles f) es = es
  | [], _ => rfl
  | e :: es, h =>
      congrArg₂ List.cons (e.relabel_eq_self fun id hid => h id (by simp [hid]))
        (Expr.relabelAll_eq_self fun id hid => h id (by simp [hid]))

end

mutual

theorem Block.relabel_eq_self : ∀ {b : Block}, (∀ id ∈ b.idents, id.FixedBy f) →
    b.relabel (.ofHandles f) = b
  | .mk _ _, h =>
      congrArg₂ Block.mk
        (VarDecl.map_relabel_eq_self fun id hid => h id (Block.mem_idents_decls hid))
        (Stmt.relabelAll_eq_self fun id hid => h id (Block.mem_idents_stmts hid))

theorem Stmt.relabel_eq_self : ∀ {s : Stmt}, (∀ id ∈ s.idents, id.FixedBy f) →
    s.relabel (.ofHandles f) = s
  | .simple verb e, h =>
      congrArg (Stmt.simple verb) (e.relabel_eq_self fun id hid => h id (by simp [hid]))
  | .guarded guard cond body, h =>
      congrArg₂ (Stmt.guarded guard) (cond.relabel_eq_self fun id hid => h id (by simp [hid]))
        (body.relabel_eq_self fun id hid => h id (by simp [hid]))
  | .ifElse cond yes no, h => by
      have hcond := cond.relabel_eq_self fun id hid => h id (by simp [hid])
      have hyes := yes.relabel_eq_self fun id hid => h id (by simp [hid])
      have hno := no.relabel_eq_self fun id hid => h id (by simp [hid])
      rw [Stmt.relabel, hcond, hyes, hno]
  | .ret none _, _ => rfl
  | .ret (some value) loc, h =>
      congrArg (fun e => Stmt.ret (some e) loc)
        (value.relabel_eq_self fun id hid => h id (by simp [hid]))

theorem Stmt.relabelAll_eq_self : ∀ {ss : List Stmt}, (∀ id ∈ Stmt.identsOfAll ss, id.FixedBy f) →
    Stmt.relabelAll (.ofHandles f) ss = ss
  | [], _ => rfl
  | s :: ss, h =>
      congrArg₂ List.cons (s.relabel_eq_self fun id hid => h id (by simp [hid]))
        (Stmt.relabelAll_eq_self fun id hid => h id (by simp [hid]))

end

/-- **New handles change nothing where there are none of the old ones.** -/
theorem Decl.relabel_eq_self {d : Decl} (h : ∀ id ∈ d.idents, id.FixedBy f) :
    d.relabel (.ofHandles f) = d := by
  cases d with
  | var d =>
      exact congrArg Decl.var
        (VarDecl.relabel_eq_self fun id hid => h id (List.mem_append_left _ hid))
  | struct s =>
      have hfields := VarDecl.map_relabel_eq_self fun id hid => h id (Decl.mem_idents_fields hid)
      exact congrArg Decl.struct
        (congrArg₂ StructDecl.mk (Ident.relabel_eq_self (h s.id Decl.mem_idents_struct)) hfields)
  | fn f' =>
      have hret := TypeName.relabel_eq_self fun id hid => h id (Decl.mem_idents_ret hid)
      have hformals := VarDecl.map_relabel_eq_self fun id hid => h id (Decl.mem_idents_formals hid)
      have hbody := f'.body.relabel_eq_self fun id hid => h id (Decl.mem_idents_body hid)
      rw [relabel, FnDecl.relabel, hret, Ident.relabel_eq_self (h _ Decl.mem_idents_fn), hformals,
        hbody]

/-- New handles may be exchanged for others that agree with them on the old ones, if they can be
undone. -/
lemma Decl.relabel_congr {d : Decl} {g : SymbolId → SymbolId} (back : SymbolId → SymbolId)
    (undone : ∀ id ∈ d.idents, id.FixedBy (back ∘ f))
    (agree : ∀ id ∈ d.idents, ∀ h, id.symbol? = some h → g h = f h) :
    d.relabel (.ofHandles g) = d.relabel (.ofHandles f) := by
  have hback : (d.relabel (.ofHandles f)).relabel (.ofHandles back) = d :=
    d.relabel_relabel.trans (Decl.relabel_eq_self undone)
  have hsame : ∀ id ∈ (d.relabel (.ofHandles f)).idents, id.FixedBy (g ∘ back) := by
    intro id hid k hk
    rw [Decl.idents_relabel] at hid
    obtain ⟨id', hid', rfl⟩ := List.mem_map.1 hid
    obtain ⟨h, hh, rfl⟩ := Option.map_eq_some_iff.1 hk
    exact (congrArg g (undone id' hid' h hh)).trans (agree id' hid' h hh)
  calc d.relabel (.ofHandles g)
      = ((d.relabel (.ofHandles f)).relabel (.ofHandles back)).relabel (.ofHandles g) := by
        rw [hback]
    _ = (d.relabel (.ofHandles f)).relabel (.ofHandles (g ∘ back)) := Decl.relabel_relabel _
    _ = d.relabel (.ofHandles f) := Decl.relabel_eq_self hsame

end

end StructLang
