import Mathlib.Data.List.Forall2
import Mathlib.Tactic.Common
import StructLang.Proofs.Analysis
import StructLang.Proofs.Variation

/-!
# The passes only fill empty slots

A tree gives its slots and flags to the passes, and nothing else.  Whatever tree is handed in,
filled or not, and however a pass ends, the tree that it leaves is the same source
(`Program.bare`) with the same values in the slots that were filled: `Program.FillsTo`.  Each pass
moreover keeps to its own part of the tree, name resolution to bindings and flags, type checking to
types.

* `passes_only_fill` — this for name resolution, type checking and whole analyses.

A halted run has to be looked at too, since it goes on over the rest of the tree.  So the statements
about the pieces of a pass are about what they return from any run at all (`Pass.Yields`).
-/

namespace StructLang

/-! ## What the source gives of a tree -/

/-- The identifier with an empty slot. -/
def Ident.bare (id : Ident) : Ident := { name := id.name, loc := id.loc }

def TypeName.bare : TypeName → TypeName
  | .struct name => .struct name.bare
  | ty => ty

def VarDecl.bare (d : VarDecl) : VarDecl := { ty := d.ty.bare, id := d.id.bare }

def Note.bare (note : Note) : Note := { loc := note.loc }

mutual

/-- The expression with empty slots and no flag raised. -/
def Expr.bare : Expr → Expr
  | .lit value note => .lit value note.bare
  | .name id note => .name id.bare note.bare
  | .dot base field _ note => .dot base.bare field.bare false note.bare
  | .assign target value note => .assign target.bare value.bare note.bare
  | .call callee args note => .call callee.bare (Expr.bareAll args) note.bare
  | .unary op operand note => .unary op operand.bare note.bare
  | .binary op left right note => .binary op left.bare right.bare note.bare

def Expr.bareAll : List Expr → List Expr
  | [] => []
  | e :: es => e.bare :: Expr.bareAll es

end

mutual

/-- The block with empty slots and no flag raised. -/
def Block.bare : Block → Block
  | .mk decls stmts => .mk (decls.map VarDecl.bare) (Stmt.bareAll stmts)

def Stmt.bare : Stmt → Stmt
  | .simple verb e => .simple verb e.bare
  | .guarded guard cond body => .guarded guard cond.bare body.bare
  | .ifElse cond yes no => .ifElse cond.bare yes.bare no.bare
  | .ret none loc => .ret none loc
  | .ret (some value) loc => .ret (some value.bare) loc

def Stmt.bareAll : List Stmt → List Stmt
  | [] => []
  | s :: ss => s.bare :: Stmt.bareAll ss

end

def Decl.bare : Decl → Decl
  | .var d => .var d.bare
  | .fn f =>
    .fn { ret := f.ret.bare, id := f.id.bare, formals := f.formals.map VarDecl.bare,
          body := f.body.bare }
  | .struct s => .struct { id := s.id.bare, fields := s.fields.map VarDecl.bare }

/-- The program as the source gives it: with empty slots and no flag raised. -/
def Program.bare (p : Program) : Program := { decls := p.decls.map Decl.bare }

/-- The variation leaves alone what the source gives. -/
structure Variation.KeepsBare (V : Variation) : Prop where
  use : ∀ id id', V.use id id' → id'.bare = id.bare
  note : ∀ n n', V.note n n' → n'.bare = n.bare
  var : ∀ d d', V.var d d' → d'.bare = d.bare
  head : ∀ id id', V.head id id' → id'.bare = id.bare
  ret : ∀ ty ty', V.ret ty ty' → ty'.bare = ty.bare

/-- Lists whose members agree under a function are equal under it. -/
lemma map_eq_of_forall₂ {α β : Type} {R : α → α → Prop} {f : α → β} {as bs : List α}
    (h : List.Forall₂ R as bs) (hf : ∀ a b, R a b → f b = f a) : bs.map f = as.map f := by
  induction h with
  | nil => rfl
  | cons first rest ih => rw [List.map_cons, List.map_cons, hf _ _ first, ih]

section

variable {V : Variation}

mutual

theorem Expr.Varies.bare_eq (hV : V.KeepsBare) :
    ∀ {e e' : Expr}, e.Varies V e' → e'.bare = e.bare
  | _, _, .lit value note => by rw [Expr.bare, Expr.bare, hV.note _ _ note]
  | _, _, .name use note => by rw [Expr.bare, Expr.bare, hV.use _ _ use, hV.note _ _ note]
  | _, _, .dot inner use flag note => by
      rw [Expr.bare, Expr.bare, inner.bare_eq hV, hV.use _ _ use, hV.note _ _ note]
  | _, _, .assign left right note => by
      rw [Expr.bare, Expr.bare, left.bare_eq hV, right.bare_eq hV, hV.note _ _ note]
  | _, _, .call use all note => by
      rw [Expr.bare, Expr.bare, hV.use _ _ use, all.bareAll_eq hV, hV.note _ _ note]
  | _, _, .unary op inner note => by
      rw [Expr.bare, Expr.bare, inner.bare_eq hV, hV.note _ _ note]
  | _, _, .binary op first second note => by
      rw [Expr.bare, Expr.bare, first.bare_eq hV, second.bare_eq hV, hV.note _ _ note]

theorem Expr.VariesAll.bareAll_eq (hV : V.KeepsBare) :
    ∀ {es es' : List Expr}, Expr.VariesAll V es es' → Expr.bareAll es' = Expr.bareAll es
  | _, _, .nil => rfl
  | _, _, .cons first rest => by
      rw [Expr.bareAll, Expr.bareAll, first.bare_eq hV, rest.bareAll_eq hV]

end

mutual

theorem Block.Varies.bare_eq (hV : V.KeepsBare) :
    ∀ {b b' : Block}, b.Varies V b' → b'.bare = b.bare
  | _, _, .mk decls stmts => by
      rw [Block.bare, Block.bare, map_eq_of_forall₂ decls hV.var, stmts.bareAll_eq hV]

theorem Stmt.Varies.bare_eq (hV : V.KeepsBare) :
    ∀ {s s' : Stmt}, s.Varies V s' → s'.bare = s.bare
  | _, _, .simple verb expr => by rw [Stmt.bare, Stmt.bare, expr.bare_eq hV]
  | _, _, .guarded guard expr branch => by
      rw [Stmt.bare, Stmt.bare, expr.bare_eq hV, branch.bare_eq hV]
  | _, _, .ifElse expr first second => by
      rw [Stmt.bare, Stmt.bare, expr.bare_eq hV, first.bare_eq hV, second.bare_eq hV]
  | _, _, .leave loc => rfl
  | _, _, .ret loc expr => by rw [Stmt.bare, Stmt.bare, expr.bare_eq hV]

theorem Stmt.VariesAll.bareAll_eq (hV : V.KeepsBare) :
    ∀ {ss ss' : List Stmt}, Stmt.VariesAll V ss ss' → Stmt.bareAll ss' = Stmt.bareAll ss
  | _, _, .nil => rfl
  | _, _, .cons first rest => by
      rw [Stmt.bareAll, Stmt.bareAll, first.bare_eq hV, rest.bareAll_eq hV]

end

lemma Decl.Varies.bare_eq (hV : V.KeepsBare) {d d' : Decl} (h : d.Varies V d') :
    d'.bare = d.bare := by
  cases h with
  | var decl => rw [Decl.bare, Decl.bare, hV.var _ _ decl]
  | fn ret head params body =>
      rw [Decl.bare, Decl.bare, hV.ret _ _ ret, hV.head _ _ head,
        map_eq_of_forall₂ params hV.var, body.bare_eq hV]
  | struct head fields =>
      rw [Decl.bare, Decl.bare, hV.head _ _ head, map_eq_of_forall₂ fields hV.var]

theorem Program.Varies.bare_eq (hV : V.KeepsBare) {p q : Program} (h : p.Varies V q) :
    q.bare = p.bare :=
  congrArg Program.mk (map_eq_of_forall₂ h fun _ _ => Decl.Varies.bare_eq hV)

end

/-! ## Trees with more in their slots -/

/-- The second program is the first one with more slots filled and more flags raised. -/
structure Program.FillsTo (p q : Program) : Prop where
  bare : q.bare = p.bare
  bindings : List.Forall₂ (fun id id' => ∀ h, id.symbol? = some h → id'.symbol? = some h)
    p.idents q.idents
  types : List.Forall₂ (fun e e' => ∀ ty, e.ty? = some ty → e'.ty? = some ty) p.exprs q.exprs
  flags : List.Forall₂ (fun e e' => e.isFlagged = true → e'.isFlagged = true) p.exprs q.exprs

lemma forall₂_trans {α : Type} {R : α → α → Prop} (htrans : ∀ a b c, R a b → R b c → R a c)
    {as bs cs : List α} (hab : List.Forall₂ R as bs) (hbc : List.Forall₂ R bs cs) :
    List.Forall₂ R as cs := by
  induction hab generalizing cs with
  | nil => exact hbc
  | cons first rest ih =>
      cases hbc with
      | cons first' rest' => exact .cons (htrans _ _ _ first first') (ih rest')

lemma Program.FillsTo.trans {p q r : Program} (hpq : p.FillsTo q) (hqr : q.FillsTo r) :
    p.FillsTo r where
  bare := hqr.bare.trans hpq.bare
  bindings := forall₂_trans (fun _ _ _ h h' k hk => h' k (h k hk)) hpq.bindings hqr.bindings
  types := forall₂_trans (fun _ _ _ h h' ty hty => h' ty (h ty hty)) hpq.types hqr.types
  flags := forall₂_trans (fun _ _ _ h h' hflag => h' (h hflag)) hpq.flags hqr.flags

/-! ## Name resolution -/

/-- The identifier is left alone, or its slot was empty and is filled. -/
def Ident.Fills (id id' : Ident) : Prop :=
  id' = id ∨ (id.symbol? = none ∧ ∃ h, id' = id.bindTo h)

/-- The struct name in the type, if there is one, is left alone or bound. -/
inductive TypeName.Fills : TypeName → TypeName → Prop
  | same (ty : TypeName) : TypeName.Fills ty ty
  | struct {name name' : Ident} (fills : name.Fills name') :
      TypeName.Fills (.struct name) (.struct name')

structure VarDecl.Fills (d d' : VarDecl) : Prop where
  ty : d.ty.Fills d'.ty
  id : d.id.Fills d'.id

/-- Name resolution fills bindings and raises flags, and leaves types alone. -/
def Variation.binding : Variation where
  use := Ident.Fills
  flag failed failed' := failed = true → failed' = true
  note n n' := n' = n
  var := VarDecl.Fills
  head := Ident.Fills
  ret := TypeName.Fills

lemma Ident.Fills.refl (id : Ident) : id.Fills id := Or.inl rfl

lemma Ident.Fills.bare_eq {id id' : Ident} (h : id.Fills id') : id'.bare = id.bare := by
  obtain rfl | ⟨-, k, rfl⟩ := h <;> rfl

lemma Ident.Fills.symbol {id id' : Ident} (h : id.Fills id') {k : SymbolId}
    (hk : id.symbol? = some k) : id'.symbol? = some k := by
  obtain rfl | ⟨hnone, -⟩ := h
  · exact hk
  · rw [hnone] at hk
    cases hk

lemma TypeName.Fills.bare_eq {ty ty' : TypeName} (h : ty.Fills ty') : ty'.bare = ty.bare := by
  cases h with
  | same => rfl
  | struct fills => exact congrArg TypeName.struct fills.bare_eq

lemma TypeName.Fills.idents {ty ty' : TypeName} (h : ty.Fills ty') :
    List.Forall₂ Ident.Fills ty.idents ty'.idents := by
  cases h with
  | same => exact List.forall₂_same.2 fun id _ => .refl id
  | struct fills => exact .cons fills .nil

lemma keepsBare_binding : Variation.binding.KeepsBare where
  use _ _ h := h.bare_eq
  note _ _ h := congrArg Note.bare h
  var _ _ h := congrArg₂ VarDecl.mk h.ty.bare_eq h.id.bare_eq
  head _ _ h := h.bare_eq
  ret _ _ h := h.bare_eq

lemma identsBy_binding : Variation.binding.IdentsBy Ident.Fills where
  use _ _ h := h
  var _ _ h := List.rel_append h.ty.idents (.cons h.id .nil)
  head _ _ h := h
  ret _ _ h := h.idents

namespace Pass

variable {σ : Type}

/-- Filling a slot leaves it alone if it holds something. -/
lemma yields_fill {purpose : String} {α : Type} (slot : Slot purpose α) (value : α) :
    (fill slot value : Pass σ (Slot purpose α)).Yields fun slot' =>
      slot' = slot ∨ (slot.content = none ∧ slot' = { content := some value }) := by
  intro s
  cases live : s.halted with
  | some fault => exact Or.inl (congrArg Prod.fst (run_fill_of_halted (by rw [live]; rfl) _ _))
  | none =>
      cases hslot : slot.content with
      | none => exact Or.inr ⟨rfl, congrArg Prod.fst (run_fill_of_empty live hslot value)⟩
      | some old =>
          have hfault : slot.fill value = .error (.slotFilled purpose) :=
            (Slot.fill_eq_error_iff _ _ _).2 ⟨by rw [Slot.isFilled, hslot]; rfl, rfl⟩
          refine Or.inl ?_
          rw [fill, run_bind (run_get s), live]
          dsimp only
          rw [hfault]
          rfl

lemma yields_raise (flag : Bool) :
    (raise flag : Pass σ Bool).Yields fun flag' => flag = true → flag' = true := by
  rintro s rfl
  rfl

end Pass

namespace Naming

open Pass

lemma yields_bind (id : Ident) (h : SymbolId) : (Naming.bind id h).Yields id.Fills := by
  refine (yields_fill id.binding h).bind ?_
  rintro slot (rfl | ⟨hempty, rfl⟩)
  · exact .pure (.refl id)
  · exact .pure (Or.inr ⟨hempty, h, rfl⟩)

lemma yields_use (id : Ident) : (use id).Yields id.Fills := by
  refine .after fun _ => .after fun found => ?_
  cases found with
  | none => exact .after fun _ => .pure (.refl id)
  | some h => exact (yields_bind id h).bind fun _ fills => .after fun _ => .pure fills

/-- What a dot access carries beside its base is left alone, or filled and raised. -/
def FieldFills (field : Ident) (failed : Bool) (r : Ident × Bool) : Prop :=
  field.Fills r.1 ∧ (failed = true → r.2 = true)

lemma yields_rejectField (field : Ident) (failed : Bool) (problem : Problem) :
    (rejectField field failed problem).Yields (FieldFills field failed) :=
  .after fun _ => (yields_raise failed).bind fun _ raised => .pure ⟨.refl field, raised⟩

lemma yields_selectField (base : Expr) (field : Ident) (failed : Bool) :
    (selectField base field failed).Yields (FieldFills field failed) := by
  unfold selectField
  cases base.asBase with
  | failed => exact (yields_raise failed).bind fun _ raised => .pure ⟨.refl field, raised⟩
  | nothing => exact yields_rejectField field failed _
  | symbol h =>
      refine .after fun _ => .after fun fields => ?_
      cases fields with
      | none => exact yields_rejectField field failed _
      | some fields =>
          refine .after fun found => ?_
          cases found with
          | none => exact yields_rejectField field failed _
          | some k =>
              exact (yields_bind field k).bind fun _ fills => .after fun _ => .pure ⟨fills, id⟩

lemma yields_useStruct (types : ScopeStack) (name : Ident) :
    (useStruct types name).Yields fun r => name.Fills r.1 := by
  refine .after fun defn => ?_
  cases defn with
  | none => exact .after fun _ => .pure (.refl name)
  | some h => exact (yields_bind name h).bind fun _ fills => .pure fills

lemma yields_kindOf (types : ScopeStack) (owner : Ident) (ty : TypeName) :
    (kindOf types owner ty).Yields fun r => ty.Fills r.1 := by
  cases ty with
  | int => exact .pure (.same _)
  | bool => exact .pure (.same _)
  | void => exact .after fun _ => .pure (.same _)
  | struct name => exact (yields_useStruct types name).bind fun _ fills => .pure (.struct fills)

lemma yields_introduce (target : ScopeStack) (id : Ident) (kind : Symbol.Kind) :
    (introduce target id kind).Yields fun r => id.Fills r.2.1 :=
  .after fun _ => .after fun _ => .after fun _ => .after fun _ =>
    (yields_bind id _).bind fun _ fills => .pure fills

lemma yields_declareIn (types target : ScopeStack) (d : VarDecl) :
    (declareIn types target d).Yields fun r => d.Fills r.2 := by
  refine (yields_kindOf types d.id d.ty).bind fun ⟨ty, kind⟩ fills => .after fun known => ?_
  cases known with
  | some h => exact .after fun _ => .pure ⟨fills, .refl d.id⟩
  | none =>
      cases kind with
      | none => exact .pure ⟨fills, .refl d.id⟩
      | some kind =>
          exact (yields_introduce target d.id kind).bind fun _ bound =>
            .after fun _ => .pure ⟨fills, bound⟩

lemma yields_declareVar (d : VarDecl) : (declareVar d).Yields d.Fills :=
  .after fun _ => (yields_declareIn _ _ d).bind fun _ fills => .after fun _ => .pure fills

lemma yields_declareFields (types : ScopeStack) (ds : List VarDecl) : ∀ fields : ScopeStack,
    (declareFields types fields ds).Yields fun r => List.Forall₂ VarDecl.Fills ds r.2 := by
  induction ds with
  | nil => exact fun _ => .pure .nil
  | cons d ds ih =>
      exact fun fields => (yields_declareIn types fields d).bind fun _ first =>
        (ih _).bind fun _ rest => .pure (.cons first rest)

lemma yields_introduceHere (id : Ident) (kind : Symbol.Kind) :
    (introduceHere id kind).Yields fun r => id.Fills r.1 :=
  .after fun _ => (yields_introduce _ id kind).bind fun _ fills => .after fun _ => .pure fills

lemma variesBy_visitor : visitor.VariesBy .binding where
  name := yields_use
  callee := yields_use
  field := yields_selectField
  expr _ := .pure rfl
  decl := yields_declareVar

lemma yields_returnType (ret : TypeName) : (returnType ret).Yields fun r => ret.Fills r.1 := by
  cases ret with
  | struct name =>
      exact .after fun _ => (yields_useStruct _ name).bind fun _ fills => .pure (.struct fills)
  | _ => exact .pure (.same _)

lemma yields_declareFn (id : Ident) (ret : Ty) :
    (declareFn id ret).Yields fun r => id.Fills r.1 := by
  refine .after fun duplicate => ?_
  cases duplicate with
  | true => exact .pure (.refl id)
  | false => exact (yields_introduceHere id _).bind fun _ fills => .pure fills

lemma yields_resolveFn (f : FnDecl) :
    (resolveFn f).Yields fun f' => (Decl.fn f).Varies .binding (.fn f') := by
  refine (yields_returnType f.ret).bind fun r ret => (yields_declareFn f.id r.2).bind
    fun ⟨id, symbol⟩ head => .after fun _ => (Yields.mapM yields_declareVar f.formals).bind
      fun formals params => ?_
  have hbody : (do
      let body ← f.body.visit visitor
      closeScope
      return { ret := r.1, id, formals, body } : Naming FnDecl).Yields fun f' =>
        (Decl.fn f).Varies .binding (.fn f') :=
    (f.body.visit_varies variesBy_visitor).bind fun _ body =>
      .after fun _ => .pure (.fn ret head params body)
  cases symbol with
  | none => exact hbody
  | some h => exact .after fun _ => hbody

lemma yields_resolveStruct (s : StructDecl) :
    (resolveStruct s).Yields fun s' => (Decl.struct s).Varies .binding (.struct s') := by
  refine .after fun duplicate => .after fun _ => .after fun _ =>
    (yields_declareFields _ s.fields _).bind fun _ fields => ?_
  cases duplicate with
  | true => exact .pure (.struct (.refl s.id) fields)
  | false =>
      exact (yields_introduceHere s.id _).bind fun _ head =>
        .after fun _ => .pure (.struct head fields)

lemma yields_resolveDecl (d : Decl) : (resolveDecl d).Yields (d.Varies .binding) := by
  cases d with
  | var d => exact (yields_declareVar d).bind fun _ fills => .pure (.var fills)
  | fn f => exact (yields_resolveFn f).bind fun _ varies => .pure varies
  | struct s => exact (yields_resolveStruct s).bind fun _ varies => .pure varies

end Naming

open Pass Naming in
lemma yields_resolveProgram (dumpScopes : Bool) (p : Program) :
    (resolveProgram dumpScopes p).Yields (p.Varies .binding) := by
  refine .after fun _ => .after fun _ => .after fun _ =>
    (Yields.mapM yields_resolveDecl p.decls).bind fun decls varies => ?_
  have hend : (do
      closeScope
      note (.namingFinished (← symbols).size (← get).errors)
      return { decls } : Naming Program).Yields (p.Varies .binding) :=
    .after fun _ => .after fun _ => .after fun _ => .after fun _ => .pure varies
  cases dumpScopes with
  | false => exact hend
  | true => exact .after fun _ => hend

lemma Program.Varies.fills_bindings {p q : Program} (h : p.Varies .binding q) :
    p.FillsTo q ∧ q.exprs.map Expr.ty? = p.exprs.map Expr.ty? := by
  have hnotes : ∀ e e' : Expr, e.Varies .binding e' → e'.ty? = e.ty? := by
    intro e e' varies
    have hnote : e'.note = e.note := varies.notes
    rw [Expr.ty?, Expr.ty?, hnote]
  refine ⟨⟨h.bare_eq keepsBare_binding, ?_, ?_, ?_⟩, map_eq_of_forall₂ h.exprs hnotes⟩
  · exact (h.idents identsBy_binding).imp fun _ _ fills _ => fills.symbol
  · exact h.exprs.imp fun e e' varies ty hty => (hnotes e e' varies).trans hty
  · refine h.exprs.imp fun e e' varies => ?_
    cases varies with
    | dot inner use flag note => exact flag
    | _ => exact id

/-! ## Type checking -/

/-- The slot for the type is left alone, or it was empty and is filled. -/
def Note.Fills (note note' : Note) : Prop :=
  note' = note ∨ (note.ty.content = none ∧ ∃ ty, note' = { note with ty := { content := some ty } })

/-- Type checking fills types, and leaves bindings and flags alone. -/
def Variation.typing : Variation where
  use id id' := id' = id
  flag failed failed' := failed' = failed
  note := Note.Fills
  var d d' := d' = d
  head id id' := id' = id
  ret ty ty' := ty' = ty

lemma Note.Fills.bare_eq {note note' : Note} (h : note.Fills note') : note'.bare = note.bare := by
  obtain rfl | ⟨-, ty, rfl⟩ := h <;> rfl

lemma Note.Fills.content {note note' : Note} (h : note.Fills note') {ty : Ty}
    (hty : note.ty.content = some ty) : note'.ty.content = some ty := by
  obtain rfl | ⟨hnone, -⟩ := h
  · exact hty
  · rw [hnone] at hty
    cases hty

lemma keepsBare_typing : Variation.typing.KeepsBare where
  use _ _ h := congrArg Ident.bare h
  note _ _ h := h.bare_eq
  var _ _ h := congrArg VarDecl.bare h
  head _ _ h := congrArg Ident.bare h
  ret _ _ h := congrArg TypeName.bare h

lemma identsBy_typing : Variation.typing.IdentsBy Eq where
  use _ _ h := h.symm
  var d d' h := by rw [show d' = d from h, List.forall₂_eq_eq_eq]
  head _ _ h := h.symm
  ret ty ty' h := by rw [show ty' = ty from h, List.forall₂_eq_eq_eq]

namespace Checking

open Pass

lemma yields_settle (A : Arena) (e : Expr) : (settle A e).Yields e.note.Fills := by
  refine .after fun r => .after fun _ => (yields_fill e.note.ty r.1).bind ?_
  rintro slot (rfl | ⟨hempty, rfl⟩)
  · exact .pure (Or.inl rfl)
  · exact .pure (Or.inr ⟨hempty, r.1, rfl⟩)

lemma variesBy_visitor (A : Arena) (ret : Ty) : (visitor A ret).VariesBy .typing where
  name _ := .pure rfl
  callee _ := .after fun _ => .after fun _ => .pure rfl
  field _ _ _ := .pure ⟨rfl, rfl⟩
  expr := yields_settle A
  decl _ := .pure rfl

lemma yields_checkDecl (A : Arena) (d : Decl) : (checkDecl A d).Yields (d.Varies .typing) := by
  cases d with
  | var d => exact .pure (.var rfl)
  | fn f =>
      refine (f.body.visit_varies (variesBy_visitor A f.ret.returned)).bind fun _ body =>
        .pure (.fn rfl rfl (List.forall₂_same.2 fun _ _ => rfl) body)
  | struct s => exact .pure (.struct rfl (List.forall₂_same.2 fun _ _ => rfl))

end Checking

open Pass Checking in
lemma yields_checkProgram (A : Arena) (p : Program) :
    (checkProgram A p).Yields (p.Varies .typing) :=
  .after fun _ => .after fun _ => (Yields.mapM (yields_checkDecl A) p.decls).bind
    fun _ varies => .after fun _ => .after fun _ => .pure varies

lemma Program.Varies.fills_types {p q : Program} (h : p.Varies .typing q) :
    p.FillsTo q ∧ q.idents = p.idents ∧
      q.exprs.map Expr.isFlagged = p.exprs.map Expr.isFlagged := by
  have hidents : p.idents = q.idents := by
    rw [← List.forall₂_eq_eq_eq]
    exact h.idents identsBy_typing
  have hflag : ∀ e e' : Expr, e.Varies .typing e' → e'.isFlagged = e.isFlagged := by
    intro e e' varies
    cases varies with
    | dot inner use flag note => exact flag
    | _ => rfl
  refine ⟨⟨h.bare_eq keepsBare_typing, ?_, ?_, ?_⟩, hidents.symm,
    map_eq_of_forall₂ h.exprs hflag⟩
  · rw [hidents]
    exact List.forall₂_same.2 fun _ _ _ => id
  · exact h.exprs.imp fun e e' varies ty => varies.notes.content
  · exact h.exprs.imp fun e e' varies hraised => (hflag e e' varies).trans hraised

/-! ## All passes -/

/-- **The passes only fill empty slots.**  Whatever tree they are given, and however they end, name
resolution, type checking and analysis leave the same source with the same values in the slots
that were filled, and lower no flag.  Name resolution touches no type, and type checking no binding
and no flag. -/
theorem passes_only_fill (p : Program) :
    (∀ (dumpScopes : Bool) (s : Run Names), let q := ((resolveProgram dumpScopes p).run s).1
      p.FillsTo q ∧ q.exprs.map Expr.ty? = p.exprs.map Expr.ty?) ∧
    (∀ (A : Arena) (s : Run Bool), let q := ((checkProgram A p).run s).1
      p.FillsTo q ∧ q.idents = p.idents ∧
        q.exprs.map Expr.isFlagged = p.exprs.map Expr.isFlagged) ∧
    ∀ (config : Config) (sink : Diagnostics), p.FillsTo (analyze config p sink).program := by
  refine ⟨fun dumpScopes s => (yields_resolveProgram dumpScopes p s).fills_bindings,
    fun A s => (yields_checkProgram A p s).fills_types, fun config sink => ?_⟩
  have hnaming := (yields_resolveProgram config.dumpScopes p { work := {}, sink }).fills_bindings.1
  rcases hrun : (resolveProgram config.dumpScopes p).run { work := {}, sink } with ⟨q, t⟩
  rw [hrun] at hnaming
  simp only [analyze, hrun]
  split
  · exact hnaming
  · split
    · exact hnaming
    · exact hnaming.trans (yields_checkProgram _ q _).fills_types.1

end StructLang
