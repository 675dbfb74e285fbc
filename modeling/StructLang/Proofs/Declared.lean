import Mathlib.Tactic.Common
import StructLang.Proofs.AllBound

/-!
# Declarations and their symbols

A declaration that is accepted gets the next symbol, and no symbol comes from anywhere else.  So the
handles on the declared names of a resolved tree, read in the order in which name resolution
declares them, are the positions of the symbols that were allocated, without a gap and without a
repetition: `Arena.Numbers`.  In particular there are as many new symbols as there are bound names
of declarations.

The order is that of the source, with one exception.  A struct is declared after its fields.
-/

namespace StructLang

/-! ## Declared names -/

mutual

/-- The identifiers that a block declares, its own before those of its statements. -/
def Block.declaredNames : Block → List Ident
  | .mk decls stmts => decls.map (·.id) ++ Stmt.declaredNamesOfAll stmts

/-- The identifiers that the blocks of a statement declare. -/
def Stmt.declaredNames : Stmt → List Ident
  | .simple _ _ => []
  | .guarded _ _ body => body.declaredNames
  | .ifElse _ yes no => yes.declaredNames ++ no.declaredNames
  | .ret _ _ => []

/-- The identifiers that a list of statements declares. -/
def Stmt.declaredNamesOfAll : List Stmt → List Ident
  | [] => []
  | s :: ss => s.declaredNames ++ Stmt.declaredNamesOfAll ss

end

/-- The identifiers that a declaration declares, in the order in which they are declared. -/
def Decl.declaredNames : Decl → List Ident
  | .var d => [d.id]
  | .struct s => s.fields.map (·.id) ++ [s.id]
  | .fn f => f.id :: f.formals.map (·.id) ++ f.body.declaredNames

/-- The handles of those identifiers that are bound. -/
def handlesOf (ids : List Ident) : List SymbolId := ids.filterMap Ident.symbol?

/-- How many of the identifiers are bound. -/
def boundCount (ids : List Ident) : Nat := (handlesOf ids).length

section

variable {id : Ident} {ids jds : List Ident}

@[simp] lemma handlesOf_append : handlesOf (ids ++ jds) = handlesOf ids ++ handlesOf jds :=
  List.filterMap_append

@[simp] lemma boundCount_append : boundCount (ids ++ jds) = boundCount ids + boundCount jds := by
  rw [boundCount, handlesOf_append, List.length_append]
  rfl

/-! ### Declared names are identifiers of declarations -/

lemma VarDecl.mem_idents_of_mem {ds : List VarDecl} (h : id ∈ ds.map (·.id)) :
    id ∈ ds.flatMap VarDecl.idents := by
  obtain ⟨d, hd, rfl⟩ := List.mem_map.1 h
  exact List.mem_flatMap.2 ⟨d, hd, List.mem_append_right _ List.mem_cons_self⟩

mutual

theorem Block.declIdents_of_declaredNames : ∀ {b : Block}, id ∈ b.declaredNames →
    id ∈ b.declIdents
  | .mk _ _, h => by
      rcases List.mem_append.1 h with h | h
      · exact List.mem_append_left _ (VarDecl.mem_idents_of_mem h)
      · exact List.mem_append_right _ (Stmt.declIdents_of_declaredNamesOfAll h)

theorem Stmt.declIdents_of_declaredNames : ∀ {s : Stmt}, id ∈ s.declaredNames →
    id ∈ s.declIdents
  | .guarded _ _ body, h => body.declIdents_of_declaredNames h
  | .ifElse _ yes no, h => by
      rcases List.mem_append.1 h with h | h
      · exact List.mem_append_left _ (yes.declIdents_of_declaredNames h)
      · exact List.mem_append_right _ (no.declIdents_of_declaredNames h)

theorem Stmt.declIdents_of_declaredNamesOfAll : ∀ {ss : List Stmt},
    id ∈ Stmt.declaredNamesOfAll ss → id ∈ Stmt.declIdentsOfAll ss
  | s :: _, h => by
      rcases List.mem_append.1 h with h | h
      · exact List.mem_append_left _ (s.declIdents_of_declaredNames h)
      · exact List.mem_append_right _ (Stmt.declIdents_of_declaredNamesOfAll h)

end

lemma Decl.idents_of_declaredNames {d : Decl} (h : id ∈ d.declaredNames) : id ∈ d.idents := by
  cases d with
  | var d =>
      obtain rfl := List.mem_singleton.1 h
      exact List.mem_append_left _ (List.mem_append_right _ List.mem_cons_self)
  | struct s =>
      rcases List.mem_append.1 h with h | h
      · exact Decl.mem_idents_fields (VarDecl.mem_idents_of_mem h)
      · obtain rfl := List.mem_singleton.1 h
        exact Decl.mem_idents_struct
  | fn f =>
      rcases List.mem_append.1 h with h | h
      · rcases List.mem_cons.1 h with rfl | h
        · exact Decl.mem_idents_fn
        · exact Decl.mem_idents_formals (VarDecl.mem_idents_of_mem h)
      · exact Decl.mem_idents_body (List.mem_append_left _ (Block.declIdents_of_declaredNames h))

end

/-! ### Type checking declares nothing -/

mutual

theorem Block.declaredNames_decorate (A : Arena) : ∀ b : Block,
    (b.decorate A).declaredNames = b.declaredNames
  | .mk _ stmts => congrArg (_ ++ ·) (Stmt.declaredNamesOfAll_decorateAll A stmts)

theorem Stmt.declaredNames_decorate (A : Arena) : ∀ s : Stmt,
    (s.decorate A).declaredNames = s.declaredNames
  | .simple _ _ | .ret none _ | .ret (some _) _ => rfl
  | .guarded _ _ body => body.declaredNames_decorate A
  | .ifElse _ yes no =>
      congrArg₂ (· ++ ·) (yes.declaredNames_decorate A) (no.declaredNames_decorate A)

theorem Stmt.declaredNamesOfAll_decorateAll (A : Arena) : ∀ ss : List Stmt,
    Stmt.declaredNamesOfAll (Stmt.decorateAll A ss) = Stmt.declaredNamesOfAll ss
  | [] => rfl
  | s :: ss =>
      congrArg₂ (· ++ ·) (s.declaredNames_decorate A) (Stmt.declaredNamesOfAll_decorateAll A ss)

end

lemma Decl.declaredNames_decorate (A : Arena) (d : Decl) :
    (d.decorate A).declaredNames = d.declaredNames := by
  cases d with
  | fn f => exact congrArg (_ ++ ·) (f.body.declaredNames_decorate A)
  | _ => rfl

mutual

theorem Block.declIdents_decorate (A : Arena) : ∀ b : Block,
    (b.decorate A).declIdents = b.declIdents
  | .mk _ stmts => congrArg (_ ++ ·) (Stmt.declIdentsOfAll_decorateAll A stmts)

theorem Stmt.declIdents_decorate (A : Arena) : ∀ s : Stmt,
    (s.decorate A).declIdents = s.declIdents
  | .simple _ _ | .ret none _ | .ret (some _) _ => rfl
  | .guarded _ _ body => body.declIdents_decorate A
  | .ifElse _ yes no =>
      congrArg₂ (· ++ ·) (yes.declIdents_decorate A) (no.declIdents_decorate A)

theorem Stmt.declIdentsOfAll_decorateAll (A : Arena) : ∀ ss : List Stmt,
    Stmt.declIdentsOfAll (Stmt.decorateAll A ss) = Stmt.declIdentsOfAll ss
  | [] => rfl
  | s :: ss =>
      congrArg₂ (· ++ ·) (s.declIdents_decorate A) (Stmt.declIdentsOfAll_decorateAll A ss)

end

/-- Type checking leaves every identifier as it is. -/
lemma Decl.idents_decorate (A : Arena) (d : Decl) : (d.decorate A).idents = d.idents := by
  have hdecls : (d.decorate A).declIdents = d.declIdents := by
    cases d with
    | fn f => exact congrArg (_ ++ ·) (f.body.declIdents_decorate A)
    | _ => rfl
  have huses : (d.decorate A).exprs.filterMap Expr.ident? = d.exprs.filterMap Expr.ident? := by
    simp only [exprs_decorate, List.filterMap_map, Function.comp_def, Expr.ident?_decorate]
  rw [idents, hdecls, huses, idents]

/-! ## Numbers of symbols -/

/-- The identifiers that are bound number the symbols that the second arena has beyond the first. -/
structure Arena.Numbers (A B : Arena) (ids : List Ident) : Prop where
  size : B.size = A.size + boundCount ids
  handles : handlesOf ids = (List.range' A.size (boundCount ids)).map SymbolId.ofIndex

namespace Arena.Numbers

variable {A B C : Arena} {ids jds : List Ident}

lemma nothing (A : Arena) (h : NoneBound ids) : A.Numbers A ids := by
  have hnil : handlesOf ids = [] := List.filterMap_eq_nil_iff.2 h
  have hcount : boundCount ids = 0 := congrArg List.length hnil
  exact ⟨by rw [hcount, Nat.add_zero], by rw [hnil, hcount]; rfl⟩

lemma next (A : Arena) (id : Ident) (symbol : Symbol) (room : A.size < UInt32.size) :
    A.Numbers (A.push symbol room) [id.bindTo A.nextId] :=
  ⟨size_push A symbol room, rfl⟩

lemma trans (h : A.Numbers B ids) (h' : B.Numbers C jds) : A.Numbers C (ids ++ jds) where
  size := by rw [h'.size, h.size, boundCount_append, Nat.add_assoc]
  handles := by
    rw [handlesOf_append, h.handles, h'.handles, h.size, boundCount_append, ← List.map_append,
      List.range'_append_1]

/-- Each new symbol has its identifier. -/
lemma mem_handles {h : SymbolId} (hn : A.Numbers B ids) (new : A.size ≤ h.index)
    (hlt : h.index < B.size) : h ∈ handlesOf ids := by
  rw [hn.size] at hlt
  rw [hn.handles]
  exact List.mem_map.2 ⟨h.index, List.mem_range'_1.2 ⟨new, hlt⟩, h.ofIndex_index⟩

end Arena.Numbers

namespace Naming

variable {w w' : Names} {es : List Event}

lemma DeclareRule.numbers {types : ScopeStack → ScopeStack} {d d' : VarDecl}
    (rule : DeclareRule types w d d' w' es) (free : NoneBound [d.id]) :
    w.symbols.Numbers w'.symbols [d'.id] := by
  cases rule with
  | taken type known => exact .nothing _ free
  | rejected type available => exact .nothing _ free
  | declared type room scope => exact .next _ _ _ room

lemma DeclaresRule.numbers {types : ScopeStack → ScopeStack} {ds ds' : List VarDecl}
    (rule : DeclaresRule types w ds ds' w' es) (free : NoneBound (ds.map (·.id))) :
    w.symbols.Numbers w'.symbols (ds'.map (·.id)) := by
  induction rule with
  | nil => exact .nothing _ nofun
  | @cons _ _ _ d d' ds ds' _ _ first rest ih =>
      have hd : NoneBound [d.id] := free.mono fun id hid => by simp_all
      exact (first.numbers hd).trans (ih (free.mono fun _ => List.mem_cons_of_mem _))

mutual

theorem BlockRule.numbers : ∀ {w w' : Names} {b b' : Block} {es : List Event},
    BlockRule w b b' w' es → NoneBound b.declaredNames →
      w.symbols.Numbers w'.symbols b'.declaredNames
  | _, _, _, _, _, .mk decls stmts, free =>
      (decls.numbers (free.mono fun _ => List.mem_append_left _)).trans
        (stmts.numbers (free.mono fun _ => List.mem_append_right _))

theorem BranchRule.numbers : ∀ {w : Names} {A : Arena} {b b' : Block} {es : List Event},
    BranchRule w b b' A es → NoneBound b.declaredNames → w.symbols.Numbers A b'.declaredNames
  | _, _, _, _, _, .mk inside, free => inside.numbers free

theorem StmtRule.numbers : ∀ {w : Names} {A : Arena} {s s' : Stmt} {es : List Event},
    StmtRule w s s' A es → NoneBound s.declaredNames → w.symbols.Numbers A s'.declaredNames
  | _, _, _, _, _, .simple _ _, _ | _, _, _, _, _, .leave _, _ | _, _, _, _, _, .ret _ _, _ =>
      .nothing _ nofun
  | _, _, _, _, _, .guarded _ _ branch, free => branch.numbers free
  | _, _, _, _, _, .ifElse _ first second, free =>
      (first.numbers (free.mono fun _ => List.mem_append_left _)).trans
        (second.numbers (free.mono fun _ => List.mem_append_right _))

theorem StmtsRule.numbers : ∀ {w : Names} {A : Arena} {ss ss' : List Stmt} {es : List Event},
    StmtsRule w ss ss' A es → NoneBound (Stmt.declaredNamesOfAll ss) →
      w.symbols.Numbers A (Stmt.declaredNamesOfAll ss')
  | _, _, _, _, _, .nil, _ => .nothing _ nofun
  | _, _, _, _, _, .cons first rest, free =>
      (first.numbers (free.mono fun _ => List.mem_append_left _)).trans
        (rest.numbers (free.mono fun _ => List.mem_append_right _))

end

lemma HeadRule.numbers {id id' : Ident} {params : List Ty} {ret : Ty}
    (rule : HeadRule w id params ret id' w' es) (free : id.symbol? = none) :
    w.symbols.Numbers w'.symbols [id'] := by
  cases rule with
  | taken known => exact .nothing _ (List.forall_mem_singleton.2 free)
  | declared room scope => exact .next _ _ _ room

lemma DeclRule.numbers {d d' : Decl} (rule : DeclRule w d d' w' es)
    (free : NoneBound d.declaredNames) : w.symbols.Numbers w'.symbols d'.declaredNames := by
  cases rule with
  | var rule => exact rule.numbers free
  | fn rule =>
      cases rule with
      | mk type head params inside =>
          have hhead := head.numbers (free _ List.mem_cons_self)
          have hparams := params.numbers (free.mono fun _ hid =>
            List.mem_append_left _ (List.mem_cons_of_mem _ hid))
          exact (hhead.trans hparams).trans
            (inside.numbers (free.mono fun _ => List.mem_append_right _))
  | struct rule =>
      have hfields : NoneBound _ := free.mono fun _ => List.mem_append_left _
      cases rule with
      | taken known all =>
          have hid : NoneBound _ := free.mono fun _ => List.mem_append_right _
          exact (all.numbers hfields).trans (.nothing _ hid)
      | declared all room scope => exact (all.numbers hfields).trans (.next _ _ _ room)

/-- **Declarations and their symbols.**  The bound names among the declarations of a program number
the symbols that were allocated for them. -/
theorem DeclsRule.numbers {ds ds' : List Decl} (rule : DeclsRule w ds ds' w' es)
    (free : NoneBound (ds.flatMap Decl.declaredNames)) :
    w.symbols.Numbers w'.symbols (ds'.flatMap Decl.declaredNames) := by
  induction rule with
  | nil => exact .nothing _ nofun
  | cons first rest ih =>
      rw [List.flatMap_cons] at free
      exact (first.numbers (free.mono fun _ => List.mem_append_left _)).trans
        (ih (free.mono fun _ => List.mem_append_right _))

end Naming

end StructLang
