import Mathlib.Tactic.Common
import StructLang.Proofs.Resolution

/-!
# How many symbols there can be

There is a handle for `UInt32.size` symbols and no more, and an allocation beyond that halts the
run.  Name resolution creates at most one symbol for each declaration, so it has enough handles as
long as the symbols of before and the declarations together are no more than that.

* `Program.declCount` — the number of declarations in a program.
* `Naming.DeclsRule.growsBy` — the rules add no more symbols than there are declarations, and
  never take one away.
* `Room` — enough handles for what is to come, or else the fault that there are not may occur.
-/

namespace StructLang

/-! ## Counting declarations -/

mutual

/-- The number of declarations in a block. -/
def Block.declCount : Block → Nat
  | .mk decls stmts => decls.length + Stmt.declCountOfAll stmts

/-- The number of declarations in the blocks of a statement. -/
def Stmt.declCount : Stmt → Nat
  | .simple _ _ => 0
  | .guarded _ _ body => body.declCount
  | .ifElse _ yes no => yes.declCount + no.declCount
  | .ret _ _ => 0

/-- The number of declarations in a list of statements. -/
def Stmt.declCountOfAll : List Stmt → Nat
  | [] => 0
  | s :: ss => s.declCount + Stmt.declCountOfAll ss

end

/-- The number of declarations that a declaration consists of, itself included. -/
def Decl.declCount : Decl → Nat
  | .var _ => 1
  | .fn f => 1 + f.formals.length + f.body.declCount
  | .struct s => 1 + s.fields.length

/-- The number of declarations in a list of declarations. -/
def Decl.declCountOfAll : List Decl → Nat
  | [] => 0
  | d :: ds => d.declCount + Decl.declCountOfAll ds

/-- The number of declarations in a program: variables, structs, functions, formals and fields. -/
def Program.declCount (p : Program) : Nat := Decl.declCountOfAll p.decls

lemma Decl.declCountOfAll_append (ds es : List Decl) :
    Decl.declCountOfAll (ds ++ es) = Decl.declCountOfAll ds + Decl.declCountOfAll es := by
  induction ds with
  | nil => exact (Nat.zero_add _).symm
  | cons d ds ih => rw [List.cons_append, declCountOfAll, declCountOfAll, ih, Nat.add_assoc]

/-! ## Larger arenas -/

/-- The second arena is larger, but by no more than `n` symbols. -/
structure Arena.GrowsBy (n : Nat) (A B : Arena) : Prop where
  le : A.size ≤ B.size
  bound : B.size ≤ A.size + n

namespace Arena.GrowsBy

variable {m n : Nat} {A B C : Arena}

lemma refl (n : Nat) (A : Arena) : A.GrowsBy n A := ⟨Nat.le_refl _, Nat.le_add_right _ _⟩

lemma trans (hAB : A.GrowsBy m B) (hBC : B.GrowsBy n C) : A.GrowsBy (m + n) C where
  le := Nat.le_trans hAB.le hBC.le
  bound := by
    have hB := hAB.bound
    have hC := hBC.bound
    omega

/-- What leaves room for `n` symbols in the end leaves it before. -/
lemma fits (hAB : A.GrowsBy m B) (h : B.size + n ≤ UInt32.size) : A.size + n ≤ UInt32.size :=
  Nat.le_trans (Nat.add_le_add_right hAB.le n) h

lemma push (symbol : Symbol) (room : A.size < UInt32.size) : A.GrowsBy 1 (A.push symbol room) where
  le := by rw [size_push]; exact Nat.le_succ _
  bound := Nat.le_of_eq (size_push _ _ room)

end Arena.GrowsBy

namespace Naming

lemma DeclareRule.growsBy {types : ScopeStack → ScopeStack} {w w' : Names} {d d' : VarDecl}
    {es : List Event} (rule : DeclareRule types w d d' w' es) :
    w.symbols.GrowsBy 1 w'.symbols := by
  cases rule with
  | declared type room scope => exact .push _ room
  | _ => exact .refl 1 _

lemma DeclaresRule.growsBy {types : ScopeStack → ScopeStack} {w w' : Names} {ds ds' : List VarDecl}
    {es : List Event} (rule : DeclaresRule types w ds ds' w' es) :
    w.symbols.GrowsBy ds.length w'.symbols := by
  induction rule with
  | nil => exact .refl 0 _
  | cons first rest ih =>
      rw [List.length_cons, Nat.add_comm]
      exact first.growsBy.trans ih

mutual

theorem BlockRule.growsBy : ∀ {w w' : Names} {b b' : Block} {es : List Event},
    BlockRule w b b' w' es → w.symbols.GrowsBy b.declCount w'.symbols
  | _, _, _, _, _, .mk decls stmts => decls.growsBy.trans stmts.growsBy

theorem BranchRule.growsBy : ∀ {w : Names} {A : Arena} {b b' : Block} {es : List Event},
    BranchRule w b b' A es → w.symbols.GrowsBy b.declCount A
  | _, _, _, _, _, .mk inside => inside.growsBy

theorem StmtRule.growsBy : ∀ {w : Names} {A : Arena} {s s' : Stmt} {es : List Event},
    StmtRule w s s' A es → w.symbols.GrowsBy s.declCount A
  | _, _, _, _, _, .simple _ _ => .refl 0 _
  | _, _, _, _, _, .guarded _ _ branch => branch.growsBy
  | _, _, _, _, _, .ifElse _ first second => first.growsBy.trans second.growsBy
  | _, _, _, _, _, .leave _ => .refl 0 _
  | _, _, _, _, _, .ret _ _ => .refl 0 _

theorem StmtsRule.growsBy : ∀ {w : Names} {A : Arena} {ss ss' : List Stmt} {es : List Event},
    StmtsRule w ss ss' A es → w.symbols.GrowsBy (Stmt.declCountOfAll ss) A
  | _, _, _, _, _, .nil => .refl 0 _
  | _, _, _, _, _, .cons first rest => first.growsBy.trans rest.growsBy

end

lemma HeadRule.growsBy {w w' : Names} {id id' : Ident} {params : List Ty} {ret : Ty}
    {es : List Event} (rule : HeadRule w id params ret id' w' es) :
    w.symbols.GrowsBy 1 w'.symbols := by
  cases rule with
  | taken known => exact .refl 1 _
  | declared room scope => exact .push _ room

lemma DeclRule.growsBy {w w' : Names} {d d' : Decl} {es : List Event}
    (rule : DeclRule w d d' w' es) : w.symbols.GrowsBy d.declCount w'.symbols := by
  cases rule with
  | var rule => exact rule.growsBy
  | fn rule =>
      cases rule with
      | mk type head params inside => exact (head.growsBy.trans params.growsBy).trans inside.growsBy
  | struct rule =>
      rw [Decl.declCount, Nat.add_comm]
      cases rule with
      | taken known all => exact all.growsBy.trans (.refl 1 _)
      | declared all room scope => exact all.growsBy.trans (.push _ room)

/-- No more symbols are created than there are declarations. -/
lemma DeclsRule.growsBy {w w' : Names} {ds ds' : List Decl} {es : List Event}
    (rule : DeclsRule w ds ds' w' es) :
    w.symbols.GrowsBy (Decl.declCountOfAll ds) w'.symbols := by
  induction rule with
  | nil => exact .refl 0 _
  | cons first rest ih => exact first.growsBy.trans ih

end Naming

/-! ## Room for what is to come -/

/-- There are handles for `n` more symbols, or the run may end because there are not. -/
def Room (may : Fault → Prop) (A : Arena) (n : Nat) : Prop :=
  A.size + n ≤ UInt32.size ∨ may (.overflow UInt32.size)

namespace Room

variable {may : Fault → Prop} {m n : Nat} {A B : Arena}

lemma mono (h : Room may A n) (hle : m ≤ n) : Room may A m :=
  h.imp_left (Nat.le_trans (Nat.add_le_add_left hle _))

/-- What is left for the second of two parts. -/
lemma after (h : Room may A (m + n)) (hAB : A.GrowsBy m B) : Room may B n :=
  h.imp_left fun hle => by
    have hB := hAB.bound
    omega

/-- With room for one symbol, an allocation fails in no other way. -/
lemma fault_of_alloc (h : Room may A 1) {symbol : Symbol} {fault : Fault}
    (halloc : A.alloc symbol = .error fault) : may fault := by
  obtain ⟨full, rfl⟩ := Arena.fault_of_alloc halloc
  exact h.resolve_left (by omega)

end Room

end StructLang
