import Mathlib.Tactic.Common
import StructLang.Tree.Agreement
import StructLang.Tree.Build
import StructLang.Tree.Walk

/-!
# What agrees with itself

The equality of the language is the identity, with one exception: a type in which `Ty.error` occurs,
however deep, agrees with nothing.  Nested types and then whole trees inherit the exception, so
agreement is not reflexive, and where it fails to be is the only thing to know about it.

For types, and then for each layer of the tree, there are two facts.  What agrees is identical
(`eq_of_agrees`), and something agrees with itself unless a broken type is stored in it
(`agrees_self_iff`).

* `Ty.agrees_iff_eq` — agreement of types.
* `Program.agrees_iff_eq` — agreement of programs.
* `agreement_is_identity_without_error` — both, with symmetry, transitivity and what is left of
  reflexivity.
-/

namespace StructLang

/-! ## Types -/

/-- `Ty.error` occurs in the type: it is the type, or it occurs in a parameter or the result. -/
inductive Ty.Broken : Ty → Prop
  | error : Broken .error
  | param {params : List Ty} {ret t : Ty} (mem : t ∈ params) (broken : t.Broken) :
      Broken (.fn params ret)
  | ret {params : List Ty} {ret : Ty} (broken : ret.Broken) : Broken (.fn params ret)

namespace Ty

lemma broken_fn_iff {params : List Ty} {ret : Ty} :
    (fn params ret).Broken ↔ (∃ t ∈ params, t.Broken) ∨ ret.Broken := by
  constructor
  · rintro (- | ⟨mem, broken⟩ | ⟨broken⟩)
    · exact Or.inl ⟨_, mem, broken⟩
    · exact Or.inr broken
  · rintro (⟨t, mem, broken⟩ | broken)
    · exact .param mem broken
    · exact .ret broken

mutual

theorem eq_of_agrees : ∀ {a b : Ty}, a.agrees b = true → a = b
  | .int, b, h => by cases b <;> simp_all [agrees]
  | .bool, b, h => by cases b <;> simp_all [agrees]
  | .void, b, h => by cases b <;> simp_all [agrees]
  | .string, b, h => by cases b <;> simp_all [agrees]
  | .struct _, b, h => by cases b <;> simp_all [agrees]
  | .structDef _, b, h => by cases b <;> simp_all [agrees]
  | .error, b, h => by simp at h
  | .fn ps r, b, h => by
    cases b with
    | fn qs s =>
      rw [agrees, Bool.and_eq_true] at h
      rw [eq_of_agreesAll h.1, eq_of_agrees h.2]
    | _ => simp [agrees] at h

theorem eq_of_agreesAll : ∀ {ps qs : List Ty}, agreesAll ps qs = true → ps = qs
  | [], [], _ => rfl
  | [], _ :: _, h => by simp [agreesAll] at h
  | _ :: _, [], h => by simp [agreesAll] at h
  | p :: ps, q :: qs, h => by
    rw [agreesAll, Bool.and_eq_true] at h
    rw [eq_of_agrees h.1, eq_of_agreesAll h.2]

end

mutual

theorem agrees_self_iff : ∀ a : Ty, a.agrees a = true ↔ ¬ a.Broken
  | .int | .bool | .void | .string => iff_of_true rfl (by rintro ⟨⟩)
  | .struct _ | .structDef _ => iff_of_true (by simp [agrees]) (by rintro ⟨⟩)
  | .error => by simp [Broken.error]
  | .fn ps r => by
    rw [agrees, Bool.and_eq_true, agreesAll_self_iff ps, r.agrees_self_iff, broken_fn_iff, not_or]
    simp

theorem agreesAll_self_iff : ∀ ps : List Ty, agreesAll ps ps = true ↔ ∀ t ∈ ps, ¬ t.Broken
  | [] => by simp [agreesAll]
  | p :: ps => by
    rw [agreesAll, Bool.and_eq_true, p.agrees_self_iff, agreesAll_self_iff ps, List.forall_mem_cons]

end

/-- Types agree if they are the same type and it is not broken. -/
lemma agrees_iff_eq (a b : Ty) : a.agrees b = true ↔ a = b ∧ ¬ a.Broken := by
  constructor
  · intro h
    obtain rfl := eq_of_agrees h
    exact ⟨rfl, a.agrees_self_iff.1 h⟩
  · rintro ⟨rfl, h⟩
    exact a.agrees_self_iff.2 h

end Ty

/-! ## Expressions -/

/-- The type in the slot of the note, if there is one, is not broken. -/
def Note.Whole (note : Note) : Prop := ∀ ty, note.ty.content = some ty → ¬ ty.Broken

lemma Note.eq_of_agrees {a b : Note} (h : a.agrees b = true) : a = b := by
  obtain ⟨l, ⟨s⟩⟩ := a
  obtain ⟨m, ⟨t⟩⟩ := b
  cases s <;> cases t <;> simp_all [agrees]
  exact Ty.eq_of_agrees h.2

lemma Note.agrees_self_iff (n : Note) : n.agrees n = true ↔ n.Whole := by
  obtain ⟨l, ⟨s⟩⟩ := n
  cases s <;> simp [agrees, Whole, Ty.agrees_self_iff]

mutual

theorem Expr.eq_of_agrees : ∀ {a b : Expr}, a.agrees b = true → a = b
  | .lit v n, b, h => by
    cases b <;> simp only [agrees, Bool.and_eq_true, beq_iff_eq, Bool.false_eq_true] at h
    rw [h.1, Note.eq_of_agrees h.2]
  | .name i n, b, h => by
    cases b <;> simp only [agrees, Bool.and_eq_true, beq_iff_eq, Bool.false_eq_true] at h
    rw [h.1, Note.eq_of_agrees h.2]
  | .dot a i f n, b, h => by
    cases b <;> simp only [agrees, Bool.and_eq_true, beq_iff_eq, Bool.false_eq_true] at h
    rw [Expr.eq_of_agrees h.1.1.1, h.1.1.2, h.1.2, Note.eq_of_agrees h.2]
  | .assign a v n, b, h => by
    cases b <;> simp only [agrees, Bool.and_eq_true, Bool.false_eq_true] at h
    rw [Expr.eq_of_agrees h.1.1, Expr.eq_of_agrees h.1.2, Note.eq_of_agrees h.2]
  | .call i xs n, b, h => by
    cases b <;> simp only [agrees, Bool.and_eq_true, beq_iff_eq, Bool.false_eq_true] at h
    rw [h.1.1, Expr.eq_of_allAgree h.1.2, Note.eq_of_agrees h.2]
  | .unary o a n, b, h => by
    cases b <;> simp only [agrees, Bool.and_eq_true, beq_iff_eq, Bool.false_eq_true] at h
    rw [h.1.1, Expr.eq_of_agrees h.1.2, Note.eq_of_agrees h.2]
  | .binary o a c n, b, h => by
    cases b <;> simp only [agrees, Bool.and_eq_true, beq_iff_eq, Bool.false_eq_true] at h
    rw [h.1.1.1, Expr.eq_of_agrees h.1.1.2, Expr.eq_of_agrees h.1.2, Note.eq_of_agrees h.2]

theorem Expr.eq_of_allAgree : ∀ {xs ys : List Expr}, allAgree xs ys = true → xs = ys
  | [], [], _ => rfl
  | [], _ :: _, h => by simp [allAgree] at h
  | _ :: _, [], h => by simp [allAgree] at h
  | x :: xs, y :: ys, h => by
    rw [allAgree, Bool.and_eq_true] at h
    rw [Expr.eq_of_agrees h.1, Expr.eq_of_allAgree h.2]

end

/-- No expression among them stores a broken type. -/
def Expr.Whole (es : List Expr) : Prop := ∀ e ∈ es, e.note.Whole

namespace Expr

lemma whole_cons {e : Expr} {es : List Expr} : Whole (e :: es) ↔ e.note.Whole ∧ Whole es :=
  List.forall_mem_cons

lemma whole_append {es fs : List Expr} : Whole (es ++ fs) ↔ Whole es ∧ Whole fs :=
  List.forall_mem_append

lemma whole_nil : Whole [] := by
  rintro e ⟨⟩

end Expr

mutual

theorem Expr.agrees_self_iff : ∀ e : Expr, e.agrees e = true ↔ Whole e.exprs
  | .lit _ n | .name _ n => by
    simp [agrees, exprs, whole_cons, whole_nil, note, n.agrees_self_iff]
  | .dot a _ _ n | .unary _ a n => by
    simp [agrees, exprs, whole_cons, note, n.agrees_self_iff, a.agrees_self_iff, and_comm]
  | .assign a b n | .binary _ a b n => by
    simp [agrees, exprs, whole_cons, whole_append, note, n.agrees_self_iff, a.agrees_self_iff,
      b.agrees_self_iff, and_comm]
  | .call _ xs n => by
    simp [agrees, exprs, whole_cons, note, n.agrees_self_iff, Expr.allAgree_self_iff xs, and_comm]

theorem Expr.allAgree_self_iff :
    ∀ es : List Expr, allAgree es es = true ↔ Whole (exprsOfAll es)
  | [] => iff_of_true rfl whole_nil
  | e :: es => by
    rw [allAgree, Bool.and_eq_true, e.agrees_self_iff, Expr.allAgree_self_iff es, exprsOfAll,
      whole_append]

end

/-! ## Statements -/

mutual

theorem Block.eq_of_agrees : ∀ {a b : Block}, a.agrees b = true → a = b
  | .mk ds ss, .mk es ts, h => by
    rw [Block.agrees, Bool.and_eq_true, beq_iff_eq] at h
    rw [h.1, Stmt.eq_of_allAgree h.2]

theorem Stmt.eq_of_agrees : ∀ {s t : Stmt}, s.agrees t = true → s = t
  | .simple v a, t, h => by
    rcases t with ⟨w, b⟩ | _ | _ | ⟨_ | _, _⟩ <;>
      simp only [Stmt.agrees, Bool.and_eq_true, beq_iff_eq, Bool.false_eq_true] at h
    rw [h.1, Expr.eq_of_agrees h.2]
  | .guarded g a s, t, h => by
    rcases t with _ | ⟨k, b, t⟩ | _ | ⟨_ | _, _⟩ <;>
      simp only [Stmt.agrees, Bool.and_eq_true, beq_iff_eq, Bool.false_eq_true] at h
    rw [h.1.1, Expr.eq_of_agrees h.1.2, Block.eq_of_agrees h.2]
  | .ifElse a s u, t, h => by
    rcases t with _ | _ | ⟨b, t, v⟩ | ⟨_ | _, _⟩ <;>
      simp only [Stmt.agrees, Bool.and_eq_true, Bool.false_eq_true] at h
    rw [Expr.eq_of_agrees h.1.1, Block.eq_of_agrees h.1.2, Block.eq_of_agrees h.2]
  | .ret none l, t, h => by
    rcases t with _ | _ | _ | ⟨_ | _, _⟩ <;>
      simp only [Stmt.agrees, beq_iff_eq, Bool.false_eq_true] at h
    rw [h]
  | .ret (some a) l, t, h => by
    rcases t with _ | _ | _ | ⟨_ | b, _⟩ <;>
      simp only [Stmt.agrees, Bool.and_eq_true, beq_iff_eq, Bool.false_eq_true] at h
    rw [Expr.eq_of_agrees h.1, h.2]

theorem Stmt.eq_of_allAgree : ∀ {ss ts : List Stmt}, Stmt.allAgree ss ts = true → ss = ts
  | [], [], _ => rfl
  | [], _ :: _, h => by simp [Stmt.allAgree] at h
  | _ :: _, [], h => by simp [Stmt.allAgree] at h
  | s :: ss, t :: ts, h => by
    rw [Stmt.allAgree, Bool.and_eq_true] at h
    rw [Stmt.eq_of_agrees h.1, Stmt.eq_of_allAgree h.2]

end

mutual

theorem Block.agrees_self_iff : ∀ b : Block, b.agrees b = true ↔ Expr.Whole b.exprs
  | .mk _ ss => by simp [Block.agrees, Block.exprs, Stmt.allAgree_self_iff ss]

theorem Stmt.agrees_self_iff : ∀ s : Stmt, s.agrees s = true ↔ Expr.Whole s.exprs
  | .simple _ e => by simp [Stmt.agrees, Stmt.exprs, e.agrees_self_iff]
  | .guarded _ e b => by
    simp [Stmt.agrees, Stmt.exprs, Expr.whole_append, e.agrees_self_iff, b.agrees_self_iff]
  | .ifElse e b c => by
    simp [Stmt.agrees, Stmt.exprs, Expr.whole_append, e.agrees_self_iff, b.agrees_self_iff,
      c.agrees_self_iff, and_assoc]
  | .ret none _ => by simp [Stmt.agrees, Stmt.exprs, Expr.whole_nil]
  | .ret (some e) _ => by simp [Stmt.agrees, Stmt.exprs, e.agrees_self_iff]

theorem Stmt.allAgree_self_iff :
    ∀ ss : List Stmt, Stmt.allAgree ss ss = true ↔ Expr.Whole (Stmt.exprsOfAll ss)
  | [] => iff_of_true rfl Expr.whole_nil
  | s :: ss => by
    rw [Stmt.allAgree, Bool.and_eq_true, s.agrees_self_iff, Stmt.allAgree_self_iff ss,
      Stmt.exprsOfAll, Expr.whole_append]

end

/-! ## Programs -/

lemma FnDecl.eq_of_agrees {f g : FnDecl} (h : f.agrees g = true) : f = g := by
  obtain ⟨ret, id, formals, body⟩ := f
  obtain ⟨ret', id', formals', body'⟩ := g
  simp only [agrees, Bool.and_eq_true, beq_iff_eq] at h
  obtain ⟨⟨⟨rfl, rfl⟩, rfl⟩, hbody⟩ := h
  rw [Block.eq_of_agrees hbody]

lemma StructDecl.eq_of_agrees {s t : StructDecl} (h : s.agrees t = true) : s = t := by
  obtain ⟨id, fields⟩ := s
  obtain ⟨id', fields'⟩ := t
  simp only [agrees, Bool.and_eq_true, beq_iff_eq] at h
  rw [h.1, h.2]

lemma Decl.eq_of_agrees {a b : Decl} (h : a.agrees b = true) : a = b := by
  cases a <;> cases b <;> simp only [agrees, beq_iff_eq, Bool.false_eq_true] at h
  case var => rw [h]
  case fn => rw [FnDecl.eq_of_agrees h]
  case struct => rw [StructDecl.eq_of_agrees h]

lemma Decl.agrees_self_iff (d : Decl) : d.agrees d = true ↔ Expr.Whole d.exprs := by
  cases d with
  | fn f => simp [agrees, FnDecl.agrees, exprs, f.body.agrees_self_iff]
  | var d => exact iff_of_true (by simp [agrees]) Expr.whole_nil
  | struct s => exact iff_of_true (by simp [agrees, StructDecl.agrees]) Expr.whole_nil

lemma Decl.eq_of_allAgree : ∀ {ds es : List Decl}, allAgree ds es = true → ds = es
  | [], [], _ => rfl
  | [], _ :: _, h => by simp [allAgree] at h
  | _ :: _, [], h => by simp [allAgree] at h
  | d :: ds, e :: es, h => by
    rw [allAgree, Bool.and_eq_true] at h
    rw [eq_of_agrees h.1, eq_of_allAgree h.2]

lemma Decl.allAgree_self_iff (ds : List Decl) :
    allAgree ds ds = true ↔ Expr.Whole (ds.flatMap exprs) := by
  induction ds with
  | nil => exact iff_of_true rfl Expr.whole_nil
  | cons d ds ih =>
    rw [allAgree, Bool.and_eq_true, d.agrees_self_iff, ih, List.flatMap_cons, Expr.whole_append]

namespace Program

/-- `Ty.error` occurs in no type that an expression of the program stores. -/
def Whole (p : Program) : Prop := ∀ e ∈ p.exprs, ∀ ty, e.ty? = some ty → ¬ ty.Broken

lemma agrees_self_iff (p : Program) : p.agrees p = true ↔ p.Whole :=
  Decl.allAgree_self_iff p.decls

/-- Programs agree if they are the same tree and no broken type is stored in it. -/
lemma agrees_iff_eq (p q : Program) : p.agrees q = true ↔ p = q ∧ p.Whole := by
  constructor
  · intro h
    obtain rfl : p = q := congrArg Program.mk (Decl.eq_of_allAgree h)
    exact ⟨rfl, p.agrees_self_iff.1 h⟩
  · rintro ⟨rfl, h⟩
    exact p.agrees_self_iff.2 h

end Program

/-- **Agreement is identity without errors.**  Two types agree if they are the same type and
`Ty.error` does not occur in it, at any depth.  So agreement is symmetric and transitive, and a type
agrees with itself unless `Ty.error` occurs in it.  Two programs agree if they are the same
tree, with the same contents of all slots, and no expression stores a type in which `Ty.error`
occurs.  So a program agrees with itself unless such a type is stored in it. -/
theorem agreement_is_identity_without_error :
    (∀ a b : Ty, a.agrees b = true ↔ a = b ∧ ¬ a.Broken) ∧
    (∀ a b : Ty, a.agrees b = true → b.agrees a = true) ∧
    (∀ a b c : Ty, a.agrees b = true → b.agrees c = true → a.agrees c = true) ∧
    (∀ a : Ty, a.agrees a = true ↔ ¬ a.Broken) ∧
    (∀ p q : Program, p.agrees q = true ↔ p = q ∧ p.Whole) ∧
    (∀ p : Program, p.agrees p = true ↔ p.Whole) := by
  refine ⟨Ty.agrees_iff_eq, ?symm, ?trans, Ty.agrees_self_iff, Program.agrees_iff_eq,
    Program.agrees_self_iff⟩
  case symm =>
    intro a b h
    obtain rfl := Ty.eq_of_agrees h
    exact h
  case trans =>
    intro a b c hab hbc
    obtain rfl := Ty.eq_of_agrees hab
    exact hbc

/-- One expression in a function body stores the type of a function that takes a broken function,
and the program does not agree with itself. -/
example :
    let nested : Ty := .fn [.fn [.int] .error] .void
    let e : Expr := (Expr.use (.unbound "f" .nowhere)).ofTy nested
    let p : Program :=
      ⟨[.fn { ret := .void, id := .unbound "g" .nowhere, formals := []
              body := .mk [] [.guarded .loop (.literal (.bool true) .nowhere)
                (.mk [] [.simple .write e])] }]⟩
    p.agrees p = false := by
  decide +kernel

end StructLang
