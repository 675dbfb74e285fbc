import Mathlib.Tactic.Common
import StructLang.Proofs.Resolution
import StructLang.Tree.Walk

/-!
# From an expression to all expressions

What the rules make of every expression at its root they make of all its parts
(`ExprRule.parts`), and what they make of the parts of every expression they make of all
expressions in a block, a function and a program (`DeclsRule.carries`).  So a statement about the
expressions of a resolved program is proved for the root of one expression.

`R` is what is known of the expressions before, `K` what is known of all that is reported, and `P`
what is then true of the expressions after.
-/

namespace StructLang

namespace Naming

variable {base : Nat} {B : Arena} {K : Finding → Prop} {R P : Expr → Prop}

/-- All that is reported among the events is of the kind. -/
def Only (K : Finding → Prop) (es : List Event) : Prop := ∀ f ∈ reports es, K f

lemma only_append {es fs : List Event} (h : Only K (es ++ fs)) : Only K es ∧ Only K fs :=
  List.forall_mem_append.1 (reports_append es fs ▸ h)

lemma only_inside {es : List Event} {m n : Nat}
    (h : Only K (.opened m :: es ++ [.closed n])) : Only K es := by
  unfold Only at *
  rwa [reports_inside] at h

lemma forall_cons {e : Expr} {es : List Expr} (he : P e) (hes : ∀ x ∈ es, P x) :
    ∀ x ∈ e :: es, P x := by
  intro x hx
  rcases List.mem_cons.1 hx with rfl | hx
  · exact he
  · exact hes x hx

lemma forall_append {es fs : List Expr} (hes : ∀ x ∈ es, P x) (hfs : ∀ x ∈ fs, P x) :
    ∀ x ∈ es ++ fs, P x := by
  intro x hx
  rcases List.mem_append.1 hx with hx | hx
  · exact hes x hx
  · exact hfs x hx

/-- In the given names, the rule for an expression makes `P` of `R` at the expression itself. -/
def CarriesIn (w : Names) (K : Finding → Prop) (R P : Expr → Prop) : Prop :=
  ∀ {e e' : Expr} {es : List Event}, ExprRule w e e' es → (∀ x ∈ e.exprs, R x) →
    Only K es → P e'

mutual

theorem ExprRule.parts {w : Names} (root : CarriesIn w K R P) : ∀ {e e' : Expr} {es : List Event},
    ExprRule w e e' es → (∀ x ∈ e.exprs, R x) → Only K es → ∀ x ∈ e'.exprs, P x
  | _, _, _, .lit value note, hr, honly =>
      forall_cons (root (.lit value note) hr honly) nofun
  | _, _, _, .name note use, hr, honly =>
      forall_cons (root (.name note use) hr honly) nofun
  | _, _, _, .dot note first second, hr, honly =>
      forall_cons (root (.dot note first second) hr honly)
        (first.parts root (fun x hx => hr x (List.mem_cons_of_mem _ hx)) (only_append honly).1)
  | _, _, _, .assign note left right, hr, honly =>
      forall_cons (root (.assign note left right) hr honly) <| forall_append
        (left.parts root (fun x hx => hr x (by simp [Expr.exprs, hx])) (only_append honly).1)
        (right.parts root (fun x hx => hr x (by simp [Expr.exprs, hx])) (only_append honly).2)
  | _, _, _, .call note use all, hr, honly =>
      forall_cons (root (.call note use all) hr honly)
        (all.parts root (fun x hx => hr x (List.mem_cons_of_mem _ hx)) (only_append honly).2)
  | _, _, _, .unary op note inner, hr, honly =>
      forall_cons (root (.unary op note inner) hr honly)
        (inner.parts root (fun x hx => hr x (List.mem_cons_of_mem _ hx)) honly)
  | _, _, _, .binary op note first second, hr, honly =>
      forall_cons (root (.binary op note first second) hr honly) <| forall_append
        (first.parts root (fun x hx => hr x (by simp [Expr.exprs, hx])) (only_append honly).1)
        (second.parts root (fun x hx => hr x (by simp [Expr.exprs, hx])) (only_append honly).2)

theorem ArgsRule.parts {w : Names} (root : CarriesIn w K R P) : ∀ {args args' : List Expr}
    {es : List Event}, ArgsRule w args args' es → (∀ x ∈ Expr.exprsOfAll args, R x) →
      Only K es → ∀ x ∈ Expr.exprsOfAll args', P x
  | _, _, _, .nil, _, _ => nofun
  | _, _, _, .cons first rest, hr, honly =>
      forall_append
        (first.parts root (fun x hx => hr x (List.mem_append_left _ hx)) (only_append honly).1)
        (rest.parts root (fun x hx => hr x (List.mem_append_right _ hx)) (only_append honly).2)

end

/-- In all names of a run that ends with the symbols `B`, the rule for an expression makes `P` of
`R` at the expression itself. -/
def Carries (base : Nat) (B : Arena) (K : Finding → Prop) (R P : Expr → Prop) : Prop :=
  ∀ {w : Names}, w.Sound base → w.symbols.Grows B → CarriesIn w K R P

lemma ExprRule.carries {w : Names} {e e' : Expr} {es : List Event} (rule : ExprRule w e e' es)
    (h : Carries base B K R P) (hw : w.Sound base) (hgrows : w.symbols.Grows B)
    (hr : ∀ x ∈ e.exprs, R x) (honly : Only K es) : ∀ x ∈ e'.exprs, P x :=
  rule.parts (h hw hgrows) hr honly

/-- What the rules make of every expression at its root they make of its parts. -/
lemma Carries.parts (h : Carries base B K R P) :
    Carries base B K R fun e => ∀ x ∈ e.exprs, P x :=
  fun hw hgrows _ _ _ rule => rule.parts (h hw hgrows)

mutual

theorem BlockRule.carries (h : Carries base B K R P) : ∀ {w w' : Names} {b b' : Block}
    {es : List Event}, BlockRule w b b' w' es → w.Sound base → w'.symbols.Grows B →
      (∀ x ∈ b.exprs, R x) → Only K es → ∀ x ∈ b'.exprs, P x
  | _, _, _, _, _, .mk decls stmts, hw, hgrows, hr, honly =>
      stmts.carries h (decls.extends_here hw).sound hgrows hr (only_append honly).2

theorem BranchRule.carries (h : Carries base B K R P) : ∀ {w : Names} {A : Arena} {b b' : Block}
    {es : List Event}, BranchRule w b b' A es → w.Sound base → A.Grows B →
      (∀ x ∈ b.exprs, R x) → Only K es → ∀ x ∈ b'.exprs, P x
  | _, _, _, _, _, .mk inside, hw, hgrows, hr, honly =>
      inside.carries h hw.enter hgrows hr (only_inside honly)

theorem StmtRule.carries (h : Carries base B K R P) : ∀ {w : Names} {A : Arena} {s s' : Stmt}
    {es : List Event}, StmtRule w s s' A es → w.Sound base → A.Grows B →
      (∀ x ∈ s.exprs, R x) → Only K es → ∀ x ∈ s'.exprs, P x
  | _, _, _, _, _, .simple _ expr, hw, hgrows, hr, honly => expr.carries h hw hgrows hr honly
  | _, _, _, _, _, .guarded _ expr branch, hw, hgrows, hr, honly => by
      have hbranch := branch.extends hw
      obtain ⟨hq₁, hq₂⟩ := only_append honly
      exact forall_append
        (expr.carries h hw (hbranch.grows.trans hgrows)
          (fun x hx => hr x (List.mem_append_left _ hx)) hq₁)
        (branch.carries h hw hgrows (fun x hx => hr x (List.mem_append_right _ hx)) hq₂)
  | _, _, _, _, _, .ifElse expr first second, hw, hgrows, hr, honly => by
      have hfirst := first.extends hw
      have hsecond := (second.extends hfirst.sound).grows.trans hgrows
      obtain ⟨hq, hq₃⟩ := only_append honly
      obtain ⟨hq₁, hq₂⟩ := only_append hq
      refine forall_append (forall_append ?_ ?_) ?_
      · exact expr.carries h hw (hfirst.grows.trans hsecond)
          (fun x hx => hr x (List.mem_append_left _ (List.mem_append_left _ hx))) hq₁
      · exact first.carries h hw hsecond
          (fun x hx => hr x (List.mem_append_left _ (List.mem_append_right _ hx))) hq₂
      · exact second.carries h hfirst.sound hgrows
          (fun x hx => hr x (List.mem_append_right _ hx)) hq₃
  | _, _, _, _, _, .leave _, _, _, _, _ => nofun
  | _, _, _, _, _, .ret _ expr, hw, hgrows, hr, honly => expr.carries h hw hgrows hr honly

theorem StmtsRule.carries (h : Carries base B K R P) : ∀ {w : Names} {A : Arena}
    {ss ss' : List Stmt} {es : List Event}, StmtsRule w ss ss' A es → w.Sound base →
      A.Grows B → (∀ x ∈ Stmt.exprsOfAll ss, R x) → Only K es →
        ∀ x ∈ Stmt.exprsOfAll ss', P x
  | _, _, _, _, _, .nil, _, _, _, _ => nofun
  | _, _, _, _, _, .cons first rest, hw, hgrows, hr, honly => by
      have hfirst := first.extends hw
      have hrest := (rest.extends hfirst.sound).grows.trans hgrows
      obtain ⟨hq₁, hq₂⟩ := only_append honly
      exact forall_append
        (first.carries h hw hrest (fun x hx => hr x (List.mem_append_left _ hx)) hq₁)
        (rest.carries h hfirst.sound hgrows (fun x hx => hr x (List.mem_append_right _ hx)) hq₂)

end

lemma FnRule.carries {w w' : Names} {f f' : FnDecl} {es : List Event} (rule : FnRule w f f' w' es)
    (h : Carries base B K R P) (hw : w.Sound base) (hgrows : w'.symbols.Grows B)
    (hr : ∀ x ∈ f.body.exprs, R x) (honly : Only K es) : ∀ x ∈ f'.body.exprs, P x := by
  cases rule with
  | mk type head params inside =>
      have hhead := head.extends_of_type type hw
      have hparams := params.extends_here hhead.sound.enter
      exact inside.carries h hparams.sound hgrows hr
        (only_append (only_inside (only_append honly).2)).2

lemma DeclRule.carries {w w' : Names} {d d' : Decl} {es : List Event} (rule : DeclRule w d d' w' es)
    (h : Carries base B K R P) (hw : w.Sound base) (hgrows : w'.symbols.Grows B)
    (hr : ∀ x ∈ d.exprs, R x) (honly : Only K es) : ∀ x ∈ d'.exprs, P x := by
  cases rule with
  | fn rule => exact rule.carries h hw hgrows hr honly
  | _ => nofun

theorem DeclsRule.carries {w w' : Names} {ds ds' : List Decl} {es : List Event}
    (rule : DeclsRule w ds ds' w' es) (h : Carries base B K R P) (hw : w.Sound base)
    (hgrows : w'.symbols.Grows B) (hr : ∀ x ∈ ds.flatMap Decl.exprs, R x)
    (honly : Only K es) : ∀ x ∈ ds'.flatMap Decl.exprs, P x := by
  induction rule with
  | nil => nofun
  | cons first rest ih =>
      have hfirst := first.extends hw
      have hrest := (rest.extends hfirst.sound).grows.trans hgrows
      obtain ⟨hq₁, hq₂⟩ := only_append honly
      rw [List.flatMap_cons] at hr ⊢
      exact forall_append
        (first.carries h hw hrest (fun x hx => hr x (List.mem_append_left _ hx)) hq₁)
        (ih hfirst.sound hgrows (fun x hx => hr x (List.mem_append_right _ hx)) hq₂)

end Naming

end StructLang
