import Mathlib.Tactic.Common
import StructLang.Proofs.Run
import StructLang.Tree.Traversal

/-!
# What a visitor keeps, a traversal keeps

Statements about the run alone, whatever the tree: a relation between the run before and the run
after that holds of everything a visitor does holds of the whole traversal.

A statement and a block can stand in different relations.  A block may leave something behind in
the innermost scope, which is gone when the statement around it is done.  So there are two
relations, `outer` for expressions and statements and `inner` for blocks, and entering and leaving
turn an inner step into an outer one (`Visitor.Respects.bracket`).
-/

namespace StructLang

variable {σ α β : Type}

/-- Whatever it returns, the computation takes every run to a related one. -/
def Pass.Moves (R : Run σ → Run σ → Prop) (x : Pass σ α) : Prop := ∀ s, R s (x.run s).2

namespace Pass

variable {R : Run σ → Run σ → Prop}

lemma Moves.pure (refl : ∀ s, R s s) (a : α) : Moves R (Pure.pure a : Pass σ α) := refl

lemma Moves.bind (trans : ∀ s t u, R s t → R t u → R s u) {x : Pass σ α} {f : α → Pass σ β}
    (hx : Moves R x) (hf : ∀ a, Moves R (f a)) : Moves R (x >>= f) := by
  intro s
  exact trans _ _ _ (hx s) (hf (x.run s).1 (x.run s).2)

lemma Moves.mapM (refl : ∀ s, R s s) (trans : ∀ s t u, R s t → R t u → R s u)
    {f : α → Pass σ β} (hf : ∀ a, Moves R (f a)) (l : List α) : Moves R (l.mapM f) := by
  induction l with
  | nil =>
      rw [List.mapM_nil]
      exact Moves.pure refl []
  | cons a l ih =>
      rw [List.mapM_cons]
      exact (hf a).bind trans fun b => ih.bind trans fun bs => Moves.pure refl (b :: bs)

end Pass

/-- Everything the visitor does is a step of the relations: an inner one at the declarations of a
block, an outer one everywhere else. -/
structure Visitor.Respects (v : Visitor σ) (outer inner : Run σ → Run σ → Prop) : Prop where
  refl : ∀ s, outer s s
  trans : ∀ s t u, outer s t → outer t u → outer s u
  innerTrans : ∀ s t u, inner s t → inner t u → inner s u
  innerOfOuter : ∀ {s t}, outer s t → inner s t
  name : ∀ id, (v.onName id).Moves outer
  callee : ∀ id, (v.onCallee id).Moves outer
  field : ∀ base field failed, (v.onField base field failed).Moves outer
  expr : ∀ e, (v.onExpr e).Moves outer
  decl : ∀ d, (v.onLocal d).Moves inner
  /-- What happens between entering a block and leaving it is an outer step. -/
  bracket : ∀ {s t}, inner (v.onEnter.run s).2 t → outer s (v.onLeave.run t).2
  simple : ∀ verb e, (v.onSimple verb e).Moves outer
  condition : ∀ guard e, (v.onCondition guard e).Moves outer
  ret : ∀ value loc, (v.onReturn value loc).Moves outer

section

variable {v : Visitor σ} {outer inner : Run σ → Run σ → Prop} (h : v.Respects outer inner)

include h

lemma Visitor.Respects.finish (e : Expr) : (v.finish e).Moves outer :=
  (h.expr e).bind h.trans fun _ => Pass.Moves.pure h.refl _

mutual

theorem Expr.visit_moves : ∀ e : Expr, (e.visit v).Moves outer
  | .lit _ _ => h.finish _
  | .name id _ => (h.name id).bind h.trans fun _ => h.finish _
  | .dot base field failed _ =>
      base.visit_moves.bind h.trans fun base' =>
        (h.field base' field failed).bind h.trans fun _ => h.finish _
  | .assign target value _ =>
      target.visit_moves.bind h.trans fun _ =>
        value.visit_moves.bind h.trans fun _ => h.finish _
  | .call callee args _ =>
      (h.callee callee).bind h.trans fun _ =>
        (Expr.visitAll_moves args).bind h.trans fun _ => h.finish _
  | .unary _ operand _ => operand.visit_moves.bind h.trans fun _ => h.finish _
  | .binary _ left right _ =>
      left.visit_moves.bind h.trans fun _ => right.visit_moves.bind h.trans fun _ => h.finish _

theorem Expr.visitAll_moves : ∀ es : List Expr, (Expr.visitAll v es).Moves outer
  | [] => Pass.Moves.pure h.refl _
  | e :: es =>
      e.visit_moves.bind h.trans fun _ =>
        (Expr.visitAll_moves es).bind h.trans fun _ => Pass.Moves.pure h.refl _

end

/-- A block between entering and leaving, and what comes after it. -/
lemma Visitor.Respects.enclosed {x : Pass σ α} {f : α → Pass σ β} (hx : x.Moves inner)
    (hf : ∀ a, (f a).Moves outer) :
    (do v.onEnter; let a ← x; v.onLeave; f a : Pass σ β).Moves outer := by
  intro s
  exact h.trans _ _ _ (h.bracket (hx (v.onEnter.run s).2)) (hf _ _)

mutual

theorem Block.visit_moves : ∀ b : Block, (b.visit v).Moves inner
  | .mk decls stmts =>
      (Pass.Moves.mapM (fun s => h.innerOfOuter (h.refl s)) h.innerTrans h.decl decls).bind
        h.innerTrans fun _ s =>
          h.innerOfOuter ((Stmt.visitAll_moves stmts).bind h.trans
            (fun _ => Pass.Moves.pure h.refl _) s)

theorem Stmt.visit_moves : ∀ s : Stmt, (s.visit v).Moves outer
  | .simple verb e =>
      (e.visit_moves h).bind h.trans fun e' =>
        (h.simple verb e').bind h.trans fun _ => Pass.Moves.pure h.refl _
  | .guarded guard cond body =>
      (cond.visit_moves h).bind h.trans fun cond' =>
        (h.condition guard cond').bind h.trans fun _ =>
          h.enclosed body.visit_moves fun _ => Pass.Moves.pure h.refl _
  | .ifElse cond yes no =>
      (cond.visit_moves h).bind h.trans fun cond' =>
        (h.condition .branch cond').bind h.trans fun _ =>
          h.enclosed yes.visit_moves fun _ =>
            h.enclosed no.visit_moves fun _ => Pass.Moves.pure h.refl _
  | .ret none loc => (h.ret none loc).bind h.trans fun _ => Pass.Moves.pure h.refl _
  | .ret (some value) loc =>
      (value.visit_moves h).bind h.trans fun value' =>
        (h.ret (some value') loc).bind h.trans fun _ => Pass.Moves.pure h.refl _

theorem Stmt.visitAll_moves : ∀ ss : List Stmt, (Stmt.visitAll v ss).Moves outer
  | [] => Pass.Moves.pure h.refl _
  | s :: ss =>
      s.visit_moves.bind h.trans fun _ =>
        (Stmt.visitAll_moves ss).bind h.trans fun _ => Pass.Moves.pure h.refl _

end

end

end StructLang
