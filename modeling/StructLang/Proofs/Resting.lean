import Mathlib.Tactic.Common
import StructLang.Proofs.Halting

/-!
# What a halted pass returns

A pass that meets a fault stops nowhere in particular.  It goes on over the rest of the tree and
rebuilds it, but in a halted run no slot is filled and no flag is raised, so what it rebuilds is
what it was given.

* `Pass.Rests` — what a computation returns in a halted run.  That it leaves the run alone is known
  of all computations of the passes (`Pass.Stable`).
* `Block.visit_rests` — a visitor that returns each node as it is returns each tree as it is.
* `Naming.rests_resolveDecl` — in a halted run name resolution returns every declaration as it is.
-/

namespace StructLang

variable {σ α β : Type}

/-- What the computation returns in a halted run has the property. -/
def Pass.Rests (P : α → Prop) (x : Pass σ α) : Prop :=
  ∀ s, s.halted.isSome = true → P (x.run s).1

namespace Pass

variable {P : α → Prop} {Q : β → Prop} {x : Pass σ α} {f : α → Pass σ β}

lemma Rests.pure {a : α} (h : P a) : Rests P (Pure.pure a : Pass σ α) := fun _ _ => h

lemma Rests.mono {R : α → Prop} (hx : x.Rests P) (h : ∀ a, P a → R a) : x.Rests R :=
  fun s hs => h _ (hx s hs)

lemma Rests.bind (stable : x.Stable) (hx : x.Rests P) (hf : ∀ a, P a → (f a).Rests Q) :
    (x >>= f).Rests Q := by
  intro s hs
  have hrun : ((x >>= f).run s).1 = ((f (x.run s).1).run (x.run s).2).1 := rfl
  rw [hrun, stable s hs]
  exact hf _ (hx s hs) s hs

/-- What comes after a computation whose result does not matter. -/
lemma Rests.after (stable : x.Stable) (hf : ∀ a, (f a).Rests Q) : (x >>= f).Rests Q :=
  .bind (P := fun _ => True) stable (fun _ _ => trivial) fun a _ => hf a

lemma Rests.mapM {f : α → Pass σ α} (stable : ∀ a, (f a).Stable) (hf : ∀ a, (f a).Rests (· = a))
    (l : List α) : (l.mapM f).Rests (· = l) := by
  induction l with
  | nil =>
      rw [List.mapM_nil]
      exact .pure rfl
  | cons a l ih =>
      rw [List.mapM_cons]
      refine .bind (stable a) (hf a) fun b hb => .bind (.mapM stable l) ih fun bs hbs => .pure ?_
      rw [hb, hbs]

lemma rests_fill {purpose : String} (slot : Slot purpose α) (value : α) :
    (fill slot value : Pass σ (Slot purpose α)).Rests (· = slot) :=
  fun _ hs => congrArg Prod.fst (run_fill_of_halted hs slot value)

lemma rests_raise (flag : Bool) : (raise flag : Pass σ Bool).Rests (· = flag) :=
  fun _ hs => congrArg Prod.fst (run_raise_of_halted hs flag)

lemma stable_raise (flag : Bool) : (raise flag : Pass σ Bool).Stable := fun _ _ => rfl

end Pass

open Pass

/-! ## Traversals -/

/-- In a halted run the visitor returns each node as it is. -/
structure Visitor.Rests (v : Visitor σ) : Prop where
  stable : v.Stable
  name : ∀ id, (v.onName id).Rests (· = id)
  callee : ∀ id, (v.onCallee id).Rests (· = id)
  field : ∀ base field failed, (v.onField base field failed).Rests (· = (field, failed))
  expr : ∀ e, (v.onExpr e).Rests (· = e.note)
  decl : ∀ d, (v.onLocal d).Rests (· = d)

section

variable {v : Visitor σ}

lemma Visitor.Rests.finish (hv : v.Rests) (e : Expr) : (v.finish e).Rests (· = e) :=
  .bind (hv.stable.expr e) (hv.expr e) fun
    | _, rfl => .pure e.withNote_note

mutual

theorem Expr.visit_rests (hv : v.Rests) : ∀ e : Expr, (e.visit v).Rests (· = e)
  | .lit _ _ => hv.finish _
  | .name id _ => .bind (hv.stable.name id) (hv.name id) fun
      | _, rfl => hv.finish _
  | .dot base field failed _ => .bind (hv.stable.exprVisit base) (base.visit_rests hv) fun
      | _, rfl => .bind (hv.stable.field base field failed) (hv.field base field failed) fun
        | _, rfl => hv.finish _
  | .assign target value _ => .bind (hv.stable.exprVisit target) (target.visit_rests hv) fun
      | _, rfl => .bind (hv.stable.exprVisit value) (value.visit_rests hv) fun
        | _, rfl => hv.finish _
  | .call callee args _ => .bind (hv.stable.callee callee) (hv.callee callee) fun
      | _, rfl => .bind (hv.stable.exprVisitAll args) (Expr.visitAll_rests hv args) fun
        | _, rfl => hv.finish _
  | .unary _ operand _ => .bind (hv.stable.exprVisit operand) (operand.visit_rests hv) fun
      | _, rfl => hv.finish _
  | .binary _ left right _ => .bind (hv.stable.exprVisit left) (left.visit_rests hv) fun
      | _, rfl => .bind (hv.stable.exprVisit right) (right.visit_rests hv) fun
        | _, rfl => hv.finish _

theorem Expr.visitAll_rests (hv : v.Rests) : ∀ es : List Expr, (Expr.visitAll v es).Rests (· = es)
  | [] => .pure rfl
  | e :: es => .bind (hv.stable.exprVisit e) (e.visit_rests hv) fun
      | _, rfl => .bind (hv.stable.exprVisitAll es) (Expr.visitAll_rests hv es) fun
        | _, rfl => .pure rfl

end

/-- A block between entering and leaving, and what comes after it. -/
lemma Visitor.Rests.enclosed (hv : v.Rests) {b : Block} {f : Block → Pass σ β} {Q : β → Prop}
    (hb : (b.visit v).Rests (· = b)) (hf : (f b).Rests Q) :
    (do v.onEnter; let b' ← b.visit v; v.onLeave; f b' : Pass σ β).Rests Q :=
  .after hv.stable.enter fun _ => .bind (hv.stable.blockVisit b) hb fun
    | _, rfl => .after hv.stable.leave fun _ => hf

mutual

theorem Block.visit_rests (hv : v.Rests) : ∀ b : Block, (b.visit v).Rests (· = b)
  | .mk decls stmts => .bind (.mapM hv.stable.decl decls) (.mapM hv.stable.decl hv.decl decls) fun
      | _, rfl => .bind (hv.stable.stmtVisitAll stmts) (Stmt.visitAll_rests hv stmts) fun
        | _, rfl => .pure rfl

theorem Stmt.visit_rests (hv : v.Rests) : ∀ s : Stmt, (s.visit v).Rests (· = s)
  | .simple verb e => .bind (hv.stable.exprVisit e) (e.visit_rests hv) fun
      | _, rfl => .after (hv.stable.simple verb e) fun _ => .pure rfl
  | .guarded guard cond body => .bind (hv.stable.exprVisit cond) (cond.visit_rests hv) fun
      | _, rfl => .after (hv.stable.condition guard cond) fun _ =>
          hv.enclosed (body.visit_rests hv) (.pure rfl)
  | .ifElse cond yes no => .bind (hv.stable.exprVisit cond) (cond.visit_rests hv) fun
      | _, rfl => .after (hv.stable.condition .branch cond) fun _ =>
          hv.enclosed (yes.visit_rests hv) (hv.enclosed (no.visit_rests hv) (.pure rfl))
  | .ret none loc => .after (hv.stable.ret none loc) fun _ => .pure rfl
  | .ret (some value) loc => .bind (hv.stable.exprVisit value) (value.visit_rests hv) fun
      | _, rfl => .after (hv.stable.ret (some value) loc) fun _ => .pure rfl

theorem Stmt.visitAll_rests (hv : v.Rests) : ∀ ss : List Stmt, (Stmt.visitAll v ss).Rests (· = ss)
  | [] => .pure rfl
  | s :: ss => .bind (s.visit_moves hv.stable.respects) (s.visit_rests hv) fun
      | _, rfl => .bind (hv.stable.stmtVisitAll ss) (Stmt.visitAll_rests hv ss) fun
        | _, rfl => .pure rfl

end

end

/-! ## Name resolution -/

namespace Naming

lemma rests_bind (id : Ident) (h : SymbolId) : (bind id h).Rests (· = id) :=
  .bind (.fill id.binding h) (rests_fill id.binding h) fun
    | _, rfl => .pure rfl

lemma rests_use (id : Ident) : (use id).Rests (· = id) :=
  .after stable_table fun _ => .after (.require _ _) fun found => by
    cases found with
    | none => exact .after (.report _ _) fun _ => .pure rfl
    | some h =>
        exact .bind (stable_bind id h) (rests_bind id h) fun _ same => .after (.note _) fun _ =>
          .pure same

lemma rests_rejectField (field : Ident) (failed : Bool) (problem : Problem) :
    (rejectField field failed problem).Rests (· = (field, failed)) :=
  .after (.report _ _) fun _ => .bind (stable_raise failed) (rests_raise failed) fun
    | _, rfl => .pure rfl

lemma rests_selectField (base : Expr) (field : Ident) (failed : Bool) :
    (selectField base field failed).Rests (· = (field, failed)) := by
  unfold selectField
  cases base.asBase with
  | failed =>
      exact .bind (stable_raise failed) (rests_raise failed) fun
        | _, rfl => .pure rfl
  | nothing => exact rests_rejectField field failed _
  | symbol h =>
      refine .after stable_symbols fun _ => .after (.require _ _) fun fields => ?_
      cases fields with
      | none => exact rests_rejectField field failed _
      | some fields =>
          refine .after (.require _ _) fun found => ?_
          cases found with
          | none => exact rests_rejectField field failed _
          | some k =>
              exact .bind (stable_bind field k) (rests_bind field k) fun
                | _, rfl => .after (.note _) fun _ => .pure rfl

lemma rests_useStruct (types : ScopeStack) (name : Ident) :
    (useStruct types name).Rests fun r => r.1 = name := by
  refine .after (still_stable.structNamed _ _) fun defn => ?_
  cases defn with
  | none => exact .after (.report _ _) fun _ => .pure rfl
  | some h =>
      exact .bind (stable_bind name h) (rests_bind name h) fun
        | _, rfl => .pure rfl

lemma rests_kindOf (types : ScopeStack) (owner : Ident) (ty : TypeName) :
    (kindOf types owner ty).Rests fun r => r.1 = ty := by
  cases ty with
  | int => exact .pure rfl
  | bool => exact .pure rfl
  | void => exact .after (.report _ _) fun _ => .pure rfl
  | struct name =>
      exact .bind (still_stable.useStruct _ _) (rests_useStruct types name) fun _ same =>
        .pure (congrArg TypeName.struct same)

lemma rests_introduce (target : ScopeStack) (id : Ident) (kind : Symbol.Kind) :
    (introduce target id kind).Rests fun r => r.2.1 = id :=
  .after stable_symbols fun _ => .after (.require _ _) fun r => .after (.update _) fun _ =>
    .after (.require _ _) fun _ =>
      .bind (stable_bind id r.2) (rests_bind id r.2) fun _ same => .pure same

lemma rests_declareIn (types target : ScopeStack) (d : VarDecl) :
    (declareIn types target d).Rests fun r => r.2 = d := by
  refine .bind (stable_kindOf _ _ _) (rests_kindOf types d.id d.ty) fun r hty =>
    .after (.require _ _) fun known => ?_
  obtain ⟨ty, kind⟩ := r
  obtain rfl : ty = d.ty := hty
  cases known with
  | some h => exact .after (.report _ _) fun _ => .pure rfl
  | none =>
      cases kind with
      | none => exact .pure rfl
      | some kind =>
          exact .bind (stable_introduce _ _ _) (rests_introduce target d.id kind) fun _ same =>
            .after (.note _) fun _ => .pure (congrArg (VarDecl.mk d.ty) same)

lemma rests_declareVar (d : VarDecl) : (declareVar d).Rests (· = d) :=
  .after stable_table fun table => .bind (stable_declareIn _ _ _) (rests_declareIn table table d)
    fun _ same => .after (stable_setTable _) fun _ => .pure same

lemma rests_declareFields (types : ScopeStack) (ds : List VarDecl) : ∀ fields : ScopeStack,
    (declareFields types fields ds).Rests fun r => r.2 = ds := by
  induction ds with
  | nil => exact fun _ => .pure rfl
  | cons d ds ih =>
      exact fun fields => .bind (stable_declareIn _ _ _) (rests_declareIn types fields d)
        fun _ first => .bind (stable_declareFields _ _ _) (ih _) fun _ rest =>
          .pure (congrArg₂ List.cons first rest)

lemma rests_introduceHere (id : Ident) (kind : Symbol.Kind) :
    (introduceHere id kind).Rests fun r => r.1 = id :=
  .after stable_table fun table => .bind (stable_introduce _ _ _) (rests_introduce table id kind)
    fun _ same => .after (stable_setTable _) fun _ => .pure same

lemma rests_visitor : visitor.Rests where
  stable := stable_visitor
  name := rests_use
  callee := rests_use
  field := rests_selectField
  expr _ := .pure rfl
  decl := rests_declareVar

lemma rests_returnType (ret : TypeName) : (returnType ret).Rests fun r => r.1 = ret := by
  cases ret with
  | struct name =>
      exact .after stable_table fun table =>
        .bind (still_stable.useStruct _ _) (rests_useStruct table name) fun _ same =>
          .pure (congrArg TypeName.struct same)
  | _ => exact .pure rfl

lemma rests_declareFn (id : Ident) (ret : Ty) : (declareFn id ret).Rests fun r => r.1 = id :=
  .after (stable_rejectDuplicate id) fun duplicate => by
    cases duplicate with
    | true => exact .pure rfl
    | false =>
        exact .bind (stable_introduceHere _ _) (rests_introduceHere id _) fun _ same => .pure same

/-- What is left of a function once its head is declared. -/
lemma rests_afterHead (f : FnDecl) (ret : TypeName) (r : Ident × Option SymbolId) : (do
      openScope
      let formals ← f.formals.mapM declareVar
      match r.2 with
      | some h => setParams h formals
      | none => pure ()
      let body ← f.body.visit visitor
      closeScope
      return { ret, id := r.1, formals, body } : Naming FnDecl).Rests
        (· = { ret, id := r.1, formals := f.formals, body := f.body }) := by
  have hbody : (do
      let body ← f.body.visit visitor
      closeScope
      return { ret, id := r.1, formals := f.formals, body } : Naming FnDecl).Rests
        (· = { ret, id := r.1, formals := f.formals, body := f.body }) :=
    .bind (stable_visitor.blockVisit f.body) (f.body.visit_rests rests_visitor) fun
      | _, rfl => .after stable_closeScope fun _ => .pure rfl
  refine .after stable_openScope fun _ => .bind (.mapM stable_declareVar _)
    (.mapM stable_declareVar rests_declareVar f.formals) ?_
  rintro _ rfl
  obtain ⟨id, symbol⟩ := r
  cases symbol with
  | none => exact hbody
  | some h => exact .after (stable_setParams _ _) fun _ => hbody

lemma rests_resolveFn (f : FnDecl) : (resolveFn f).Rests (· = f) :=
  .bind (stable_returnType f.ret) (rests_returnType f.ret) fun r hret =>
    .bind (stable_declareFn f.id r.2) (rests_declareFn f.id r.2) fun r' hid s hs =>
      (rests_afterHead f r.1 r' s hs).trans (by rw [hret, hid])

lemma rests_resolveStruct (st : StructDecl) : (resolveStruct st).Rests (· = st) := by
  refine .after (stable_rejectDuplicate _) fun duplicate => .after (.note _) fun _ =>
    .after stable_table fun table => .bind (stable_declareFields _ _ _)
      (rests_declareFields table st.fields .withScope) ?_
  rintro ⟨fields, ds⟩ rfl
  cases duplicate with
  | true => exact .pure rfl
  | false =>
      refine .bind (stable_introduceHere _ _) (rests_introduceHere st.id _) ?_
      rintro ⟨id, h⟩ rfl
      exact .after (.note _) fun _ => .pure rfl

lemma rests_resolveDecl (d : Decl) : (resolveDecl d).Rests (· = d) := by
  cases d with
  | var d =>
      exact .bind (stable_declareVar d) (rests_declareVar d) fun _ same =>
        .pure (congrArg Decl.var same)
  | fn f =>
      exact .bind (stable_resolveFn f) (rests_resolveFn f) fun _ same =>
        .pure (congrArg Decl.fn same)
  | struct st =>
      exact .bind (stable_resolveStruct st) (rests_resolveStruct st) fun _ same =>
        .pure (congrArg Decl.struct same)

end Naming

end StructLang
