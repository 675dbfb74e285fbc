import Mathlib.Tactic.Common
import StructLang.Proofs.Analysis
import StructLang.Proofs.FaultPoints
import StructLang.Proofs.Resting
import StructLang.Tree.Build

/-!
# Where type checking stops

Type checking skips nothing: it looks up every identifier that is used and fills the slot of every
expression, whatever it thinks of the types it finds.  So it stops at the first point of the program
that has a fault, and what comes after that point is left alone.

* `Pass.Fails` — a computation that comes to a fault, and what is known of the fault and of the tree
  that it leaves.
* `Checking.visitExpr_fails`, `Checking.visitStmt_fails` — type checking of a tree in which not all
  expressions are ready leaves it halfway.
* `checkProgram_stops` — type checking of a program meets the fault of the first point that has one,
  and leaves the tree halfway at that point.
-/

namespace StructLang

variable {A : Arena}

/-! ## Runs that stop -/

namespace Pass

variable {σ α β : Type} {s t : Run σ} {P : α → Fault → Prop} {Q : β → Fault → Prop} {x : Pass σ α}
  {f : α → Pass σ β}

/-- From the run the computation comes to a fault.  Of this and of what it returns the property
holds. -/
def Fails (s : Run σ) (x : Pass σ α) (P : α → Fault → Prop) : Prop :=
  ∃ fault, (x.run s).2.halted = some fault ∧ P (x.run s).1 fault

/-- What comes after the fault leaves the run alone. -/
lemma Fails.bind (hx : Fails s x P) (stable : ∀ a, (f a).Stable)
    (hf : ∀ a fault, P a fault → (f a).Rests (Q · fault)) : Fails s (x >>= f) Q := by
  obtain ⟨fault, hhalted, hp⟩ := hx
  have hs : (x.run s).2.halted.isSome = true := by
    rw [hhalted]
    rfl
  have hrun : ((x >>= f).run s).2 = (x.run s).2 := stable _ _ hs
  exact ⟨fault, hrun ▸ hhalted, hf _ _ hp _ hs⟩

lemma Fails.run_bind {a : α} (h : x.run s = (a, t)) (hf : Fails t (f a) Q) :
    Fails s (x >>= f) Q := by
  unfold Fails
  rw [Pass.run_bind h]
  exact hf

lemma Fails.mono {R : α → Fault → Prop} (hx : Fails s x P)
    (h : ∀ a fault, P a fault → R a fault) : Fails s x R := by
  obtain ⟨fault, hhalted, hp⟩ := hx
  exact ⟨fault, hhalted, h _ _ hp⟩

end Pass

namespace Checking

open Pass

variable {ret : Ty} {s : Run Bool}

lemma rests_visitor : (visitor A ret).Rests where
  stable := stable_visitor
  name _ := .pure rfl
  callee _ := .after (.require _ _) fun _ => .after (stable_reportAll _) fun _ => .pure rfl
  field _ _ _ := .pure rfl
  expr e := .after (.require _ _) fun r => .after (stable_reportAll _) fun _ =>
    .bind (.fill _ _) (rests_fill e.note.ty r.1) fun
      | _, rfl => .pure rfl
  decl _ := .pure rfl

lemma rests_checkDecl (d : Decl) : (checkDecl A d).Rests (· = d) := by
  cases d with
  | fn f =>
      exact .bind (stable_visitor.blockVisit _) (f.body.visit_rests rests_visitor) fun
        | _, rfl => .pure rfl
  | _ => exact .pure rfl

/-- An expression whose parts have their types is left as it is, if it is not ready itself. -/
lemma finish_fails {e : Expr} (live : s.halted = none) (h : ¬ e.Ready A) :
    Fails s ((visitor A ret).finish e) fun e' fault => e' = e ∧ e.fault? A = some fault := by
  have hsettle : Fails s (settle A e) fun note fault =>
      note = e.note ∧ e.fault? A = some fault := by
    unfold settle
    cases hjudge : e.judge A with
    | error fault =>
        have hrequire : Fails s (require (.error fault) (Ty.error, ([] : List Finding)))
            fun _ fault' => fault' = fault :=
          ⟨fault, by rw [run_require_error live], rfl⟩
        refine hrequire.bind (fun _ => (stable_reportAll _).bind fun _ =>
          (Stable.fill _ _).bind fun _ => .pure _) ?_
        rintro r _ rfl
        exact .after (stable_reportAll _) fun _ => .bind (.fill _ _) (rests_fill e.note.ty r.1) fun
          | _, rfl => .pure ⟨rfl, Expr.fault?_of_judge hjudge⟩
    | ok r =>
        obtain ⟨ty, hty⟩ : ∃ ty, e.ty? = some ty := by
          rw [← Option.ne_none_iff_exists']
          exact fun hempty => h ⟨hempty, Expr.known_of_judge hjudge⟩
        refine .run_bind (run_require_ok _ _) (.run_bind (run_reportAll live _) ?_)
        have hfill : ∀ {t : Run Bool}, t.halted = none → Fails t (fill e.note.ty r.1)
            fun slot fault => slot = e.note.ty ∧ fault = .slotFilled "type" := by
          intro t live
          unfold Fails
          rw [run_fill_of_filled live hty]
          exact ⟨_, rfl, rfl, rfl⟩
        refine (hfill (by simpa)).bind (fun _ => .pure _) ?_
        rintro _ _ ⟨rfl, rfl⟩
        exact .pure ⟨rfl, Expr.fault?_of_filled hjudge hty⟩
  refine hsettle.bind (fun _ => .pure _) ?_
  rintro _ fault ⟨rfl, hfault⟩
  exact .pure ⟨e.withNote_note, hfault⟩

lemma checkCallee_fails {callee : Ident} (live : s.halted = none)
    (h : ¬ ∀ h, callee.symbol? = some h → ∃ ty, A.typeOf h = .ok ty) :
    Fails s (checkCallee A callee) fun id fault =>
      id = callee ∧ callee.fault? A = some fault := by
  unfold checkCallee
  cases hty : callee.tyIn A with
  | ok ty => exact absurd (Ident.known_of_tyIn hty) h
  | error fault =>
      have hrequire : Fails s (require (.error fault) Ty.error) fun _ fault' => fault' = fault :=
        ⟨fault, by rw [run_require_error live], rfl⟩
      refine hrequire.bind (fun _ => (stable_reportAll _).bind fun _ => .pure _) ?_
      rintro r _ rfl
      refine .after (stable_reportAll _) fun _ => .pure ⟨rfl, ?_⟩
      simp only [Ident.fault?, hty]

section

variable {e e' : Expr} {ss ss' : List Site} (hsites : e'.sites = ss' ++ [.expr e'])

include hsites

/-- An expression that is not ready, although all its parts were. -/
lemma finish_halfway (live : s.halted = none) (h : ¬ e.Ready A) (parts : Completed A ss ss')
    (hty : e'.note.ty = e.note.ty) (hident : e'.ident? = e.ident?) :
    Fails s ((visitor A ret).finish e') fun x fault =>
      Halfway A (ss ++ [.expr e]) x.sites fault := by
  have hready : ¬ e'.Ready A := fun ready => h (ready.of_parts e (congrArg Slot.content hty.symm)
    hident.symm)
  refine (finish_fails live hready).mono ?_
  rintro _ fault ⟨rfl, hfault⟩
  rw [hsites]
  exact .behind parts (.expr hfault hty hident)

/-- An expression with a part that was not ready. -/
lemma finish_later {fault : Fault} (half : Halfway A ss ss' fault) (hty : e'.ty? = e.ty?) :
    ((visitor A ret).finish e').Rests fun x => Halfway A (ss ++ [.expr e]) x.sites fault := by
  refine (rests_visitor.finish e').mono ?_
  rintro _ rfl
  rw [hsites]
  exact half.before (congrArg (· :: []) hty)

end

mutual

theorem visitExpr_fails : ∀ {e : Expr} {s : Run Bool}, s.halted = none → ¬ AllReady A e.exprs →
    Fails s (e.visit (visitor A ret)) fun e' fault => Halfway A e.sites e'.sites fault
  | .lit value note, s, live, h =>
      finish_halfway rfl live (fun ready => h (List.forall_mem_singleton.2 ready)) .nil rfl rfl
  | .name id note, s, live, h =>
      .run_bind (run_return id s) (finish_halfway rfl live
        (fun ready => h (List.forall_mem_singleton.2 ready)) .nil rfl rfl)
  | .dot base field failed note, s, live, h => by
      rw [Expr.visit]
      by_cases hbase : AllReady A base.exprs
      · exact .run_bind (visitExpr_run false live hbase) (.run_bind (run_return (field, failed) _)
          (finish_halfway rfl (by simpa) (fun ready => h (allReady_cons.2 ⟨ready, hbase⟩))
            (Expr.completed hbase) rfl rfl))
      · refine (visitExpr_fails live hbase).bind (fun _ =>
          (stable_visitor.field _ _ _).bind fun _ => stable_finish _) fun base' fault half => ?_
        exact .bind (stable_visitor.field base' field failed)
          (rests_visitor.field base' field failed) fun
            | _, rfl => finish_later rfl half rfl
  | .assign target value note, s, live, h => by
      rw [Expr.visit]
      by_cases htarget : AllReady A target.exprs
      · refine .run_bind (visitExpr_run false live htarget) ?_
        by_cases hvalue : AllReady A value.exprs
        · exact .run_bind (visitExpr_run false (by simpa) hvalue) (finish_halfway rfl (by simpa)
            (fun ready => h (allReady_cons.2 ⟨ready, allReady_append.2 ⟨htarget, hvalue⟩⟩))
            ((Expr.completed htarget).append (Expr.completed hvalue)) rfl rfl)
        · exact (visitExpr_fails (by simpa) hvalue).bind (fun _ => stable_finish _) fun _ _ half =>
            finish_later rfl (.behind (Expr.completed htarget) half) rfl
      · refine (visitExpr_fails live htarget).bind (fun _ =>
          (stable_visitor.exprVisit _).bind fun _ => stable_finish _) fun target' fault half => ?_
        exact .bind (stable_visitor.exprVisit value) (value.visit_rests rests_visitor) fun
          | _, rfl => finish_later rfl (half.before rfl) rfl
  | .call callee args note, s, live, h => by
      rw [Expr.visit]
      by_cases hcallee : ∀ h, callee.symbol? = some h → ∃ ty, A.typeOf h = .ok ty
      · refine .run_bind (run_checkCallee live hcallee) ?_
        have completed := Completed.callee (Ident.fault?_eq_none_iff.2 hcallee)
        by_cases hargs : AllReady A (Expr.exprsOfAll args)
        · exact .run_bind (visitAll_run (by simpa) hargs) (finish_halfway rfl (by simpa)
            (fun ready => h (allReady_cons.2 ⟨ready, hargs⟩))
            (completed.append (Expr.completedAll hargs)) rfl rfl)
        · exact (visitAll_fails (by simpa) hargs).bind (fun _ => stable_finish _) fun _ _ half =>
            finish_later rfl (.behind completed half) rfl
      · refine (checkCallee_fails live hcallee).bind (fun _ => (stable_visitor.exprVisitAll _).bind
          fun _ => stable_finish _) ?_
        rintro callee fault ⟨rfl, hfault⟩
        have half : Halfway A [.callee callee] [.callee callee] fault := .here hfault rfl
        exact .bind (stable_visitor.exprVisitAll args) (Expr.visitAll_rests rests_visitor args) fun
          | _, rfl => finish_later rfl (half.before rfl) rfl
  | .unary op operand note, s, live, h => by
      rw [Expr.visit]
      by_cases hoperand : AllReady A operand.exprs
      · exact .run_bind (visitExpr_run false live hoperand) (finish_halfway rfl (by simpa)
          (fun ready => h (allReady_cons.2 ⟨ready, hoperand⟩)) (Expr.completed hoperand) rfl rfl)
      · exact (visitExpr_fails live hoperand).bind (fun _ => stable_finish _) fun _ _ half =>
          finish_later rfl half rfl
  | .binary op left right note, s, live, h => by
      rw [Expr.visit]
      by_cases hleft : AllReady A left.exprs
      · refine .run_bind (visitExpr_run false live hleft) ?_
        by_cases hright : AllReady A right.exprs
        · exact .run_bind (visitExpr_run false (by simpa) hright) (finish_halfway rfl (by simpa)
            (fun ready => h (allReady_cons.2 ⟨ready, allReady_append.2 ⟨hleft, hright⟩⟩))
            ((Expr.completed hleft).append (Expr.completed hright)) rfl rfl)
        · exact (visitExpr_fails (by simpa) hright).bind (fun _ => stable_finish _) fun _ _ half =>
            finish_later rfl (.behind (Expr.completed hleft) half) rfl
      · refine (visitExpr_fails live hleft).bind (fun _ =>
          (stable_visitor.exprVisit _).bind fun _ => stable_finish _) fun left' fault half => ?_
        exact .bind (stable_visitor.exprVisit right) (right.visit_rests rests_visitor) fun
          | _, rfl => finish_later rfl (half.before rfl) rfl

theorem visitAll_fails : ∀ {es : List Expr} {s : Run Bool}, s.halted = none →
    ¬ AllReady A (Expr.exprsOfAll es) → Fails s (Expr.visitAll (visitor A ret) es)
      fun es' fault => Halfway A (Expr.sitesOfAll es) (Expr.sitesOfAll es') fault
  | [], s, live, h => absurd (fun _ => nofun) h
  | e :: es, s, live, h => by
      rw [Expr.visitAll]
      by_cases he : AllReady A e.exprs
      · have hes : ¬ AllReady A (Expr.exprsOfAll es) := fun hes => h (allReady_append.2 ⟨he, hes⟩)
        exact .run_bind (visitExpr_run true live he) ((visitAll_fails (by simpa) hes).bind
          (fun _ => .pure _) fun _ _ half => .pure (half.behind (Expr.completed he)))
      · refine (visitExpr_fails live he).bind (fun _ =>
          (stable_visitor.exprVisitAll _).bind fun _ => .pure _) fun e' fault half => ?_
        exact .bind (stable_visitor.exprVisitAll es) (Expr.visitAll_rests rests_visitor es) fun
          | _, rfl => .pure (half.before rfl)

end

/-! ### Statements -/

/-- What comes after a condition whose parts are ready. -/
lemma fails_after_condition {β : Type} {cond : Expr} {guard : Guard} {k : Expr → Checking β}
    {P : β → Fault → Prop} (live : s.halted = none) (hcond : AllReady A cond.exprs)
    (h : ∀ t : Run Bool, t.halted = none → Fails t (k (cond.decorate A)) P) :
    Fails s (do
      let cond ← cond.visit (visitor A ret)
      (visitor A ret).onCondition guard cond
      (visitor A ret).onEnter
      k cond) P :=
  .run_bind (visitExpr_run false live hcond) (.run_bind (run_conclude (A := A) (by simpa) _ _)
    (.run_bind (run_return () _) (h _ (by simpa))))

mutual

theorem visitBlock_fails : ∀ {b : Block} {s : Run Bool}, s.halted = none → ¬ AllReady A b.exprs →
    Fails s (b.visit (visitor A ret)) fun b' fault => Halfway A (b.sites ret) (b'.sites ret) fault
  | .mk decls stmts, s, live, h => by
      have hdecls : decls.mapM (visitor A ret).onLocal = pure decls :=
        (List.mapM_pure (f := id)).trans (congrArg pure (List.map_id decls))
      rw [Block.visit, hdecls]
      exact .run_bind (run_return decls s) ((visitStmts_fails live h).bind (fun _ => .pure _)
        fun _ _ half => .pure half)

theorem visitStmt_fails : ∀ {st : Stmt} {s : Run Bool}, s.halted = none → ¬ AllReady A st.exprs →
    Fails s (st.visit (visitor A ret)) fun st' fault =>
      Halfway A (st.sites ret) (st'.sites ret) fault
  | .simple verb e, s, live, h => by
      rw [Stmt.visit]
      refine (visitExpr_fails live h).bind (fun _ => (stable_conclude _ _).bind fun _ => .pure _)
        fun e' fault half => ?_
      exact .after (stable_conclude _ _) fun _ => .pure (half.before rfl)
  | .guarded guard cond body, s, live, h => by
      have stable : ∀ cond', (do
          let body ← body.visit (visitor A ret)
          (visitor A ret).onLeave
          return .guarded guard cond' body : Checking Stmt).Stable := fun _ =>
        (stable_visitor.blockVisit _).bind fun _ => stable_visitor.leave.bind fun _ => .pure _
      rw [Stmt.visit]
      by_cases hcond : AllReady A cond.exprs
      · have hbody : ¬ AllReady A body.exprs := fun hbody => h (allReady_append.2 ⟨hcond, hbody⟩)
        refine fails_after_condition live hcond fun t live => (visitBlock_fails live hbody).bind
          (fun _ => stable_visitor.leave.bind fun _ => .pure _) fun body' fault half => ?_
        exact .after stable_visitor.leave fun _ =>
          .pure (.behind (Expr.completed hcond) (.behind (.condition guard cond _) half))
      · refine (visitExpr_fails live hcond).bind (fun _ => (stable_conclude _ _).bind fun _ =>
          stable_visitor.enter.bind fun _ => stable _) fun cond' fault half => ?_
        exact .after (stable_conclude _ _) fun _ =>
          rests_visitor.enclosed (body.visit_rests rests_visitor) (.pure (half.before rfl))
  | .ifElse cond yes no, s, live, h => by
      have stableNo : ∀ cond' yes', (do
          (visitor A ret).onLeave
          (visitor A ret).onEnter
          let no ← no.visit (visitor A ret)
          (visitor A ret).onLeave
          return .ifElse cond' yes' no : Checking Stmt).Stable := fun _ _ =>
        stable_visitor.leave.bind fun _ => stable_visitor.enter.bind fun _ =>
          (stable_visitor.blockVisit _).bind fun _ => stable_visitor.leave.bind fun _ => .pure _
      rw [Stmt.visit]
      by_cases hcond : AllReady A cond.exprs
      · refine fails_after_condition live hcond fun t live => ?_
        by_cases hyes : AllReady A yes.exprs
        · have hno : ¬ AllReady A no.exprs := fun hno =>
            h (allReady_append.2 ⟨allReady_append.2 ⟨hcond, hyes⟩, hno⟩)
          refine .run_bind (visitBlock_run live hyes) (.run_bind (run_return () _) (.run_bind
            (run_return () _) ((visitBlock_fails (by simpa) hno).bind
              (fun _ => stable_visitor.leave.bind fun _ => .pure _) fun no' fault half => ?_)))
          exact .after stable_visitor.leave fun _ => .pure (.behind (Expr.completed hcond)
            (.behind (.condition .branch cond _) (.behind (Block.completed ret hyes) half)))
        · refine (visitBlock_fails live hyes).bind (fun _ => stableNo _ _) fun yes' fault half => ?_
          exact .after stable_visitor.leave fun _ =>
            rests_visitor.enclosed (no.visit_rests rests_visitor) (.pure
              (.behind (Expr.completed hcond) (.behind (.condition .branch cond _)
                (half.before rfl))))
      · refine (visitExpr_fails live hcond).bind (fun _ => (stable_conclude _ _).bind fun _ =>
          stable_visitor.enter.bind fun _ => (stable_visitor.blockVisit _).bind fun _ =>
            stableNo _ _) fun cond' fault half => ?_
        exact .after (stable_conclude _ _) fun _ =>
          rests_visitor.enclosed (yes.visit_rests rests_visitor)
            (rests_visitor.enclosed (no.visit_rests rests_visitor) (.pure (half.before rfl)))
  | .ret none loc, s, live, h => absurd (fun _ => nofun) h
  | .ret (some value) loc, s, live, h => by
      rw [Stmt.visit]
      refine (visitExpr_fails live h).bind (fun _ => (stable_conclude _ _).bind fun _ => .pure _)
        fun value' fault half => ?_
      exact .after (stable_conclude _ _) fun _ => .pure (half.before rfl)

theorem visitStmts_fails : ∀ {ss : List Stmt} {s : Run Bool}, s.halted = none →
    ¬ AllReady A (Stmt.exprsOfAll ss) → Fails s (Stmt.visitAll (visitor A ret) ss)
      fun ss' fault => Halfway A (Stmt.sitesOfAll ret ss) (Stmt.sitesOfAll ret ss') fault
  | [], s, live, h => absurd (fun _ => nofun) h
  | st :: ss, s, live, h => by
      rw [Stmt.visitAll]
      by_cases hst : AllReady A st.exprs
      · have hss : ¬ AllReady A (Stmt.exprsOfAll ss) := fun hss => h (allReady_append.2 ⟨hst, hss⟩)
        exact .run_bind (visitStmt_run live hst) ((visitStmts_fails (by simpa) hss).bind
          (fun _ => .pure _) fun _ _ half => .pure (half.behind (Stmt.completed ret hst)))
      · refine (visitStmt_fails live hst).bind (fun _ => (stable_visitor.stmtVisitAll _).bind
          fun _ => .pure _) fun st' fault half => ?_
        exact .bind (stable_visitor.stmtVisitAll ss) (Stmt.visitAll_rests rests_visitor ss) fun
          | _, rfl => .pure (half.before rfl)

end

/-! ### Declarations -/

lemma checkDecl_fails {d : Decl} (live : s.halted = none) (h : ¬ AllReady A d.exprs) :
    Fails s (checkDecl A d) fun d' fault => Halfway A d.sites d'.sites fault := by
  cases d with
  | fn f => exact (visitBlock_fails live h).bind (fun _ => .pure _) fun _ _ half => .pure half
  | _ => exact absurd (fun _ => nofun) h

lemma checkDecls_fails {ds : List Decl} (live : s.halted = none)
    (h : ¬ AllReady A (ds.flatMap Decl.exprs)) : Fails s (ds.mapM (checkDecl A)) fun ds' fault =>
      Halfway A (ds.flatMap Decl.sites) (ds'.flatMap Decl.sites) fault := by
  induction ds generalizing s with
  | nil => exact absurd (fun _ => nofun) h
  | cons d ds ih =>
      rw [List.mapM_cons]
      by_cases hd : AllReady A d.exprs
      · have hds : ¬ AllReady A (ds.flatMap Decl.exprs) := fun hds =>
          h (allReady_append.2 ⟨hd, hds⟩)
        exact .run_bind (run_checkDecl live hd) ((ih (by simpa) hds).bind (fun _ => .pure _)
          fun _ _ half => .pure (half.behind (Decl.completed hd)))
      · refine (checkDecl_fails live hd).bind (fun _ => (Stable.mapM stable_checkDecl ds).bind
          fun _ => .pure _) fun d' fault half => ?_
        exact .bind (.mapM stable_checkDecl ds) (.mapM stable_checkDecl rests_checkDecl ds) fun
          | _, rfl => .pure (half.before rfl)

end Checking

/-! ## Programs -/

/-- The expressions that come before the first fault, in the order of evaluation. -/
def Program.beforeFault (A : Arena) (p : Program) : List Expr :=
  judgedAt (p.sites.takeWhile fun site => (site.fault? A).isNone)

open Pass Checking in
lemma checkProgram_fails {p : Program} (h : ¬ AllReady A p.exprs) (s : Run Bool) :
    Fails s (checkProgram A p) fun q fault => Halfway A p.sites q.sites fault := by
  have live : (s.restart true).halted = none := rfl
  unfold checkProgram
  refine .run_bind (run_modify _ s) (.run_bind (run_note live rfl)
    ((checkDecls_fails (by simp) h).bind (fun _ => Stable.get.bind fun _ =>
      (Stable.note _).bind fun _ => .pure _) fun ds' fault half => ?_))
  exact .after .get fun _ => .after (.note _) fun _ => .pure half

lemma Program.allReady_iff {p : Program} : AllReady A p.exprs ↔ (∀ e ∈ p.exprs, e.ty? = none) ∧
    ∀ id ∈ p.uses, ∀ h, id.symbol? = some h → ∃ ty, A.typeOf h = .ok ty := by
  constructor
  · intro h
    refine ⟨fun e he => (h e he).empty, fun id hid => ?_⟩
    obtain ⟨e, he, hident⟩ := List.mem_filterMap.1 hid
    exact (h e he).known id hident
  · rintro ⟨hempty, hknown⟩ e he
    exact ⟨hempty e he, fun id hident => hknown id (List.mem_filterMap.2 ⟨e, he, hident⟩)⟩

lemma Program.completed {p : Program} (h : AllReady A p.exprs) :
    Completed A p.sites (p.decorate A).sites := by
  refine ⟨Program.clear_iff.2 h, ?_⟩
  unfold decorate sites
  induction p.decls with
  | nil => rfl
  | cons d ds ih =>
      rw [List.map_cons, List.flatMap_cons, List.flatMap_cons, judgedAt_append, judgedAt_append,
        List.map_append, d.judgedAt_decorate, ih]

/-- The points of a tree and those of the tree that is left, whether or not a fault is met. -/
def LeftAt (A : Arena) (sites sites' : List Site) (fault? : Option Fault) : Prop :=
  match fault? with
  | none => Completed A sites sites'
  | some fault => Halfway A sites sites' fault

open Checking in
lemma checkProgram_leftAt (A : Arena) (p : Program) (s : Run Bool) :
    LeftAt A p.sites ((checkProgram A p).run s).1.sites ((checkProgram A p).run s).2.halted := by
  by_cases hready : AllReady A p.exprs
  · obtain ⟨_, _, -, -, hrun⟩ := checkProgram_run hready s
    rw [hrun, Run.halted_withWork, Run.halted_after, Run.halted_restart]
    exact Program.completed hready
  · obtain ⟨fault, hhalted, half⟩ := checkProgram_fails hready s
    rw [hhalted]
    exact half

namespace LeftAt

variable {sites sites' : List Site} {fault? : Option Fault}

/-- It is the first fault that is met. -/
lemma first (h : LeftAt A sites sites' fault?) : fault? = sites.findSome? (Site.fault? A) := by
  cases fault? with
  | none => exact (Completed.clear h).findSome?.symm
  | some fault =>
      cases h with
      | mk completed first untouched =>
          rw [List.findSome?_append, completed.clear.findSome?, Option.none_or,
            List.findSome?_cons_of_isSome (by rw [first]; rfl), first]

/-- The expressions before the fault have their types, and the slots of the others are as they
were. -/
lemma types (h : LeftAt A sites sites' fault?) :
    ∃ rest, judgedAt sites' = (judgedAt (sites.takeWhile fun site =>
        (site.fault? A).isNone)).map (·.decorate A) ++ rest ∧
      ∃ later, judgedAt sites = judgedAt (sites.takeWhile fun site =>
        (site.fault? A).isNone) ++ later ∧ rest.map Expr.ty? = later.map Expr.ty? := by
  cases fault? with
  | none =>
      have hall := (Completed.clear h).takeWhile []
      rw [List.append_nil, List.takeWhile_nil, List.append_nil] at hall
      rw [hall]
      exact ⟨[], (Completed.types h).trans (List.append_nil _).symm, [], (List.append_nil _).symm,
        rfl⟩
  | some fault =>
      cases h with
      | @mk before before' after after' site _ completed first untouched =>
          have hfirst : (site.fault? A).isNone = false := by
            rw [first]
            rfl
          rw [completed.clear.takeWhile, List.takeWhile_cons_of_neg (by simp [hfirst]),
            List.append_nil, judgedAt_append, judgedAt_append, completed.types]
          exact ⟨_, rfl, _, rfl, untouched⟩

end LeftAt

/-- All parts of an expression with its type have theirs. -/
lemma Expr.typed_parts (e : Expr) : ∀ x ∈ (e.decorate A).exprs, x.ty?.isSome = true := by
  intro x hx
  rw [Expr.exprs_decorate] at hx
  obtain ⟨part, -, rfl⟩ := List.mem_map.1 hx
  obtain ⟨ty, hty⟩ := part.ty?_decorate A
  rw [hty]
  rfl

/-- **When type checking fails, and what it leaves.**  Whatever the symbols, the slots of the
program and the run before, type checking comes to its end exactly if every type slot is empty and
every identifier that is used is bound to nothing or to a symbol with a type, and then every type
slot is filled.  Otherwise it meets the fault of the first point of the program that has one.  In
the order of evaluation, the expressions before the fault get their types, and the slots of all
others are as they were; so where a slot was filled, it was filled in the whole expression.  That
order leaves out no expression. -/
theorem checkProgram_stops (A : Arena) (p : Program) (s : Run Bool) :
    let q := ((checkProgram A p).run s).1
    let halted := ((checkProgram A p).run s).2.halted
    let n := (p.beforeFault A).length
    (halted = none ↔ (∀ e ∈ p.exprs, e.ty? = none) ∧
      ∀ id ∈ p.uses, ∀ h, id.symbol? = some h → ∃ ty, A.typeOf h = .ok ty) ∧
    (halted = none → ∀ e ∈ q.exprs, e.ty?.isSome = true) ∧
    halted = p.sites.findSome? (Site.fault? A) ∧
    ((judgedAt p.sites).Perm p.exprs ∧ (judgedAt q.sites).Perm q.exprs) ∧
    (∀ e ∈ p.beforeFault A, e.ty? = none) ∧
    (judgedAt p.sites).take n = p.beforeFault A ∧
    (judgedAt q.sites).take n = (p.beforeFault A).map (·.decorate A) ∧
    ((judgedAt q.sites).drop n).map Expr.ty? = ((judgedAt p.sites).drop n).map Expr.ty? ∧
    ∀ (i : Nat) (e e' : Expr), (judgedAt p.sites)[i]? = some e → (judgedAt q.sites)[i]? = some e' →
      e.ty? = none → e'.ty?.isSome = true → ∀ x ∈ e'.exprs, x.ty?.isSome = true := by
  intro q halted n
  have hleft := checkProgram_leftAt A p s
  obtain ⟨rest, hq, later, hp, hsame⟩ := hleft.types
  have hlen : n = ((p.beforeFault A).map (·.decorate A)).length := (List.length_map _).symm
  have hqtake : (judgedAt q.sites).take n = (p.beforeFault A).map (·.decorate A) := by
    rw [hlen]
    exact hq ▸ List.take_left
  have hqdrop : (judgedAt q.sites).drop n = rest := by
    rw [hlen]
    exact hq ▸ List.drop_left
  have hptake : (judgedAt p.sites).take n = p.beforeFault A := hp ▸ List.take_left
  have hpdrop : (judgedAt p.sites).drop n = later := hp ▸ List.drop_left
  have hends : halted = none ↔ AllReady A p.exprs := checkProgram_goes_on_iff
  refine ⟨hends.trans Program.allReady_iff, fun hnone e he => ?_, hleft.first,
    ⟨p.judgedAt_perm, q.judgedAt_perm⟩, fun e he => ?_, hptake, hqtake, ?_,
    fun i e e' hi hi' hempty hfilled => ?_⟩
  · obtain ⟨_, _, -, -, hrun⟩ := checkProgram_run (hends.1 hnone) s
    have htree : q = p.decorate A := congrArg Prod.fst hrun
    rw [htree, Program.exprs_decorate] at he
    obtain ⟨x, -, rfl⟩ := List.mem_map.1 he
    exact x.typed_parts _ (Expr.mem_exprs_self _)
  · obtain ⟨site, hsite, hexpr⟩ := List.mem_filterMap.1 he
    have hclear := List.mem_takeWhile_imp hsite
    cases site with
    | expr x =>
        obtain rfl := Option.some.inj hexpr
        exact (Expr.fault?_eq_none_iff.1 (Option.isNone_iff_eq_none.1 hclear)).empty
    | _ => cases hexpr
  · rw [hqdrop, hpdrop, hsame]
  · rcases Nat.lt_or_ge i n with hlt | hge
    · rw [← List.getElem?_take_of_lt hlt, hqtake, List.getElem?_map] at hi'
      obtain ⟨x, -, rfl⟩ := Option.map_eq_some_iff.1 hi'
      exact x.typed_parts
    · -- an expression that was not reached has the slot that it had
      have hi₁ : later[i - n]? = some e := by
        rw [← hpdrop, List.getElem?_drop, Nat.add_sub_cancel' hge, hi]
      have hi₂ : rest[i - n]? = some e' := by
        rw [← hqdrop, List.getElem?_drop, Nat.add_sub_cancel' hge, hi']
      have hty := congrArg (·[i - n]?) hsame
      simp only [List.getElem?_map, hi₁, hi₂, Option.map_some, Option.some.injEq] at hty
      rw [hty, hempty] at hfilled
      cases hfilled

/-- A function that writes the sum of `a`, which is not bound, and of `b`, which is bound to a
handle of some other arena. -/
def danglingOperand : Program where
  decls := [.fn
    { ret := .void
      id := .unbound "f" .nowhere
      formals := []
      body := .mk []
        [.simple .write (.applyBinary .add (.use (.unbound "a" .nowhere))
          (.use { name := "b", loc := .nowhere, binding := ⟨some ⟨7⟩⟩ }))] }]

/-- Type checking stops at `b`; by then `a` has its type, and `b` and the sum get none. -/
theorem danglingOperand_stops :
    let done := (checkProgram {} danglingOperand).run { work := true, sink := {} }
    done.2.halted = some (.dangling ⟨7⟩) ∧
      (judgedAt done.1.sites).map Expr.ty? = [some .error, none, none] := by
  intro done
  obtain ⟨-, -, hhalted, -⟩ := checkProgram_stops {} danglingOperand { work := true, sink := {} }
  exact ⟨hhalted, rfl⟩

end StructLang
