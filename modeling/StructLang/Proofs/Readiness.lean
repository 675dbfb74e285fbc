import Mathlib.Tactic.Common
import StructLang.Proofs.Checking

/-!
# When type checking comes to its end

A tree that is ready for type checking meets no fault (`checkProgram_run`), and one that is not
meets one: every expression is visited, and a slot that holds something or a handle without a symbol
stops the run there.  So whether a run comes to its end does not depend on the run it starts from:
`checkProgram_goes_on_iff`.
-/

namespace StructLang

variable {A : Arena}

lemma allReady_cons {e : Expr} {es : List Expr} :
    AllReady A (e :: es) ↔ e.Ready A ∧ AllReady A es := List.forall_mem_cons

lemma allReady_append {es fs : List Expr} :
    AllReady A (es ++ fs) ↔ AllReady A es ∧ AllReady A fs := List.forall_mem_append

lemma Ident.known_of_tyIn {id : Ident} {ty : Ty} (hty : id.tyIn A = .ok ty) :
    ∀ h, id.symbol? = some h → ∃ ty, A.typeOf h = .ok ty := by
  intro h hsymbol
  refine ⟨ty, ?_⟩
  simpa only [tyIn, hsymbol] using hty

/-- An expression can be judged only if its identifier is bound to nothing or to a symbol. -/
lemma Expr.known_of_judge {e : Expr} {r : Ty × List Finding} (hjudge : e.judge A = .ok r) :
    ∀ id, e.ident? = some id → ∀ h, id.symbol? = some h → ∃ ty, A.typeOf h = .ok ty := by
  have hbind : ∀ {id : Ident} {f : Ty → Ty × List Finding},
      (do return f (← id.tyIn A) : Except Fault _) = .ok r →
        ∀ h, id.symbol? = some h → ∃ ty, A.typeOf h = .ok ty := by
    intro id f hok
    cases hty : id.tyIn A with
    | ok ty => exact Ident.known_of_tyIn hty
    | error fault =>
        rw [hty] at hok
        cases hok
  intro id hid
  cases e with
  | name id' note =>
      obtain rfl := Option.some.inj hid
      exact hbind (f := fun ty => (ty, [])) hjudge
  | dot base field failed note =>
      obtain rfl := Option.some.inj hid
      exact hbind (f := fun ty => (ty, [])) hjudge
  | call callee args note =>
      obtain rfl := Option.some.inj hid
      exact hbind (f := fun ty => judgeCall callee ty args) hjudge
  | _ => cases hid

namespace Checking

open Pass

variable {ret : Ty}

/-! ## Stability -/

lemma stable_reportAll (findings : List Finding) : (reportAll findings).Stable := by
  unfold reportAll
  induction findings with
  | nil => exact .pure ()
  | cons finding findings ih => exact (Stable.report _ _).bind fun _ => ih

lemma stable_conclude (loc : Location) (verdict : Verdict) : (conclude loc verdict).Stable :=
  (stable_reportAll _).bind fun _ => .update _

lemma stable_settle (e : Expr) : (settle A e).Stable :=
  (Stable.require _ _).bind fun _ => (stable_reportAll _).bind fun _ =>
    (Stable.fill _ _).bind fun _ => .pure _

lemma stable_visitor : (visitor A ret).Stable where
  name _ := .pure _
  callee _ := (Stable.require _ _).bind fun _ => (stable_reportAll _).bind fun _ => .pure _
  field _ _ _ := .pure _
  expr := stable_settle
  decl _ := .pure _
  enter := .pure _
  leave := .pure _
  simple _ _ := stable_conclude _ _
  condition _ _ := stable_conclude _ _
  ret _ _ := stable_conclude _ _

lemma stable_finish (e : Expr) : ((visitor A ret).finish e).Stable :=
  (stable_settle e).bind fun _ => .pure _

lemma stable_checkDecl (d : Decl) : (checkDecl A d).Stable := by
  cases d with
  | fn f => exact (stable_visitor.blockVisit _).bind fun _ => .pure _
  | _ => exact .pure _

/-! ## Every expression is visited -/

/-- An expression is left behind only if it was ready, and so was one with the same slot and
identifier. -/
lemma needs_finish {e e' : Expr} (hty : e.ty? = e'.ty?) (hident : e.ident? = e'.ident?) :
    ((visitor A ret).finish e').Needs (e.Ready A) := by
  have hsettle : (settle A e').Needs (e'.Ready A) := by
    refine ((needs_require _ _).both (Q := e'.ty? = none) ?_ fun r => .second fun _ => ?_).mono ?_
    · exact fun _ => (stable_reportAll _).bind fun _ => (Stable.fill _ _).bind fun _ => .pure _
    · exact (needs_fill e'.note.ty r.1).first fun _ => .pure _
    · rintro ⟨⟨r, hjudge⟩, hempty⟩
      exact ⟨hempty, Expr.known_of_judge hjudge⟩
  exact (hsettle.first fun _ => .pure _).mono fun h => h.of_parts e hty hident

lemma needs_checkCallee (callee : Ident) : (checkCallee A callee).Needs
    (∀ h, callee.symbol? = some h → ∃ ty, A.typeOf h = .ok ty) :=
  ((needs_require _ _).first fun _ => (stable_reportAll _).bind fun _ => .pure _).mono
    fun ⟨_, hty⟩ => Ident.known_of_tyIn hty

mutual

theorem needs_expr : ∀ e : Expr, (e.visit (visitor A ret)).Needs (AllReady A e.exprs)
  | .lit value note =>
      (needs_finish (e := .lit value note) rfl rfl).mono fun h => allReady_cons.2 ⟨h, nofun⟩
  | .name id note => by
      rw [Expr.visit, show (visitor A ret).onName id = pure id from rfl, pure_bind]
      exact (needs_finish (e := .name id note) rfl rfl).mono fun h => allReady_cons.2 ⟨h, nofun⟩
  | .dot base field failed note => by
      rw [Expr.visit]
      refine .mono (.both (needs_expr base)
        (fun _ => (stable_visitor.field _ _ _).bind fun _ => stable_finish _) fun base' => ?_)
        fun ⟨hbase, h⟩ => allReady_cons.2 ⟨h, hbase⟩
      have hfield : (visitor A ret).onField base' field failed = pure (field, failed) := rfl
      rw [hfield, pure_bind]
      exact needs_finish rfl rfl
  | .assign target value note => by
      rw [Expr.visit]
      exact .mono (.both (needs_expr target)
        (fun _ => (stable_visitor.exprVisit _).bind fun _ => stable_finish _)
        fun _ => .both (needs_expr value) (fun _ => stable_finish _) fun _ => needs_finish rfl rfl)
        fun ⟨ht, hv, h⟩ => allReady_append.2 ⟨allReady_cons.2 ⟨h, ht⟩, hv⟩
  | .call callee args note => by
      rw [Expr.visit]
      refine .mono (.both (needs_checkCallee callee)
        (fun _ => (stable_visitor.exprVisitAll _).bind fun _ => stable_finish _)
        fun callee' => .both (Q := note.ty.content = none) (needs_args args)
          (fun _ => stable_finish _)
          fun args' => (needs_finish (e := .call callee' args' note) rfl rfl).mono (·.empty)) ?_
      rintro ⟨hcallee, hargs, hempty⟩
      refine allReady_cons.2 ⟨⟨hempty, fun id hid => ?_⟩, hargs⟩
      obtain rfl := Option.some.inj hid
      exact hcallee
  | .unary op operand note => by
      rw [Expr.visit]
      exact .mono (.both (needs_expr operand) (fun _ => stable_finish _)
        fun _ => needs_finish rfl rfl) fun ⟨ho, h⟩ => allReady_cons.2 ⟨h, ho⟩
  | .binary op left right note => by
      rw [Expr.visit]
      exact .mono (.both (needs_expr left)
        (fun _ => (stable_visitor.exprVisit _).bind fun _ => stable_finish _)
        fun _ => .both (needs_expr right) (fun _ => stable_finish _) fun _ => needs_finish rfl rfl)
        fun ⟨hl, hr, h⟩ => allReady_append.2 ⟨allReady_cons.2 ⟨h, hl⟩, hr⟩

theorem needs_args : ∀ es : List Expr,
    (Expr.visitAll (visitor A ret) es).Needs (AllReady A (Expr.exprsOfAll es))
  | [] => fun _ _ => nofun
  | e :: es => by
      rw [Expr.visitAll]
      exact .mono (.both (needs_expr e)
        (fun _ => (stable_visitor.exprVisitAll _).bind fun _ => .pure _)
        fun _ => .first (needs_args es) fun _ => .pure _) allReady_append.2

end

mutual

theorem needs_block : ∀ b : Block, (b.visit (visitor A ret)).Needs (AllReady A b.exprs)
  | .mk decls stmts => by
      rw [Block.visit]
      exact .second fun _ => .first (needs_stmts stmts) fun _ => .pure _

theorem needs_stmt : ∀ s : Stmt, (s.visit (visitor A ret)).Needs (AllReady A s.exprs)
  | .simple verb e => by
      rw [Stmt.visit]
      exact .first (needs_expr e) fun _ => (stable_conclude _ _).bind fun _ => .pure _
  | .guarded guard cond body => by
      rw [Stmt.visit]
      refine .mono (.both (needs_expr cond) (fun cond' => ?_) fun _ => .second fun _ =>
        .second fun _ => .first (needs_block body) fun _ => ?_) allReady_append.2
      · exact (stable_conclude _ _).bind fun _ => stable_visitor.enter.bind fun _ =>
          (stable_visitor.blockVisit _).bind fun _ => stable_visitor.leave.bind fun _ => .pure _
      · exact stable_visitor.leave.bind fun _ => .pure _
  | .ifElse cond yes no => by
      have hno : ∀ cond' yes', (do
          (visitor A ret).onEnter
          let no ← no.visit (visitor A ret)
          (visitor A ret).onLeave
          return .ifElse cond' yes' no : Checking Stmt).Stable := fun _ _ =>
        stable_visitor.enter.bind fun _ => (stable_visitor.blockVisit _).bind fun _ =>
          stable_visitor.leave.bind fun _ => .pure _
      rw [Stmt.visit]
      refine .mono (.both (needs_expr cond) (fun cond' => ?_) fun cond' => .second fun _ =>
        .second fun _ => .both (needs_block yes) (fun yes' => ?_) fun _ => .second fun _ =>
          .second fun _ => .first (needs_block no) fun _ => ?_) ?_
      · exact (stable_conclude _ _).bind fun _ => stable_visitor.enter.bind fun _ =>
          (stable_visitor.blockVisit _).bind fun _ => stable_visitor.leave.bind fun _ => hno _ _
      · exact stable_visitor.leave.bind fun _ => hno cond' yes'
      · exact stable_visitor.leave.bind fun _ => .pure _
      · exact fun ⟨hcond, hyes, hno⟩ =>
          allReady_append.2 ⟨allReady_append.2 ⟨hcond, hyes⟩, hno⟩
  | .ret none loc => fun _ _ => nofun
  | .ret (some value) loc => by
      rw [Stmt.visit]
      exact .first (needs_expr value) fun _ => (stable_conclude _ _).bind fun _ => .pure _

theorem needs_stmts : ∀ ss : List Stmt,
    (Stmt.visitAll (visitor A ret) ss).Needs (AllReady A (Stmt.exprsOfAll ss))
  | [] => fun _ _ => nofun
  | s :: ss => by
      rw [Stmt.visitAll]
      exact .mono (.both (needs_stmt s)
        (fun _ => (stable_visitor.stmtVisitAll _).bind fun _ => .pure _)
        fun _ => .first (needs_stmts ss) fun _ => .pure _) allReady_append.2

end

lemma needs_checkDecl (d : Decl) : (checkDecl A d).Needs (AllReady A d.exprs) := by
  cases d with
  | fn f => exact .first (needs_block f.body) fun _ => .pure _
  | _ => exact fun _ _ => nofun

lemma needs_checkDecls (ds : List Decl) :
    (ds.mapM (checkDecl A)).Needs (AllReady A (ds.flatMap Decl.exprs)) := by
  induction ds with
  | nil => exact fun _ _ => nofun
  | cons d ds ih =>
      rw [List.mapM_cons, List.flatMap_cons]
      exact .mono (.both (needs_checkDecl d)
        (fun _ => (Stable.mapM stable_checkDecl ds).bind fun _ => .pure _)
        fun _ => .first ih fun _ => .pure _) allReady_append.2

end Checking

open Pass Checking in
/-- **When type checking comes to its end.**  From whatever run, a program is checked to its end
exactly if all its expressions are ready: no type is in its slot, and no identifier is bound to a
handle without a type. -/
theorem checkProgram_goes_on_iff {p : Program} {s : Run Bool} :
    ((checkProgram A p).run s).2.halted = none ↔ AllReady A p.exprs := by
  constructor
  · refine (Needs.second fun _ => .second fun _ => .first (needs_checkDecls p.decls) fun _ => ?_) s
    exact Stable.get.bind fun _ => (Stable.note _).bind fun _ => .pure _
  · intro h
    obtain ⟨before, after, -, -, hrun⟩ := checkProgram_run h s
    rw [hrun, Run.halted_withWork, Run.halted_after, Run.halted_restart]

end StructLang
