import Mathlib.Tactic.Common
import StructLang.Proofs.Analysis
import StructLang.Proofs.Transport

/-!
# Type checking of relabeled trees

Type checking reads types and compares struct types by their names.  A relabeled tree gets relabeled
types, provided that the arena it is checked against has the symbols of before under their new
handles (`Relabeling.Maps`); what is wrong in it is the same as before, at the new places.

Only handles with a type behind them can be followed, so the statements are about trees in which all
expressions are known (`AllKnown`).  Every tree that is ready for type checking is of this kind, and
stays so while types are put into it.
-/

namespace StructLang

variable {T : Relabeling} {A B : Arena}

/-! ## Rules -/

section

variable (a b : Ty)

@[simp] lemma Ty.isError_relabel : (a.relabel T).isError = a.isError := by cases a <;> rfl

@[simp] lemma Ty.isInt_relabel : (a.relabel T).isInt = a.isInt := by cases a <;> rfl

@[simp] lemma Ty.isBool_relabel : (a.relabel T).isBool = a.isBool := by cases a <;> rfl

@[simp] lemma Ty.isVoid_relabel : (a.relabel T).isVoid = a.isVoid := by cases a <;> rfl

@[simp] lemma Ty.isFn_relabel : (a.relabel T).isFn = a.isFn := by cases a <;> rfl

@[simp] lemma Ty.isStruct_relabel : (a.relabel T).isStruct = a.isStruct := by cases a <;> rfl

@[simp] lemma Ty.isStructDef_relabel : (a.relabel T).isStructDef = a.isStructDef := by
  cases a <;> rfl

@[simp] lemma Ty.sameScalar_relabel : (a.relabel T).sameScalar (b.relabel T) = a.sameScalar b := by
  simp [sameScalar]

lemma beq_relabel (name other : String) : (T.name name == T.name other) = (name == other) := by
  rw [Bool.eq_iff_iff, beq_iff_eq, beq_iff_eq, T.injective.eq_iff]

mutual

/-- Different names stay different, so nothing new agrees. -/
theorem Ty.agrees_relabel : ∀ a b : Ty, (a.relabel T).agrees (b.relabel T) = a.agrees b
  | .struct _, .struct _ | .structDef _, .structDef _ => beq_relabel _ _
  | .fn ps r, .fn qs s => congrArg₂ and (Ty.agreesAll_relabel ps qs) (r.agrees_relabel s)
  | .int, b | .bool, b | .void, b | .string, b => by cases b <;> rfl
  | .error, b => rfl
  | .struct _, .int | .struct _, .bool | .struct _, .void | .struct _, .string
  | .struct _, .structDef _ | .struct _, .fn _ _ | .struct _, .error => rfl
  | .structDef _, .int | .structDef _, .bool | .structDef _, .void | .structDef _, .string
  | .structDef _, .struct _ | .structDef _, .fn _ _ | .structDef _, .error => rfl
  | .fn _ _, .int | .fn _ _, .bool | .fn _ _, .void | .fn _ _, .string
  | .fn _ _, .struct _ | .fn _ _, .structDef _ | .fn _ _, .error => rfl

theorem Ty.agreesAll_relabel : ∀ ps qs : List Ty,
    Ty.agreesAll (Ty.relabelAll T ps) (Ty.relabelAll T qs) = Ty.agreesAll ps qs
  | [], [] | [], _ :: _ | _ :: _, [] => rfl
  | p :: ps, q :: qs => congrArg₂ and (p.agrees_relabel q) (Ty.agreesAll_relabel ps qs)

end

lemma OperandRule.judge_relabel (rule : OperandRule)
    (h : rule.wants (a.relabel T) = rule.wants a) : rule.judge (a.relabel T) = rule.judge a := by
  simp only [judge, Ty.isError_relabel, h]

lemma UnaryOp.judge_relabel (op : UnaryOp) : op.rule.judge (a.relabel T) = op.rule.judge a := by
  cases op with
  | neg => exact OperandRule.judge_relabel a _ a.isInt_relabel
  | not => exact OperandRule.judge_relabel a _ a.isBool_relabel

lemma Guard.judge_relabel (guard : Guard) :
    guard.rule.judge (a.relabel T) = guard.rule.judge a := by
  cases guard <;> exact OperandRule.judge_relabel a _ a.isBool_relabel

lemma Family.judge_relabel {family : Family} {rule : OperandRule} (h : family.rule? = some rule) :
    rule.judge (a.relabel T) = rule.judge a := by
  cases family with
  | arithmetic | relational =>
      obtain rfl := Option.some.inj h
      exact OperandRule.judge_relabel a _ a.isInt_relabel
  | logical =>
      obtain rfl := Option.some.inj h
      exact OperandRule.judge_relabel a _ a.isBool_relabel
  | equality => cases h

lemma assignRule_relabel : assignRule (a.relabel T) (b.relabel T) = assignRule a b := by
  simp [assignRule]

lemma equalityRule_relabel : equalityRule (a.relabel T) (b.relabel T) = equalityRule a b := by
  simp [equalityRule]

lemma argRule_relabel : argRule (a.relabel T) (b.relabel T) = argRule a b := by
  simp [argRule]

lemma calleeRule_relabel : calleeRule (a.relabel T) = calleeRule a := by
  cases a <;> rfl

lemma Verb.judge_relabel (verb : Verb) : verb.judge (a.relabel T) = verb.judge a := by
  cases verb with
  | assign | call => simp only [judge, Ty.isError_relabel]
  | increment | decrement => exact OperandRule.judge_relabel a _ a.isInt_relabel
  | read | write => cases a <;> rfl

lemma returnRule_relabel (ret : Ty) (value : Option Ty) :
    returnRule (ret.relabel T) (value.map (·.relabel T)) = returnRule ret value := by
  cases value with
  | none => simp [returnRule]
  | some ty => simp [returnRule, Ty.agrees_relabel]

end

lemma TypeName.returned_relabel (ty : TypeName) :
    (ty.relabel T).returned = ty.returned.relabel T := by
  cases ty with
  | struct name =>
      have hfilled : (name.relabel T).binding.isFilled = name.binding.isFilled :=
        Option.isSome_map
      simp only [relabel, returned, hfilled]
      split <;> rfl
  | _ => rfl

lemma Verdict.grant_relabel (v : Verdict) (ty : Ty) :
    v.grant (ty.relabel T) = (v.grant ty).relabel T := by
  unfold grant
  split <;> rfl

lemma Verdict.findings_relabel (v : Verdict) (loc : Location) :
    v.findings (loc.relabel T) = (v.findings loc).map (·.relabel T) := by
  cases v <;> rfl

/-! ## Expressions -/

/-- The identifier is bound to nothing or to a symbol that has a type. -/
def Expr.Known (A : Arena) (e : Expr) : Prop :=
  ∀ id, e.ident? = some id → ∀ h, id.symbol? = some h → ∃ ty, A.typeOf h = .ok ty

/-- All expressions of the list are known. -/
def AllKnown (A : Arena) (es : List Expr) : Prop := ∀ e ∈ es, e.Known A

lemma AllKnown.mono {es fs : List Expr} (h : AllKnown A es) (hsub : ∀ e ∈ fs, e ∈ es) :
    AllKnown A fs := fun e he => h e (hsub e he)

lemma AllReady.known {es : List Expr} (h : AllReady A es) : AllKnown A es :=
  fun e he => (h e he).known

lemma AllKnown.decorate {es : List Expr} (h : AllKnown A es) :
    AllKnown A (es.map (·.decorate A)) := by
  intro e he id hid
  obtain ⟨x, hx, rfl⟩ := List.mem_map.1 he
  exact h x hx id ((Expr.ident?_decorate A x).symm.trans hid)

namespace Expr

@[simp] lemma loc_relabel (e : Expr) : (e.relabel T).loc = e.loc.relabel T := by
  cases e <;> rfl

lemma ty_relabel (e : Expr) : (e.relabel T).ty = e.ty.relabel T := by
  have hty : (e.relabel T).ty? = e.ty?.map (·.relabel T) := by cases e <;> rfl
  rw [ty, ty, hty]
  cases e.ty? <;> rfl

lemma relabelAll_eq_map (es : List Expr) : Expr.relabelAll T es = es.map (·.relabel T) := by
  induction es with
  | nil => rfl
  | cons e es ih => rw [relabelAll, ih, List.map_cons]

lemma withNote_relabel (e : Expr) (note : Note) :
    (e.withNote note).relabel T = (e.relabel T).withNote (note.relabel T) := by
  cases e <;> rfl

lemma note_relabel (e : Expr) : (e.relabel T).note = e.note.relabel T := by
  cases e <;> rfl

end Expr

lemma Ident.typeIn_relabel (hm : T.Maps A B) {id : Ident}
    (known : ∀ h, id.symbol? = some h → ∃ ty, A.typeOf h = .ok ty) :
    (id.relabel T).typeIn B = (id.typeIn A).relabel T := by
  unfold typeIn tyIn
  rw [Ident.symbol?_relabel]
  cases hsymbol : id.symbol? with
  | none => rfl
  | some h =>
      obtain ⟨ty, hty⟩ := known h hsymbol
      simp only [Option.map_some, hty, hm.typeOf hty]

lemma argFindings_relabel (args : List Expr) (params : List Ty) :
    argFindings (Expr.relabelAll T args) (Ty.relabelAll T params) =
      (argFindings args params).map (·.relabel T) := by
  rw [Expr.relabelAll_eq_map, Ty.relabelAll_eq_map, argFindings, argFindings, List.zip_map,
    List.flatMap_map, List.map_flatMap]
  refine congrArg (List.flatMap · _) (funext fun ⟨arg, formal⟩ => ?_)
  show (argRule (arg.relabel T).ty (formal.relabel T)).findings (arg.relabel T).loc = _
  rw [Expr.ty_relabel, argRule_relabel, Expr.loc_relabel, Verdict.findings_relabel]

/-- A type and findings, relabeled. -/
def relabelJudged (T : Relabeling) (r : Ty × List Finding) : Ty × List Finding :=
  (r.1.relabel T, r.2.map (·.relabel T))

lemma judgeCall_relabel (callee : Ident) (ty : Ty) (args : List Expr) :
    judgeCall (callee.relabel T) (ty.relabel T) (Expr.relabelAll T args) =
      relabelJudged T (judgeCall callee ty args) := by
  cases ty with
  | fn params ret =>
      have hlength : (Expr.relabelAll T args).length = (Ty.relabelAll T params).length ↔
          args.length = params.length := by
        rw [Expr.relabelAll_eq_map, Ty.relabelAll_eq_map, List.length_map, List.length_map]
      simp only [judgeCall, Ty.relabel, relabelJudged, hlength, argFindings_relabel]
      split <;> rfl
  | _ => rfl

lemma judgeBinary_relabel (op : BinaryOp) (left right : Expr) :
    judgeBinary op (left.relabel T) (right.relabel T) =
      relabelJudged T (judgeBinary op left right) := by
  unfold judgeBinary relabelJudged
  cases hrule : op.family.rule? with
  | none =>
      simp only [Expr.ty_relabel, equalityRule_relabel, Expr.loc_relabel,
        Verdict.findings_relabel, ← Verdict.grant_relabel]
      rfl
  | some rule =>
      have hresult : rule.result.relabel T = rule.result := by
        cases hfamily : op.family <;> rw [hfamily] at hrule <;> cases hrule <;> rfl
      simp only [Expr.ty_relabel, Family.judge_relabel _ hrule, Expr.loc_relabel,
        Verdict.findings_relabel, List.map_append, Prod.mk.injEq, and_true]
      split
      · exact hresult.symm
      · rfl

/-- An expression whose parts have relabeled types gets a relabeled type, and the same is wrong
with it. -/
lemma Expr.judged_relabel (hm : T.Maps A B) {e : Expr} (known : e.Known A) :
    (e.relabel T).judged B = relabelJudged T (e.judged A) := by
  cases e with
  | lit value note => cases value <;> rfl
  | name id note =>
      rw [relabel, judged_name, judged_name, Ident.typeIn_relabel hm (known id rfl)]
      rfl
  | dot base field failed note =>
      rw [relabel, judged_dot, judged_dot, Ident.typeIn_relabel hm (known field rfl)]
      rfl
  | assign target value note =>
      show ((assignRule (target.relabel T).ty (value.relabel T).ty).grant (target.relabel T).ty,
        (assignRule (target.relabel T).ty (value.relabel T).ty).findings (target.relabel T).loc) = _
      rw [ty_relabel, ty_relabel, assignRule_relabel, Verdict.grant_relabel, loc_relabel,
        Verdict.findings_relabel]
      rfl
  | call callee args note =>
      rw [relabel, judged_call, judged_call, Ident.typeIn_relabel hm (known callee rfl),
        judgeCall_relabel]
  | unary op operand note =>
      have hresult : op.rule.result.relabel T = op.rule.result := by cases op <;> rfl
      show ((op.rule.judge (operand.relabel T).ty).grant op.rule.result,
        (op.rule.judge (operand.relabel T).ty).findings (operand.relabel T).loc) = _
      rw [ty_relabel, UnaryOp.judge_relabel, loc_relabel, Verdict.findings_relabel]
      refine congrArg (·, _) (Eq.trans ?_ (Verdict.grant_relabel _ _))
      rw [hresult]
  | binary op left right note => exact judgeBinary_relabel op left right

lemma Expr.settled_relabel (hm : T.Maps A B) {e : Expr} (known : e.Known A) :
    (e.relabel T).settled B = (e.settled A).relabel T := by
  rw [settled, settled, withNote_relabel, note_relabel, judged_relabel hm known]
  rfl

mutual

theorem Expr.decorate_relabel (hm : T.Maps A B) : ∀ {e : Expr}, AllKnown A e.exprs →
    (e.relabel T).decorate B = (e.decorate A).relabel T
  | .lit _ _, h | .name _ _, h => Expr.settled_relabel hm (h _ List.mem_cons_self)
  | .dot base field failed note, h => by
      have hbase := base.decorate_relabel hm (h.mono fun _ he => List.mem_cons_of_mem _ he)
      have hknown : (Expr.dot (base.decorate A) field failed note).Known A :=
        h (.dot base field failed note) List.mem_cons_self
      rw [decorate, ← settled_relabel hm hknown, relabel, relabel, decorate, hbase]
  | .assign target value note, h => by
      have htarget := target.decorate_relabel hm (h.mono fun _ he => by simp [exprs, he])
      have hvalue := value.decorate_relabel hm (h.mono fun _ he => by simp [exprs, he])
      have hknown : (Expr.assign (target.decorate A) (value.decorate A) note).Known A := nofun
      rw [decorate, ← settled_relabel hm hknown, relabel, relabel, decorate, htarget, hvalue]
  | .call callee args note, h => by
      have hargs : Expr.decorateAll B (Expr.relabelAll T args) = _ :=
        Expr.decorateAll_relabel hm (h.mono fun _ he => by simp [exprs, he])
      have hknown : (Expr.call callee (Expr.decorateAll A args) note).Known A :=
        h (.call callee args note) List.mem_cons_self
      rw [decorate, ← settled_relabel hm hknown, relabel, relabel, decorate, hargs]
  | .unary op operand note, h => by
      have hoperand := operand.decorate_relabel hm (h.mono fun _ he => by simp [exprs, he])
      have hknown : (Expr.unary op (operand.decorate A) note).Known A := nofun
      rw [decorate, ← settled_relabel hm hknown, relabel, relabel, decorate, hoperand]
  | .binary op left right note, h => by
      have hleft := left.decorate_relabel hm (h.mono fun _ he => by simp [exprs, he])
      have hright := right.decorate_relabel hm (h.mono fun _ he => by simp [exprs, he])
      have hknown : (Expr.binary op (left.decorate A) (right.decorate A) note).Known A := nofun
      rw [decorate, ← settled_relabel hm hknown, relabel, relabel, decorate, hleft, hright]

theorem Expr.decorateAll_relabel (hm : T.Maps A B) : ∀ {es : List Expr},
    AllKnown A (Expr.exprsOfAll es) →
      Expr.decorateAll B (Expr.relabelAll T es) = Expr.relabelAll T (Expr.decorateAll A es)
  | [], _ => rfl
  | e :: _, h =>
      congrArg₂ List.cons (e.decorate_relabel hm (h.mono fun _ he => List.mem_append_left _ he))
        (Expr.decorateAll_relabel hm (h.mono fun _ he => List.mem_append_right _ he))

end

/-- The same complaint at another place. -/
def Complaint.relabel (T : Relabeling) (c : Complaint) : Complaint where
  finding := c.finding.relabel T
  inArgument := c.inArgument

lemma blame_relabel (b : Bool) (findings : List Finding) :
    blame b (findings.map (·.relabel T)) = (blame b findings).map (·.relabel T) := by
  rw [blame, blame, List.map_map, List.map_map]
  rfl

mutual

/-- What is wrong in a decorated expression is wrong in the relabeled one, at the new places. -/
theorem Expr.complaints_relabel (hm : T.Maps A B) : ∀ {e : Expr} (b : Bool), AllKnown A e.exprs →
    (e.relabel T).complaints B b = (e.complaints A b).map (·.relabel T)
  | .lit _ _, _, _ | .name _ _, _, _ => rfl
  | .dot base _ _ _, b, h =>
      base.complaints_relabel hm b (h.mono fun _ he => List.mem_cons_of_mem _ he)
  | .assign target value note, b, h => by
      have htarget := target.complaints_relabel hm b (h.mono fun _ he => by simp [exprs, he])
      have hvalue := value.complaints_relabel hm b (h.mono fun _ he => by simp [exprs, he])
      have hself := judged_relabel hm (h (.assign target value note) List.mem_cons_self)
      rw [relabel] at hself ⊢
      rw [complaints, complaints, htarget, hvalue, hself, relabelJudged, blame_relabel,
        List.map_append, List.map_append]
  | .call callee args note, b, h => by
      have hargs : Expr.complaintsOfAll B (Expr.relabelAll T args) = _ :=
        Expr.complaintsOfAll_relabel hm (h.mono fun _ he => by simp [exprs, he])
      have hknown := h (.call callee args note) List.mem_cons_self
      have hself := judged_relabel hm hknown
      have hcallee : (calleeRule ((callee.relabel T).typeIn B)).findings (callee.relabel T).loc =
          ((calleeRule (callee.typeIn A)).findings callee.loc).map (·.relabel T) := by
        rw [Ident.typeIn_relabel hm (hknown callee rfl), calleeRule_relabel]
        exact Verdict.findings_relabel _ _
      rw [relabel] at hself ⊢
      rw [complaints, complaints, hcallee, hargs, hself, relabelJudged, blame_relabel,
        blame_relabel, List.map_append, List.map_append]
  | .unary op operand note, b, h => by
      have hoperand := operand.complaints_relabel hm b (h.mono fun _ he => by simp [exprs, he])
      have hself := judged_relabel hm (h (.unary op operand note) List.mem_cons_self)
      rw [relabel] at hself ⊢
      rw [complaints, complaints, hoperand, hself, relabelJudged, blame_relabel, List.map_append]
  | .binary op left right note, b, h => by
      have hleft := left.complaints_relabel hm b (h.mono fun _ he => by simp [exprs, he])
      have hright := right.complaints_relabel hm b (h.mono fun _ he => by simp [exprs, he])
      have hself := judged_relabel hm (h (.binary op left right note) List.mem_cons_self)
      rw [relabel] at hself ⊢
      rw [complaints, complaints, hleft, hright, hself, relabelJudged, blame_relabel,
        List.map_append, List.map_append]

theorem Expr.complaintsOfAll_relabel (hm : T.Maps A B) : ∀ {es : List Expr},
    AllKnown A (Expr.exprsOfAll es) → Expr.complaintsOfAll B (Expr.relabelAll T es) =
      (Expr.complaintsOfAll A es).map (·.relabel T)
  | [], _ => rfl
  | e :: es, h => by
      rw [Expr.relabelAll, Expr.complaintsOfAll, Expr.complaintsOfAll, List.map_append,
        e.complaints_relabel hm true (h.mono fun _ he => List.mem_append_left _ he),
        Expr.complaintsOfAll_relabel hm (h.mono fun _ he => List.mem_append_right _ he)]

end

/-! ## Statements -/

mutual

theorem Block.decorate_relabel (hm : T.Maps A B) : ∀ {b : Block}, AllKnown A b.exprs →
    (b.relabel T).decorate B = (b.decorate A).relabel T
  | .mk _ _, h => congrArg (Block.mk _) (Stmt.decorateAll_relabel hm h)

theorem Stmt.decorate_relabel (hm : T.Maps A B) : ∀ {s : Stmt}, AllKnown A s.exprs →
    (s.relabel T).decorate B = (s.decorate A).relabel T
  | .simple verb _, h => congrArg (Stmt.simple verb) (Expr.decorate_relabel hm h)
  | .guarded guard _ _, h =>
      congrArg₂ (Stmt.guarded guard)
        (Expr.decorate_relabel hm (h.mono fun _ he => List.mem_append_left _ he))
        (Block.decorate_relabel hm (h.mono fun _ he => List.mem_append_right _ he))
  | .ifElse cond yes no, h => by
      have hcond := cond.decorate_relabel hm (h.mono fun _ he => by simp [Stmt.exprs, he])
      have hyes := yes.decorate_relabel hm (h.mono fun _ he => by simp [Stmt.exprs, he])
      have hno := no.decorate_relabel hm (h.mono fun _ he => by simp [Stmt.exprs, he])
      rw [Stmt.relabel, Stmt.decorate, Stmt.decorate, Stmt.relabel, hcond, hyes, hno]
  | .ret none _, _ => rfl
  | .ret (some _) _, h => congrArg (fun e => Stmt.ret (some e) _) (Expr.decorate_relabel hm h)

theorem Stmt.decorateAll_relabel (hm : T.Maps A B) : ∀ {ss : List Stmt},
    AllKnown A (Stmt.exprsOfAll ss) →
      Stmt.decorateAll B (Stmt.relabelAll T ss) = Stmt.relabelAll T (Stmt.decorateAll A ss)
  | [], _ => rfl
  | s :: _, h =>
      congrArg₂ List.cons (s.decorate_relabel hm (h.mono fun _ he => List.mem_append_left _ he))
        (Stmt.decorateAll_relabel hm (h.mono fun _ he => List.mem_append_right _ he))

end

/-- The same judgement on the relabeled expression. -/
def Judgement.relabel (T : Relabeling) (j : Judgement) : Judgement where
  expr? := j.expr?.map (·.relabel T)
  loc := j.loc.relabel T
  verdict := j.verdict

mutual

theorem Block.judgements_relabel {ret : Ty} : ∀ b : Block,
    (b.relabel T).judgements (ret.relabel T) = (b.judgements ret).map (·.relabel T)
  | .mk _ stmts => Stmt.judgementsOfAll_relabel stmts

theorem Stmt.judgements_relabel {ret : Ty} : ∀ s : Stmt,
    (s.relabel T).judgements (ret.relabel T) = (s.judgements ret).map (·.relabel T)
  | .simple verb e => by
      rw [Stmt.relabel, Stmt.judgements, Expr.ty_relabel, Verb.judge_relabel, Expr.loc_relabel]
      rfl
  | .guarded guard cond body => by
      rw [Stmt.relabel, Stmt.judgements, Expr.ty_relabel, Guard.judge_relabel, Expr.loc_relabel,
        body.judgements_relabel]
      rfl
  | .ifElse cond yes no => by
      rw [Stmt.relabel, Stmt.judgements, Expr.ty_relabel, Guard.judge_relabel, Expr.loc_relabel,
        yes.judgements_relabel, no.judgements_relabel, ← List.map_append]
      rfl
  | .ret none loc => by
      have hrule := returnRule_relabel (T := T) ret none
      exact congrArg (fun v => [Judgement.mk none (loc.relabel T) v]) hrule
  | .ret (some value) _ => by
      have hrule := returnRule_relabel (T := T) ret (some value.ty)
      rw [Stmt.relabel, Stmt.judgements, Expr.ty_relabel, Expr.loc_relabel]
      exact congrArg (fun v => [Judgement.mk _ (value.loc.relabel T) v]) hrule

theorem Stmt.judgementsOfAll_relabel {ret : Ty} : ∀ ss : List Stmt,
    Stmt.judgementsOfAll (ret.relabel T) (Stmt.relabelAll T ss) =
      (Stmt.judgementsOfAll ret ss).map (·.relabel T)
  | [] => rfl
  | s :: ss => by
      rw [Stmt.relabelAll, Stmt.judgementsOfAll, Stmt.judgementsOfAll, List.map_append,
        s.judgements_relabel, Stmt.judgementsOfAll_relabel ss]

end

mutual

/-- What is judged is an expression of the block, with all its parts. -/
theorem Block.exprs_of_judgement {ret : Ty} {j : Judgement} {e : Expr} (he : j.expr? = some e) :
    ∀ {b : Block}, j ∈ b.judgements ret → e.exprs ⊆ b.exprs
  | .mk _ _, hj => Stmt.exprs_of_judgements he hj

theorem Stmt.exprs_of_judgement {ret : Ty} {j : Judgement} {e : Expr} (he : j.expr? = some e) :
    ∀ {s : Stmt}, j ∈ s.judgements ret → e.exprs ⊆ s.exprs
  | .simple _ _, hj => by
      obtain rfl := List.mem_singleton.1 hj
      obtain rfl := Option.some.inj he
      exact fun _ => id
  | .guarded _ _ body, hj => by
      rcases List.mem_cons.1 hj with rfl | hj
      · obtain rfl := Option.some.inj he
        exact List.subset_append_left _ _
      · exact fun x hx => List.mem_append_right _ (body.exprs_of_judgement he hj hx)
  | .ifElse _ yes no, hj => by
      rcases List.mem_cons.1 hj with rfl | hj
      · obtain rfl := Option.some.inj he
        exact fun x hx => List.mem_append_left _ (List.mem_append_left _ hx)
      rcases List.mem_append.1 hj with hj | hj
      · exact fun x hx => List.mem_append_left _
          (List.mem_append_right _ (yes.exprs_of_judgement he hj hx))
      · exact fun x hx => List.mem_append_right _ (no.exprs_of_judgement he hj hx)
  | .ret none _, hj => by
      obtain rfl := List.mem_singleton.1 hj
      cases he
  | .ret (some _) _, hj => by
      obtain rfl := List.mem_singleton.1 hj
      obtain rfl := Option.some.inj he
      exact fun _ => id

theorem Stmt.exprs_of_judgements {ret : Ty} {j : Judgement} {e : Expr} (he : j.expr? = some e) :
    ∀ {ss : List Stmt}, j ∈ Stmt.judgementsOfAll ret ss → e.exprs ⊆ Stmt.exprsOfAll ss
  | s :: _, hj => by
      rcases List.mem_append.1 hj with hj | hj
      · exact fun x hx => List.mem_append_left _ (s.exprs_of_judgement he hj hx)
      · exact fun x hx => List.mem_append_right _ (Stmt.exprs_of_judgements he hj hx)

end

lemma Judgement.complaints_relabel (hm : T.Maps A B) {j : Judgement}
    (known : ∀ e, j.expr? = some e → AllKnown A e.exprs) :
    (j.relabel T).complaints B = (j.complaints A).map (·.relabel T) := by
  obtain ⟨expr?, loc, verdict⟩ := j
  have hblame : blame false (verdict.findings (loc.relabel T)) =
      (blame false (verdict.findings loc)).map (·.relabel T) := by
    rw [Verdict.findings_relabel, blame_relabel]
  cases expr? with
  | none => exact hblame
  | some e =>
      have he := e.complaints_relabel hm false (known e rfl)
      simp only [complaints, relabel, Option.map_some, Option.elim_some, List.map_append, he,
        hblame]

/-! ## Declarations -/

lemma Decl.decorate_relabel (hm : T.Maps A B) {d : Decl} (h : AllKnown A d.exprs) :
    (d.relabel T).decorate B = (d.decorate A).relabel T := by
  cases d with
  | fn f =>
      exact congrArg (fun body => Decl.fn { f.relabel T with body }) (f.body.decorate_relabel hm h)
  | _ => rfl

lemma Decl.judgements_relabel (d : Decl) :
    (d.relabel T).judgements = d.judgements.map (·.relabel T) := by
  cases d with
  | fn f =>
      show (f.body.relabel T).judgements (f.ret.relabel T).returned = _
      rw [TypeName.returned_relabel, Block.judgements_relabel]
      rfl
  | _ => rfl

/-- All that is wrong in a decorated declaration. -/
def Decl.complaints (A : Arena) (d : Decl) : List Complaint :=
  d.judgements.flatMap (·.complaints A)

lemma Program.complaints_eq (A : Arena) (p : Program) :
    p.complaints A = p.decls.flatMap (·.complaints A) :=
  List.flatMap_assoc

lemma Decl.complaints_relabel (hm : T.Maps A B) {d : Decl} (h : AllKnown A d.exprs) :
    (d.relabel T).complaints B = (d.complaints A).map (·.relabel T) := by
  rw [complaints, complaints, Decl.judgements_relabel, List.flatMap_map, List.map_flatMap]
  refine List.flatMap_congr fun j hj => Judgement.complaints_relabel hm fun e he => ?_
  cases d with
  | fn f => exact h.mono (Block.exprs_of_judgement he hj)
  | _ => cases hj

lemma AllReady.known_decorate {d : Decl} (h : AllReady A d.exprs) :
    AllKnown A (d.decorate A).exprs := by
  rw [Decl.exprs_decorate]
  exact h.known.decorate

/-- **Type checking of a relabeled declaration** puts the relabeled types into it and finds the same
mistakes at the new places. -/
theorem Decl.checked_relabel (hm : T.Maps A B) {d : Decl} (h : AllReady A d.exprs) :
    (d.relabel T).decorate B = (d.decorate A).relabel T ∧
      ((d.decorate A).relabel T).complaints B =
        ((d.decorate A).complaints A).map (·.relabel T) :=
  ⟨d.decorate_relabel hm h.known, Decl.complaints_relabel hm h.known_decorate⟩

namespace Program

variable {p : Program}

lemma decorate_relabel (hm : T.Maps A B) (h : AllReady A p.exprs) :
    (p.relabel T).decorate B = (p.decorate A).relabel T := by
  have hdecls : ∀ d ∈ p.decls, (d.relabel T).decorate B = (d.decorate A).relabel T := fun d hd =>
    (Decl.checked_relabel hm (h.mono fun x hx => List.mem_flatMap.2 ⟨d, hd, hx⟩)).1
  simp only [decorate, relabel, List.map_map, Function.comp_def, List.map_congr_left hdecls]

lemma complaints_relabel (hm : T.Maps A B) (h : AllReady A p.exprs) :
    ((p.decorate A).relabel T).complaints B =
      ((p.decorate A).complaints A).map (·.relabel T) := by
  have hdecls : ∀ d ∈ p.decls, ((d.decorate A).relabel T).complaints B =
      ((d.decorate A).complaints A).map (·.relabel T) := fun d hd =>
    (Decl.checked_relabel hm (h.mono fun x hx => List.mem_flatMap.2 ⟨d, hd, hx⟩)).2
  simp only [complaints_eq, decorate, relabel, List.flatMap_map, List.map_flatMap]
  exact List.flatMap_congr hdecls

lemma judgements_relabel (p : Program) :
    (p.relabel T).judgements = p.judgements.map (·.relabel T) := by
  simp only [judgements, relabel, List.flatMap_map, List.map_flatMap, Decl.judgements_relabel]

end Program

end StructLang
