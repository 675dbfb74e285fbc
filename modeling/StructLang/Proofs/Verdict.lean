import Mathlib.Tactic.Common
import StructLang.Proofs.Analysis
import StructLang.Proofs.Functions
import StructLang.Proofs.Unbound
import StructLang.Tree.Build

/-!
# The verdict of an analysis and its reports

Type checking has two channels: what it reports, and the verdict on the statements.  They are meant
to agree, and they do but for calls.  A call of a function has the function's return type however
wrong its arguments are, so what is wrong about arguments is reported and does not reach the
verdict.

* `isOk_iff` — the verdict is positive if types were checked, no name is wrong, and every complaint
  is about the arguments of a call.
* `isOk_agrees_iff` — so the verdict agrees with the reports unless all that is reported is about
  the arguments of calls.
* `isOk_misses_argCount` — a program for which it does not.
-/

namespace StructLang

/-! ## Rules -/

namespace Verdict

variable {v : Verdict} {loc : Location}

lemma isAccepted_iff : v.isAccepted = true ↔ v = .accepted := decide_eq_true_iff

/-- A rule accepts if it reports nothing and excuses nothing. -/
lemma accepted_iff (loc : Location) {P : Prop} (h : v = .excused ↔ P) :
    v = .accepted ↔ v.findings loc = [] ∧ ¬P := by
  rw [← h]
  cases v <;> simp [findings]

lemma quiet_iff (h : v ≠ .excused) : v.findings loc = [] ↔ v = .accepted := by
  cases v <;> simp [findings] at h ⊢

lemma isError_grant_iff {ty : Ty} :
    (v.grant ty).isError = false ↔ v = .accepted ∧ ty.isError = false := by
  cases v <;> simp [grant, isAccepted, Ty.isError]

end Verdict

lemma Ty.isError_iff {ty : Ty} : ty.isError = true ↔ ty = .error := by
  cases ty <;> simp [isError]

lemma OperandRule.judge_excused_iff (rule : OperandRule) (ty : Ty) :
    rule.judge ty = .excused ↔ ty.isError = true := by
  unfold judge
  cases ty.isError <;> cases rule.wants ty <;> simp

lemma assignRule_excused_iff (target value : Ty) :
    assignRule target value = .excused ↔ target.isError = true ∨ value.isError = true := by
  unfold assignRule
  split
  · next h => simpa using h
  · next h =>
      simp only [Bool.or_eq_true] at h
      simp only [h, iff_false]
      repeat' split
      all_goals nofun

lemma equalityRule_excused_iff (left right : Ty) :
    equalityRule left right = .excused ↔ left.isError = true ∨ right.isError = true := by
  unfold equalityRule
  split
  · next h => simpa using h
  · next h =>
      simp only [Bool.or_eq_true] at h
      simp only [h, iff_false]
      repeat' split
      all_goals nofun

lemma Verb.judge_excused_iff (verb : Verb) (ty : Ty) :
    verb.judge ty = .excused ↔ ty.isError = true := by
  cases verb with
  | assign => cases ty <;> simp [judge, Ty.isError]
  | call => cases ty <;> simp [judge, Ty.isError]
  | increment => exact OperandRule.judge_excused_iff _ _
  | decrement => exact OperandRule.judge_excused_iff _ _
  | read => cases ty <;> simp [judge, readRule, Ty.isError]
  | write => cases ty <;> simp [judge, writeRule, Ty.isError]

lemma returnRule_some_of_accepted {ret value : Ty}
    (h : returnRule ret (some value) = .accepted) : value.isError = false := by
  cases value with
  | error => cases ret <;> simp [returnRule, Ty.isVoid, Ty.isError] at h
  | _ => rfl

lemma returnRule_some_of_excused {ret value : Ty} (hret : ret.isError = false)
    (h : returnRule ret (some value) = .excused) : value.isError = true := by
  unfold returnRule at h
  cases hv : value.isError with
  | true => rfl
  | false =>
      simp only [hret, hv, Bool.or_self, Bool.false_eq_true, if_false] at h
      split at h
      · cases h
      · split at h <;> cases h

lemma Literal.isError_ty (value : Literal) : value.ty.isError = false := by
  cases value <;> rfl

/-! ## Expressions -/

/-- Whatever is wrong is about the arguments of calls. -/
def Spotless (cs : List Complaint) : Prop := ∀ c ∈ cs, c.inArgument = true

lemma spotless_nil : Spotless [] := nofun

lemma spotless_append {cs ds : List Complaint} :
    Spotless (cs ++ ds) ↔ Spotless cs ∧ Spotless ds := List.forall_mem_append

lemma spotless_blame_true (findings : List Finding) : Spotless (blame true findings) := by
  intro c hc
  obtain ⟨finding, -, rfl⟩ := List.mem_map.1 hc
  rfl

lemma spotless_blame_false {findings : List Finding} :
    Spotless (blame false findings) ↔ findings = [] := by
  cases findings with
  | nil => exact iff_of_true spotless_nil rfl
  | cons finding findings =>
      refine iff_of_false (fun h => ?_) (List.cons_ne_nil _ _)
      exact absurd (h _ List.mem_cons_self) Bool.false_ne_true

mutual

/-- Inside an argument everything is about the arguments of a call. -/
lemma Expr.spotless_complaints (A : Arena) : ∀ e : Expr, Spotless (e.complaints A true)
  | .lit _ _ => spotless_nil
  | .name _ _ => spotless_nil
  | .dot base _ _ _ => base.spotless_complaints A
  | .assign target value _ => by
      rw [complaints, spotless_append, spotless_append]
      exact ⟨⟨target.spotless_complaints A, value.spotless_complaints A⟩, spotless_blame_true _⟩
  | .call _ args _ => by
      rw [complaints, spotless_append, spotless_append]
      exact ⟨⟨spotless_blame_true _, Expr.spotless_complaintsOfAll A args⟩, spotless_blame_true _⟩
  | .unary _ operand _ => by
      rw [complaints, spotless_append]
      exact ⟨operand.spotless_complaints A, spotless_blame_true _⟩
  | .binary _ left right _ => by
      rw [complaints, spotless_append, spotless_append]
      exact ⟨⟨left.spotless_complaints A, right.spotless_complaints A⟩, spotless_blame_true _⟩

lemma Expr.spotless_complaintsOfAll (A : Arena) :
    ∀ es : List Expr, Spotless (Expr.complaintsOfAll A es)
  | [] => spotless_nil
  | e :: es => by
      rw [complaintsOfAll, spotless_append]
      exact ⟨e.spotless_complaints A, Expr.spotless_complaintsOfAll A es⟩

end

/-- A field is bound only after something that has fields. -/
def Expr.Linked (e : Expr) : Prop :=
  ∀ base field failed note, e = .dot base field failed note →
    ∀ k, field.symbol? = some k → ∃ h, base.asBase = .symbol h

/-- Not an error, and not a function that returns one. -/
def Ty.isFlawless : Ty → Bool
  | error => false
  | fn _ ret => !ret.isError
  | _ => true

lemma Ty.isError_of_isFlawless {ty : Ty} (h : ty.isFlawless = true) : ty.isError = false := by
  cases ty <;> first | rfl | cases h

/-- The identifier of the expression has a type, and a flawless one. -/
def Expr.Typed (A : Arena) (e : Expr) : Prop :=
  ∀ id, e.ident? = some id → (id.typeIn A).isFlawless = true ∧ id.symbol?.isSome = true

section

variable {A : Arena}

lemma Ident.symbol_of_typeIn {id : Ident} (h : (id.typeIn A).isError = false) :
    ∃ k, id.symbol? = some k := by
  cases hsymbol : id.symbol? with
  | some k => exact ⟨k, rfl⟩
  | none =>
      simp only [typeIn, tyIn, hsymbol, Ty.isError] at h
      cases h

lemma Expr.ty_settled (e : Expr) : (e.settled A).ty = (e.judged A).1 := by
  simp [settled, ty, ty?]

/-- Nothing is wrong in what has fields: it is a name, or a field of such. -/
lemma Expr.complaints_of_asBase (b : Bool) : ∀ {e : Expr} {h : SymbolId},
    (∀ x ∈ e.exprs, x.Linked) → e.asBase = .symbol h → (e.decorate A).complaints A b = []
  | .name _ _, _, _, _ => rfl
  | .dot base field false note, h, hlinked, hbase => by
      cases hfield : field.symbol? with
      | none => simp only [asBase, hfield] at hbase; cases hbase
      | some k =>
          obtain ⟨h', hh'⟩ := hlinked _ List.mem_cons_self base field false note rfl k hfield
          exact base.complaints_of_asBase b (fun x hx => hlinked x (List.mem_cons_of_mem _ hx)) hh'

lemma Expr.isError_assign_iff (target value : Expr) (note : Note) :
    ((Expr.assign target value note).judged A).1.isError = false ↔
      ((Expr.assign target value note).judged A).2 = [] ∧
        target.ty.isError = false ∧ value.ty.isError = false := by
  have hrule := Verdict.accepted_iff target.loc
    (assignRule_excused_iff target.ty value.ty)
  show ((assignRule _ _).grant _).isError = false ↔ (assignRule _ _).findings _ = [] ∧ _
  rw [Verdict.isError_grant_iff, hrule]
  simp only [not_or, Bool.not_eq_true]
  tauto

lemma Expr.isError_unary_iff (op : UnaryOp) (operand : Expr) (note : Note) :
    ((Expr.unary op operand note).judged A).1.isError = false ↔
      ((Expr.unary op operand note).judged A).2 = [] ∧ operand.ty.isError = false := by
  have hrule := Verdict.accepted_iff operand.loc (op.rule.judge_excused_iff operand.ty)
  have hresult : op.rule.result.isError = false := by cases op <;> rfl
  show ((op.rule.judge _).grant _).isError = false ↔ (op.rule.judge _).findings _ = [] ∧ _
  rw [Verdict.isError_grant_iff, hrule, Bool.not_eq_true]
  simp only [hresult, and_true]

lemma Expr.isError_binary_iff (op : BinaryOp) (left right : Expr) (note : Note) :
    ((Expr.binary op left right note).judged A).1.isError = false ↔
      ((Expr.binary op left right note).judged A).2 = [] ∧
        left.ty.isError = false ∧ right.ty.isError = false := by
  show (judgeBinary op left right).1.isError = false ↔ (judgeBinary op left right).2 = [] ∧ _
  have hoperands : ∀ rule : OperandRule, rule.result.isError = false →
      ((if (rule.judge left.ty).isAccepted && (rule.judge right.ty).isAccepted then rule.result
        else .error : Ty).isError = false ↔
      (rule.judge left.ty).findings left.loc ++ (rule.judge right.ty).findings right.loc = [] ∧
        left.ty.isError = false ∧ right.ty.isError = false) := by
    intro rule hresult
    have hleft := Verdict.accepted_iff left.loc (rule.judge_excused_iff left.ty)
    have hright := Verdict.accepted_iff right.loc (rule.judge_excused_iff right.ty)
    rw [← Verdict.isAccepted_iff, Bool.not_eq_true] at hleft hright
    rw [List.append_eq_nil_iff]
    split
    · next h =>
        rw [Bool.and_eq_true, hleft, hright] at h
        simp only [hresult]
        tauto
    · next h =>
        rw [Bool.and_eq_true, hleft, hright] at h
        simp only [Ty.isError, Bool.true_eq_false, false_iff]
        tauto
  unfold judgeBinary
  cases op.family with
  | arithmetic => exact hoperands .arithmetic rfl
  | logical => exact hoperands .logical rfl
  | relational => exact hoperands .relational rfl
  | equality =>
      have hrule := Verdict.accepted_iff left.loc
        (equalityRule_excused_iff left.ty right.ty)
      show ((equalityRule _ _).grant .bool).isError = false ↔ (equalityRule _ _).findings _ = [] ∧ _
      rw [Verdict.isError_grant_iff, hrule]
      simp only [not_or, Bool.not_eq_true, Ty.isError, and_true]

/-- **Types and complaints.**  An expression that keeps a type is spotless; and if all its
identifiers have types, it keeps its type unless something is wrong that is not about the arguments
of a call. -/
theorem Expr.typed_spotless : ∀ {e : Expr}, (∀ x ∈ e.exprs, x.Linked) →
    ((e.decorate A).ty.isError = false → Spotless ((e.decorate A).complaints A false)) ∧
    ((∀ x ∈ e.exprs, x.Typed A) → Spotless ((e.decorate A).complaints A false) →
      (e.decorate A).ty.isError = false)
  | .lit value note, _ => by
      refine ⟨fun _ => spotless_nil, fun _ _ => ?_⟩
      rw [decorate, ty_settled]
      exact value.isError_ty
  | .name id note, _ => by
      refine ⟨fun _ => spotless_nil, fun htyped _ => ?_⟩
      rw [decorate, ty_settled, judged_name]
      exact Ty.isError_of_isFlawless (htyped _ List.mem_cons_self id rfl).1
  | .dot base field failed note, hlinked => by
      rw [decorate, ty_settled, judged_dot]
      refine ⟨fun hty => ?_, fun htyped _ => ?_⟩
      · obtain ⟨k, hk⟩ := Ident.symbol_of_typeIn hty
        obtain ⟨h, hbase⟩ := hlinked _ List.mem_cons_self base field failed note rfl k hk
        have hnil := complaints_of_asBase (A := A) false
          (fun x hx => hlinked x (List.mem_cons_of_mem _ hx)) hbase
        show Spotless ((base.decorate A).complaints A false)
        rw [hnil]
        exact spotless_nil
      · exact Ty.isError_of_isFlawless (htyped _ List.mem_cons_self field rfl).1
  | .assign target value note, hlinked => by
      have hl := target.typed_spotless fun x hx => hlinked x (by simp [exprs, hx])
      have hr := value.typed_spotless fun x hx => hlinked x (by simp [exprs, hx])
      rw [decorate, ty_settled, isError_assign_iff]
      show (_ → Spotless (_ ++ _ ++ blame false _)) ∧ (_ → Spotless (_ ++ _ ++ blame false _) → _)
      rw [spotless_append, spotless_append, spotless_blame_false]
      refine ⟨fun ⟨hnil, ht, hv⟩ => ⟨⟨hl.1 ht, hr.1 hv⟩, hnil⟩,
        fun htyped ⟨⟨ht, hv⟩, hnil⟩ => ⟨hnil, hl.2 ?_ ht, hr.2 ?_ hv⟩⟩
      · exact fun x hx => htyped x (by simp [exprs, hx])
      · exact fun x hx => htyped x (by simp [exprs, hx])
  | .call callee args note, hlinked => by
      rw [decorate, ty_settled, judged_call]
      show (_ → Spotless (blame false ((calleeRule (callee.typeIn A)).findings _) ++ _ ++
        blame true _)) ∧ (_ → Spotless (blame false ((calleeRule (callee.typeIn A)).findings _) ++
          _ ++ blame true _) → _)
      rw [spotless_append, spotless_append, spotless_blame_false]
      refine ⟨fun hty => ⟨⟨?_, Expr.spotless_complaintsOfAll A _⟩, spotless_blame_true _⟩,
        fun htyped ⟨⟨hcallee, _⟩, _⟩ => ?_⟩
      · cases hcallee : callee.typeIn A with
        | fn params ret => rfl
        | _ => rw [hcallee] at hty; cases hty
      · obtain ⟨hflawless, -⟩ := htyped _ List.mem_cons_self callee rfl
        cases htype : callee.typeIn A with
        | fn params ret =>
            rw [htype] at hflawless
            simpa [judgeCall, Ty.isFlawless] using hflawless
        | error => rw [htype] at hflawless; cases hflawless
        | _ => rw [htype] at hcallee; cases hcallee
  | .unary op operand note, hlinked => by
      have hinner := operand.typed_spotless fun x hx => hlinked x (List.mem_cons_of_mem _ hx)
      rw [decorate, ty_settled, isError_unary_iff]
      show (_ → Spotless (_ ++ blame false _)) ∧ (_ → Spotless (_ ++ blame false _) → _)
      rw [spotless_append, spotless_blame_false]
      exact ⟨fun ⟨hnil, ho⟩ => ⟨hinner.1 ho, hnil⟩, fun htyped ⟨ho, hnil⟩ =>
        ⟨hnil, hinner.2 (fun x hx => htyped x (List.mem_cons_of_mem _ hx)) ho⟩⟩
  | .binary op left right note, hlinked => by
      have hl := left.typed_spotless fun x hx => hlinked x (by simp [exprs, hx])
      have hr := right.typed_spotless fun x hx => hlinked x (by simp [exprs, hx])
      rw [decorate, ty_settled, isError_binary_iff]
      show (_ → Spotless (_ ++ _ ++ blame false _)) ∧ (_ → Spotless (_ ++ _ ++ blame false _) → _)
      rw [spotless_append, spotless_append, spotless_blame_false]
      refine ⟨fun ⟨hnil, ht, hv⟩ => ⟨⟨hl.1 ht, hr.1 hv⟩, hnil⟩,
        fun htyped ⟨⟨ht, hv⟩, hnil⟩ => ⟨hnil, hl.2 ?_ ht, hr.2 ?_ hv⟩⟩
      · exact fun x hx => htyped x (by simp [exprs, hx])
      · exact fun x hx => htyped x (by simp [exprs, hx])

/-! ## Statements -/

/-- What the judgements of a function with the return type `ret` look like, when its expressions
were decorated from `es`: something is said of a decorated expression, by a rule that accepts no
error and, unless the return type is one, excuses nothing else; or the function is left without a
value. -/
inductive Judgement.Of (A : Arena) (ret : Ty) (es : List Expr) : Judgement → Prop
  | expr {e : Expr} {loc : Location} {v : Verdict} (mem : ∀ x ∈ e.exprs, x ∈ es)
      (accepted : v = .accepted → (e.decorate A).ty.isError = false)
      (excused : ret.isError = false → v = .excused → (e.decorate A).ty.isError = true) :
      Judgement.Of A ret es ⟨some (e.decorate A), loc, v⟩
  | leave {loc : Location} : Judgement.Of A ret es ⟨none, loc, returnRule ret none⟩

lemma Judgement.Of.mono {ret : Ty} {es fs : List Expr} {j : Judgement} (h : j.Of A ret es)
    (hsub : ∀ x ∈ es, x ∈ fs) : j.Of A ret fs := by
  cases h with
  | expr mem accepted excused => exact .expr (fun x hx => hsub x (mem x hx)) accepted excused
  | leave => exact .leave

lemma Judgement.of_excused_iff {ret : Ty} {e : Expr} {loc : Location} {v : Verdict}
    (h : v = .excused ↔ (e.decorate A).ty.isError = true) :
    Judgement.Of A ret e.exprs ⟨some (e.decorate A), loc, v⟩ := by
  refine .expr (fun _ hx => hx) (fun haccepted => ?_) fun _ => h.1
  have hnot : ¬ (e.decorate A).ty.isError = true := fun herror => by
    rw [haccepted] at h
    cases h.2 herror
  simpa using hnot

mutual

lemma Block.judgements_of (ret : Ty) : ∀ b : Block,
    ∀ j ∈ (b.decorate A).judgements ret, j.Of A ret b.exprs
  | .mk _ stmts => Stmt.judgementsOfAll_of ret stmts

lemma Stmt.judgements_of (ret : Ty) : ∀ s : Stmt,
    ∀ j ∈ (s.decorate A).judgements ret, j.Of A ret s.exprs
  | .simple verb e, j, hj => by
      obtain rfl := List.mem_singleton.1 hj
      exact Judgement.of_excused_iff (verb.judge_excused_iff _)
  | .guarded guard cond body, j, hj => by
      rcases List.mem_cons.1 hj with rfl | hj
      · exact (Judgement.of_excused_iff (guard.rule.judge_excused_iff _)).mono
          fun _ => List.mem_append_left _
      · exact (Block.judgements_of ret body j hj).mono fun _ => List.mem_append_right _
  | .ifElse cond yes no, j, hj => by
      rcases List.mem_cons.1 hj with rfl | hj
      · exact (Judgement.of_excused_iff (Guard.branch.rule.judge_excused_iff _)).mono
          fun _ hx => List.mem_append_left _ (List.mem_append_left _ hx)
      · rcases List.mem_append.1 hj with hj | hj
        · exact (Block.judgements_of ret yes j hj).mono
            fun _ hx => List.mem_append_left _ (List.mem_append_right _ hx)
        · exact (Block.judgements_of ret no j hj).mono fun _ => List.mem_append_right _
  | .ret none loc, j, hj => by
      obtain rfl := List.mem_singleton.1 hj
      exact .leave
  | .ret (some value) loc, j, hj => by
      obtain rfl := List.mem_singleton.1 hj
      exact .expr (fun _ hx => hx) returnRule_some_of_accepted returnRule_some_of_excused

lemma Stmt.judgementsOfAll_of (ret : Ty) : ∀ ss : List Stmt,
    ∀ j ∈ Stmt.judgementsOfAll ret (Stmt.decorateAll A ss), j.Of A ret (Stmt.exprsOfAll ss)
  | s :: ss, j, hj => by
      rcases List.mem_append.1 hj with hj | hj
      · exact (Stmt.judgements_of ret s j hj).mono fun _ => List.mem_append_left _
      · exact (Stmt.judgementsOfAll_of ret ss j hj).mono fun _ => List.mem_append_right _

end

/-- What holds of the types of expressions holds of the verdicts of statements: those that are
accepted are spotless, and in a function whose names are right the spotless ones are accepted. -/
lemma Judgement.Of.accepted_spotless {ret : Ty} {es : List Expr} {j : Judgement}
    (h : j.Of A ret es) (hlinked : ∀ x ∈ es, x.Linked) :
    (j.verdict = .accepted → Spotless (j.complaints A)) ∧
    ((∀ x ∈ es, x.Typed A) → ret.isError = false → Spotless (j.complaints A) →
      j.verdict = .accepted) := by
  cases h with
  | @expr e loc v mem accepted excused =>
      have hexpr := e.typed_spotless (A := A) fun x hx => hlinked x (mem x hx)
      show (_ → Spotless (_ ++ blame false (v.findings loc))) ∧
        (_ → _ → Spotless (_ ++ blame false (v.findings loc)) → _)
      rw [spotless_append, spotless_blame_false]
      constructor
      · intro haccepted
        dsimp only at haccepted
        exact ⟨hexpr.1 (accepted haccepted), by rw [haccepted]; rfl⟩
      · rintro htyped hret ⟨hspotless, hnil⟩
        have hty := hexpr.2 (fun x hx => htyped x (mem x hx)) hspotless
        refine (Verdict.quiet_iff fun hexcused => ?_).1 hnil
        rw [excused hret hexcused] at hty
        cases hty
  | @leave loc =>
      show (_ → Spotless ([] ++ blame false ((returnRule ret none).findings loc))) ∧
        (_ → _ → Spotless ([] ++ blame false ((returnRule ret none).findings loc)) → _)
      rw [List.nil_append, spotless_blame_false]
      refine ⟨fun haccepted => ?_, fun _ hret hnil => ?_⟩
      · dsimp only at haccepted
        rw [haccepted]
        rfl
      · have hexcused : returnRule ret none ≠ .excused := by
          show (if ret.isVoid then Verdict.accepted
            else if ret.isError then .excused else _) ≠ _
          rw [hret]
          cases ret.isVoid <;> simp
        exact (Verdict.quiet_iff hexcused).1 hnil

end

/-! ## Programs whose names are right -/

/-- No function returns an error. -/
def Arena.Flawless (A : Arena) : Prop :=
  ∀ h name params ret, A.get h = .ok { name, kind := .fn params ret } → ret.isError = false

lemma Arena.flawless_empty : Arena.Flawless {} :=
  fun _ _ _ _ hg => absurd hg Arena.get_empty_ne_ok

/-- Where nothing is reported, every identifier is bound, and has a flawless type. -/
lemma Expr.Sourced.typed_of_quiet {A : Arena} {e : Expr} (h : e.Sourced A []) (hA : A.Flawless) :
    e.Typed A := by
  intro id hid
  have hbound := h.accounted.bound hid
  obtain ⟨k, hk⟩ := Option.isSome_iff_exists.1 hbound
  obtain ⟨hnotError, hfn⟩ := h.typed id hid k hk
  refine ⟨?_, hbound⟩
  cases htype : id.typeIn A with
  | fn params ret =>
      obtain ⟨name, hg⟩ := hfn params ret htype
      simp [Ty.isFlawless, hA k name params ret hg]
  | error =>
      rw [htype] at hnotError
      cases hnotError
  | _ => rfl

namespace Naming

variable {base : Nat} {B : Arena}

/-- The values of a function are checked against the type that its calls have. -/
lemma ReturnRule.returned {w : Names} {ret ret' : TypeName} {ty : Ty} {es : List Event}
    (rule : ReturnRule w ret ret' ty es) (hquiet : reports es = []) :
    ret'.returned = ty ∧ ty.isError = false := by
  cases rule with
  | plain type =>
      cases ret with
      | struct name => exact absurd rfl (type name)
      | _ => exact ⟨rfl, rfl⟩
  | struct type =>
      cases type with
      | means found symbol struct => exact ⟨rfl, rfl⟩
      | invalid wrong => cases hquiet

/-- Where nothing is reported, no function returns an error to its calls. -/
lemma DeclsRule.flawless {w w' : Names} {ds ds' : List Decl} {es : List Event}
    (rule : DeclsRule w ds ds' w' es) (hquiet : reports es = []) (hw : w.symbols.Flawless) :
    w'.symbols.Flawless := by
  intro h name params ret hg
  rcases rule.fn_declared hg with hg | ⟨f, -, hdeclares⟩
  · exact hw h name params ret hg
  · cases ret with
    | error =>
        obtain ⟨_, -, hmem⟩ := hdeclares.reported rfl
        rw [hquiet] at hmem
        cases hmem
    | _ => rfl

/-- Where nothing is reported, no body is checked against an error. -/
lemma DeclsRule.returned {w w' : Names} {ds ds' : List Decl} {es : List Event}
    (rule : DeclsRule w ds ds' w' es) (hquiet : reports es = []) {f : FnDecl}
    (hf : .fn f ∈ ds') : f.ret.returned.isError = false := by
  induction rule with
  | nil => cases hf
  | cons first rest ih =>
      rw [reports_append_eq_nil_iff] at hquiet
      rcases List.mem_cons.1 hf with rfl | hf
      · cases first with
        | fn rule =>
            cases rule with
            | mk type head params inside =>
                rw [reports_append_eq_nil_iff, reports_append_eq_nil_iff] at hquiet
                obtain ⟨hreturned, hret⟩ := type.returned hquiet.1.1.1
                exact hreturned ▸ hret
      · exact ih hquiet.2 hf

/-- Name resolution binds a field only after something that has fields. -/
lemma carries_linked :
    Carries base B (fun _ => True) (fun e => ∀ id, e.ident? = some id → id.symbol? = none)
      Expr.Linked := by
  intro w _ _ e e' es rule hunbound _ x field failed note heq k hk
  cases rule with
  | dot note first second =>
      cases heq
      have hnone := hunbound _ List.mem_cons_self _ rfl
      cases second with
      | selected symbol struct found => exact ⟨_, symbol⟩
      | _ =>
          rw [hnone] at hk
          cases hk
  | _ => cases heq

end Naming

/-! ## Programs -/

section

variable {A : Arena} {p : Program}

lemma Program.mem_judgements {j : Judgement} : j ∈ (p.decorate A).judgements ↔
    ∃ f, .fn f ∈ p.decls ∧ j ∈ (f.body.decorate A).judgements f.ret.returned := by
  simp only [Program.judgements, Program.decorate, List.flatMap_map, List.mem_flatMap]
  constructor
  · rintro ⟨d, hd, hj⟩
    cases d with
    | fn f => exact ⟨f, hd, hj⟩
    | _ => cases hj
  · rintro ⟨f, hf, hj⟩
    exact ⟨.fn f, hf, hj⟩

lemma Program.spotless_complaints :
    Spotless (p.complaints A) ↔ ∀ j ∈ p.judgements, Spotless (j.complaints A) := by
  simp only [Spotless, Program.complaints, List.mem_flatMap, forall_exists_index, and_imp]
  exact forall_comm.trans (forall_congr' fun j => forall_comm)

/-- The statements of a program with spotless complaints are accepted, if its names are right; and
if they are accepted, they are spotless. -/
lemma Program.accepted_spotless (hlinked : ∀ x ∈ p.exprs, x.Linked) :
    ((∀ j ∈ (p.decorate A).judgements, j.verdict = .accepted) →
      Spotless ((p.decorate A).complaints A)) ∧
    ((∀ x ∈ p.exprs, x.Typed A) → (∀ f, .fn f ∈ p.decls → f.ret.returned.isError = false) →
      Spotless ((p.decorate A).complaints A) →
      ∀ j ∈ (p.decorate A).judgements, j.verdict = .accepted) := by
  have hexprs : ∀ f, .fn f ∈ p.decls → ∀ x ∈ f.body.exprs, x ∈ p.exprs :=
    fun f hf x hx => List.mem_flatMap.2 ⟨.fn f, hf, hx⟩
  rw [Program.spotless_complaints]
  constructor
  · intro haccepted j hj
    obtain ⟨f, hf, hjf⟩ := Program.mem_judgements.1 hj
    have hof := f.body.judgements_of (A := A) f.ret.returned j hjf
    exact (hof.accepted_spotless fun x hx => hlinked x (hexprs f hf x hx)).1 (haccepted j hj)
  · intro htyped hret hspotless j hj
    obtain ⟨f, hf, hjf⟩ := Program.mem_judgements.1 hj
    have hof := f.body.judgements_of (A := A) f.ret.returned j hjf
    exact (hof.accepted_spotless fun x hx => hlinked x (hexprs f hf x hx)).2
      (fun x hx => htyped x (hexprs f hf x hx)) (hret f hf) (hspotless j hj)

end

/-- What is known of the verdict and the count of an analysis that came to its end.  The complaints
are those of the tree that the analysis leaves. -/
structure Judged (sink : Diagnostics) (R : Analyzed) (a : Analysis) : Prop where
  reported : a.typeChecked = true → a.typeErrors = (R.program.complaints a.symbols).length ∧
    ∃ names : List Finding, names.length = a.nameErrors ∧
      Told sink R.sink (names ++ (R.program.complaints a.symbols).map Complaint.finding)
  unchecked : a.typeChecked = false → a.typeErrors = 0 ∧ a.wellTyped = false
  spotless : a.wellTyped = true → Spotless (R.program.complaints a.symbols)
  accepted : a.typeChecked = true → a.nameErrors = 0 →
    Spotless (R.program.complaints a.symbols) → a.wellTyped = true

open Naming in
lemma analyze_judged (config : Config) {p : Program} (h : p.Fresh) (sink : Diagnostics)
    {a : Analysis} (hok : (analyze config p sink).result = .ok a) :
    Judged sink (analyze config p sink) a := by
  cases analyze_explained config h.toUnfilled sink with
  | skipped rule wrong skips program told result =>
      obtain rfl := Except.ok.inj (result.symm.trans hok)
      exact ⟨nofun, fun _ => ⟨rfl, rfl⟩, nofun, nofun⟩
  | @checked named w es rule checks program told result =>
      obtain rfl := Except.ok.inj (result.symm.trans hok)
      have hlinked : ∀ x ∈ named.exprs, x.Linked :=
        rule.carries carries_linked sound_start (.refl _) (fun e he => (h.blank e he).2)
          fun _ _ => trivial
      have hspotless := Program.accepted_spotless (A := w.symbols) hlinked
      refine ⟨fun _ => ⟨rfl, _, rfl, told⟩, nofun, fun hwell => ?_, fun _ hnil hcs => ?_⟩
      · dsimp only at hwell ⊢
        rw [program, List.all_eq_true] at hwell
        rw [program]
        exact hspotless.1 fun j hj => Verdict.isAccepted_iff.1 (hwell j hj)
      · dsimp only at hnil hcs ⊢
        have hquiet := List.length_eq_zero_iff.1 hnil
        have hflawless := rule.flawless hquiet Arena.flawless_empty
        have hsourced : ∀ x ∈ named.exprs, x.Sourced w.symbols [] :=
          rule.carries carries_sourced sound_start (.refl _) h.exprs fun _ hf => hquiet ▸ hf
        have htyped : ∀ x ∈ named.exprs, x.Typed w.symbols :=
          fun x hx => (hsourced x hx).typed_of_quiet hflawless
        rw [program] at hcs ⊢
        rw [List.all_eq_true]
        exact fun j hj => Verdict.isAccepted_iff.2
          (hspotless.2 htyped (fun _ => rule.returned hquiet) hcs j hj)

/-! ## The verdict -/

/-- **The verdict.**  It is positive if types were checked, no name is wrong, and all that was
reported is about the arguments of calls. -/
theorem isOk_iff (config : Config) {p : Program} (h : p.Fresh) (sink : Diagnostics) {a : Analysis}
    (hok : (analyze config p sink).result = .ok a) :
    a.isOk = true ↔ a.typeChecked = true ∧ a.nameErrors = 0 ∧
      Spotless ((analyze config p sink).program.complaints a.symbols) := by
  have hjudged := analyze_judged config h sink hok
  simp only [Analysis.isOk, Bool.and_eq_true, beq_iff_eq]
  constructor
  · rintro ⟨⟨hnames, hchecked⟩, hwell⟩
    exact ⟨hchecked, hnames, hjudged.spotless hwell⟩
  · rintro ⟨hchecked, hnames, hspotless⟩
    exact ⟨⟨hnames, hchecked⟩, hjudged.accepted hchecked hnames hspotless⟩

/-- **Where verdict and reports agree.**  The verdict is positive exactly if types were checked and
nothing was reported, unless something was reported and all of it is about the arguments of calls.
What type checking counts and tells the sink are the complaints, and a program that it calls well
typed has only such complaints. -/
theorem isOk_agrees_iff (config : Config) {p : Program} (h : p.Fresh) (sink : Diagnostics)
    {a : Analysis} (hok : (analyze config p sink).result = .ok a) :
    ((a.isOk = true ↔ a.typeChecked = true ∧ a.errorCount = 0) ↔
      ¬ (a.typeChecked = true ∧ a.nameErrors = 0 ∧ a.typeErrors ≠ 0 ∧
        ∀ c ∈ (analyze config p sink).program.complaints a.symbols, c.inArgument = true)) ∧
    (a.typeChecked = true →
      a.typeErrors = ((analyze config p sink).program.complaints a.symbols).length ∧
      ∃ names : List Finding, names.length = a.nameErrors ∧
        Told sink (analyze config p sink).sink
          (names ++ ((analyze config p sink).program.complaints a.symbols).map Complaint.finding)) ∧
    (a.wellTyped = true →
      ∀ c ∈ (analyze config p sink).program.complaints a.symbols, c.inArgument = true) := by
  have hjudged := analyze_judged config h sink hok
  refine ⟨?_, hjudged.reported, hjudged.spotless⟩
  have hquiet : a.typeChecked = true → a.typeErrors = 0 →
      Spotless ((analyze config p sink).program.complaints a.symbols) := by
    intro hchecked hnone
    have hlength := (hjudged.reported hchecked).1
    rw [hnone] at hlength
    rw [List.length_eq_zero_iff.1 hlength.symm]
    exact spotless_nil
  rw [isOk_iff config h sink hok, Analysis.errorCount, Nat.add_eq_zero_iff]
  show _ ↔ ¬ (_ ∧ _ ∧ _ ∧ Spotless _)
  tauto

/-- A function with one parameter, called with two arguments. -/
def surplusArgument : Program where
  decls := [
    .fn
      { ret := .int
        id := .unbound "f" .nowhere
        formals := [{ ty := .int, id := .unbound "x" .nowhere }]
        body := .mk [] [.ret (some (.use (.unbound "x" .nowhere))) .nowhere] },
    .fn
      { ret := .void
        id := .unbound "main" .nowhere
        formals := []
        body := .mk [] [.simple .call (.apply (.unbound "f" .nowhere)
          [.literal (.int 1) .nowhere, .literal (.int 2) .nowhere])] }]

lemma fresh_surplusArgument : surplusArgument.Fresh :=
  ⟨⟨by decide, by decide, by decide⟩, by decide⟩

/-- The wrong number of arguments is reported, and the verdict is positive. -/
theorem isOk_misses_argCount : surplusArgument.Fresh ∧
    ∃ a, (analyze .standard surplusArgument {}).result = .ok a ∧
      (a.typeChecked = true ∧ a.errorCount = 1) ∧ a.isOk = true ∧
      a.wellTyped = true ∧ a.typeErrors = 1 := by
  refine ⟨fresh_surplusArgument, ?_⟩
  have hrun : (analyze .standard surplusArgument {}).result.toOption.any (fun a =>
      a.typeChecked && a.errorCount == 1 && a.isOk && a.wellTyped && a.typeErrors == 1) = true := by
    decide +kernel
  simpa [and_assoc] using exists_of_any hrun

/-- That is so because all that was reported is about the arguments of the call. -/
theorem isOk_disagrees_surplusArgument : surplusArgument.Fresh ∧
    ∃ a, (analyze .standard surplusArgument {}).result = .ok a ∧
      ¬ (a.isOk = true ↔ a.typeChecked = true ∧ a.errorCount = 0) ∧
      a.typeChecked = true ∧ a.nameErrors = 0 ∧ a.typeErrors ≠ 0 ∧
        ∀ c ∈ (analyze .standard surplusArgument {}).program.complaints a.symbols,
          c.inArgument = true := by
  refine ⟨fresh_surplusArgument, ?_⟩
  have hrun : (analyze .standard surplusArgument {}).result.toOption.any (fun a =>
      a.isOk && a.errorCount == 1) = true := by
    decide +kernel
  obtain ⟨a, hok, ha⟩ := exists_of_any hrun
  simp only [Bool.and_eq_true, beq_iff_eq] at ha
  have hdisagree : ¬ (a.isOk = true ↔ a.typeChecked = true ∧ a.errorCount = 0) :=
    fun hiff => by simpa [ha.2] using (hiff.1 ha.1).2
  have hagrees := (isOk_agrees_iff .standard fresh_surplusArgument {} hok).1
  exact ⟨a, hok, hdisagree, not_not.1 fun hnot => hdisagree (hagrees.2 hnot)⟩

end StructLang
