import Mathlib.Tactic.Common
import StructLang.Proofs.Statics
import StructLang.Proofs.Verdict

/-!
# What the typing rules accept

A typing rule of the pass answers for all types, those of broken expressions included.  For types
that are no errors it finds nothing wrong exactly if the rule of the static semantics holds, and
then both give the same result.  One lemma for each rule says so; the name ends in `_iff`.
-/

namespace StructLang

namespace Ty

variable {a b ty : Ty}

@[simp] lemma isInt_iff : ty.isInt = true ↔ ty = .int := by
  cases ty <;> simp [isInt]

@[simp] lemma isBool_iff : ty.isBool = true ↔ ty = .bool := by
  cases ty <;> simp [isBool]

lemma sameScalar_iff : a.sameScalar b = true ↔ a = b ∧ a.IsScalar := by
  simp only [sameScalar, Bool.or_eq_true, Bool.and_eq_true, isInt_iff, isBool_iff, IsScalar]
  constructor
  · rintro (⟨rfl, rfl⟩ | ⟨rfl, rfl⟩) <;> simp
  · rintro ⟨rfl, rfl | rfl⟩ <;> simp

lemma IsScalar.isError (h : ty.IsScalar) : ty.isError = false := by
  rcases h with rfl | rfl <;> rfl

/-- A type that a function can return agrees with itself alone. -/
lemma agrees_iff (h : b.isWritten = true) : a.agrees b = true ↔ a = b := by
  cases b with
  | int | bool | void | struct name => cases a <;> simp [agrees]
  | _ => cases h

end Ty

namespace Verdict

variable {v : Verdict} {loc : Location} {ty ty' : Ty}

lemma granted_iff (h : v ≠ .excused) :
    v.findings loc = [] ∧ v.grant ty = ty' ↔ v = .accepted ∧ ty = ty' := by
  rw [quiet_iff h]
  refine and_congr_right fun haccepted => ?_
  rw [haccepted]
  rfl

end Verdict

section

variable {a b ty ty' : Ty} {loc : Location}

lemma assignRule_accepted_iff : assignRule a b = .accepted ↔ a = b ∧ a.IsScalar := by
  constructor
  · intro h
    unfold assignRule at h
    repeat' split at h
    all_goals first | exact Ty.sameScalar_iff.1 ‹_› | cases h
  · rintro ⟨rfl, rfl | rfl⟩ <;> rfl

lemma assignRule_iff (ha : a.isError = false) (hb : b.isError = false) :
    (assignRule a b).findings loc = [] ∧ (assignRule a b).grant a = ty' ↔
      a = b ∧ a.IsScalar ∧ a = ty' := by
  have hexcused : assignRule a b ≠ .excused := by
    rw [Ne, assignRule_excused_iff, ha, hb]
    simp
  rw [Verdict.granted_iff hexcused, assignRule_accepted_iff, and_assoc]

lemma equalityRule_accepted_iff : equalityRule a b = .accepted ↔ a = b ∧ a.IsScalar := by
  constructor
  · intro h
    unfold equalityRule at h
    repeat' split at h
    all_goals first | exact Ty.sameScalar_iff.1 ‹_› | cases h
  · rintro ⟨rfl, rfl | rfl⟩ <;> rfl

lemma argRule_quiet_iff (ha : a.isError = false) (hb : b.isError = false) :
    (argRule a b).findings loc = [] ↔ a = b ∧ a.IsScalar := by
  rw [← Ty.sameScalar_iff]
  simp only [argRule, ha, hb, Bool.or_self, Bool.false_eq_true, if_false]
  cases a.sameScalar b <;> simp [Verdict.findings]

/-- An operand that is no error is right if the operator wants it. -/
lemma OperandRule.judge_quiet_iff (rule : OperandRule) (h : ty.isError = false) :
    (rule.judge ty).findings loc = [] ↔ rule.wants ty = true := by
  simp only [judge, h, Bool.false_eq_true, if_false]
  cases rule.wants ty <;> simp [Verdict.findings]

lemma OperandRule.judge_accepted_iff (rule : OperandRule) (h : ty.isError = false) :
    rule.judge ty = .accepted ↔ rule.wants ty = true := by
  simp only [judge, h, Bool.false_eq_true, if_false]
  cases rule.wants ty <;> simp

lemma UnaryOp.rule_iff {op : UnaryOp} (h : ty.isError = false) :
    (op.rule.judge ty).findings loc = [] ∧ (op.rule.judge ty).grant op.rule.result = ty' ↔
      op.Takes ty ty' := by
  have hexcused : op.rule.judge ty ≠ .excused := by
    rw [Ne, OperandRule.judge_excused_iff, h]
    exact Bool.false_ne_true
  rw [Verdict.granted_iff hexcused, OperandRule.judge_accepted_iff _ h]
  cases op with
  | neg =>
      constructor
      · rintro ⟨hwants, rfl⟩
        obtain rfl := Ty.isInt_iff.1 hwants
        exact .neg
      · rintro ⟨⟩
        exact ⟨rfl, rfl⟩
  | not =>
      constructor
      · rintro ⟨hwants, rfl⟩
        obtain rfl := Ty.isBool_iff.1 hwants
        exact .not
      · rintro ⟨⟩
        exact ⟨rfl, rfl⟩

/-- Both operands are judged by themselves. -/
lemma OperandRule.both_iff (rule : OperandRule) (ha : a.isError = false) (hb : b.isError = false)
    {loc' : Location} :
    ((rule.judge a).findings loc ++ (rule.judge b).findings loc' = [] ∧
      (if (rule.judge a).isAccepted && (rule.judge b).isAccepted then rule.result
        else .error) = ty') ↔ rule.wants a = true ∧ rule.wants b = true ∧ rule.result = ty' := by
  rw [List.append_eq_nil_iff, rule.judge_quiet_iff ha, rule.judge_quiet_iff hb, and_assoc]
  refine and_congr_right fun hwa => and_congr_right fun hwb => ?_
  have haccepted : (rule.judge a).isAccepted = true ∧ (rule.judge b).isAccepted = true := by
    rw [Verdict.isAccepted_iff, Verdict.isAccepted_iff, rule.judge_accepted_iff ha,
      rule.judge_accepted_iff hb]
    exact ⟨hwa, hwb⟩
  rw [haccepted.1, haccepted.2]
  rfl

@[simp] lemma Family.takes_arithmetic_iff :
    Family.arithmetic.Takes ty ty' ↔ ty = .int ∧ ty' = .int :=
  ⟨by rintro ⟨⟩; exact ⟨rfl, rfl⟩, by rintro ⟨rfl, rfl⟩; exact .arithmetic⟩

@[simp] lemma Family.takes_logical_iff : Family.logical.Takes ty ty' ↔ ty = .bool ∧ ty' = .bool :=
  ⟨by rintro ⟨⟩; exact ⟨rfl, rfl⟩, by rintro ⟨rfl, rfl⟩; exact .logical⟩

@[simp] lemma Family.takes_relational_iff :
    Family.relational.Takes ty ty' ↔ ty = .int ∧ ty' = .bool :=
  ⟨by rintro ⟨⟩; exact ⟨rfl, rfl⟩, by rintro ⟨rfl, rfl⟩; exact .relational⟩

@[simp] lemma Family.takes_equality_iff :
    Family.equality.Takes ty ty' ↔ ty.IsScalar ∧ ty' = .bool :=
  ⟨by rintro ⟨⟩; exact ⟨by assumption, rfl⟩, by rintro ⟨scalar, rfl⟩; exact .equality scalar⟩

lemma judgeBinary_iff {op : BinaryOp} {left right : Expr} (hl : left.ty.isError = false)
    (hr : right.ty.isError = false) :
    (judgeBinary op left right).2 = [] ∧ (judgeBinary op left right).1 = ty' ↔
      left.ty = right.ty ∧ op.family.Takes left.ty ty' := by
  unfold judgeBinary
  generalize left.ty = a at hl
  generalize right.ty = b at hr
  cases op.family with
  | arithmetic =>
      refine (OperandRule.both_iff .arithmetic hl hr).trans ?_
      simp only [OperandRule.arithmetic, Ty.isInt_iff, Family.takes_arithmetic_iff]
      grind
  | logical =>
      refine (OperandRule.both_iff .logical hl hr).trans ?_
      simp only [OperandRule.logical, Ty.isBool_iff, Family.takes_logical_iff]
      grind
  | relational =>
      refine (OperandRule.both_iff .relational hl hr).trans ?_
      simp only [OperandRule.relational, Ty.isInt_iff, Family.takes_relational_iff]
      grind
  | equality =>
      have hexcused : equalityRule a b ≠ .excused := by
        rw [Ne, equalityRule_excused_iff, hl, hr]
        simp
      refine (Verdict.granted_iff hexcused).trans ?_
      rw [equalityRule_accepted_iff, Family.takes_equality_iff, and_assoc, eq_comm (a := Ty.bool)]

/-- A statement finds nothing wrong with the type of its expression if the type suits it. -/
lemma Verb.judge_quiet_iff {verb : Verb} (h : ty.isError = false) :
    (verb.judge ty).findings loc = [] ↔ verb.Suits ty := by
  cases verb with
  | assign => simp [judge, h, Verdict.findings, Suits.assign]
  | call => simp [judge, h, Verdict.findings, Suits.call]
  | increment =>
      refine (OperandRule.judge_quiet_iff .arithmetic h).trans (Ty.isInt_iff.trans ?_)
      exact ⟨by rintro rfl; exact .increment, by rintro ⟨⟩; rfl⟩
  | decrement =>
      refine (OperandRule.judge_quiet_iff .arithmetic h).trans (Ty.isInt_iff.trans ?_)
      exact ⟨by rintro rfl; exact .decrement, by rintro ⟨⟩; rfl⟩
  | read =>
      have hsuits : Suits .read ty ↔ ty = .int ∨ ty = .bool ∨ ty = .void :=
        ⟨by rintro ⟨⟩; assumption, .read⟩
      rw [hsuits]
      cases ty <;> simp [judge, readRule, Verdict.findings, Ty.isError] at h ⊢
  | write =>
      have hsuits : Suits .write ty ↔ ty = .int ∨ ty = .bool ∨ ty = .string :=
        ⟨by rintro ⟨⟩; assumption, .write⟩
      rw [hsuits]
      cases ty <;> simp [judge, writeRule, Verdict.findings, Ty.isError] at h ⊢

lemma Guard.judge_quiet_iff (guard : Guard) (h : ty.isError = false) :
    (guard.rule.judge ty).findings loc = [] ↔ ty = .bool := by
  rw [OperandRule.judge_quiet_iff _ h]
  cases guard <;> exact Ty.isBool_iff

lemma returnRule_none_quiet_iff {ret : Ty} (hret : ret.isWritten = true) (loc : Location) :
    (returnRule ret none).findings loc = [] ↔ ret = .void := by
  cases ret with
  | int | bool | void | struct name => simp [returnRule, Verdict.findings, Ty.isVoid, Ty.isError]
  | _ => cases hret

lemma returnRule_some_quiet_iff {ret : Ty} (hret : ret.isWritten = true) (h : ty.isError = false) :
    (returnRule ret (some ty)).findings loc = [] ↔ ty = ret ∧ ret ≠ .void := by
  have herror : ret.isError = false := by
    cases ret <;> first | rfl | cases hret
  rw [← Ty.agrees_iff hret]
  cases hvoid : ret.isVoid with
  | true =>
      obtain rfl : ret = .void := by cases ret <;> first | rfl | cases hvoid
      simp [returnRule, Verdict.findings, hvoid]
  | false =>
      have hvalue : ret ≠ .void := by rintro rfl; cases hvoid
      simp only [returnRule, hvoid, h, herror, Bool.or_self, Bool.false_eq_true, if_false]
      cases ty.agrees ret <;> simp [Verdict.findings, hvalue]

end

end StructLang
