import Mathlib.Tactic.Common
import StructLang.Proofs.Inspections
import StructLang.Proofs.Verdict
import StructLang.Tree.Build

/-!
# Errors are not reported again

An expression that is an error has been reported, and what holds it should have nothing more to say
about it.  The tables of objections have a line for that, with one exception: a `return` in a
function that returns nothing objects to its value before it looks at it.

* `Inspection.Lenient` — what has nothing to say about an error, as the tables have it.
* `Site.finding_of_error` — whatever inspects an error finds nothing, but for that one point.
* `errors_reported_only_by_void_return` — the same for whole analyses, where every expression is
  inspected somewhere, and the inspections are all that type checking reports.
* `undeclaredValue_is_reported_twice` — the exception.
-/

namespace StructLang

/-! ## Objections to errors -/

section

variable (ty : Ty)

lemma Ty.objection_error (problem : Problem) : Ty.objection problem ty .error = none := by
  cases ty <;> rfl

lemma Ty.assignObjection_error : ty.assignObjection .error = none := by cases ty <;> rfl

lemma Ty.equalityObjection_error : ty.equalityObjection .error = none := by cases ty <;> rfl

lemma Ty.returnObjection_error (h : ty.isVoid = false) :
    ty.returnObjection (some .error) = none := by
  cases ty with
  | void => cases h
  | _ => rfl

lemma Verb.objection_error (verb : Verb) : verb.objection .error = none := by cases verb <;> rfl

lemma UnaryOp.objection_error (op : UnaryOp) : op.objection .error = none := by cases op <;> rfl

end

/-! ## Inspections of errors -/

/-- The problems that are found without looking at an operand: with a callee, with a number of
arguments, with a value that is missing. -/
def Problem.unattended : List Problem := [.callNonFn, .argCount, .missingValue]

/-- The inspection is of one expression or of two and has nothing to say if one of them is an error,
or it is of none and finds no more than those problems. -/
inductive Inspection.Lenient : Inspection → Prop
  | one (e : Expr) (objection : Ty → Option Problem) (excuses : objection .error = none) :
      Lenient (e.inspected objection)
  | two (left right : Expr) {loc : Location} {objection : Ty → Ty → Option Problem}
      (excusesLeft : ∀ ty, objection .error ty = none)
      (excusesRight : ∀ ty, objection ty .error = none) :
      Lenient ⟨[left, right], loc, objection left.ty right.ty⟩
  | unattended {loc : Location} {problem? : Option Problem}
      (only : ∀ problem, problem? = some problem → problem ∈ Problem.unattended) :
      Lenient ⟨[], loc, problem?⟩

namespace Inspection.Lenient

variable {i : Inspection}

lemma problem_of_error (h : i.Lenient) {e : Expr} (he : e ∈ i.subjects) (hty : e.ty = .error) :
    i.problem? = none := by
  cases h with
  | one e' objection excuses =>
      obtain rfl := List.mem_singleton.1 he
      exact (congrArg _ hty).trans excuses
  | @two left right loc objection excusesLeft excusesRight =>
      rcases List.mem_pair.1 he with rfl | rfl
      · exact (congrArg (objection · _) hty).trans (excusesLeft _)
      · exact (congrArg (objection _) hty).trans (excusesRight _)
  | unattended only => cases he

lemma problem_of_nil (h : i.Lenient) (hnil : i.subjects = []) {problem : Problem}
    (hproblem : i.problem? = some problem) : problem ∈ Problem.unattended := by
  cases h with
  | one e objection excuses => cases hnil
  | two left right excusesLeft excusesRight => cases hnil
  | unattended only => exact only problem hproblem

end Inspection.Lenient

open Inspection

/-- The same table for each of some expressions. -/
lemma lenient_map (objection : Ty → Option Problem) (h : objection .error = none)
    (es : List Expr) : ∀ i ∈ es.map (·.inspected objection), i.Lenient := by
  rw [List.forall_mem_map]
  exact fun e _ => .one e objection h

lemma Family.inspections_lenient (family : Family) (left right : Expr) :
    ∀ i ∈ family.inspections left right, i.Lenient := by
  cases family with
  | arithmetic | logical | relational => exact lenient_map _ (Ty.objection_error _ _) _
  | equality =>
      exact List.forall_mem_singleton.2 (.two left right (fun _ => rfl) Ty.equalityObjection_error)

lemma Ident.argInspections_lenient (callee : Ident) (args : List Expr) (ty : Ty) :
    ∀ i ∈ callee.argInspections args ty, i.Lenient := by
  have hunasked := lenient_map (fun _ => none) rfl args
  cases ty with
  | fn params ret =>
      simp only [argInspections]
      split
      next =>
        rw [← List.map_uncurry_zip_eq_zipWith, List.forall_mem_map]
        exact fun pair _ => .one pair.1 _ (Ty.objection_error _ _)
      next =>
        refine List.forall_mem_cons.2 ⟨.unattended fun problem h => ?_, hunasked⟩
        obtain rfl := Option.some.inj h
        decide
  | _ => exact hunasked

/-- The rule for an expression has nothing to say about an error among its operands. -/
lemma Expr.inspections_lenient (A : Arena) (e : Expr) : ∀ i ∈ e.inspections A, i.Lenient := by
  cases e with
  | lit value note | name id note => exact fun i hi => (List.not_mem_nil hi).elim
  | dot base field failed note => exact List.forall_mem_singleton.2 (.one base _ rfl)
  | assign target value note =>
      exact List.forall_mem_singleton.2 (.two target value (fun _ => rfl) Ty.assignObjection_error)
  | call callee args note => exact callee.argInspections_lenient args _
  | unary op operand note =>
      exact List.forall_mem_singleton.2 (.one operand _ op.objection_error)
  | binary op left right note => exact op.family.inspections_lenient left right

namespace Site

/-- The point is a `return` of a value in a function that returns nothing. -/
def returnsFromVoid : Site → Bool
  | ret .void (some _) _ => true
  | _ => false

/-- Everywhere but at such a point, inspections are lenient. -/
lemma inspections_lenient (A : Arena) {site : Site} (h : site.returnsFromVoid = false) :
    ∀ i ∈ site.inspections A, i.Lenient := by
  cases site with
  | callee id =>
      refine List.forall_mem_singleton.2 (.unattended fun problem hproblem => ?_)
      cases hty : id.typeIn A <;> rw [hty] at hproblem <;> cases hproblem <;> decide
  | expr e => exact e.inspections_lenient A
  | simple verb e => exact List.forall_mem_singleton.2 (.one e _ verb.objection_error)
  | condition guard cond => exact List.forall_mem_singleton.2 (.one cond _ (Ty.objection_error _ _))
  | ret ty value loc =>
      refine List.forall_mem_singleton.2 ?_
      cases value with
      | none =>
          refine .unattended fun problem hproblem => ?_
          cases ty <;> cases hproblem <;> decide
      | some value =>
          have hvoid : ty.isVoid = false := by
            cases ty with
            | void => cases h
            | _ => rfl
          exact .one value (fun t => ty.returnObjection (some t)) (ty.returnObjection_error hvoid)

/-- At such a point the value is objected to, whatever it is. -/
lemma inspections_returnsFromVoid (A : Arena) {site : Site} (h : site.returnsFromVoid = true) :
    ∃ e, site.inspections A = [⟨[e], e.loc, some .valueFromVoid⟩] := by
  unfold returnsFromVoid at h
  split at h
  · exact ⟨_, rfl⟩
  · cases h

/-- **What a point says of an error** among its expressions: nothing, unless the error is returned
from a function that returns nothing. -/
theorem finding_of_error (A : Arena) (site : Site) {i : Inspection} (hi : i ∈ site.inspections A)
    {e : Expr} (he : e ∈ i.subjects) (hty : e.ty = .error) :
    i.finding? =
      if site.returnsFromVoid then some { loc := e.loc, problem := .valueFromVoid } else none := by
  cases hreturns : site.returnsFromVoid with
  | false =>
      rw [Inspection.finding?, (inspections_lenient A hreturns i hi).problem_of_error he hty]
      rfl
  | true =>
      obtain ⟨value, hvalue⟩ := inspections_returnsFromVoid A hreturns
      rw [hvalue] at hi
      obtain rfl := List.mem_singleton.1 hi
      obtain rfl := List.mem_singleton.1 he
      rfl

/-- What a point says without looking at an expression. -/
theorem problem_of_nil (A : Arena) (site : Site) {i : Inspection} (hi : i ∈ site.inspections A)
    (hnil : i.subjects = []) {f : Finding} (hf : i.finding? = some f) :
    f.problem ∈ Problem.unattended := by
  cases hreturns : site.returnsFromVoid with
  | false =>
      obtain ⟨problem, hproblem, rfl⟩ := Option.map_eq_some_iff.1 hf
      exact (inspections_lenient A hreturns i hi).problem_of_nil hnil hproblem
  | true =>
      obtain ⟨value, hvalue⟩ := inspections_returnsFromVoid A hreturns
      rw [hvalue] at hi
      obtain rfl := List.mem_singleton.1 hi
      cases hnil

end Site

/-! ## Analyses -/

/-- **Errors are not reported again, except when they are returned from a function that returns
nothing.**  What an analysis of a program in which nothing was filled reports, if it checks types,
is what is wrong with its names, and then what is found at the points of its tree.  Every expression
stands at exactly one of them, and whatever is inspected there is inspected once.  An inspection of
an error finds nothing, unless the error is the value of such a `return`, which is always reported.
An inspection of no expression finds no more than a callee that is no function, a wrong number of
arguments, or a missing value. -/
theorem errors_reported_only_by_void_return (config : Config) {p : Program} (h : p.Unfilled)
    (sink : Diagnostics) :
    let R := analyze config p sink
    ∃ a, R.result = .ok a ∧ (a.typeChecked = true →
      (∃ names : List Finding, names.length = a.nameErrors ∧
        Told sink R.sink (names ++ R.program.sites.flatMap (Site.findings a.symbols))) ∧
      (R.program.sites.flatMap Site.operands).Perm R.program.exprs ∧
      ∀ site ∈ R.program.sites,
        (site.inspections a.symbols).flatMap Inspection.subjects = site.operands ∧
        ∀ i ∈ site.inspections a.symbols,
          (∀ e ∈ i.subjects, e.ty? = some .error → i.finding? =
            if site.returnsFromVoid then some { loc := e.loc, problem := .valueFromVoid }
            else none) ∧
          (i.subjects = [] → ∀ f, i.finding? = some f → f.problem ∈ Problem.unattended)) := by
  intro R
  cases analyze_explained config h sink with
  | skipped rule wrong skips program told result logged =>
      exact ⟨_, result, fun hchecked => absurd hchecked Bool.false_ne_true⟩
  | @checked named w es rule checks program told result logged =>
      rw [R.program.complaints_findings] at told
      refine ⟨_, result, fun _ => ⟨⟨_, rfl, told⟩, R.program.operands_perm, fun site _ =>
        ⟨site.subjects_inspections _, fun i hi => ⟨fun e he hty => ?_, fun hnone f hf => ?_⟩⟩⟩⟩
      · exact site.finding_of_error _ hi he (congrArg (·.getD .error) hty)
      · exact site.problem_of_nil _ hi hnone hf

/-- The function `main` works with a name that is not declared: it counts it up, writes out its
negation, and takes its sum with a truth value for a condition. -/
def undeclaredOperands : Program :=
  let x := Expr.use (.unbound "x" .nowhere)
  { decls := [.fn
      { ret := .void
        id := .unbound "main" .nowhere
        formals := []
        body := .mk []
          [.simple .increment x,
          .simple .write (.applyUnary .neg x .nowhere),
          .guarded .branch (.applyBinary .add x (.literal (.bool true) .nowhere)) (.mk [] [])] }] }

/-- Beside the name, three times, only the truth value is reported, which is no error. -/
theorem undeclaredOperands_are_reported_once :
    let R := analyze .standard undeclaredOperands {}
    undeclaredOperands.Unfilled ∧
      (reports R.log.toList).map Finding.problem =
        [.undeclared, .undeclared, .undeclared, .arithmeticOperand] ∧
      ∃ a, R.result = .ok a ∧ a.typeChecked = true ∧ ∀ site ∈ R.program.sites,
        ∀ i ∈ site.inspections a.symbols, ∀ e ∈ i.subjects, e.ty? = some .error →
          i.finding? = none := by
  intro R
  have hunfilled : undeclaredOperands.Unfilled := ⟨by decide, by decide, by decide⟩
  have hchecks : R.result.toOption.any (·.typeChecked) = true := by decide +kernel
  have hreturns : R.program.sites.all (fun site => !site.returnsFromVoid) = true := by
    decide +kernel
  obtain ⟨a, result, hrest⟩ := errors_reported_only_by_void_return .standard hunfilled {}
  obtain ⟨b, result', hchecked⟩ := exists_of_any hchecks
  obtain rfl := Except.ok.inj (result.symm.trans result')
  refine ⟨hunfilled, by decide +kernel, a, result, hchecked, fun site hsite i hi e he hty => ?_⟩
  obtain ⟨-, -, hsites⟩ := hrest hchecked
  have hnot : site.returnsFromVoid = false := by
    simpa using List.all_eq_true.1 hreturns site hsite
  rw [((hsites site hsite).2 i hi).1 e he hty, hnot]
  rfl

/-- The function `main` returns a name that is not declared, and should return nothing. -/
def undeclaredValue : Program where
  decls := [.fn
    { ret := .void
      id := .unbound "main" { line := 1, column := 6 }
      formals := []
      body := .mk [] [.ret (some (.use (.unbound "x" { line := 1, column := 22 })))
        { line := 1, column := 15 }] }]

/-- The name is reported, and then the value once more, although it is an error. -/
theorem undeclaredValue_is_reported_twice :
    let R := analyze .standard undeclaredValue {}
    undeclaredValue.Fresh ∧ R.result.toOption.any (·.typeChecked) = true ∧
      (∃ site ∈ R.program.sites, site.returnsFromVoid = true ∧
        ∃ e ∈ site.operands, e.ty? = some .error ∧
          { loc := e.loc, problem := .valueFromVoid } ∈ reports R.log.toList) ∧
      reports R.log.toList =
        [{ loc := { line := 1, column := 22 }, problem := .undeclared },
          { loc := { line := 1, column := 22 }, problem := .valueFromVoid }] := by
  intro R
  have hsite : R.program.sites.any (fun site => site.returnsFromVoid &&
      site.operands.any fun e => e.ty?.any Ty.isError &&
        decide ({ loc := e.loc, problem := .valueFromVoid } ∈ reports R.log.toList)) = true := by
    decide +kernel
  refine ⟨⟨⟨by decide, by decide, by decide⟩, by decide⟩, by decide +kernel, ?_, by decide +kernel⟩
  obtain ⟨site, hmem, hsite⟩ := List.any_eq_true.1 hsite
  obtain ⟨hreturns, hoperands⟩ := Bool.and_eq_true_iff.1 hsite
  obtain ⟨e, he, hvalue⟩ := List.any_eq_true.1 hoperands
  simp only [Bool.and_eq_true, Option.any_eq_true, decide_eq_true_eq] at hvalue
  obtain ⟨⟨ty, hty, herror⟩, hreported⟩ := hvalue
  obtain rfl := Ty.isError_iff.1 herror
  exact ⟨site, hmem, hreturns, e, he, hty, hreported⟩

end StructLang
