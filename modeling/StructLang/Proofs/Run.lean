import Mathlib.Tactic.Common
import StructLang.Run
import StructLang.Typing.Rules

/-!
# Runs that go on

What the primitive actions of a pass do to a run that has not halted.  Two things carry all later
statements about runs.

* `Run.after` — the run after some events.  An event is logged, and one that reports a mistake is
  counted and sent to the sink as well, so the events say all that a run leaves behind besides
  its working data: `errors_after` and `entries_after` read count and sink off the reports.
* `Pass.run_bind` — a computation after one whose outcome is known.  Chains of it execute a pass
  step by step, without unfolding the monad.
-/

namespace StructLang

/-- The mistake that an event reports, if it is a report. -/
def Event.finding? : Event → Option Finding
  | reported loc problem => some { loc, problem }
  | _ => none

/-- The mistakes that are reported among the events, in order. -/
def reports (events : List Event) : List Finding := events.filterMap Event.finding?

@[simp] lemma reports_nil : reports [] = [] := rfl

@[simp] lemma reports_append (es fs : List Event) : reports (es ++ fs) = reports es ++ reports fs :=
  List.filterMap_append

@[simp] lemma reports_cons_reported (loc : Location) (problem : Problem) (es : List Event) :
    reports (.reported loc problem :: es) = { loc, problem } :: reports es := rfl

lemma reports_cons (event : Event) (es : List Event) :
    reports (event :: es) = event.finding?.toList ++ reports es := by
  rw [reports, List.filterMap_cons]
  cases event.finding? <;> rfl

lemma reports_cons_of_none {event : Event} (h : event.finding? = none) (es : List Event) :
    reports (event :: es) = reports es := by
  rw [reports_cons, h]
  rfl

lemma reports_append_eq_nil_iff {es fs : List Event} :
    reports (es ++ fs) = [] ↔ reports es = [] ∧ reports fs = [] := by
  rw [reports_append, List.append_eq_nil_iff]

/-- Opening and closing a scope reports nothing. -/
lemma reports_inside (m n : Nat) (es : List Event) :
    reports (.opened m :: es ++ [.closed n]) = reports es := by
  rw [reports_append, reports_cons_of_none rfl, reports_cons_of_none rfl, reports_nil,
    List.append_nil]

/-- What is reported of a function: of its return type, its name, its formals and its body. -/
lemma reports_fn_eq_nil_iff {es₁ es₂ es₃ es₄ : List Event} {m n : Nat} :
    reports (es₁ ++ es₂ ++ (.opened m :: es₃ ++ es₄ ++ [.closed n])) = [] ↔
      (reports es₁ = [] ∧ reports es₂ = []) ∧ reports es₃ = [] ∧ reports es₄ = [] := by
  show reports (es₁ ++ es₂ ++ (.opened m :: (es₃ ++ es₄) ++ [.closed n])) = [] ↔ _
  rw [reports_append_eq_nil_iff, reports_append_eq_nil_iff, reports_inside,
    reports_append_eq_nil_iff]

/-- Of a struct whose name is free nothing is reported but of its fields. -/
lemma reports_struct_eq_nil_iff {es : List Event} {n : Nat} {name : String}
    {h : SymbolId} :
    reports (.opened n :: es ++ [.declaredStruct name h]) = [] ↔ reports es = [] := by
  rw [reports_append_eq_nil_iff, reports_cons_of_none rfl, reports_cons_of_none rfl, reports_nil,
    and_iff_left rfl]

/-- What the sink is told of a mistake: an error at its line and column. -/
def Finding.diagnostic (finding : Finding) : Diagnostic where
  severity := .error
  loc := { line := finding.loc.line, column := finding.loc.column }
  message := finding.problem.message

namespace Run

variable {σ : Type}

/-- The run after one more event. -/
def emit (run : Run σ) (event : Event) : Run σ :=
  match event.finding? with
  | some finding =>
    { run with
      errors := run.errors + 1
      log := run.log.push event
      sink := { entries := run.sink.entries.push finding.diagnostic } }
  | none => { run with log := run.log.push event }

/-- The run after the events, one after the other. -/
def after (run : Run σ) (events : List Event) : Run σ := events.foldl emit run

/-- The run with other working data. -/
def withWork (run : Run σ) (work : σ) : Run σ := { run with work }

@[simp] lemma after_nil (run : Run σ) : run.after [] = run := rfl

lemma after_cons (run : Run σ) (event : Event) (es : List Event) :
    run.after (event :: es) = (run.emit event).after es := rfl

@[simp] lemma after_after (run : Run σ) (es fs : List Event) :
    (run.after es).after fs = run.after (es ++ fs) := List.foldl_append.symm

@[simp] lemma work_withWork (run : Run σ) (work : σ) : (run.withWork work).work = work := rfl

@[simp] lemma halted_withWork (run : Run σ) (work : σ) :
    (run.withWork work).halted = run.halted := rfl

@[simp] lemma withWork_withWork (run : Run σ) (work work' : σ) :
    (run.withWork work).withWork work' = run.withWork work' := rfl

@[simp] lemma withWork_work (run : Run σ) : run.withWork run.work = run := rfl

@[simp] lemma halted_restart (run : Run σ) (work : σ) : (run.restart work).halted = none := rfl

lemma emit_withWork (run : Run σ) (work : σ) (event : Event) :
    (run.withWork work).emit event = (run.emit event).withWork work := by
  unfold emit
  cases event.finding? <;> rfl

@[simp] lemma after_withWork (run : Run σ) (work : σ) (es : List Event) :
    (run.withWork work).after es = (run.after es).withWork work := by
  induction es generalizing run with
  | nil => rfl
  | cons event es ih => rw [after_cons, after_cons, emit_withWork, ih]

@[simp] lemma work_after (run : Run σ) (es : List Event) : (run.after es).work = run.work := by
  induction es generalizing run with
  | nil => rfl
  | cons event es ih =>
      rw [after_cons, ih]
      unfold emit
      cases event.finding? <;> rfl

@[simp] lemma halted_after (run : Run σ) (es : List Event) :
    (run.after es).halted = run.halted := by
  induction es generalizing run with
  | nil => rfl
  | cons event es ih =>
      rw [after_cons, ih]
      unfold emit
      cases event.finding? <;> rfl

/-- Events alone leave the working data as they were. -/
lemma after_eq_withWork (run : Run σ) (es : List Event) :
    run.after es = (run.after es).withWork run.work := by
  conv_rhs => rw [← work_after run es, withWork_work]

/-- Exactly the reports are counted. -/
lemma errors_after (run : Run σ) (es : List Event) :
    (run.after es).errors = run.errors + (reports es).length := by
  induction es generalizing run with
  | nil => rfl
  | cons event es ih =>
      rw [after_cons, ih, reports_cons, emit]
      cases event.finding? with
      | none => rfl
      | some finding =>
          simp only [Option.toList_some, List.singleton_append, List.length_cons]
          omega

/-- Exactly the reports reach the sink, in order and as errors. -/
lemma entries_after (run : Run σ) (es : List Event) :
    (run.after es).sink.entries.toList =
      run.sink.entries.toList ++ (reports es).map Finding.diagnostic := by
  induction es generalizing run with
  | nil => simp
  | cons event es ih =>
      rw [after_cons, ih, reports_cons, emit]
      cases event.finding? with
      | none => rfl
      | some finding => simp

/-- Exactly the events are logged, in order. -/
lemma log_after (run : Run σ) (es : List Event) :
    (run.after es).log.toList = run.log.toList ++ es := by
  induction es generalizing run with
  | nil => simp
  | cons event es ih =>
      rw [after_cons, ih, emit]
      cases event.finding? <;> simp

end Run

namespace Pass

variable {σ α β : Type}

/-- **Executing step by step.**  If the outcome of the first computation is known, the second one
goes on from there. -/
lemma run_bind {x : Pass σ α} {f : α → Pass σ β} {s t : Run σ} {a : α} (h : x.run s = (a, t)) :
    (x >>= f).run s = (f a).run t := by
  rw [StateT.run_bind, h]
  rfl

lemma run_return (a : α) (s : Run σ) : (pure a : Pass σ α).run s = (a, s) := rfl

lemma run_get (s : Run σ) : (get : Pass σ (Run σ)).run s = (s, s) := rfl

lemma run_modify (f : Run σ → Run σ) (s : Run σ) :
    (modify f : Pass σ Unit).run s = ((), f s) := rfl

/-! ### Primitive actions of a run that goes on -/

variable {s : Run σ}

lemma run_act (live : s.halted = none) (f : Run σ → Run σ) : (act f).run s = ((), f s) := by
  rw [act, StateT.run_modify, Run.act, live]
  rfl

lemma run_update (live : s.halted = none) (f : σ → σ) :
    (update f).run s = ((), s.withWork (f s.work)) := run_act live _

lemma run_report (live : s.halted = none) (loc : Location) (problem : Problem) :
    (report loc problem).run s = ((), s.after [.reported loc problem]) := run_act live _

lemma run_note (live : s.halted = none) {event : Event} (h : event.finding? = none) :
    (note event).run s = ((), s.after [event]) := by
  rw [note, run_act live, Run.after_cons, Run.after_nil, Run.emit, h]

lemma run_require_ok (a substitute : α) : (require (.ok a) substitute : Pass σ α).run s = (a, s) :=
  rfl

lemma run_raise (live : s.halted = none) (flag : Bool) : (raise flag).run s = (true, s) := by
  rw [raise, run_bind (run_get s), live, Option.isNone_none, Bool.or_true, run_return]

lemma run_require_error (live : s.halted = none) (fault : Fault) (substitute : α) :
    (require (.error fault) substitute : Pass σ α).run s =
      (substitute, { s with halted := some fault }) := run_bind (run_act live _)

/-- A slot that holds something keeps it, and the run halts. -/
lemma run_fill_of_filled {purpose : String} {slot : Slot purpose α} {old : α}
    (live : s.halted = none) (hold : slot.content = some old) (value : α) :
    (fill slot value).run s = (slot, { s with halted := some (.slotFilled purpose) }) := by
  have hfault : slot.fill value = .error (.slotFilled purpose) :=
    (Slot.fill_eq_error_iff _ _ _).2 ⟨by rw [Slot.isFilled, hold]; rfl, rfl⟩
  rw [fill, run_bind (run_get s), live]
  dsimp only
  rw [hfault, run_require_error live]

end Pass

end StructLang
