import StructLang.Diagnostic.Basic
import StructLang.Event
import StructLang.Fault
import StructLang.Slot

/-!
# Runs of a pass

A pass over a tree reports mistakes, logs events and fills slots, and it may meet a fault, which
ends it on the spot. What was done until then stays visible: the diagnostics, the log and the slots
that were filled. So a fault is not an exception here that would take the tree along. It is part of
the state: a run that has met one is *halted*, and from then on every primitive action leaves the
run, and the slot or flag it is applied to, as they are. A pass is written as if nothing could go
wrong, and stops by itself.

* `Run` — the state of a run: the working data of the pass, the sink, the log, the count of errors
  and the fault that halted it, if any.
* `Pass` — a computation on that state, built from `report`, `note`, `update`, `require`, `fill`
  and `raise`.
-/

namespace StructLang

/-- The state of a run, whose own working data is of type `σ`. -/
structure Run (σ : Type) where
  work : σ
  sink : Diagnostics
  /-- The number of errors reported so far. -/
  errors : Nat := 0
  log : Array Event := #[]
  /-- The first fault that the run met. -/
  halted : Option Fault := none

namespace Run

variable {σ : Type}

/-- Does something to the state, unless the run has halted. -/
def act (f : Run σ → Run σ) (run : Run σ) : Run σ :=
  match run.halted with
  | none => f run
  | some _ => run

/-- The state from which the same pass goes over another tree: counts, sink and log go on, and an
earlier fault is forgotten. -/
def restart (work : σ) (run : Run σ) : Run σ := { run with work, halted := none }

/-- How the run ended. -/
def outcome (run : Run σ) : Except Fault Unit :=
  match run.halted with
  | none => .ok ()
  | some fault => .error fault

theorem act_of_halted {f : Run σ → Run σ} {run : Run σ} (h : run.halted.isSome = true) :
    run.act f = run := by
  obtain ⟨fault, hf⟩ := Option.isSome_iff_exists.1 h
  simp [act, hf]

end Run

/-- A computation in a run. -/
abbrev Pass (σ : Type) := StateM (Run σ)

namespace Pass

variable {σ : Type}

/-- Does something to the state, unless the run has halted. -/
def act (f : Run σ → Run σ) : Pass σ Unit := modify (Run.act f)

/-- The working data of the pass. -/
def work : Pass σ σ := do return (← get).work

/-- Changes the working data. -/
def update (f : σ → σ) : Pass σ Unit := act fun run => { run with work := f run.work }

/-- Adds an event to the log. -/
def note (event : Event) : Pass σ Unit := act fun run => { run with log := run.log.push event }

/-- Reports a mistake at a place: it is counted, logged, and sent to the sink as an error at the
place's line and column. -/
def report (loc : Location) (problem : Problem) : Pass σ Unit :=
  act fun run =>
    { run with
      errors := run.errors + 1
      log := run.log.push (.reported loc problem)
      sink := run.sink.fatal loc.line loc.column problem.message }

/-- Halts the run. -/
def halt (fault : Fault) : Pass σ Unit := act fun run => { run with halted := some fault }

/-- The answer, if there is one; otherwise the run halts and goes on with a substitute, which then
has no effect on anything. -/
def require {α : Type} (answer : Except Fault α) (substitute : α) : Pass σ α :=
  match answer with
  | .ok value => return value
  | .error fault => do
    halt fault
    return substitute

/-- Fills a slot. A run that has halted leaves the slot as it is, and filling a slot that is not
empty halts the run. -/
def fill {purpose : String} {α : Type} (slot : Slot purpose α) (value : α) :
    Pass σ (Slot purpose α) := do
  match (← get).halted with
  | none => require (slot.fill value) slot
  | some _ => return slot

/-- The flag raised, or as it is if the run has halted. -/
def raise (flag : Bool) : Pass σ Bool := do
  return flag || (← get).halted.isNone

/-! ### Halted runs

Every primitive leaves a halted run alone, and what it is applied to as well. `report`, `note`,
`update` and `halt` are all `act`.
-/

theorem run_act_of_halted {run : Run σ} (h : run.halted.isSome = true) (f : Run σ → Run σ) :
    (act f).run run = ((), run) := by
  rw [act, StateT.run_modify, Run.act_of_halted h]
  rfl

theorem run_require_of_halted {α : Type} {run : Run σ} (h : run.halted.isSome = true)
    (answer : Except Fault α) (substitute : α) :
    ((require answer substitute).run run).2 = run := by
  cases answer with
  | ok value => rfl
  | error fault => exact congrArg Prod.snd (run_act_of_halted h _)

theorem run_fill_of_halted {purpose : String} {α : Type} {run : Run σ}
    (h : run.halted.isSome = true) (slot : Slot purpose α) (value : α) :
    (fill slot value).run run = (slot, run) := by
  obtain ⟨fault, hf⟩ := Option.isSome_iff_exists.1 h
  simp only [fill, StateT.run_bind, StateT.run_get, pure_bind, hf]
  rfl

theorem run_raise_of_halted {run : Run σ} (h : run.halted.isSome = true) (flag : Bool) :
    (raise flag).run run = (flag, run) := by
  obtain ⟨fault, hf⟩ := Option.isSome_iff_exists.1 h
  simp only [raise, StateT.run_bind, StateT.run_get, pure_bind, hf]
  exact congrArg (·, run) (Bool.or_false flag)

/-- In a run that goes on, an empty slot takes the value. -/
theorem run_fill_of_empty {purpose : String} {α : Type} {run : Run σ} (live : run.halted = none)
    {slot : Slot purpose α} (empty : slot.content = none) (value : α) :
    (fill slot value).run run = ({ content := some value }, run) := by
  simp only [fill, StateT.run_bind, StateT.run_get, pure_bind, live, Slot.fill, empty]
  rfl

end Pass

end StructLang
