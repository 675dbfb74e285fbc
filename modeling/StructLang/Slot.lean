import StructLang.Fault

/-!
# Write-once slots

The passes over a tree do not rebuild it with more information; they fill places that were left
open for it. Such a place is a `Slot`: it starts empty, takes one value, and keeps it. Filling it
again is a fault, even with the same value, so a tree cannot be analysed twice by mistake.
-/

namespace StructLang

/-- A place for one value of type `α`. The purpose names the slot in the fault that a second
filling raises. -/
structure Slot (purpose : String) (α : Type) where
  content : Option α := none
  deriving DecidableEq

namespace Slot

variable {purpose : String} {α : Type}

def isFilled (slot : Slot purpose α) : Bool := slot.content.isSome

/-- Puts the value into an empty slot, and refuses a slot that already holds one. -/
def fill (slot : Slot purpose α) (value : α) : Except Fault (Slot purpose α) :=
  match slot.content with
  | none => .ok { content := some value }
  | some _ => .error (.slotFilled purpose)

theorem fill_eq_ok_iff (slot : Slot purpose α) (value : α) (filled : Slot purpose α) :
    slot.fill value = .ok filled ↔ slot.content = none ∧ filled = { content := some value } := by
  cases h : slot.content <;> simp [fill, h, eq_comm]

theorem fill_eq_error_iff (slot : Slot purpose α) (value : α) (fault : Fault) :
    slot.fill value = .error fault ↔ slot.isFilled = true ∧ fault = .slotFilled purpose := by
  cases h : slot.content <;> simp [fill, isFilled, h, eq_comm]

end Slot

end StructLang
