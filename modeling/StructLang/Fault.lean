import StructLang.Symbol.Id
import StructLang.Text.Quoted

/-!
# Faults

A mistake in the analysed program is a diagnostic, and the analysis goes on. A `Fault` is something
else: an invariant of the analysis itself does not hold, because a tree was handed in twice or
its slots were filled with handles of somewhere else, or a program declares more than there are
handles for. A fault ends the pass in which it occurs.
-/

namespace StructLang

/-- A misuse of a scope stack. -/
inductive ScopeFault where
  /-- An operation needs an open scope and there is none. -/
  | noScope
  /-- The innermost scope already holds the name. -/
  | duplicateName (name : String)
  deriving DecidableEq

/-- The text of a misuse. The name is quoted, so that one with odd characters can be read. -/
def ScopeFault.message : ScopeFault → String
  | noScope => "operation on an empty scope stack"
  | duplicateName name => Text.Quoted.encode name ++ " already declared in the innermost scope"

/-- A broken invariant of the analysis. -/
inductive Fault where
  | scope (cause : ScopeFault)
  /-- A slot, named by its purpose, was to be filled a second time. -/
  | slotFilled (purpose : String)
  /-- A handle that no symbol of the arena has. -/
  | dangling (id : SymbolId)
  | internal (message : String)
  deriving DecidableEq

namespace Fault

/-- The heading under which every fault is shown. -/
def heading : String := "Internal Error"

/-- What is wrong, without the heading. -/
def cause : Fault → String
  | scope cause => cause.message
  | slotFilled purpose => purpose ++ " slot filled twice"
  | dangling id => "symbol " ++ id.render ++ " is not in the arena"
  | internal message => message

/-- The text of a fault: its heading, a colon and its cause. -/
def message (fault : Fault) : String := heading ++ ": " ++ fault.cause

/-- The position is one that has no handle. -/
def overflow (index : Nat) : Fault :=
  internal ("symbol arena overflow at index " ++ toString index)

end Fault

/-- The result of a scope operation among results that can fail for other reasons too. -/
def liftScope {α : Type} : Except ScopeFault α → Except Fault α :=
  Except.mapError Fault.scope

end StructLang
