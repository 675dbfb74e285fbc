import StructLang.Location

/-!
# Diagnostics and the sink that collects them

A diagnostic is a message about a place in the source, as an error or as a warning. `Diagnostics`
collects them in the order of their reports. The sink is told only line and column, so what it
holds never names a file.
-/

namespace StructLang

/-- How bad a diagnostic is. -/
inductive Severity where
  | error
  | warning
  deriving DecidableEq

/-- The word that introduces a message of this severity. -/
def Severity.label : Severity → String
  | error => "error"
  | warning => "warning"

/-- A message about a place in the source. -/
structure Diagnostic where
  severity : Severity
  loc : Location
  message : String
  deriving DecidableEq

namespace Diagnostic

def isError (d : Diagnostic) : Bool := d.severity = .error

/-- The diagnostic on one line: place, severity, message. -/
def render (d : Diagnostic) : String :=
  d.loc.render ++ ": " ++ d.severity.label ++ ": " ++ d.message

end Diagnostic

/-- Diagnostics in the order of their reports. -/
structure Diagnostics where
  entries : Array Diagnostic := #[]
  deriving DecidableEq, Inhabited

namespace Diagnostics

def empty : Diagnostics := {}

/-- Adds a diagnostic of the given severity at a line and column. -/
def report (sink : Diagnostics) (severity : Severity) (line column : UInt64)
    (message : String) : Diagnostics :=
  { entries := sink.entries.push { severity, loc := { line, column }, message } }

/-- Reports an error. It does not stop anything. -/
def fatal (sink : Diagnostics) (line column : UInt64) (message : String) : Diagnostics :=
  sink.report .error line column message

/-- Reports a warning. -/
def warn (sink : Diagnostics) (line column : UInt64) (message : String) : Diagnostics :=
  sink.report .warning line column message

def size (sink : Diagnostics) : Nat := sink.entries.size

def isEmpty (sink : Diagnostics) : Bool := sink.entries.isEmpty

def errorCount (sink : Diagnostics) : Nat := sink.entries.countP Diagnostic.isError

/-- All that is not an error is a warning. -/
def warningCount (sink : Diagnostics) : Nat := sink.size - sink.errorCount

def hasErrors (sink : Diagnostics) : Bool := sink.entries.any Diagnostic.isError

/-- The texts alone. -/
def messages (sink : Diagnostics) : Array String := sink.entries.map (·.message)

/-- What the sink holds beyond its first `n` diagnostics. -/
def since (sink : Diagnostics) (n : Nat) : Array Diagnostic := sink.entries.extract n

@[simp] theorem entries_report (sink : Diagnostics) (severity : Severity) (line column : UInt64)
    (message : String) :
    (sink.report severity line column message).entries =
      sink.entries.push { severity, loc := { line, column }, message } := rfl

theorem errorCount_fatal (sink : Diagnostics) (line column : UInt64) (message : String) :
    (sink.fatal line column message).errorCount = sink.errorCount + 1 := by
  simp [fatal, errorCount, Diagnostic.isError]

theorem errorCount_warn (sink : Diagnostics) (line column : UInt64) (message : String) :
    (sink.warn line column message).errorCount = sink.errorCount := by
  simp [warn, errorCount, Diagnostic.isError]

end Diagnostics

end StructLang
