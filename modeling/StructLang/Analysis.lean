import StructLang.Naming.Program
import StructLang.Typing.Check

/-!
# Analysing a program

An analysis is name resolution over the whole program and then type checking, which can be left
out when names were wrong. It decorates the tree, reports to a sink that may hold earlier
diagnostics, and leaves a log. The table of scopes does not outlive the first pass; the symbols do,
since the handles on the tree refer to them.
-/

namespace StructLang

/-- The version of the analysis. -/
def version : String := "0.1.0"

/-- The choices of an analysis. -/
structure Config where
  /-- Check types even when names were wrong. -/
  typeCheckAfterNameErrors : Bool := true
  /-- Write the program scope to the log before it is closed. -/
  dumpScopes : Bool := false
  deriving DecidableEq

/-- Checks types in any case and writes no scopes to the log. -/
def Config.standard : Config := {}

instance : Inhabited Config := ⟨Config.standard⟩

/-- What an analysis found out. -/
structure Analysis where
  /-- All symbols of the program, which the handles on its tree denote. -/
  symbols : Arena
  nameErrors : Nat
  typeErrors : Nat
  /-- Whether type checking took place. -/
  typeChecked : Bool
  /-- Whether type checking accepted every statement. -/
  wellTyped : Bool

namespace Analysis

def errorCount (a : Analysis) : Nat := a.nameErrors + a.typeErrors

/-- Names were right, and type checking took place and accepted every statement. -/
def isOk (a : Analysis) : Bool := a.nameErrors == 0 && a.typeChecked && a.wellTyped

end Analysis

/-- All that an analysis leaves behind. Tree, sink and log are what they were when the analysis
ended, also if a fault ended it. -/
structure Analyzed where
  program : Program
  sink : Diagnostics
  log : Array Event
  result : Except Fault Analysis

/-- Resolves the names of a program and then, unless the configuration says otherwise, checks its
types. -/
def analyze (config : Config) (p : Program) (sink : Diagnostics) : Analyzed :=
  let (p, naming) := (resolveProgram config.dumpScopes p).run { work := {}, sink }
  let symbols := naming.work.symbols
  let nameErrors := naming.errors
  match naming.halted with
  | some fault => { program := p, sink := naming.sink, log := naming.log, result := .error fault }
  | none =>
    if nameErrors > 0 && !config.typeCheckAfterNameErrors then
      { program := p
        sink := naming.sink
        log := naming.log.push (.checkingSkipped nameErrors)
        result := .ok
          { symbols, nameErrors, typeErrors := 0, typeChecked := false, wellTyped := false } }
    else
      let (p, checking) := (checkProgram symbols p).run { work := true, sink := naming.sink }
      { program := p
        sink := checking.sink
        log := naming.log ++ checking.log
        result := match checking.halted with
          | some fault => .error fault
          | none => .ok
            { symbols, nameErrors, typeErrors := checking.errors, typeChecked := true,
              wellTyped := checking.work } }

end StructLang
