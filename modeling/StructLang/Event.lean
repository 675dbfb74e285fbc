import StructLang.Diagnostic.Problem
import StructLang.Location
import StructLang.Symbol.Id

/-!
# Events

A run can be watched: beside the diagnostics for the user it leaves a log of what it did. The log
holds events, not text, so that statements about a run can be made on it; `Event.render` gives the
line that a reader sees.
-/

namespace StructLang

/-- How much detail an event belongs to. -/
inductive Level where
  | info
  | debug
  | trace
  deriving DecidableEq

def Level.render : Level → String
  | info => "INFO"
  | debug => "DEBUG"
  | trace => "TRACE"

/-- Something that happened in a run. -/
inductive Event where
  /-- Name resolution of so many declarations begins. -/
  | namingStarted (decls : Nat)
  /-- A scope was opened, which makes so many in its stack. -/
  | opened (depth : Nat)
  /-- A scope was closed, which leaves so many in its stack. -/
  | closed (depth : Nat)
  | reported (loc : Location) (problem : Problem)
  /-- A variable, formal or field was declared and its identifier bound. -/
  | declared (name : String) (id : SymbolId)
  | declaredStruct (name : String) (id : SymbolId)
  /-- The use of a plain name or a callee was bound. -/
  | bound (name : String) (loc : Location) (id : SymbolId)
  | boundField (name : String) (loc : Location) (id : SymbolId)
  /-- The open scopes were written out. -/
  | scopes (listing : String)
  /-- Name resolution has ended, with the symbols and errors counted so far. -/
  | namingFinished (symbols errors : Nat)
  /-- Type checking does not take place because of so many errors in names. -/
  | checkingSkipped (errors : Nat)
  | checkingStarted
  /-- Type checking has ended, with the errors counted so far. -/
  | checkingFinished (errors : Nat)
  deriving DecidableEq

namespace Event

def level : Event → Level
  | namingStarted _ | namingFinished _ _ | checkingSkipped _ | checkingStarted
  | checkingFinished _ => .info
  | opened _ | closed _ | reported _ _ | scopes _ => .debug
  | declared _ _ | declaredStruct _ _ | bound _ _ _ | boundField _ _ _ => .trace

def text : Event → String
  | namingStarted decls => "name resolution: " ++ toString decls ++ " top-level declarations"
  | opened depth => "pushed scope, depth " ++ toString depth
  | closed depth => "popped scope, depth " ++ toString depth
  | reported loc problem => loc.render ++ ": " ++ problem.message
  | declared name id => "declared " ++ name ++ " as " ++ id.render
  | declaredStruct name id => "declared struct " ++ name ++ " as " ++ id.render
  | bound name loc id => "bound " ++ name ++ " at " ++ loc.render ++ " to " ++ id.render
  | boundField name loc id =>
    "bound field " ++ name ++ " at " ++ loc.render ++ " to " ++ id.render
  | scopes listing => listing
  | namingFinished symbols errors =>
    "name resolution finished: " ++ toString symbols ++ " symbols, " ++ toString errors ++
      " errors"
  | checkingSkipped errors =>
    "skipping type checking after " ++ toString errors ++ " name errors"
  | checkingStarted => "type checking started"
  | checkingFinished errors => "type checking finished: " ++ toString errors ++ " errors"

/-- The line of the log: level and text. -/
def render (event : Event) : String := event.level.render ++ " " ++ event.text

end Event

end StructLang
