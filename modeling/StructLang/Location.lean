/-!
# Source locations

A place in a source text: line and column, both counted from one, and the file if it is known.
The counters are machine words, since they come from whatever produced the tree. Zero is allowed
and stands for no place at all.
-/

namespace StructLang

/-- A line and a column, both counted from one, and the name of the file if there is one. -/
structure Location where
  line : UInt64
  column : UInt64
  file : Option String := none
  deriving DecidableEq

namespace Location

/-- Line and column zero, which no text has. -/
def nowhere : Location := { line := 0, column := 0 }

instance : Inhabited Location := ⟨nowhere⟩

/-- The text `line:column`, after `file:` if there is a file. An empty file name still shows its
colon. -/
def render (loc : Location) : String :=
  let place := toString loc.line.toNat ++ ":" ++ toString loc.column.toNat
  match loc.file with
  | some file => file ++ ":" ++ place
  | none => place

end Location

end StructLang
