import StructLang.Diagnostic.Basic
import StructLang.Text.Lines

/-!
# Diagnostics with an excerpt of the source

The long form of a diagnostic is a list of lines: the severity and the message, an arrow with the
place, and, if the source has the line that the place names, that line after its number and a
caret below it. With colours on, the severity, the arrow, the number and the caret are set in bold
colours by terminal escapes.

* `Diagnostic.sourceLine?_isSome` — there is a line to show exactly if the source has it.
-/

namespace StructLang

/-- The colours of the long form, by their terminal codes. -/
inductive Ink where
  | red
  | yellow
  | blue
  deriving DecidableEq

def Ink.code : Ink → String
  | red => "31"
  | yellow => "33"
  | blue => "34"

/-- The text in a bold colour, or as it is when colours are off. -/
def Ink.paint (ink : Ink) (colored : Bool) (text : String) : String :=
  if colored then "\x1b[1;" ++ ink.code ++ "m" ++ text ++ "\x1b[0m" else text

def Severity.ink : Severity → Ink
  | error => .red
  | warning => .yellow

namespace Diagnostic

/-- The lines that every long form has: severity and message, then an arrow and the place. -/
def header (d : Diagnostic) (colored : Bool) : List String :=
  [d.severity.ink.paint colored d.severity.label ++ ": " ++ d.message,
    "  " ++ Ink.blue.paint colored "-->" ++ " " ++ d.loc.render]

/-- How many decimal digits the number has. -/
def digitCount (n : UInt64) : Nat := (toString n.toNat).length

/-- The blanks before the caret, counted in machine words: the digits of the line number, two
more, and the columns left of the reported one. -/
def caretIndent (loc : Location) : UInt64 :=
  (digitCount loc.line).toUInt64 + 2 + (if loc.column = 0 then 0 else loc.column - 1)

/-- The source line that a place names, if the source has it. -/
def sourceLine? (loc : Location) (source : String) : Option String :=
  if loc.line = 0 then none else (Text.lines source)[loc.line.toNat - 1]?

/-- The line that the diagnostic is about, after its number, and a caret on the next line. -/
def excerpt (d : Diagnostic) (source : String) (colored : Bool) : List String :=
  match sourceLine? d.loc source with
  | none => []
  | some text =>
    ["  " ++ Ink.blue.paint colored (toString d.loc.line.toNat) ++ " " ++ text,
      String.ofList (List.replicate (caretIndent d.loc).toNat ' ') ++ Ink.red.paint colored "^"]

/-- The long form of a diagnostic: header and excerpt, each line ended by a line feed. -/
def withSource (d : Diagnostic) (source : String) (colored : Bool) : String :=
  String.join ((d.header colored ++ d.excerpt source colored).map (· ++ "\n"))

theorem sourceLine?_eq_some_iff {loc : Location} {source text : String} :
    sourceLine? loc source = some text ↔
      1 ≤ loc.line.toNat ∧ (Text.lines source)[loc.line.toNat - 1]? = some text := by
  have hzero : loc.line = 0 ↔ loc.line.toNat = 0 := by
    rw [← UInt64.toNat_inj]
    exact Iff.rfl
  by_cases h : loc.line = 0
  · have hline := hzero.1 h
    simp [sourceLine?, h]
  · have hline : 1 ≤ loc.line.toNat := Nat.one_le_iff_ne_zero.2 fun e => h (hzero.2 e)
    simp only [sourceLine?, if_neg h, hline, true_and]

theorem sourceLine?_isSome (loc : Location) (source : String) :
    (sourceLine? loc source).isSome = true ↔
      1 ≤ loc.line.toNat ∧ loc.line.toNat ≤ (Text.lines source).length := by
  simp only [Option.isSome_iff_exists, sourceLine?_eq_some_iff, exists_and_left]
  refine and_congr_right fun hline => ?_
  rw [← Option.isSome_iff_exists, Option.isSome_iff_ne_none, ne_eq, List.getElem?_eq_none_iff]
  omega

end Diagnostic

end StructLang
