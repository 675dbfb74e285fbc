import Mathlib.Tactic.Common
import StructLang.Diagnostic.Excerpt

/-!
# Which line the excerpt shows

A location counts lines from one, and a source is a text in which lines have to be found first.
Endings of both kinds may be mixed, lines may be empty, and the last line may go without an ending.
A page is a source that is still taken apart into its lines; the text that it makes is taken apart
into the same lines again, so a number means the same on both.

* `Text.Page` — a source line by line, with the ending of each line.
* `Text.Page.lines_source` — the lines of its text.
* `Diagnostic.withSource_shows_line` — when a line is shown, and which.
-/

namespace StructLang

/-! ## Pages -/

namespace Text

/-- What ends a line: a line feed, alone or after a carriage return. -/
inductive LineEnd where
  | feed
  | returnFeed

def LineEnd.text : LineEnd → String
  | feed => "\n"
  | returnFeed => "\r\n"

/-- A text that stands on one line and shares no character with the ending. -/
structure Line where
  text : String
  noFeed : '\n' ∉ text.toList
  noReturn : text.toList.getLast? ≠ some '\r'

/-- A source, line by line. -/
inductive Page where
  | empty
  /-- A last line without an ending. If it were empty it would not be there. -/
  | unended (line : Line) (nonempty : line.text ≠ "")
  | ended (line : Line) (ending : LineEnd) (others : Page)

namespace Page

/-- The lines without their endings. -/
def texts : Page → List String
  | empty => []
  | unended line _ => [line.text]
  | ended line _ others => line.text :: others.texts

/-- All lines with their endings, as one text. -/
def source : Page → String
  | empty => ""
  | unended line _ => line.text
  | ended line ending others => line.text ++ ending.text ++ others.source

end Page

/-- A line and either ending in front of a text put that line in front of the text's lines. -/
lemma lines_append_ending (line : Line) (ending : LineEnd) (source : String) :
    lines (line.text ++ ending.text ++ source) = line.text :: lines source := by
  have hline : linesOfChars (line.text ++ ending.text ++ source).toList =
      line.text.toList :: linesOfChars source.toList := by
    rw [String.toList_append, String.toList_append, List.append_assoc]
    cases ending with
    | feed => exact linesOfChars_append_newline _ _ line.noFeed line.noReturn
    | returnFeed => exact linesOfChars_append_return _ _ line.noFeed
  rw [lines, hline, List.map_cons, String.ofList_toList, lines]

/-- **The text of a page has the lines of the page.** -/
lemma Page.lines_source (page : Page) : lines page.source = page.texts := by
  induction page with
  | empty => rfl
  | unended line nonempty =>
    have hne : line.text.toList ≠ [] := fun h => nonempty (String.toList_eq_nil_iff.1 h)
    rw [source, lines, linesOfChars_of_notMem _ line.noFeed hne, List.map_singleton,
      String.ofList_toList, texts]
  | ended line ending others ih => rw [source, lines_append_ending, ih, texts]

end Text

/-! ## The two parts of the long form -/

namespace Diagnostic

/-- The part that every long form has. -/
def headText (d : Diagnostic) (colored : Bool) : String :=
  String.join ((d.header colored).map (· ++ "\n"))

/-- The two lines that show a source line: the line behind its number, and the caret. -/
def context (d : Diagnostic) (colored : Bool) (text : String) : String :=
  "  " ++ Ink.blue.paint colored (toString d.loc.line.toNat) ++ " " ++ text ++
    ("\n" ++ (String.ofList (List.replicate (caretIndent d.loc).toNat ' ') ++
      Ink.red.paint colored "^" ++ "\n"))

lemma context_ne_empty (d : Diagnostic) (colored : Bool) (text : String) :
    d.context colored text ≠ "" := by
  intro h
  have hlength := congrArg String.length h
  simp [context, String.length_append] at hlength

/-- What is shown behind the number tells the line. -/
lemma context_inj {d : Diagnostic} {colored : Bool} {s t : String} :
    d.context colored s = d.context colored t ↔ s = t := by
  rw [context, context, String.append_left_inj, String.append_right_inj]

/-- The long form is the head alone, or with the context of the line that the place names. -/
lemma withSource_eq_headText_append (d : Diagnostic) (source : String) (colored : Bool) :
    d.withSource source colored =
      d.headText colored ++ ((sourceLine? d.loc source).map (d.context colored)).getD "" := by
  rw [withSource, excerpt, List.map_append, String.join_append, headText]
  cases sourceLine? d.loc source with
  | none => rfl
  | some text => simp [context, String.append_assoc]

variable {d : Diagnostic} {source : String} {colored : Bool}

lemma withSource_eq_headText_iff :
    d.withSource source colored = d.headText colored ↔ sourceLine? d.loc source = none := by
  rw [withSource_eq_headText_append]
  cases sourceLine? d.loc source with
  | none => simp
  | some text => simp [context_ne_empty]

lemma withSource_eq_context_iff {text : String} :
    d.withSource source colored = d.headText colored ++ d.context colored text ↔
      sourceLine? d.loc source = some text := by
  rw [withSource_eq_headText_append, String.append_right_inj]
  cases sourceLine? d.loc source with
  | none => simpa using (d.context_ne_empty colored text).symm
  | some line => simp [context_inj]

/-- **The excerpt shows the right line.**  The long form of a diagnostic shows a text behind the
number of its line exactly if the source has a line of that number and the text is that line; it
shows some line exactly if the number is neither zero nor beyond the last line, and otherwise the
head is all. -/
theorem withSource_shows_line (page : Text.Page) (d : Diagnostic) (colored : Bool) :
    (∀ text, d.withSource page.source colored = d.headText colored ++ d.context colored text ↔
        1 ≤ d.loc.line.toNat ∧ page.texts[d.loc.line.toNat - 1]? = some text) ∧
      ((∃ text, d.withSource page.source colored = d.headText colored ++ d.context colored text) ↔
        1 ≤ d.loc.line.toNat ∧ d.loc.line.toNat ≤ page.texts.length) ∧
      (d.withSource page.source colored = d.headText colored ↔
        ¬(1 ≤ d.loc.line.toNat ∧ d.loc.line.toNat ≤ page.texts.length)) := by
  have hsome := sourceLine?_isSome d.loc page.source
  rw [page.lines_source] at hsome
  refine ⟨fun text => ?_, ?_, ?_⟩
  · rw [withSource_eq_context_iff, sourceLine?_eq_some_iff, page.lines_source]
  · rw [← hsome, Option.isSome_iff_exists]
    exact exists_congr fun text => withSource_eq_context_iff
  · rw [withSource_eq_headText_iff, ← hsome, Option.not_isSome_iff_eq_none]

/-- Both endings, an empty line, and a last line without an ending. -/
def mixedPage : Text.Page :=
  .ended ⟨"a", by decide, by decide⟩ .returnFeed
    (.ended ⟨"", by decide, by decide⟩ .feed (.unended ⟨"b", by decide, by decide⟩ (by decide)))

/-- An error in the first column of a line. -/
def onLine (line : UInt64) : Diagnostic where
  severity := .error
  loc := { line, column := 1 }
  message := "Type mismatch"

/-- The second line is shown as empty and the third as `b`; before the first line and behind the
third there is none. -/
theorem mixedPage_shows_lines :
    mixedPage.source = "a\r\n\nb" ∧
      (onLine 2).withSource mixedPage.source false =
        "error: Type mismatch\n  --> 2:1\n  2 \n   ^\n" ∧
      (onLine 3).withSource mixedPage.source false =
        "error: Type mismatch\n  --> 3:1\n  3 b\n   ^\n" ∧
      (onLine 0).withSource mixedPage.source false = "error: Type mismatch\n  --> 0:1\n" ∧
      (onLine 4).withSource mixedPage.source false = "error: Type mismatch\n  --> 4:1\n" := by
  have second := (withSource_shows_line mixedPage (onLine 2) false).1 ""
  have third := (withSource_shows_line mixedPage (onLine 3) false).1 "b"
  have before := (withSource_shows_line mixedPage (onLine 0) false).2.2
  have beyond := (withSource_shows_line mixedPage (onLine 4) false).2.2
  refine ⟨rfl, ?_, ?_, ?_, ?_⟩
  · exact (second.2 ⟨by decide, rfl⟩).trans (by decide +kernel)
  · exact (third.2 ⟨by decide, rfl⟩).trans (by decide +kernel)
  · exact (before.2 (by decide)).trans (by decide +kernel)
  · exact (beyond.2 (by decide)).trans (by decide +kernel)

end Diagnostic

end StructLang
