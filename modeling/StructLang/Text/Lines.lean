/-!
# Lines of a text

A line ends at a line feed; one carriage return directly before it belongs to the ending. What
follows the last line feed is a line only if it is not empty, and it keeps a carriage return at
its end, since that ends no line. No other character separates lines.

* `linesOfChars_append_newline`, `linesOfChars_append_return` — a line and its ending in front of a
  text put that line in front of the text's lines.
* `linesOfChars_of_notMem` — a last line needs no ending.
-/

namespace StructLang.Text

/-- Puts a character at the start of the first line, which is a new one if there is none. -/
def onFirstLine (c : Char) : List (List Char) → List (List Char)
  | [] => [[c]]
  | line :: rest => (c :: line) :: rest

/-- The lines of a text given by its characters. -/
def linesOfChars : List Char → List (List Char)
  | [] => []
  | c :: cs =>
    if c = '\n' then [] :: linesOfChars cs
    else if c = '\r' ∧ cs.head? = some '\n' then linesOfChars cs
    else onFirstLine c (linesOfChars cs)

/-- The lines of a text, without their endings. -/
def lines (source : String) : List String :=
  (linesOfChars source.toList).map String.ofList

/-- Characters without a line feed go onto the first line of what follows them, unless a carriage
return at their end belongs to a line feed there. -/
theorem linesOfChars_append (line rest : List Char) (feed : '\n' ∉ line)
    (apart : line.getLast? = some '\r' → rest.head? ≠ some '\n') :
    linesOfChars (line ++ rest) = line.foldr onFirstLine (linesOfChars rest) := by
  induction line with
  | nil => rfl
  | cons c cs ih =>
    have hc : c ≠ '\n' := fun h => feed (by simp [h])
    have hcs : '\n' ∉ cs := fun h => feed (by simp [h])
    have hret : ¬(c = '\r' ∧ (cs ++ rest).head? = some '\n') := by
      rintro ⟨rfl, h⟩
      cases cs with
      | nil => exact apart rfl h
      | cons d ds =>
        have hd : d = '\n' := Option.some.inj h
        exact hcs (by simp [hd])
    have hapart : cs.getLast? = some '\r' → rest.head? ≠ some '\n' := by
      cases cs with
      | nil => simp
      | cons d ds => simpa [List.getLast?_cons_cons] using apart
    rw [List.cons_append, linesOfChars, if_neg hc, if_neg hret, ih hcs hapart, List.foldr_cons]

theorem foldr_onFirstLine (line first : List Char) (rest : List (List Char)) :
    line.foldr onFirstLine (first :: rest) = (line ++ first) :: rest := by
  induction line with
  | nil => rfl
  | cons c cs ih => rw [List.foldr_cons, ih, List.cons_append, onFirstLine]

/-- A line without a line feed or a final carriage return is what the next line feed ends. -/
theorem linesOfChars_append_newline (line rest : List Char) (feed : '\n' ∉ line)
    (ret : line.getLast? ≠ some '\r') :
    linesOfChars (line ++ '\n' :: rest) = line :: linesOfChars rest := by
  rw [linesOfChars_append line _ feed fun h => absurd h ret, linesOfChars, if_pos rfl,
    foldr_onFirstLine, List.append_nil]

/-- One carriage return belongs to the ending, whatever the line ends with. -/
theorem linesOfChars_append_return (line rest : List Char) (feed : '\n' ∉ line) :
    linesOfChars (line ++ '\r' :: '\n' :: rest) = line :: linesOfChars rest := by
  have hreturn : linesOfChars ('\r' :: '\n' :: rest) = [] :: linesOfChars rest := by
    simp [linesOfChars]
  rw [linesOfChars_append line _ feed fun _ => by simp, hreturn, foldr_onFirstLine,
    List.append_nil]

/-- What no line feed ends is a line if it is not empty. -/
theorem linesOfChars_of_notMem (line : List Char) (feed : '\n' ∉ line) (nonempty : line ≠ []) :
    linesOfChars line = [line] := by
  have h := linesOfChars_append line [] feed fun _ => by simp
  rw [List.append_nil] at h
  rw [h, ← List.dropLast_concat_getLast nonempty, List.foldr_append]
  exact foldr_onFirstLine line.dropLast [line.getLast nonempty] []

end StructLang.Text
