import StructLang.Proofs.Overflow

/-!
# Where the caret stands

The excerpt of a diagnostic shows a source line behind a gutter, and under it a caret that is moved
to the right by a count of its own.  The gutter is two blanks, the line number and one more blank;
the count has the digits of the number and two.  So the caret stands one column to the left of the
reported one, whatever the line and the column are.

* `Diagnostic.withSource_eq` — the two lines of the excerpt.
* `Diagnostic.toNat_caretIndent` — the count, which is a machine word.
* `Diagnostic.caret_stands_left` — where the caret is, and where the reported column is.
-/

namespace StructLang.Diagnostic

/-- What stands in front of the source line, without colours. -/
def gutter (loc : Location) : String := "  " ++ toString loc.line.toNat ++ " "

/-- The line with the caret, without colours. -/
def caretLine (loc : Location) : String :=
  String.ofList (List.replicate (caretIndent loc).toNat ' ') ++ "^"

/-- The offset, in the line that is printed, of the column that the place names. -/
def columnOffset (loc : Location) : Nat := (gutter loc).length + (loc.column.toNat - 1)

lemma length_gutter (loc : Location) : (gutter loc).length = digitCount loc.line + 3 := by
  have htwo : "  ".length = 2 := rfl
  have hone : " ".length = 1 := rfl
  rw [gutter, String.length_append, String.length_append, htwo, hone, digitCount]
  omega

/-- The blanks before the caret, if the place has a column. -/
lemma toNat_caretIndent {loc : Location} (h : 1 ≤ loc.column.toNat) :
    (caretIndent loc).toNat = (digitCount loc.line + 1 + loc.column.toNat) % UInt64.size := by
  have hexact : exactIndent loc = digitCount loc.line + 1 + loc.column.toNat := by
    rw [exactIndent]
    omega
  rw [toNat_caretIndent_eq_mod, hexact]

/-- The long form without colours, if the source has the line. -/
lemma withSource_eq (d : Diagnostic) {source text : String}
    (h : sourceLine? d.loc source = some text) :
    d.withSource source false = String.join
      ((d.header false ++ [gutter d.loc ++ text, caretLine d.loc]).map (· ++ "\n")) := by
  rw [withSource, excerpt, h]
  rfl

/-- In the line that is printed, the characters of the source line follow the gutter. -/
lemma getElem?_printed (loc : Location) (text : String) (i : Nat) :
    (gutter loc ++ text).toList[(gutter loc).length + i]? = text.toList[i]? := by
  rw [String.toList_append, ← String.length_toList,
    List.getElem?_append_right (Nat.le_add_right _ _), Nat.add_sub_cancel_left]

/-- There is one caret, behind the blanks. -/
lemma getElem?_caretLine (loc : Location) (i : Nat) :
    (caretLine loc).toList[i]? = some '^' ↔ i = (caretIndent loc).toNat := by
  have hcaret : "^".toList = ['^'] := rfl
  rw [caretLine, String.toList_append, String.toList_ofList, hcaret, List.getElem?_append,
    List.length_replicate]
  split
  next hlt =>
    rw [List.getElem?_replicate_of_lt hlt]
    exact ⟨fun h => absurd h (by decide), fun h => absurd h (Nat.ne_of_lt hlt)⟩
  next hge =>
    rw [List.getElem?_singleton]
    split
    next hzero => exact ⟨fun _ => by omega, fun _ => rfl⟩
    next hnonzero => exact iff_of_false (Option.some_ne_none _).symm (by omega)

/-- **The caret stands one column to the left.**  If the source has the line, and the line the
column, then the long form without colours ends with the line behind its gutter and a line with one
caret.  The caret is not under the character in that column, whatever the line and the column are;
it is directly before it, as long as the machine word that counts the blanks does not wrap
around. -/
theorem caret_stands_left (d : Diagnostic) (source : String)
    (hline : 1 ≤ d.loc.line.toNat ∧ d.loc.line.toNat ≤ (Text.lines source).length)
    (hcolumn : 1 ≤ d.loc.column.toNat ∧
      d.loc.column.toNat ≤ ((Text.lines source).getD (d.loc.line.toNat - 1) "").length) :
    ∃ (text printed caret : String) (offset : Nat),
      (Text.lines source)[d.loc.line.toNat - 1]? = some text ∧
      d.withSource source false =
        String.join ((d.header false ++ [printed, caret]).map (· ++ "\n")) ∧
      printed = gutter d.loc ++ text ∧
      (∃ c, text.toList[d.loc.column.toNat - 1]? = some c ∧
        printed.toList[columnOffset d.loc]? = some c) ∧
      (∀ i, caret.toList[i]? = some '^' ↔ i = offset) ∧
      offset ≠ columnOffset d.loc ∧
      (digitCount d.loc.line + 1 + d.loc.column.toNat < UInt64.size →
        offset + 1 = columnOffset d.loc) := by
  have hne : d.loc.line ≠ 0 := by
    intro hzero
    rw [hzero] at hline
    exact absurd hline.1 (by decide)
  have hlt : d.loc.line.toNat - 1 < (Text.lines source).length := by omega
  have htext := List.getElem?_eq_getElem hlt
  rw [List.getD_eq_getElem?_getD, htext] at hcolumn
  generalize (Text.lines source)[d.loc.line.toNat - 1] = text at htext hcolumn
  have hsource : sourceLine? d.loc source = some text := by rw [sourceLine?, if_neg hne, htext]
  have hchar : d.loc.column.toNat - 1 < text.toList.length := by
    rw [String.length_toList]
    exact Nat.lt_of_lt_of_le (Nat.sub_lt hcolumn.1 Nat.one_pos) hcolumn.2
  have hget := List.getElem?_eq_getElem hchar
  have hindent := toNat_caretIndent hcolumn.1
  have hoffset : columnOffset d.loc = digitCount d.loc.line + 2 + d.loc.column.toNat := by
    rw [columnOffset, length_gutter]
    omega
  refine ⟨text, _, _, _, htext, d.withSource_eq hsource, rfl,
    ⟨_, hget, (getElem?_printed d.loc text _).trans hget⟩, getElem?_caretLine d.loc, ?_, ?_⟩
  · have hle := Nat.mod_le (digitCount d.loc.line + 1 + d.loc.column.toNat) UInt64.size
    rw [hindent, hoffset]
    omega
  · intro hword
    rw [hindent, hoffset, Nat.mod_eq_of_lt hword]
    omega

/-- An error in the first column of the first line. -/
def firstColumn : Diagnostic where
  severity := .error
  loc := { line := 1, column := 1 }
  message := "Undeclared identifier"

/-- The first character is printed at offset four, and the caret stands at offset three. -/
theorem caret_of_firstColumn :
    (1 ≤ firstColumn.loc.line.toNat ∧
        firstColumn.loc.line.toNat ≤ (Text.lines "x = 1;").length) ∧
      (1 ≤ firstColumn.loc.column.toNat ∧ firstColumn.loc.column.toNat ≤
        ((Text.lines "x = 1;").getD (firstColumn.loc.line.toNat - 1) "").length) ∧
      columnOffset firstColumn.loc = 4 ∧
      ∃ (caret : String) (offset : Nat), (∀ i, caret.toList[i]? = some '^' ↔ i = offset) ∧
        offset ≠ columnOffset firstColumn.loc ∧ offset + 1 = columnOffset firstColumn.loc := by
  have hline : 1 ≤ firstColumn.loc.line.toNat ∧
      firstColumn.loc.line.toNat ≤ (Text.lines "x = 1;").length := by decide +kernel
  have hcolumn : 1 ≤ firstColumn.loc.column.toNat ∧ firstColumn.loc.column.toNat ≤
      ((Text.lines "x = 1;").getD (firstColumn.loc.line.toNat - 1) "").length := by
    decide +kernel
  obtain ⟨_, _, caret, offset, -, -, -, -, hcaret, hne, hleft⟩ :=
    caret_stands_left firstColumn "x = 1;" hline hcolumn
  exact ⟨hline, hcolumn, by decide +kernel, caret, offset, hcaret, hne, hleft (by decide +kernel)⟩

/-- The long form: the caret is under the blank before the first character. -/
theorem caret_misses_firstColumn :
    firstColumn.withSource "x = 1;" false =
        "error: Undeclared identifier\n  --> 1:1\n  1 x = 1;\n   ^\n" ∧
      "  1 x = 1;".toList[4]? = some 'x' ∧ "   ^".toList[3]? = some '^' ∧
      "   ^".toList[4]? ≠ some '^' := by
  decide +kernel

end StructLang.Diagnostic
