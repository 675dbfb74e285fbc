import Mathlib.Data.Nat.Digits.Defs
import Mathlib.Tactic.Common
import StructLang.Diagnostic.Excerpt

/-!
# Machine words in the long form

The long form takes one from the line number, looks up a line by the result, takes one from the
column and adds up the blanks before the caret, all in machine words and none of it with an answer
for the case that there is no exact result.  Here the same computation is made with operations that
stop in that case, and compared with the one that goes on.  It stops at one place only, the last
addition: the line is guarded at both ends and the column at the lower one, but nothing keeps the
column from the top.

* `Diagnostic.withSourceChecked` — the long form with checked operations.
* `Diagnostic.sourceLineChecked_eq`, `Diagnostic.caretIndentChecked_eq` — what each part stops for.
* `Diagnostic.withSource_stops_iff_column_too_far` — the whole: where it stops, and what the
  unchecked one gives there.
-/

namespace StructLang

/-! ## Checked operations -/

/-- Why an operation on machine words has no exact result. -/
inductive WordFault where
  | underflow
  | overflow
  /-- The list has no element of that number. -/
  | outOfRange
  deriving DecidableEq

def checkedAdd (a b : UInt64) : Except WordFault UInt64 :=
  if a.toNat + b.toNat < UInt64.size then .ok (a + b) else .error .overflow

def checkedSub (a b : UInt64) : Except WordFault UInt64 :=
  if b ≤ a then .ok (a - b) else .error .underflow

def checkedGet {α : Type} (xs : List α) (i : UInt64) : Except WordFault α :=
  match xs[i.toNat]? with
  | some x => .ok x
  | none => .error .outOfRange

lemma one_le_word {a : UInt64} (h : a ≠ 0) : 1 ≤ a := by
  rw [UInt64.le_iff_toNat_le]
  refine Nat.one_le_iff_ne_zero.2 fun hzero => h ?_
  rwa [← UInt64.toNat_inj]

lemma toNat_sub_one {a : UInt64} (h : a ≠ 0) : (a - 1).toNat = a.toNat - 1 :=
  UInt64.toNat_sub_of_le _ _ (one_le_word h)

lemma checkedSub_one {a : UInt64} (h : a ≠ 0) : checkedSub a 1 = .ok (a - 1) :=
  if_pos (one_le_word h)

lemma checkedGet_eq_ok_iff {α : Type} {xs : List α} {i : UInt64} {x : α} :
    checkedGet xs i = .ok x ↔ xs[i.toNat]? = some x := by
  rw [checkedGet]
  cases xs[i.toNat]? <;> simp

namespace Diagnostic

/-! ## The computation with checked operations -/

/-- The source line that a place names, looked up by its word. -/
def sourceLineChecked (loc : Location) (source : String) : Except WordFault (Option String) :=
  if loc.line = 0 ∨ (Text.lines source).length < loc.line.toNat then .ok none
  else do
    let index ← checkedSub loc.line 1
    let text ← checkedGet (Text.lines source) index
    return some text

/-- The columns left of the reported one, of which column zero has none. -/
def columnsLeftChecked (loc : Location) : Except WordFault UInt64 :=
  if loc.column = 0 then .ok 0 else checkedSub loc.column 1

/-- The blanks before the caret, added up from left to right. -/
def caretIndentChecked (loc : Location) : Except WordFault UInt64 := do
  let width ← checkedAdd (digitCount loc.line).toUInt64 2
  let left ← columnsLeftChecked loc
  checkedAdd width left

/-- The lines of the excerpt. -/
def excerptChecked (d : Diagnostic) (source : String) (colored : Bool) :
    Except WordFault (List String) := do
  match ← sourceLineChecked d.loc source with
  | none => return []
  | some text =>
    let indent ← caretIndentChecked d.loc
    return ["  " ++ Ink.blue.paint colored (toString d.loc.line.toNat) ++ " " ++ text,
      String.ofList (List.replicate indent.toNat ' ') ++ Ink.red.paint colored "^"]

/-- The long form of a diagnostic, or why there is none. -/
def withSourceChecked (d : Diagnostic) (source : String) (colored : Bool) :
    Except WordFault String := do
  let excerpt ← d.excerptChecked source colored
  return String.join ((d.header colored ++ excerpt).map (· ++ "\n"))

/-! ## The source line -/

/-- Between the guards on the line number, neither the subtraction nor the look-up fails. -/
lemma sourceLineChecked_eq (loc : Location) (source : String) :
    sourceLineChecked loc source = .ok (sourceLine? loc source) := by
  rw [sourceLineChecked, sourceLine?]
  by_cases hzero : loc.line = 0
  · rw [if_pos (Or.inl hzero), if_pos hzero]
  · rw [if_neg hzero]
    -- the unchecked look-up has no guard at this end and finds nothing there
    by_cases hlength : (Text.lines source).length < loc.line.toNat
    · have hbeyond : (Text.lines source).length ≤ loc.line.toNat - 1 := by omega
      rw [if_pos (Or.inr hlength), List.getElem?_eq_none hbeyond]
    · have hpos : 1 ≤ loc.line.toNat := UInt64.le_iff_toNat_le.1 (one_le_word hzero)
      have hline : loc.line.toNat - 1 < (Text.lines source).length := by omega
      have htext := List.getElem?_eq_getElem hline
      have hget : checkedGet (Text.lines source) (loc.line - 1) =
          .ok (Text.lines source)[loc.line.toNat - 1] := by
        rw [checkedGet_eq_ok_iff, toNat_sub_one hzero, htext]
      rw [if_neg (not_or.2 ⟨hzero, hlength⟩), checkedSub_one hzero, htext]
      exact congrArg (· >>= fun text => .ok (some text)) hget

/-! ## The blanks before the caret -/

/-- The blanks before the caret as a number of any size: the digits of the line number, two more,
and the columns left of the reported one. -/
def exactIndent (loc : Location) : Nat := digitCount loc.line + 2 + (loc.column.toNat - 1)

/-- A machine word has twenty digits at most. -/
lemma digitCount_le (n : UInt64) : digitCount n ≤ 20 := by
  refine Nat.repr_length n.toNat 20 (by decide) ?_
  exact Nat.lt_trans n.toNat_lt_size (by decide)

lemma toNat_digitCount (n : UInt64) : (digitCount n).toUInt64.toNat = digitCount n := by
  have hdigits := digitCount_le n
  have hword : (digitCount n).toUInt64.toNat = digitCount n % 2 ^ 64 := UInt64.toNat_ofNat'
  omega

/-- The digits and two more are far from the greatest word. -/
lemma checkedAdd_two (n : UInt64) :
    checkedAdd (digitCount n).toUInt64 2 = .ok ((digitCount n).toUInt64 + 2) := by
  have hdigits := digitCount_le n
  have htwo : (2 : UInt64).toNat = 2 := rfl
  refine if_pos ?_
  rw [toNat_digitCount, htwo, UInt64.size]
  omega

lemma toNat_width (n : UInt64) : ((digitCount n).toUInt64 + 2).toNat = digitCount n + 2 := by
  have hdigits := digitCount_le n
  have htwo : (2 : UInt64).toNat = 2 := rfl
  rw [UInt64.toNat_add, toNat_digitCount, htwo]
  omega

/-- The columns left of the reported one, as the unchecked computation has them. -/
def columnsLeft (loc : Location) : UInt64 := if loc.column = 0 then 0 else loc.column - 1

lemma toNat_columnsLeft (loc : Location) : (columnsLeft loc).toNat = loc.column.toNat - 1 := by
  rw [columnsLeft]
  split
  next hzero => rw [hzero]; rfl
  next hne => exact toNat_sub_one hne

/-- Column zero is guarded. -/
lemma columnsLeftChecked_eq (loc : Location) : columnsLeftChecked loc = .ok (columnsLeft loc) := by
  rw [columnsLeftChecked, columnsLeft]
  split
  next => rfl
  next hne => exact checkedSub_one hne

/-- What the unchecked addition gives. -/
lemma toNat_caretIndent_eq_mod (loc : Location) :
    (caretIndent loc).toNat = exactIndent loc % UInt64.size := by
  have hsum : caretIndent loc = (digitCount loc.line).toUInt64 + 2 + columnsLeft loc := rfl
  rw [hsum, UInt64.toNat_add, toNat_width, toNat_columnsLeft, exactIndent, UInt64.size]

/-- Only the last addition can fail, and it fails if the sum is no machine word. -/
lemma caretIndentChecked_eq (loc : Location) :
    caretIndentChecked loc =
      if exactIndent loc < UInt64.size then .ok (caretIndent loc) else .error .overflow := by
  rw [caretIndentChecked, checkedAdd_two, columnsLeftChecked_eq]
  show checkedAdd _ _ = _
  rw [checkedAdd, toNat_width, toNat_columnsLeft]
  rfl

/-! ## The long form -/

/-- Where the sum is a word, or no line is shown, the checked computation is the unchecked one. -/
lemma excerptChecked_eq (d : Diagnostic) (source : String) (colored : Bool) :
    d.excerptChecked source colored =
      if (sourceLine? d.loc source).isSome ∧ UInt64.size ≤ exactIndent d.loc then .error .overflow
      else .ok (d.excerpt source colored) := by
  rw [excerptChecked, sourceLineChecked_eq, excerpt]
  cases sourceLine? d.loc source with
  | none => rfl
  | some text =>
    by_cases hword : exactIndent d.loc < UInt64.size
    · rw [if_neg fun h => absurd h.2 (Nat.not_le.2 hword)]
      show caretIndentChecked d.loc >>= _ = _
      rw [caretIndentChecked_eq, if_pos hword]
      rfl
    · rw [if_pos ⟨rfl, Nat.not_lt.1 hword⟩]
      show caretIndentChecked d.loc >>= _ = _
      rw [caretIndentChecked_eq, if_neg hword]
      rfl

/-- **The long form can fail at the column only.**  With checked operations it is the same text,
for any severity, message, place and source, unless the source has the line and the blanks before
the caret are more than the greatest word.  That takes a column near the greatest word, since the
digits of the line number are twenty at most.  The unchecked sum is the exact one up to there, and
beyond it wraps around. -/
theorem withSource_stops_iff_column_too_far (d : Diagnostic) (source : String) (colored : Bool) :
    d.withSourceChecked source colored =
        (if (1 ≤ d.loc.line.toNat ∧ d.loc.line.toNat ≤ (Text.lines source).length) ∧
            UInt64.size ≤ exactIndent d.loc
          then .error .overflow
          else .ok (d.withSource source colored)) ∧
      (caretIndent d.loc).toNat =
        (if UInt64.size ≤ exactIndent d.loc then exactIndent d.loc - UInt64.size
          else exactIndent d.loc) ∧
      (UInt64.size ≤ exactIndent d.loc ↔
        UInt64.size ≤ digitCount d.loc.line + 1 + d.loc.column.toNat) ∧
      digitCount d.loc.line ≤ 20 := by
  have hdigits := digitCount_le d.loc.line
  have hcolumn := d.loc.column.toNat_lt_size
  refine ⟨?_, ?_, ?_, hdigits⟩
  · simp only [withSourceChecked, excerptChecked_eq, sourceLine?_isSome]
    split
    next => rfl
    next => rfl
  · rw [toNat_caretIndent_eq_mod, exactIndent]
    rw [UInt64.size] at hcolumn ⊢
    split <;> omega
  · rw [exactIndent, UInt64.size]
    omega

/-- An error on the first line, in any column. -/
def inColumn (column : UInt64) : Diagnostic where
  severity := .error
  loc := { line := 1, column }
  message := "Type mismatch"

/-- Two columns before the last one the blanks are as many as a word can count, and one column
further there are more. -/
theorem inColumn_stops_beyond_greatest_word :
    exactIndent (inColumn (UInt64.ofNat (UInt64.size - 3))).loc + 1 = UInt64.size ∧
      (inColumn (UInt64.ofNat (UInt64.size - 3))).withSourceChecked "x = 1;" false =
        .ok ((inColumn (UInt64.ofNat (UInt64.size - 3))).withSource "x = 1;" false) ∧
      (inColumn (UInt64.ofNat (UInt64.size - 2))).withSourceChecked "x = 1;" false =
        .error .overflow := by
  have fits := withSource_stops_iff_column_too_far (inColumn (UInt64.ofNat (UInt64.size - 3)))
    "x = 1;" false
  have exceeds := withSource_stops_iff_column_too_far (inColumn (UInt64.ofNat (UInt64.size - 2)))
    "x = 1;" false
  refine ⟨by decide +kernel, ?_, ?_⟩
  · rw [fits.1, if_neg (by decide +kernel)]
  · rw [exceeds.1, if_pos (by decide +kernel)]

/-- In the last column of all, the blanks are two more than the greatest word, and the unchecked sum
is one. -/
theorem lastColumn_overflows :
    exactIndent (inColumn 18446744073709551615).loc = UInt64.size + 1 ∧
      (inColumn 18446744073709551615).withSourceChecked "x = 1;" false = .error .overflow ∧
      (caretIndent (inColumn 18446744073709551615).loc).toNat = 1 ∧
      (inColumn 18446744073709551615).withSource "x = 1;" false =
        "error: Type mismatch\n  --> 1:18446744073709551615\n  1 x = 1;\n ^\n" := by
  refine ⟨by decide +kernel, ?_, by decide +kernel, by decide +kernel⟩
  rfl

end Diagnostic

end StructLang
