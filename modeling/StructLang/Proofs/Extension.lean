import Mathlib.Tactic.Common
import StructLang.Proofs.Passes
import StructLang.Tree.Build

/-!
# Later declarations

What comes later in a program does not change what an analysis says of the declarations before it.
Names are visible only after their declaration, so name resolution of the declarations before is the
same; the arena only grows, so type checking, which reads the whole of it, finds the same symbols
behind the same handles.
-/

namespace StructLang

variable {A B : Arena}

/-! ## Larger arenas -/

/-- The symbols of before come first. -/
lemma Arena.Grows.isPrefix (hAB : A.Grows B) : A.symbols.toList <+: B.symbols.toList := by
  rw [List.prefix_iff_getElem?]
  intro i hi
  have hA : A.symbols[i]? = some A.symbols.toList[i] := by
    rw [← Array.getElem?_toList, List.getElem?_eq_getElem hi]
  have hlt : i < UInt32.size := Arena.lt_of_getElem? hA
  have hg := hAB (.ofIndex i) _ ((Arena.get_ofIndex_eq_ok_iff hlt).2 hA)
  rw [Array.getElem?_toList]
  exact (Arena.get_ofIndex_eq_ok_iff hlt).1 hg

/-- Type checking does not care for symbols that nothing refers to. -/
lemma Decl.checked_grows (hA : A.Sound 0) (hAB : A.Grows B) {d : Decl} (h : AllReady A d.exprs) :
    d.decorate B = d.decorate A ∧
      (d.decorate A).complaints B = (d.decorate A).complaints A := by
  have hself : ∀ d : Decl, d.relabel (.ofHandles id) = d := fun d =>
    Decl.relabel_eq_self fun _ _ _ _ => rfl
  have hmap : ((d.decorate A).complaints A).map (·.relabel (.ofHandles id)) =
      (d.decorate A).complaints A := List.map_id' _
  obtain ⟨hdecorate, hcomplaints⟩ := d.checked_relabel (hAB.maps (f := id) hA fun _ _ => rfl) h
  rw [hself, hself] at hdecorate
  rw [hself, hmap] at hcomplaints
  exact ⟨hdecorate, hcomplaints⟩

/-! ## Programs that go on -/

open Naming in
/-- **Later declarations change nothing before them.**  For declarations in which nothing is filled,
analysed alone and with others after them: both analyses have a result; what name resolution
reports, what type checking reports and the symbols of the first come first in the second; and both
leave the same handles, flags and types on the declarations. -/
theorem later_declarations_change_nothing {ds es : List Decl}
    (h : Program.Unfilled ⟨ds ++ es⟩) (sink sink' : Diagnostics) :
    (∃ a b, (analyze .standard ⟨ds⟩ sink).result = .ok a ∧
        (analyze .standard ⟨ds ++ es⟩ sink').result = .ok b ∧
        a.symbols.symbols.toList <+: b.symbols.symbols.toList) ∧
      Program.namesTold ⟨ds⟩ sink <+: Program.namesTold ⟨ds ++ es⟩ sink' ∧
      Program.typesTold ⟨ds⟩ sink <+: Program.typesTold ⟨ds ++ es⟩ sink' ∧
      (analyze .standard ⟨ds ++ es⟩ sink').program.decls.take ds.length =
        (analyze .standard ⟨ds⟩ sink).program.decls := by
  obtain ⟨tree, w, fs, P⟩ := Program.exists_passes h.append.1 sink
  obtain ⟨tree', w', all, Q⟩ := Program.exists_passes h sink'
  obtain ⟨ds', es', w₁, fs', gs, first, rest, htree', rfl⟩ := Q.rule.append_inv
  obtain ⟨rfl, rfl, rfl⟩ := first.unique P.rule
  have hsound := P.rule.extends sound_start
  have hgrows : w₁.symbols.Grows w'.symbols := (rest.extends hsound.sound).grows
  have hchecked : ∀ d ∈ tree.decls, d.decorate w'.symbols = d.decorate w₁.symbols ∧
      (d.decorate w₁.symbols).complaints w'.symbols =
        (d.decorate w₁.symbols).complaints w₁.symbols := fun d hd =>
    Decl.checked_grows hsound.sound.arena hgrows
      (P.ready.mono fun e he => List.mem_flatMap.2 ⟨d, hd, he⟩)
  refine ⟨?_, ?_, ?_, ?_⟩
  · obtain ⟨a, ha, hsymbols⟩ := P.result
    obtain ⟨b, hb, hsymbols'⟩ := Q.result
    exact ⟨a, b, ha, hb, by rw [hsymbols, hsymbols']; exact hgrows.isPrefix⟩
  · rw [P.namesTold, Q.namesTold, reports_append, List.map_append]
    exact List.prefix_append _ _
  · have hcomplaints : (tree'.decorate w'.symbols).complaints w'.symbols =
        (tree.decorate w₁.symbols).complaints w₁.symbols ++
          es'.flatMap fun d => (d.decorate w'.symbols).complaints w'.symbols := by
      simp only [Program.complaints_eq, Program.decorate, List.flatMap_map, htree',
        List.flatMap_append]
      refine congrArg (· ++ _) (List.flatMap_congr fun d hd => ?_)
      rw [(hchecked d hd).1, (hchecked d hd).2]
    rw [P.typesTold, Q.typesTold, hcomplaints, List.map_append, List.map_append]
    exact List.prefix_append _ _
  · have hlength : (tree.decls.map (·.decorate w'.symbols)).length = ds.length := by
      rw [List.length_map, P.rule.length_eq]
    rw [Q.program, P.program]
    show (tree'.decls.map (·.decorate w'.symbols)).take ds.length =
      tree.decls.map (·.decorate w₁.symbols)
    rw [htree', List.map_append, List.take_left' hlength]
    exact List.map_congr_left fun d hd => (hchecked d hd).1

/-- A function without formals that does nothing but call one of the given name. -/
def calling (name callee : String) : Decl := .fn
  { ret := .void
    id := .unbound name .nowhere
    formals := []
    body := .mk [] [.simple .call (.apply (.unbound callee .nowhere) [])] }

/-- A function cannot be called before it is declared.  The call stays undeclared when the function
follows. -/
theorem call_before_declaration :
    Program.Unfilled ⟨[calling "main" "later"] ++ [calling "later" "later"]⟩ ∧
      (Program.namesTold ⟨[calling "main" "later"]⟩ {}).map (·.message) =
        ["Undeclared identifier"] ∧
      ∃ d ∈ Program.namesTold ⟨[calling "main" "later"] ++ [calling "later" "later"]⟩ {},
        d.message = "Undeclared identifier" := by
  have hunfilled : Program.Unfilled ⟨[calling "main" "later"] ++ [calling "later" "later"]⟩ :=
    ⟨by decide, by decide, by decide⟩
  have htold : (Program.namesTold ⟨[calling "main" "later"]⟩ {}).map (·.message) =
      ["Undeclared identifier"] := by decide +kernel
  obtain ⟨d, hd, hmessage⟩ := List.mem_map.1 (htold ▸ List.mem_singleton_self _)
  have hprefix := (later_declarations_change_nothing hunfilled {} {}).2.1
  exact ⟨hunfilled, htold, d, hprefix.subset hd, hmessage⟩

end StructLang
