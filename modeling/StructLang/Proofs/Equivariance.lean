import Mathlib.Logic.Equiv.Basic
import StructLang.Proofs.AllBound
import StructLang.Proofs.TransportTyping
import StructLang.Proofs.Uniqueness

/-!
# Names and places do not matter

An analysis is equivariant: if the names of a program are exchanged for others, different ones for
different ones, and everything in it is put somewhere else, then the analysis leaves behind what it
left behind before, with the same names exchanged and the reports at the new places.

The derivation for the program becomes one for the relabeled program, and that is the derivation
which the second analysis follows, since the rules leave no choice.  The log is left out.  A listing
of scopes sorts its names, and their order is not kept.
-/

namespace StructLang

variable {T : Relabeling}

/-! ## Fresh programs -/

lemma Program.Fresh.relabel {p : Program} (h : p.Fresh) : (p.relabel T).Fresh where
  unbound id hid := by
    rw [Program.idents_relabel] at hid
    obtain ⟨id', hid', rfl⟩ := List.mem_map.1 hid
    rw [Ident.symbol?_relabel, h.unbound id' hid']
    rfl
  untyped e he := by
    rw [Program.exprs_relabel] at he
    obtain ⟨e', he', rfl⟩ := List.mem_map.1 he
    have hty : (e'.relabel T).ty? = e'.ty?.map (·.relabel T) := by cases e' <;> rfl
    rw [hty, h.untyped e' he']
    rfl
  unflagged e he := by
    rw [Program.exprs_relabel] at he
    obtain ⟨e', he', rfl⟩ := List.mem_map.1 he
    have hflag : (e'.relabel T).isFlagged = e'.isFlagged := by cases e' <;> rfl
    rw [hflag, h.unflagged e' he']
  few := by
    rw [Program.declCount_relabel]
    exact h.few

/-! ## Handles that stay -/

/-- If handles stay, then mirrored symbols are the symbols of before, in their places. -/
lemma Relabeling.Mirrors.eq_relabel {A B : Arena} (hm : T.Mirrors 0 A B) (hid : T.handle = id) :
    B = A.relabel T := by
  have hsize : B.symbols.size = A.symbols.size := hm.size
  refine Arena.ext (Array.ext_getElem? fun i => ?_)
  show _ = (A.symbols.map (·.relabel T))[i]?
  rw [Array.getElem?_map]
  cases hA : A.symbols[i]? with
  | none =>
      rw [Array.getElem?_eq_none_iff] at hA
      exact Array.getElem?_eq_none (hsize ▸ hA)
  | some symbol =>
      have hi : i < UInt32.size := Arena.lt_of_getElem? hA
      have hg := hm.maps (.ofIndex i) symbol ((Arena.get_ofIndex_eq_ok_iff hi).2 hA)
      rw [hid] at hg
      exact (Arena.get_ofIndex_eq_ok_iff hi).1 hg

/-! ## Analyses -/

/-- The same counts and verdicts, with names and handles exchanged in the symbols. -/
def Analysis.relabel (T : Relabeling) (a : Analysis) : Analysis where
  symbols := a.symbols.relabel T
  nameErrors := a.nameErrors
  typeErrors := a.typeErrors
  typeChecked := a.typeChecked
  wellTyped := a.wellTyped

/-- Findings at new places reach the sink as diagnostics at new places. -/
lemma Told.relabel {sink R sink' R' : Diagnostics} {fs : List Finding} (h : Told sink R fs)
    (h' : Told sink' R' (fs.map (·.relabel T))) :
    ∃ ds, R.entries.toList = sink.entries.toList ++ ds ∧
      R'.entries.toList = sink'.entries.toList ++ ds.map (·.relabel T) := by
  refine ⟨fs.map Finding.diagnostic, h, ?_⟩
  rw [h', List.map_map, List.map_map]
  rfl

/-- The rules make of a relabeled program what they make of the program, relabeled. -/
lemma Naming.DeclsRule.relabeled {p named named' : Program} {w v : Names} {es fs : List Event}
    (hid : T.handle = id) (rule : DeclsRule ⟨{}, .withScope⟩ p.decls named.decls w es)
    (rule' : DeclsRule ⟨{}, .withScope⟩ (p.relabel T).decls named'.decls v fs) :
    named' = named.relabel T ∧ Names.Mirrors T 0 w v ∧
      reports fs = (reports es).map (·.relabel T) := by
  obtain ⟨v', hrule, hm⟩ :=
    rule.relabel (v := ⟨{}, .withScope⟩) ⟨Relabeling.mirrors_empty hid, rfl⟩ w.symbols.numbered
  obtain ⟨hdecls, rfl, rfl⟩ := rule'.unique hrule
  exact ⟨congrArg Program.mk hdecls, hm, reports_relabel T es⟩

/-- Two analyses that are explained by the rules, of a program and of the relabeled program. -/
lemma Explains.relabeled {config : Config} {p : Program} {sink sink' : Diagnostics}
    {R R' : Analyzed} (hid : T.handle = id) (h : p.Unfilled) (explains : Explains config p sink R)
    (explains' : Explains config (p.relabel T) sink' R') :
    (∃ a, R.result = .ok a ∧ R'.result = .ok (a.relabel T)) ∧
      R'.program = R.program.relabel T ∧
      ∃ ds, R.sink.entries.toList = sink.entries.toList ++ ds ∧
        R'.sink.entries.toList = sink'.entries.toList ++ ds.map (·.relabel T) := by
  cases explains with
  | skipped rule wrong skips program told result _ =>
      cases explains' with
      | skipped rule' wrong' skips' program' told' result' _ =>
          obtain ⟨hnamed, hm, hreports⟩ := rule.relabeled hid rule'
          rw [hreports] at told'
          refine ⟨⟨_, result, ?_⟩, by rw [program, program', hnamed], told.relabel told'⟩
          rw [result', hm.symbols.eq_relabel hid, hreports, List.length_map]
          rfl
      | checked rule' checks' _ _ _ _ =>
          obtain ⟨-, -, hreports⟩ := rule.relabeled hid rule'
          rcases checks' with hnil | hconfig
          · rw [hreports, List.map_eq_nil_iff] at hnil
            exact absurd hnil wrong
          · cases hconfig.symm.trans skips
  | @checked named w es rule checks program told result _ =>
      cases explains' with
      | skipped rule' wrong' skips' _ _ _ _ =>
          obtain ⟨-, -, hreports⟩ := rule.relabeled hid rule'
          rcases checks with hnil | hconfig
          · rw [hreports, hnil] at wrong'
            exact absurd rfl wrong'
          · cases hconfig.symm.trans skips'
      | @checked named' v fs rule' checks' program' told' result' _ =>
          obtain ⟨rfl, hm, hreports⟩ := rule.relabeled hid rule'
          have hready : AllReady w.symbols named.exprs := rule.ready sound_start h.blank
          have htree : R'.program = R.program.relabel T := by
            rw [program, program', Program.decorate_relabel hm.symbols.maps hready]
          have hcomplaints : R'.program.complaints v.symbols =
              (R.program.complaints w.symbols).map (·.relabel T) := by
            rw [htree, program, Program.complaints_relabel hm.symbols.maps hready]
          have hverdict : (R'.program.judgements.all fun j => j.verdict.isAccepted) =
              R.program.judgements.all fun j => j.verdict.isAccepted := by
            rw [htree, Program.judgements_relabel, List.all_map]
            rfl
          have hfindings : reports fs ++ (R'.program.complaints v.symbols).map Complaint.finding =
              (reports es ++ (R.program.complaints w.symbols).map Complaint.finding).map
                (·.relabel T) := by
            rw [hreports, hcomplaints, List.map_append, List.map_map, List.map_map]
            rfl
          refine ⟨⟨_, result, ?_⟩, htree, told.relabel (hfindings ▸ told')⟩
          rw [result', hreports, hcomplaints, hverdict, hm.symbols.eq_relabel hid, List.length_map,
            List.length_map]
          rfl

/-- **Names and places do not matter.**  For a fresh program, different names for its names and
other lines and columns: both analyses have a result, with the same counts and verdicts and with the
names exchanged in the symbols.  On the trees they leave the same handles, flags and types, with the
names exchanged; and they report the same messages in the same order, at the new places. -/
theorem analysis_equivariant (config : Config) {p : Program} (h : p.Fresh)
    (rename : String → String) (injective : Function.Injective rename)
    (move : UInt64 × UInt64 → UInt64 × UInt64)
    (sink sink' : Diagnostics) :
    let T := Relabeling.ofSource rename injective move
    let R := analyze config p sink
    let R' := analyze config (p.relabel T) sink'
    (∃ a, R.result = .ok a ∧ R'.result = .ok (a.relabel T)) ∧
      R'.program = R.program.relabel T ∧
      ∃ ds, R.sink.entries.toList = sink.entries.toList ++ ds ∧
        R'.sink.entries.toList = sink'.entries.toList ++ ds.map (·.relabel T) :=
  Explains.relabeled rfl h.toUnfilled (analyze_explained config h.toUnfilled sink)
    (analyze_explained config h.relabel.toUnfilled sink')

/-- With two names exchanged for each other and everything put in one place, the struct is called as
the formal was, and the formal as the struct.  Reported are still the field that cannot be and its
selection. -/
theorem voidField_swapped :
    voidField.Fresh ∧
      (analyze .standard voidField {}).sink.messages.toList =
        ["Non-function declared void", "Invalid struct field name"] ∧
      (analyze .standard (voidField.relabel (.ofSource (Equiv.swap "Inner" "o")
        (Equiv.injective _) fun _ => (7, 7))) {}).sink.entries.toList.map
          (fun d => (d.loc.line, d.message)) =
            [(7, "Non-function declared void"), (7, "Invalid struct field name")] := by
  have hfresh : voidField.Fresh := ⟨⟨by decide, by decide, by decide⟩, by decide⟩
  have hmessages : (analyze .standard voidField {}).sink.messages.toList =
      ["Non-function declared void", "Invalid struct field name"] := by decide +kernel
  obtain ⟨-, -, ds, hds, hds'⟩ :=
    analysis_equivariant .standard hfresh _ (Equiv.injective (Equiv.swap "Inner" "o"))
      (fun _ => (7, 7)) {} {}
  have hplaces : ∀ T : Relabeling, (T.place = fun _ => (7, 7)) →
      (ds.map (·.relabel T)).map (fun d => (d.loc.line, d.message)) =
        (ds.map (·.message)).map fun message => (7, message) := by
    intro T hT
    simp only [List.map_map, Function.comp_def, Diagnostic.relabel, Location.relabel, hT]
  refine ⟨hfresh, hmessages, ?_⟩
  rw [Diagnostics.messages, Array.toList_map, hds] at hmessages
  rw [hds']
  refine (congrArg _ (List.nil_append _)).trans ((hplaces _ rfl).trans ?_)
  exact congrArg _ ((congrArg _ (List.nil_append ds).symm).trans hmessages)

end StructLang
