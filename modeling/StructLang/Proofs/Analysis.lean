import Mathlib.Tactic.Common
import StructLang.Analysis
import StructLang.Proofs.Adequacy
import StructLang.Proofs.Checking
import StructLang.Proofs.Parts

/-!
# What an analysis leaves behind

Both passes together, for programs in which no slot is filled and for whose declarations there are
handles enough.  Nothing can stop such an analysis, and tree, counts, sink and verdict are what the
rules of name resolution and the judgements of type checking say: `analyze_explained`.  All
statements about whole analyses start from there.
-/

namespace StructLang

/-! ## Trees that nothing has been filled in -/

/-- No expression has a type yet, and no identifier in them is bound. -/
def AllBlank (es : List Expr) : Prop :=
  ∀ e ∈ es, e.ty? = none ∧ ∀ id, e.ident? = some id → id.symbol? = none

/-- No slot of the program is filled, and there is a handle for each of its declarations. -/
structure Program.Unfilled (p : Program) : Prop where
  unbound : ∀ id ∈ p.idents, id.symbol? = none
  untyped : ∀ e ∈ p.exprs, e.ty? = none
  few : p.declCount ≤ UInt32.size

/-- The field of the expression is marked as one that cannot be resolved. -/
def Expr.isFlagged : Expr → Bool
  | .dot _ _ failed _ => failed
  | _ => false

/-- No slot of the program is filled, and no flag is raised: it comes from the source as it is. -/
structure Program.Fresh (p : Program) : Prop extends p.Unfilled where
  unflagged : ∀ e ∈ p.exprs, e.isFlagged = false

/-- Nothing is filled in the expression itself, and its flag is not raised. -/
structure Expr.Fresh (e : Expr) : Prop where
  blank : e.ty? = none ∧ ∀ id, e.ident? = some id → id.symbol? = none
  unflagged : e.isFlagged = false

lemma AllBlank.mono {es fs : List Expr} (h : AllBlank es) (hsub : ∀ e ∈ fs, e ∈ es) :
    AllBlank fs := fun e he => h e (hsub e he)

lemma AllBlank.unbound {es : List Expr} (h : AllBlank es) {id : Ident}
    (hid : id ∈ es.filterMap Expr.ident?) : id.symbol? = none := by
  obtain ⟨e, he, hident⟩ := List.mem_filterMap.1 hid
  exact (h e he).2 id hident

lemma Program.Unfilled.blank {p : Program} (h : p.Unfilled) : AllBlank p.exprs := by
  intro e he
  refine ⟨h.untyped e he, fun id hid => h.unbound id (List.mem_append_right _ ?_)⟩
  exact List.mem_filterMap.2 ⟨e, he, hid⟩

/-- A program in which nothing is filled finds enough handles, if it comes first. -/
lemma Program.Unfilled.fits {p : Program} (h : p.Unfilled) :
    Arena.size {} + p.declCount ≤ UInt32.size :=
  Nat.le_trans (Nat.le_of_eq (Nat.zero_add _)) h.few

lemma Program.Fresh.exprs {p : Program} (h : p.Fresh) : ∀ e ∈ p.exprs, e.Fresh :=
  fun e he => ⟨h.blank e he, h.unflagged e he⟩

/-! ## Ready for type checking -/

lemma Expr.mem_exprs_self (e : Expr) : e ∈ e.exprs := by
  cases e <;> exact List.mem_cons_self

lemma Expr.mem_idents_self {e : Expr} {id : Ident} (hid : e.ident? = some id) : id ∈ e.idents :=
  List.mem_filterMap.2 ⟨e, e.mem_exprs_self, hid⟩

namespace Naming

variable {base : Nat} {B : Arena}

/-- A handle that has a symbol has a type, now and later. -/
lemma Has.typeOf {A : Arena} (hA : A.Sound base) (hgrows : A.Grows B) {h : SymbolId}
    (hhas : Has base A h) : ∃ ty, B.typeOf h = .ok ty := by
  obtain ⟨hle, symbol, hg⟩ := hhas
  obtain ⟨ty, hty⟩ := hA.typeOf hle hg
  exact ⟨ty, hgrows.typeOf hty⟩

/-- The identifier of a resolved expression is bound to nothing or to a symbol. -/
lemma ExprRule.has_ident {w : Names} (hw : w.Sound base) {e e' : Expr} {es : List Event}
    (rule : ExprRule w e e' es) (h : AllBlank e.exprs) {id : Ident} (hid : e'.ident? = some id)
    {k : SymbolId} (hk : id.symbol? = some k) : Has base w.symbols k := by
  cases rule with
  | name note use =>
      obtain rfl := Option.some.inj hid
      exact use.has hw ((h _ List.mem_cons_self).2 _ rfl) hk
  | dot note first second =>
      obtain rfl := Option.some.inj hid
      have hbase : AllBlank _ := h.mono fun _ => List.mem_cons_of_mem _
      exact second.has hw.arena (first.has hw fun _ => hbase.unbound)
        ((h _ List.mem_cons_self).2 _ rfl) hk
  | call note use all =>
      obtain rfl := Option.some.inj hid
      exact use.has hw ((h _ List.mem_cons_self).2 _ rfl) hk
  | _ => cases hid

lemma ExprRule.ty_eq {w : Names} {e e' : Expr} {es : List Event} (rule : ExprRule w e e' es) :
    e'.ty? = e.ty? := by
  cases rule <;> rfl

/-- Every expression of a program in which nothing was filled is ready for type checking. -/
lemma DeclsRule.ready {w w' : Names} {ds ds' : List Decl} {es : List Event}
    (rule : DeclsRule w ds ds' w' es) (hw : w.Sound base)
    (h : AllBlank (ds.flatMap Decl.exprs)) : AllReady w'.symbols (ds'.flatMap Decl.exprs) := by
  have hcarries : Carries base w'.symbols (fun _ => True)
      (fun e => e.ty? = none ∧ ∀ id, e.ident? = some id → id.symbol? = none)
      (Expr.Ready w'.symbols) := by
    intro w hw hgrows e e' es rule hblank _
    have hself : e ∈ e.exprs := e.mem_exprs_self
    refine ⟨rule.ty_eq.trans (hblank e hself).1, fun id hid k hk => ?_⟩
    exact (rule.has_ident hw hblank hid hk).typeOf hw.arena hgrows
  exact rule.carries hcarries hw (.refl _) h fun _ _ => trivial

end Naming

/-! ## What an analysis leaves behind -/

/-- The findings of a run have reached the sink, in order and as errors. -/
def Told (sink sink' : Diagnostics) (findings : List Finding) : Prop :=
  sink'.entries.toList = sink.entries.toList ++ findings.map Finding.diagnostic

lemma told_nil_iff {sink sink' : Diagnostics} {findings : List Finding}
    (h : Told sink sink' findings) : sink' = sink ↔ findings = [] := by
  constructor
  · rintro rfl
    simpa [Told] using h
  · rintro rfl
    have harray : sink'.entries = sink.entries := Array.toList_inj.1 (by simpa [Told] using h)
    exact congrArg Diagnostics.mk harray

lemma Told.trans {a b c : Diagnostics} {fs gs : List Finding} (hab : Told a b fs)
    (hbc : Told b c gs) : Told a c (fs ++ gs) := by
  unfold Told at *
  rw [hbc, hab, List.map_append, List.append_assoc]

/-- Between the runs exactly the findings were reported: counted, logged and sent to the sink. -/
structure Run.Reported {σ : Type} (s t : Run σ) (findings : List Finding) : Prop where
  count : t.errors = s.errors + findings.length
  logged : reports t.log.toList = reports s.log.toList ++ findings
  told : Told s.sink t.sink findings

lemma Run.Reported.trans {σ : Type} {s t u : Run σ} {fs gs : List Finding}
    (hst : s.Reported t fs) (htu : t.Reported u gs) : s.Reported u (fs ++ gs) where
  count := by rw [htu.count, hst.count, List.length_append, Nat.add_assoc]
  logged := by rw [htu.logged, hst.logged, List.append_assoc]
  told := hst.told.trans htu.told

lemma Run.reported_after {σ : Type} (s : Run σ) (work : σ) (es : List Event) :
    s.Reported ((s.after es).withWork work) (reports es) where
  count := Run.errors_after s es
  logged := (congrArg reports (Run.log_after s es)).trans (reports_append _ _)
  told := Run.entries_after s es

lemma Run.reported_events {σ : Type} (s : Run σ) (es : List Event) :
    s.Reported (s.after es) (reports es) := by
  rw [Run.after_eq_withWork]
  exact s.reported_after _ es

/-- What the judgements of type checking report are the complaints about them. -/
lemma Run.reported_judge (s : Run Bool) (A : Arena) (js : List Judgement) :
    s.Reported (s.judge A js) ((js.flatMap (·.complaints A)).map Complaint.finding) := by
  rw [← reports_saidOf]
  exact Run.reported_after s _ _

/-- A run whose first and last events report nothing. -/
lemma Run.account {σ : Type} (s : Run σ) (work : σ) {before after : List Event} (es : List Event)
    (hbefore : reports before = []) (hafter : reports after = []) :
    s.Reported ((s.after (before ++ es ++ after)).withWork work) (reports es) := by
  have hreports : reports (before ++ es ++ after) = reports es := by
    rw [reports_append, reports_append, hbefore, hafter, List.nil_append, List.append_nil]
  rw [← hreports]
  exact Run.reported_after s work _

lemma Naming.Resolved.reported {s t : Run Names} {w : Names} {es : List Event}
    (h : Resolved s w es t) : s.Reported t (reports es) := by
  obtain ⟨-, before, after, hbefore, hafter, rfl⟩ := h
  obtain ⟨count, logged, told⟩ :=
    Run.account (s.restart s.work) ⟨w.symbols, .empty⟩ es hbefore hafter
  exact ⟨count, logged, told⟩

/-- What a run of type checking over a tree that is ready leaves behind. -/
lemma checkProgram_reported {A : Arena} {p : Program} (hready : AllReady A p.exprs) (s : Run Bool) :
    ((checkProgram A p).run s).1 = p.decorate A ∧
    s.Reported ((checkProgram A p).run s).2
      (((p.decorate A).complaints A).map Complaint.finding) ∧
    ((checkProgram A p).run s).2.work =
      ((p.decorate A).judgements.all fun j => j.verdict.isAccepted) ∧
    ((checkProgram A p).run s).2.halted = none := by
  obtain ⟨before, after, hbefore, hafter, hrun⟩ := checkProgram_run hready s
  obtain ⟨hcount, hlogged, htold⟩ := Run.account (s.restart true)
    ((p.decorate A).judgements.all fun j => j.verdict.isAccepted)
    (saidOf ((p.decorate A).complaints A)) hbefore hafter
  rw [hrun, ← reports_saidOf]
  exact ⟨rfl, ⟨hcount, hlogged, htold⟩, rfl, by
    rw [Run.halted_withWork, Run.halted_after, Run.halted_restart]⟩

/-- What can be computed of the result of an analysis that has one. -/
lemma exists_of_any {r : Except Fault Analysis} {f : Analysis → Bool}
    (h : r.toOption.any f = true) : ∃ a, r = .ok a ∧ f a = true := by
  cases r with
  | ok a => exact ⟨a, rfl, h⟩
  | error fault => cases h

/-- What the analysis of a program leaves behind, in terms of the rules of name resolution and of
what type checking says about the tree. -/
inductive Explains (config : Config) (p : Program) (sink : Diagnostics) (R : Analyzed) : Prop
  | skipped {named : Program} {w : Names} {es : List Event}
      (rule : Naming.DeclsRule ⟨{}, .withScope⟩ p.decls named.decls w es)
      (wrong : reports es ≠ []) (skips : config.typeCheckAfterNameErrors = false)
      (program : R.program = named) (told : Told sink R.sink (reports es))
      (result : R.result = .ok
        { symbols := w.symbols, nameErrors := (reports es).length, typeErrors := 0,
          typeChecked := false, wellTyped := false })
      (logged : reports R.log.toList = reports es)
  | checked {named : Program} {w : Names} {es : List Event}
      (rule : Naming.DeclsRule ⟨{}, .withScope⟩ p.decls named.decls w es)
      (checks : reports es = [] ∨ config.typeCheckAfterNameErrors = true)
      (program : R.program = named.decorate w.symbols)
      (told : Told sink R.sink
        (reports es ++ (R.program.complaints w.symbols).map Complaint.finding))
      (result : R.result = .ok
        { symbols := w.symbols, nameErrors := (reports es).length,
          typeErrors := (R.program.complaints w.symbols).length, typeChecked := true,
          wellTyped := R.program.judgements.all fun j => j.verdict.isAccepted })
      (logged : reports R.log.toList =
        reports es ++ (R.program.complaints w.symbols).map Complaint.finding)

lemma sound_empty : Arena.Sound 0 {} := by
  intro h symbol _ hg
  cases Arena.get_empty_ne_ok hg

/-- The names that an analysis starts with. -/
lemma sound_start : Names.Sound 0 ⟨{}, .withScope⟩ :=
  Names.sound_withScope sound_empty (Nat.zero_le _)

open Naming in
/-- **What an analysis leaves behind.**  The analysis of a program in which nothing is filled goes
on to its end, and all that it leaves follows from the rules. -/
theorem analyze_explained (config : Config) {p : Program} (h : p.Unfilled) (sink : Diagnostics) :
    Explains config p sink (analyze config p sink) := by
  obtain ⟨named, t, hrun, w, es, rule, resolved⟩ :=
    resolveProgram_goes_on config.dumpScopes h.unbound { work := {}, sink } h.fits
  have live : t.halted = none := resolved.1
  have hready : AllReady w.symbols named.exprs := rule.ready sound_start h.blank
  have hsymbols : t.work.symbols = w.symbols := resolved.symbols_eq
  obtain ⟨herrors, hlogged, htold⟩ := resolved.reported
  obtain ⟨htree, hreported, hverdict, hlive⟩ :=
    checkProgram_reported hready { work := true, sink := t.sink }
  rcases hcheck : (checkProgram w.symbols named).run { work := true, sink := t.sink } with ⟨q, u⟩
  rw [hcheck] at htree hreported hverdict hlive
  dsimp only at htree hreported hverdict hlive
  subst htree
  unfold analyze
  simp only [hrun, live, hsymbols, hcheck]
  have hcount : t.errors = (reports es).length := by rw [herrors]; exact Nat.zero_add _
  have hlog : reports t.log.toList = reports es := hlogged
  split
  · next hskip =>
      rw [Bool.and_eq_true, decide_eq_true_eq, Bool.not_eq_true'] at hskip
      obtain ⟨herr, hconfig⟩ := hskip
      have hwrong : reports es ≠ [] := by
        intro hnil
        rw [hcount, hnil] at herr
        exact absurd herr (Nat.lt_irrefl 0)
      refine .skipped rule hwrong hconfig rfl htold (by rw [hcount]) ?_
      rw [Array.toList_push, reports_append, hlog, reports_cons_of_none rfl, reports_nil,
        List.append_nil]
  · next hcheck =>
      have hchecks : reports es = [] ∨ config.typeCheckAfterNameErrors = true := by
        by_contra hnot
        rw [not_or, Bool.not_eq_true] at hnot
        apply hcheck
        rw [hnot.2, hcount]
        simpa [List.length_pos_iff] using hnot.1
      refine .checked rule hchecks rfl ?_ ?_ ?_
      · exact htold.trans hreported.told
      · have herrors' := hreported.count
        rw [List.length_map, Nat.zero_add] at herrors'
        simp only [hlive, hverdict, hcount, herrors']
      · rw [Array.toList_append, reports_append, hlog, hreported.logged]
        rfl

end StructLang
