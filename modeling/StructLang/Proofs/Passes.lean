import Mathlib.Tactic.Common
import StructLang.Proofs.TransportTyping
import StructLang.Proofs.Uniqueness

/-!
# What each pass reports of each declaration

An analysis with the standard configuration, taken apart: the run of name resolution
(`Program.naming`), the run of type checking after it (`Program.checking`), and what the sink gains
in each of them, as a whole and from every single declaration.

Both passes go through the declarations in order.  What is reported of a declaration is what the
sink holds after it and did not hold before it (`Pass.toldAt`).  In terms of the rules those are the
reports among the events of its own rule, and the complaints about the decorated declaration.
-/

namespace StructLang

/-! ## Runs and sinks -/

/-- What the sink holds after the `i`-th step of a pass over a list, and did not hold before it. -/
def Pass.toldAt {σ α β : Type} (f : α → Pass σ β) (xs : List α) (s : Run σ) (i : Nat) :
    List Diagnostic :=
  (((xs.take (i + 1)).mapM f).run s).2.sink.entries.toList.drop
    (((xs.take i).mapM f).run s).2.sink.size

lemma Told.drop {sink sink' : Diagnostics} {fs gs : List Finding} (h : Told sink sink' (fs ++ gs))
    {sink₁ : Diagnostics} (h₁ : Told sink sink₁ fs) :
    sink'.entries.toList.drop sink₁.size = gs.map Finding.diagnostic := by
  have hsize : sink₁.size = (sink.entries.toList ++ fs.map Finding.diagnostic).length := by
    rw [← h₁]
    rfl
  rw [hsize, h, List.map_append, ← List.append_assoc, List.drop_left]

namespace Naming

open Pass

/-- What name resolution does before it gets to the declarations of a program. -/
def start (p : Program) : Naming Unit := do
  modify fun run => run.restart { run.work with table := .empty }
  note (.namingStarted p.decls.length)
  openScope

end Naming

namespace Checking

open Pass

/-- What type checking does before it gets to the declarations of a program. -/
def start : Checking Unit := do
  modify (Run.restart true)
  note .checkingStarted

end Checking

namespace Program

variable (p : Program) (sink : Diagnostics)

/-- Name resolution in an analysis: the tree and the run that it ends with. -/
def naming : Program × Run Names := (resolveProgram false p).run { work := {}, sink }

/-- Type checking after name resolution: the tree and the run that it ends with. -/
def checking : Program × Run Bool :=
  (checkProgram (p.naming sink).2.work.symbols (p.naming sink).1).run
    { work := true, sink := (p.naming sink).2.sink }

/-- What name resolution reports. -/
def namesTold : List Diagnostic := (p.naming sink).2.sink.entries.toList.drop sink.size

/-- What type checking reports. -/
def typesTold : List Diagnostic :=
  (p.checking sink).2.sink.entries.toList.drop (p.naming sink).2.sink.size

/-- What name resolution reports of the `i`-th declaration. -/
def namesToldAt (i : Nat) : List Diagnostic :=
  Pass.toldAt Naming.resolveDecl p.decls ((Naming.start p).run { work := {}, sink }).2 i

/-- What type checking reports of the `i`-th declaration. -/
def typesToldAt (i : Nat) : List Diagnostic :=
  Pass.toldAt (Checking.checkDecl (p.naming sink).2.work.symbols) (p.naming sink).1.decls
    (Checking.start.run { work := true, sink := (p.naming sink).2.sink }).2 i

end Program

/-! ## Programs in which nothing is filled -/

/-- No slot of the declaration is filled. -/
structure Decl.Unfilled (d : Decl) : Prop where
  unbound : ∀ id ∈ d.idents, id.symbol? = none
  untyped : ∀ e ∈ d.exprs, e.ty? = none

lemma Program.unfilled_iff {p : Program} :
    p.Unfilled ↔ (∀ d ∈ p.decls, d.Unfilled) ∧ p.declCount ≤ UInt32.size where
  mp h :=
    { left := fun d hd =>
        { unbound := fun id hid => h.unbound id (mem_idents_decls (List.mem_flatMap.2 ⟨d, hd, hid⟩))
          untyped := fun e he => h.untyped e (List.mem_flatMap.2 ⟨d, hd, he⟩) }
      right := h.few }
  mpr h :=
    { unbound := fun id hid => by
        obtain ⟨d, hd, hid⟩ := List.mem_flatMap.1 (mem_idents_iff.1 hid)
        exact (h.1 d hd).unbound id hid
      untyped := fun e he => by
        obtain ⟨d, hd, he⟩ := List.mem_flatMap.1 he
        exact (h.1 d hd).untyped e he
      few := h.2 }

lemma Program.Unfilled.decls {p : Program} (h : p.Unfilled) : ∀ d ∈ p.decls, d.Unfilled :=
  (unfilled_iff.1 h).1

/-- Nothing is filled in the first declarations or the last, and there are enough handles for
either. -/
lemma Program.Unfilled.append {ds es : List Decl} (h : Program.Unfilled ⟨ds ++ es⟩) :
    Program.Unfilled ⟨ds⟩ ∧ Program.Unfilled ⟨es⟩ := by
  have hdecls := h.decls
  have hfew := h.few
  rw [List.forall_mem_append] at hdecls
  rw [declCount, Decl.declCountOfAll_append] at hfew
  exact ⟨unfilled_iff.2 ⟨hdecls.1, Nat.le_of_add_right_le hfew⟩,
    unfilled_iff.2 ⟨hdecls.2, Nat.le_of_add_left_le hfew⟩⟩

/-! ## In terms of the rules -/

open Naming in
/-- An analysis with the standard configuration, in terms of the rules of name resolution and of
what type checking says about the tree. -/
structure Program.Passes (p : Program) (sink : Diagnostics) (tree : Program) (w : Names)
    (es : List Event) : Prop where
  unfilled : p.Unfilled
  rule : DeclsRule ⟨{}, .withScope⟩ p.decls tree.decls w es
  ready : AllReady w.symbols tree.exprs
  result : ∃ a, (analyze .standard p sink).result = .ok a ∧ a.symbols = w.symbols
  program : (analyze .standard p sink).program = tree.decorate w.symbols
  told : Told sink (analyze .standard p sink).sink
    (reports es ++ ((tree.decorate w.symbols).complaints w.symbols).map Complaint.finding)
  named : (p.naming sink).1 = tree
  symbols : (p.naming sink).2.work.symbols = w.symbols
  names : Told sink (p.naming sink).2.sink (reports es)
  types : Told (p.naming sink).2.sink (p.checking sink).2.sink
    (((tree.decorate w.symbols).complaints w.symbols).map Complaint.finding)

open Naming in
theorem Program.exists_passes {p : Program} (h : p.Unfilled) (sink : Diagnostics) :
    ∃ tree w es, p.Passes sink tree w es := by
  obtain ⟨tree, t, hrun, w, es, rule, resolved⟩ :=
    resolveProgram_goes_on false h.unbound { work := {}, sink } h.fits
  have hready : AllReady w.symbols tree.exprs := rule.ready sound_start h.blank
  have hsymbols : t.work.symbols = w.symbols := resolved.symbols_eq
  have htold : Told sink t.sink (reports es) := resolved.reported.told
  have htold' := (checkProgram_reported hready { work := true, sink := t.sink }).2.1.told
  have hnaming : p.naming sink = (tree, t) := hrun
  have hchecking : p.checking sink =
      (checkProgram w.symbols tree).run { work := true, sink := t.sink } := by
    rw [Program.checking, hnaming, hsymbols]
  have hanalysis : (∃ a, (analyze .standard p sink).result = .ok a ∧ a.symbols = w.symbols) ∧
      (analyze .standard p sink).program = tree.decorate w.symbols ∧
      Told sink (analyze .standard p sink).sink
        (reports es ++ ((tree.decorate w.symbols).complaints w.symbols).map Complaint.finding) := by
    cases analyze_explained .standard h sink with
    | skipped _ _ skips _ _ _ _ => cases skips
    | @checked tree' _ _ rule' _ program told result _ =>
        obtain ⟨hdecls, rfl, rfl⟩ := rule'.unique rule
        have htree : tree' = tree := congrArg Program.mk hdecls
        rw [htree] at program
        rw [program] at told
        exact ⟨⟨_, result, rfl⟩, program, told⟩
  exact ⟨tree, w, es, h, rule, hready, hanalysis.1, hanalysis.2.1, hanalysis.2.2, by rw [hnaming],
    by rw [hnaming, hsymbols], by rw [hnaming]; exact htold,
    by rw [hnaming, hchecking]; exact htold'⟩

namespace Program.Passes

open Naming

variable {p tree : Program} {sink : Diagnostics} {w : Names} {es : List Event}
  (P : p.Passes sink tree w es)

include P

lemma namesTold : p.namesTold sink = (reports es).map Finding.diagnostic := by
  have htold : Told sink (p.naming sink).2.sink ([] ++ reports es) := P.names
  exact htold.drop ((List.append_nil _).symm)

lemma typesTold : p.typesTold sink =
    (((tree.decorate w.symbols).complaints w.symbols).map Complaint.finding).map
      Finding.diagnostic := by
  have htold : Told (p.naming sink).2.sink (p.checking sink).2.sink ([] ++ _) := P.types
  exact htold.drop ((List.append_nil _).symm)

/-- The sink after the first declarations has the reports among their events. -/
lemma told_names {ds rest ds' : List Decl} {w' : Names} {fs : List Event}
    (hp : p.decls = ds ++ rest) (rule : DeclsRule ⟨{}, .withScope⟩ ds ds' w' fs) :
    Told sink ((ds.mapM resolveDecl).run ((Naming.start p).run { work := {}, sink }).2).2.sink
      (reports fs) := by
  have hfree : ∀ id ∈ ds.flatMap Decl.idents, id.symbol? = none := fun id hid =>
    P.unfilled.unbound id (Program.mem_idents_decls (by
      rw [hp, List.flatMap_append]
      exact List.mem_append_left _ hid))
  have hunfilled : Program.Unfilled ⟨ds ++ rest⟩ := hp ▸ P.unfilled
  obtain ⟨ds₁, t, hrun, -, w₁, fs₁, rule₁, rfl⟩ :=
    (resolveDecls_ends (s := ((Naming.start p).run { work := {}, sink }).2) rfl
      (Or.inl hunfilled.append.1.fits) sound_start (Or.inl hfree)).goes_on
  obtain ⟨-, -, rfl⟩ := rule₁.unique rule
  rw [hrun]
  exact (Run.reported_after _ _ _).told

/-- What name resolution reports of a declaration are the reports among its events. -/
lemma namesToldAt {pre rest pre' : List Decl} {d d' : Decl} {w₁ w₂ : Names} {fs gs : List Event}
    (hp : p.decls = pre ++ d :: rest) (first : DeclsRule ⟨{}, .withScope⟩ pre pre' w₁ fs)
    (rule : DeclRule w₁ d d' w₂ gs) :
    p.namesToldAt sink pre.length = (reports gs).map Finding.diagnostic := by
  have hnext : p.decls = (pre ++ [d]) ++ rest := by rw [hp, List.append_assoc]; rfl
  have hbefore := P.told_names hp first
  have hafter := P.told_names hnext (first.append (.cons rule .nil))
  rw [List.append_nil, reports_append] at hafter
  unfold Program.namesToldAt Pass.toldAt
  have htake : p.decls.take (pre.length + 1) = pre ++ [d] := by
    rw [hnext, List.take_left' (by simp)]
  have htake' : p.decls.take pre.length = pre := by rw [hp, List.take_left]
  rw [htake, htake']
  exact hafter.drop hbefore

/-- The sink after the first declarations has the complaints about them. -/
lemma told_types {ds rest : List Decl} (ht : tree.decls = ds ++ rest) :
    Told (p.naming sink).2.sink ((ds.mapM (Checking.checkDecl w.symbols)).run
      (Checking.start.run { work := true, sink := (p.naming sink).2.sink }).2).2.sink
      ((ds.flatMap fun d => (d.decorate w.symbols).complaints w.symbols).map
        Complaint.finding) := by
  have hready : AllReady w.symbols (ds.flatMap Decl.exprs) := P.ready.mono fun e he => by
    rw [Program.exprs, ht, List.flatMap_append]
    exact List.mem_append_left _ he
  have hcomplaints : (ds.flatMap fun d => (d.decorate w.symbols).complaints w.symbols) =
      ((ds.map (·.decorate w.symbols)).flatMap Decl.judgements).flatMap
        (·.complaints w.symbols) := by
    rw [List.flatMap_assoc, List.flatMap_map]
    rfl
  rw [Checking.run_checkDecls rfl hready, hcomplaints]
  exact (Run.reported_judge _ _ _).told

/-- What type checking reports of a declaration are the complaints about it. -/
lemma typesToldAt {pre rest : List Decl} {d : Decl} (ht : tree.decls = pre ++ d :: rest) :
    p.typesToldAt sink pre.length =
      (((d.decorate w.symbols).complaints w.symbols).map Complaint.finding).map
        Finding.diagnostic := by
  have hnext : tree.decls = (pre ++ [d]) ++ rest := by rw [ht, List.append_assoc]; rfl
  have hbefore := P.told_types ht
  have hafter := P.told_types hnext
  rw [List.flatMap_append, List.flatMap_singleton, List.map_append] at hafter
  have htake : tree.decls.take (pre.length + 1) = pre ++ [d] := by
    rw [hnext, List.take_left' (by simp)]
  have htake' : tree.decls.take pre.length = pre := by rw [ht, List.take_left]
  unfold Program.typesToldAt Pass.toldAt
  rw [P.symbols, P.named, htake, htake']
  exact hafter.drop hbefore

end Program.Passes

/-! ### The parts make up the whole -/

/-- A list around one of its members. -/
lemma eq_take_cons_drop {α : Type} {xs : List α} {i : Nat} {x : α} (h : xs[i]? = some x) :
    xs = xs.take i ++ x :: xs.drop (i + 1) ∧ (xs.take i).length = i := by
  obtain ⟨hlt, rfl⟩ := List.getElem?_eq_some_iff.1 h
  refine ⟨?_, List.length_take_of_le (Nat.le_of_lt hlt)⟩
  rw [← List.drop_eq_getElem_cons hlt, List.take_append_drop]

namespace Program

open Naming

variable {p tree : Program} {sink : Diagnostics} {w : Names} {es : List Event}

lemma Passes.names_of_parts (P : p.Passes sink tree w es) : ∀ {rest pre pre' : List Decl}
    {w₁ : Names} {fs : List Event}, p.decls = pre ++ rest →
    DeclsRule ⟨{}, .withScope⟩ pre pre' w₁ fs →
      p.namesTold sink = (reports fs).map Finding.diagnostic ++
        (List.range' pre.length rest.length).flatMap (p.namesToldAt sink)
  | [], pre, _, _, _, hp, rule => by
      rw [List.append_nil] at hp
      obtain ⟨-, -, rfl⟩ := P.rule.unique (hp ▸ rule)
      rw [P.namesTold]
      exact (List.append_nil _).symm
  | d :: rest, pre, _, _, fs, hp, rule => by
      obtain ⟨pre', all', w₁, fs', gs, first, later, -, -⟩ := (hp ▸ P.rule).append_inv
      obtain ⟨rfl, rfl, rfl⟩ := first.unique rule
      cases later with
      | cons mid later =>
          have hnext : p.decls = (pre ++ [d]) ++ rest := by rw [hp, List.append_assoc]; rfl
          have ih := P.names_of_parts hnext (first.append (.cons mid .nil))
          rw [List.append_nil, reports_append, List.map_append, List.length_append,
            List.length_singleton] at ih
          rw [ih, List.length_cons, List.range'_succ, List.flatMap_cons,
            P.namesToldAt hp first mid, List.append_assoc]

lemma Passes.types_of_parts (P : p.Passes sink tree w es) : ∀ {rest pre : List Decl},
    tree.decls = pre ++ rest →
      ((rest.flatMap fun d => (d.decorate w.symbols).complaints w.symbols).map
        Complaint.finding).map Finding.diagnostic =
          (List.range' pre.length rest.length).flatMap (p.typesToldAt sink)
  | [], _, _ => rfl
  | d :: rest, pre, ht => by
      have hnext : tree.decls = (pre ++ [d]) ++ rest := by rw [ht, List.append_assoc]; rfl
      have ih := P.types_of_parts hnext
      rw [List.length_append, List.length_singleton] at ih
      rw [List.flatMap_cons, List.map_append, List.map_append, ih, List.length_cons,
        List.range'_succ, List.flatMap_cons, P.typesToldAt ht]

/-- **The parts make up the whole.**  What an analysis tells the sink is what name resolution and
then type checking report, and each of them reports of one declaration after the other. -/
theorem told_by_declarations (h : p.Unfilled) (sink : Diagnostics) :
    (analyze .standard p sink).sink.entries.toList =
        sink.entries.toList ++ p.namesTold sink ++ p.typesTold sink ∧
      p.namesTold sink = (List.range p.decls.length).flatMap (p.namesToldAt sink) ∧
      p.typesTold sink = (List.range p.decls.length).flatMap (p.typesToldAt sink) := by
  obtain ⟨tree, w, es, P⟩ := exists_passes h sink
  have hp : p.decls = [] ++ p.decls := rfl
  have ht : tree.decls = [] ++ tree.decls := rfl
  have hnames := P.names_of_parts hp .nil
  have htypes := P.types_of_parts ht
  rw [P.rule.length_eq] at htypes
  rw [List.range_eq_range']
  refine ⟨?_, hnames, ?_⟩
  · rw [P.namesTold, P.typesTold, List.append_assoc, ← List.map_append]
    exact P.told
  · rw [P.typesTold, complaints_eq]
    simp only [decorate, List.flatMap_map]
    exact htypes

end Program

end StructLang
