import Mathlib.Tactic.Common
import StructLang.Proofs.Mentions
import StructLang.Tree.Build

/-!
# The first valid declaration wins

In a scope a name is bound by the first declaration of it that is valid: not `void`, and of no
struct type whose name means nothing where it stands.  Functions and structs are always valid.  What
comes before it leaves no trace, since a declaration that is not valid puts nothing into the scope;
what comes after it is a duplicate, valid or not, and is reported as one.

The three kinds of declarations look for duplicates at different moments: a variable after its type,
a function after its return type and before its formals, a struct before its fields.  It makes no
difference, since none of them declares anything in the scope in between.

* `Decl.isValid`, `Decl.Repeats` — what makes a declaration a duplicate, without reference to what
  is bound.
* `Naming.places_decided` — a declaration is bound if and only if it is valid and its name is free.
* `taken_iff_repeats` — so a name is taken if and only if a valid declaration of it came before.
* `first_valid_declaration_wins` — which declarations are bound, and which are reported.
-/

namespace StructLang

/-! ## Valid declarations and duplicates -/

/-- Only a variable, formal or field can fail to be valid: if it is `void`, or if the name of its
struct type is not bound. -/
def Decl.isValid : Decl → Bool
  | .var d => d.ty.kind?.isSome
  | .fn _ | .struct _ => true

/-- A valid declaration of the same name comes before. -/
def Decl.Repeats (before : List Decl) (d : Decl) : Prop :=
  ∃ b ∈ before, b.id.name = d.id.name ∧ b.isValid = true

instance (before : List Decl) (d : Decl) : Decidable (d.Repeats before) :=
  inferInstanceAs (Decidable (∃ b ∈ before, b.id.name = d.id.name ∧ b.isValid = true))

/-- The declarations of the scope that come after a valid one of the same name. -/
def repeatedIn (scope : List Decl) : List Decl :=
  ((placedAfter [] scope).filter fun x => x.2.Repeats x.1).map Prod.snd

/-- The report that the declaration is a duplicate. -/
def Decl.duplicate (d : Decl) : Finding := { loc := d.id.loc, problem := .duplicateDeclaration }

/-! ## What is bound -/

/-- The declaration is bound if and only if it is valid and its name is not taken. -/
def Decl.Decided (before : List Decl) (d : Decl) : Prop :=
  d.id.symbol?.isSome = true ↔ d.isValid = true ∧ ¬ d.Taken before

namespace Naming

variable {base : Nat} {B : Arena} {w w' : Names} {es : List Event} {before : List Decl}

lemma DeclareRule.decided {types : ScopeStack → ScopeStack} {d d' : VarDecl}
    (rule : DeclareRule types w d d' w' es) (free : NoneBound d.idents)
    (holds : w.table.Holds before) : (Decl.var d').Decided before := by
  obtain ⟨hty, hid⟩ := VarDecl.free free
  have hunbound : ¬ d.id.symbol?.isSome = true := by simp [hid]
  cases rule with
  | @taken ty _ _ _ type known =>
      exact iff_of_false hunbound fun h => h.2 (holds.taken (d := .var { d with ty }) known)
  | rejected type available =>
      refine iff_of_false hunbound fun h => ?_
      have hvalid : Option.isSome _ = true := h.1
      rw [type.kind_eq hty] at hvalid
      cases hvalid
  | @declared ty _ _ _ type room scope =>
      refine iff_of_true rfl ⟨congrArg Option.isSome (type.kind_eq hty), ?_⟩
      exact holds.not_taken (d := .var { ty, id := d.id.bindTo w.symbols.nextId })
        (ScopeStack.local?_of_declare scope)

lemma HeadRule.decided {id id' : Ident} {params : List Ty} {ret : Ty}
    (rule : HeadRule w id params ret id' w' es) (free : id.symbol? = none)
    (holds : w.table.Holds before) {d : Decl} (hd : d.id = id') (valid : d.isValid = true) :
    d.Decided before := by
  cases rule with
  | taken known =>
      exact iff_of_false (by simp [hd, free]) fun h => h.2 (holds.taken (hd ▸ known))
  | declared room scope =>
      exact iff_of_true (by simp [hd])
        ⟨valid, holds.not_taken (hd ▸ ScopeStack.local?_of_declare scope)⟩

lemma StructRule.decided {s s' : StructDecl} (rule : StructRule w s s' w' es)
    (free : s.id.symbol? = none) (holds : w.table.Holds before) :
    (Decl.struct s').Decided before := by
  cases rule with
  | @taken _ fields _ _ known all =>
      exact iff_of_false (by simp [Decl.id, free]) fun h =>
        h.2 (holds.taken (d := .struct { s with fields }) known)
  | @declared fields w₁ _ _ all room scope =>
      exact iff_of_true rfl ⟨rfl, holds.not_taken
        (d := .struct { id := s.id.bindTo w₁.symbols.nextId, fields })
        (ScopeStack.local?_of_declare scope)⟩

/-- **A declaration is bound if and only if it is valid and its name is free.** -/
lemma places_decided : Places base B fun before d => d.Decided before where
  var rule _ _ _ free holds := rule.decided free holds
  fn rule _ _ free holds := by
    cases rule with
    | mk type head params inside =>
        exact head.decided (free _ Decl.mem_idents_fn) holds rfl rfl
  struct rule _ _ free holds := rule.decided (free _ Decl.mem_idents_struct) holds

end Naming

/-! ## Taken names are names of valid declarations -/

section

variable {scope before : List Decl} {d : Decl}

/-- What comes before a declaration is placed in the scope as well. -/
lemma placed_before (hd : (before, d) ∈ placedAfter [] scope) {b : Decl} (hb : b ∈ before) :
    ∃ earlier, (earlier, b) ∈ placedAfter [] scope ∧ ∀ c ∈ earlier, c ∈ before := by
  obtain ⟨_, after, rfl, rfl⟩ := mem_placedAfter_iff.1 hd
  obtain ⟨earlier, between, rfl⟩ := List.append_of_mem hb
  refine ⟨earlier, mem_placedAfter_iff.2 ⟨earlier, between ++ d :: after, by simp, rfl⟩, ?_⟩
  exact fun c hc => List.mem_append_left _ hc

/-- **Only a valid declaration takes a name, and the first of them always does.** -/
theorem taken_iff_repeats (decided : ∀ x ∈ placedAfter [] scope, x.2.Decided x.1)
    (hd : (before, d) ∈ placedAfter [] scope) : d.Taken before ↔ d.Repeats before := by
  constructor
  · rintro ⟨b, hb, hname, hbound⟩
    obtain ⟨earlier, hplaced, -⟩ := placed_before hd hb
    exact ⟨b, hb, hname, ((decided _ hplaced).1 hbound).1⟩
  · rintro ⟨b, hb, hname, hvalid⟩
    obtain ⟨earlier, hplaced, hsub⟩ := placed_before hd hb
    by_cases htaken : b.Taken earlier
    · obtain ⟨c, hc, hsame, hbound⟩ := htaken
      exact ⟨c, hsub c hc, hsame.trans hname, hbound⟩
    · exact ⟨b, hb, hname, (decided _ hplaced).2 ⟨hvalid, htaken⟩⟩

end

/-! ## Reports of duplicates -/

/-- At one point only a declaration whose name is taken is reported as a duplicate. -/
lemma Mention.duplicates (A : Arena) (m : Mention) :
    (m.findings A).filter (·.problem = .duplicateDeclaration) =
      ((placedAt [m]).filter fun x => x.2.Taken x.1).map fun x => x.2.duplicate := by
  cases m with
  | use id =>
      rw [findings]
      cases id.symbol? <;> rfl
  | field base id =>
      rw [findings, Arena.fieldFindings]
      cases base.asBase with
      | failed | nothing => rfl
      | symbol h =>
          dsimp only
          cases A.fieldsOf h with
          | error fault => rfl
          | ok fields =>
              cases fields with
              | none => rfl
              | some table => cases id.symbol? <;> rfl
  | type name =>
      rw [findings]
      cases name.symbol? <;> rfl
  | void owner => rfl
  | declared before d =>
      by_cases h : d.Taken before
      · rw [Naming.findings_of_taken h]
        simp [placedAt, placed?, h, Decl.duplicate]
      · rw [Naming.findings_of_not_taken h]
        simp [placedAt, placed?, h]

lemma duplicates_of_mentions (A : Arena) (ms : List Mention) :
    (remarksOf A ms).filter (·.problem = .duplicateDeclaration) =
      ((placedAt ms).filter fun x => x.2.Taken x.1).map fun x => x.2.duplicate := by
  induction ms with
  | nil => rfl
  | cons m ms ih =>
      rw [remarksOf_cons, List.filter_append, ih, m.duplicates, ← List.map_append,
        ← List.filter_append, ← placedAt_append, List.singleton_append]

/-- The declarations of the scopes that have taken names are those that repeat a valid one. -/
lemma duplicates_in_scopes {scopes : List (List Decl)}
    (decided : ∀ scope ∈ scopes, ∀ x ∈ placedAfter [] scope, x.2.Decided x.1) :
    ((scopes.flatMap (placedAfter [])).filter fun x => x.2.Taken x.1).map (·.2.duplicate) =
      (scopes.flatMap repeatedIn).map Decl.duplicate := by
  rw [List.filter_flatMap, List.map_flatMap, List.map_flatMap]
  refine List.flatMap_congr fun scope hscope => ?_
  have hsame : (placedAfter [] scope).filter (fun x => x.2.Taken x.1) =
      (placedAfter [] scope).filter fun x => x.2.Repeats x.1 :=
    List.filter_congr fun x hx => decide_eq_decide.2 (taken_iff_repeats (decided scope hscope) hx)
  rw [hsame, repeatedIn, List.map_map]
  rfl

/-! ## Runs -/

open Naming

/-- **The first valid declaration wins, and each later one is reported once.**  From any run
that has a handle left for each of its declarations, name resolution of a program in which nothing
is bound goes on to its end.  In every scope, a declaration is bound if and only if it is valid and
no valid one of the same name comes before.  All reports of duplicates are at the identifiers of
those that do repeat a valid one, one report for each. -/
theorem first_valid_declaration_wins (dumpScopes : Bool) {p : Program} (free : NoneBound p.idents)
    (s : Run Names) (room : s.work.symbols.size + p.declCount ≤ UInt32.size) :
    let done := (resolveProgram dumpScopes p).run s
    done.2.outcome = .ok () ∧
      (∀ scope ∈ done.1.scopes, ∀ before d after, scope = before ++ d :: after →
        (d.id.symbol?.isSome = true ↔ d.isValid = true ∧ ¬ d.Repeats before)) ∧
      ∃ findings, s.Reported done.2 findings ∧
        (findings.filter (·.problem = .duplicateDeclaration)).Perm
          ((done.1.scopes.flatMap repeatedIn).map Decl.duplicate) := by
  intro done
  obtain ⟨base, w, es, hw, rule, outcome, -⟩ := resolveProgram_explained dumpScopes free s room
  have hdecided := rule.places places_decided hw (.refl _) (Program.noneBound_decls free)
    .withScope
  refine ⟨outcome, ?_, _, resolveProgram_reports dumpScopes free s room, ?_⟩
  · rintro scope hscope before d after rfl
    have hplaced : (before, d) ∈ placedAfter [] (before ++ d :: after) :=
      mem_placedAfter_iff.2 ⟨before, after, rfl, rfl⟩
    rw [← taken_iff_repeats (hdecided _ hscope) hplaced]
    exact hdecided _ hscope _ hplaced
  · have hperm := (done.1.placed_perm.filter fun x => x.2.Taken x.1).map (·.2.duplicate)
    rw [duplicates_in_scopes hdecided] at hperm
    exact (duplicates_of_mentions _ _).symm ▸ hperm

/-- A name that is declared over and over: as what cannot be a variable, as a number, as what
cannot be a variable again, as a function, and in that function as a formal and once more. -/
def redeclared : Program where
  decls := [
    .var { ty := .void, id := .unbound "x" { line := 1, column := 6 } },
    .var { ty := .int, id := .unbound "x" { line := 2, column := 5 } },
    .var { ty := .void, id := .unbound "x" { line := 3, column := 6 } },
    .fn
      { ret := .int
        id := .unbound "x" { line := 4, column := 5 }
        formals := [{ ty := .bool, id := .unbound "x" { line := 4, column := 12 } }]
        body := .mk [{ ty := .int, id := .unbound "x" { line := 5, column := 7 } }] [] }]

/-- The number wins in the scope of the program, and the formal in that of the function. -/
theorem redeclared_first_wins :
    let done := (resolveProgram false redeclared).run { work := {}, sink := {} }
    redeclared.Fresh ∧
      done.1.scopes.flatten.map (fun d => (d.id.loc.line, d.id.symbol?.isSome)) =
        [(1, false), (2, true), (3, false), (4, false), (4, true), (5, false)] ∧
      (done.1.scopes.flatMap repeatedIn).map (·.id.loc.line) = [3, 4, 5] ∧
      ∃ findings, Run.Reported { work := {}, sink := {} } done.2 findings ∧
        (findings.filter (·.problem = .duplicateDeclaration)).Perm
          ((done.1.scopes.flatMap repeatedIn).map Decl.duplicate) := by
  have hfresh : redeclared.Fresh := ⟨⟨by decide, by decide, by decide⟩, by decide⟩
  obtain ⟨-, -, hreported⟩ :=
    first_valid_declaration_wins false hfresh.unbound { work := {}, sink := {} } hfresh.fits
  exact ⟨hfresh, by decide +kernel, by decide +kernel, hreported⟩

end StructLang
