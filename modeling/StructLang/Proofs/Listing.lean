import Mathlib.Data.List.Sort
import Mathlib.Data.String.Basic
import StructLang.Proofs.History
import StructLang.Symbol.Listing

/-!
# What the listing of the scopes shows

The listing is read by people who compare one with another, so it must not show anything that is
nobody's business, such as the order in which names were declared or declarations that were refused.
Each of its lines is a normal form: the bindings of a scope in the strict order of their names, and
there is one such row only.

* `Scope.lists_sorted` — the row that is printed is the row of the scope.
* `Scope.Lists.unique` — a scope has one row, and scopes that bind the same have the same.
* `listing_shows_bindings` — the whole text; that stacks with the same bindings have the same; and
  what that means for two histories of calls.
-/

namespace StructLang

/-! ## Rows -/

/-- The numbers of the characters of a text, by which texts are ordered. -/
def codePoints (s : String) : List Nat := s.toList.map Char.toNat

lemma codePoints_lt {s t : String} : s < t → codePoints s < codePoints t := by
  rw [String.lt_iff_toList_lt]
  exact List.map_lt fun _ _ h => h

/-- The row shows the bindings of the scope, each once, in the order of their names. -/
structure Scope.Lists (scope : Scope) (row : List (String × SymbolId)) : Prop where
  ascending : row.Pairwise fun a b => codePoints a.1 < codePoints b.1
  mem_iff : ∀ name id, (name, id) ∈ row ↔ scope.find? name = some id

namespace Scope

lemma mem_entries_iff {scope : Scope} {name : String} {id : SymbolId} :
    (name, id) ∈ scope.entries ↔ scope.find? name = some id := by
  rw [find?, List.lookup_eq_some_iff]
  constructor
  · intro h
    obtain ⟨first, rest, hentries⟩ := List.append_of_mem h
    refine ⟨first, rest, hentries, fun p hp => ?_⟩
    have hdistinct := scope.distinct
    rw [hentries, List.map_append, List.nodup_append] at hdistinct
    have hne : p.1 ≠ name := hdistinct.2.2 _ (List.mem_map_of_mem hp) _ (by simp)
    simpa using Ne.symm hne
  · rintro ⟨first, rest, hentries, -⟩
    rw [hentries]
    exact List.mem_append_right _ List.mem_cons_self

/-- The order of the entries does not matter to what the scope binds. -/
lemma find?_eq_of_perm {scope scope' : Scope} (h : scope.entries.Perm scope'.entries)
    (name : String) : scope.find? name = scope'.find? name :=
  Option.ext fun _ => mem_entries_iff.symm.trans (h.mem_iff.trans mem_entries_iff)

/-- The names of the sorted entries are in order, and no two of them are equal. -/
lemma sorted_ascending (scope : Scope) : scope.sorted.Pairwise fun a b => a.1 < b.1 := by
  have hdistinct : (scope.sorted.map Prod.fst).Nodup :=
    (scope.sorted_perm.map Prod.fst).nodup_iff.2 scope.distinct
  have hne : scope.sorted.Pairwise fun a b => a.1 ≠ b.1 := List.pairwise_map.1 hdistinct
  exact scope.sorted_pairwise.imp₂ (fun _ _ hle hne => lt_of_le_of_ne hle hne) hne

/-- What the listing shows of a scope is its row. -/
lemma lists_sorted (scope : Scope) : scope.Lists scope.sorted where
  ascending := scope.sorted_ascending.imp codePoints_lt
  mem_iff _ _ := scope.sorted_perm.mem_iff.trans mem_entries_iff

/-- Two scopes that bind the same have one row. -/
lemma Lists.unique {scope scope' : Scope} {row row' : List (String × SymbolId)}
    (h : scope.Lists row) (h' : scope'.Lists row')
    (same : ∀ name, scope.find? name = scope'.find? name) : row = row' := by
  let before : String × SymbolId → String × SymbolId → Prop := fun a b =>
    codePoints a.1 < codePoints b.1
  have : Std.Irrefl before := ⟨fun a => lt_irrefl (codePoints a.1)⟩
  have : Std.Antisymm before := ⟨fun a b hab hba => absurd hab (lt_asymm hba)⟩
  refine List.Pairwise.eq_of_mem_iff (r := before) h.ascending h'.ascending fun ⟨name, id⟩ => ?_
  rw [h.mem_iff, h'.mem_iff, same]

end Scope

/-! ## Listings -/

/-- A row as a line in braces: each name and the type of its symbol. -/
def rowLine (A : Arena) (row : List (String × SymbolId)) : String :=
  "\x7b" ++ ", ".intercalate (row.map fun (name, id) => name ++ "=" ++ A.describe id) ++ "\x7d\n"

namespace ScopeStack

variable {stack stack' : ScopeStack} {A : Arena}

lemma listing_eq (stack : ScopeStack) (A : Arena) :
    stack.listing A =
      "\nSym Table\n" ++ String.join ((stack.scopes.map Scope.sorted).map (rowLine A)) ++ "\n" := by
  have hline (scope : Scope) : scope.listing A ++ "\n" = rowLine A scope.sorted := by
    simp only [Scope.listing, rowLine, String.append_assoc]
    rfl
  simp only [listing, List.map_map, Function.comp_def, hline]

/-- The listing does not tell apart what lookups do not tell apart. -/
lemma listing_congr (depth : stack.depth = stack'.depth)
    (same : ∀ level name, stack.at? level name = stack'.at? level name) (A : Arena) :
    stack.listing A = stack'.listing A := by
  have hrows : stack.scopes.map Scope.sorted = stack'.scopes.map Scope.sorted := by
    refine List.ext_getElem (by simpa [ScopeStack.depth] using depth) fun level h h' => ?_
    rw [List.getElem_map, List.getElem_map]
    refine (Scope.lists_sorted _).unique (Scope.lists_sorted _) fun name => ?_
    rw [List.length_map] at h h'
    simpa [at?, h, h'] using same level name
  rw [listing_eq, listing_eq, hrows]

/-- After two histories that have left the same scopes open, and in each of them the same
declarations in force, the listings are the same. -/
lemma Reached.listing_congr {made made' : List ScopeCall} (h : Reached made stack)
    (h' : Reached made' stack') (depth : openedBy made = openedBy made')
    (same : ∀ level name id, LiveAt made level name id ↔ LiveAt made' level name id) (A : Arena) :
    stack.listing A = stack'.listing A := by
  refine ScopeStack.listing_congr ?_ (fun level name => Option.ext fun id => ?_) A
  · have hdepth := h.depth_add
    have hdepth' := h'.depth_add
    unfold openedBy at depth
    omega
  · rw [h.at?_eq_some_iff, h'.at?_eq_some_iff, same]

end ScopeStack

open ScopeStack in
/-- **The listing shows the bindings and nothing else.**  For all stacks, and whatever symbols their
handles have or lack, it is a heading, then a line for each scope, innermost first, and an empty
line.  The line of a scope shows each of its names once with what its handle denotes, by the order
of code points.  So two stacks of one depth whose scopes bind the same have the same listing; and
so have the stacks after any two sequences of calls of which those that succeed leave as many
scopes open, with the same declarations in force at each level, in whatever order these were made
and whatever was refused in between. -/
theorem listing_shows_bindings :
    (∀ (stack : ScopeStack) (A : Arena), ∃ rows : List (List (String × SymbolId)),
      List.Forall₂ Scope.Lists stack.scopes rows ∧
      stack.listing A = "\nSym Table\n" ++ String.join (rows.map (rowLine A)) ++ "\n") ∧
    (∀ stack stack' : ScopeStack, stack.depth = stack'.depth →
      (∀ level name, stack.at? level name = stack'.at? level name) →
      ∀ A, stack.listing A = stack'.listing A) ∧
    (∀ calls calls' : List ScopeCall,
      let made := empty.succeeding calls
      let made' := empty.succeeding calls'
      openedBy made = openedBy made' →
      (∀ level name id, LiveAt made level name id ↔ LiveAt made' level name id) →
      ∀ A, (afterCalls calls).listing A = (afterCalls calls').listing A) := by
  refine ⟨fun stack A => ⟨stack.scopes.map Scope.sorted, ?rows, stack.listing_eq A⟩,
    fun _ _ => listing_congr, fun calls calls' => ?histories⟩
  case rows =>
    rw [List.forall₂_map_right_iff, List.forall₂_same]
    exact fun scope _ => scope.lists_sorted
  case histories =>
    exact (reached_afterCalls calls).listing_congr (reached_afterCalls calls')

open ScopeStack in
/-- Two names in an outer and two in an inner scope, declared in different orders and with refused
declarations in between. -/
theorem reordered_declarations_list_alike :
    let calls := [.push, .declare "b" ⟨0⟩, .declare "a" ⟨7⟩, .push, .declare "y" ⟨0⟩,
      .declare "x" ⟨0⟩]
    let calls' := [.pop, .push, .declare "a" ⟨7⟩, .declare "a" ⟨0⟩, .declare "b" ⟨0⟩, .push,
      .declare "x" ⟨0⟩, .declare "x" ⟨7⟩, .declare "y" ⟨0⟩]
    afterCalls calls ≠ afterCalls calls' ∧
      ∀ A, (afterCalls calls).listing A = (afterCalls calls').listing A := by
  intro calls calls'
  -- the entries of a scope are kept with the latest first
  have inner : [("x", SymbolId.mk 0), ("y", ⟨0⟩)].Perm [("y", ⟨0⟩), ("x", ⟨0⟩)] := .swap ..
  have outer : [("a", SymbolId.mk 7), ("b", ⟨0⟩)].Perm [("b", ⟨0⟩), ("a", ⟨7⟩)] := .swap ..
  have hat (level : Nat) (name : String) :
      (afterCalls calls).at? level name = (afterCalls calls').at? level name := by
    match level with
    | 0 => exact Scope.find?_eq_of_perm inner name
    | 1 => exact Scope.find?_eq_of_perm outer name
    | _ + 2 => rfl
  obtain ⟨-, -, histories⟩ := listing_shows_bindings
  refine ⟨by decide, histories calls calls' rfl fun level name id => ?_⟩
  rw [← (reached_afterCalls calls).at?_eq_some_iff, ← (reached_afterCalls calls').at?_eq_some_iff,
    hat]

end StructLang
