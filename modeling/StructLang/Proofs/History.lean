import Mathlib.Data.List.Induction
import Mathlib.Tactic.Common
import StructLang.Proofs.Symbols

/-!
# Scope stacks and their history

What a stack of scopes answers can be said without a stack, from the calls alone that were made and
have succeeded.  A name declared in a scope is known until that scope is closed.  A scope is closed
by the first call that closes more scopes than were opened since, so it is the calls after a
declaration that tell whether it is still in force (`StaysOpen`), and how many scopes are open inside
its own (`openedBy`).

* `ScopeStack.Reached.find?_level_iff` — what the scope at each level binds is what the live
  declarations of that level say.  Each call keeps this, and the rest is read off from it.
* `Live.openedBy_lt` — of two live declarations of one name the later one stands further inside,
  since otherwise the second one would have been refused.  So the innermost is the most recent.
* `scopes_tell_their_history` — the answers of a stack after any calls.
-/

namespace StructLang

/-- A call that changes a stack of scopes. -/
inductive ScopeCall where
  | push
  | pop
  | declare (name : String) (id : SymbolId)
  deriving DecidableEq

namespace ScopeStack

/-- Makes a call. -/
def perform (stack : ScopeStack) : ScopeCall → Except ScopeFault ScopeStack
  | .push => .ok stack.push
  | .pop => stack.pop
  | .declare name id => stack.declare name id

/-- The stack after a call; one that fails leaves it as it is. -/
def call (stack : ScopeStack) (c : ScopeCall) : ScopeStack :=
  match stack.perform c with
  | .ok target => target
  | .error _ => stack

/-- The stack after the calls, from one without scopes. -/
def afterCalls (calls : List ScopeCall) : ScopeStack := calls.foldl call .empty

/-- Those of the calls that succeed, one after the other from the stack. -/
def succeeding (stack : ScopeStack) : List ScopeCall → List ScopeCall
  | [] => []
  | c :: calls =>
    match stack.perform c with
    | .ok target => c :: target.succeeding calls
    | .error _ => stack.succeeding calls

/-- The stack comes from the calls, all of which succeed. -/
inductive Reached : List ScopeCall → ScopeStack → Prop
  | start : Reached [] .empty
  | call {made : List ScopeCall} {stack target : ScopeStack} {c : ScopeCall}
      (before : Reached made stack) (done : stack.perform c = .ok target) :
      Reached (made ++ [c]) target

end ScopeStack

/-! ## Histories -/

/-- At no time do the calls close a scope that they have not opened. -/
def StaysOpen (calls : List ScopeCall) : Prop :=
  ∀ first, first <+: calls → first.count .pop ≤ first.count .push

/-- How many of the scopes that the calls open are open in the end. -/
def openedBy (calls : List ScopeCall) : Nat := calls.count .push - calls.count .pop

/-- Among the calls made there is the declaration of the name, with the given calls after it, and the
scope that it was made in is still open. -/
structure Live (made : List ScopeCall) (name : String) (id : SymbolId) (after : List ScopeCall) :
    Prop where
  declared : ∃ before, made = before ++ .declare name id :: after
  staysOpen : StaysOpen after

/-- The live declaration of the name that has been made last. -/
structure MostRecent (made : List ScopeCall) (name : String) (id : SymbolId)
    (after : List ScopeCall) : Prop where
  live : Live made name id after
  least : ∀ id' after', Live made name id' after' → after.length ≤ after'.length

section

variable {made calls after after' : List ScopeCall} {name other : String} {id id' : SymbolId}
  {c : ScopeCall}

lemma staysOpen_nil : StaysOpen [] := by
  intro first hfirst
  simp [List.prefix_nil.1 hfirst]

lemma StaysOpen.of_append (h : StaysOpen (calls ++ after)) : StaysOpen calls :=
  fun _ hfirst => h _ (hfirst.trans (List.prefix_append _ _))

lemma StaysOpen.count_push (h : StaysOpen calls) :
    calls.count .push = calls.count .pop + openedBy calls := by
  have hle := h calls List.prefix_rfl
  unfold openedBy
  omega

lemma StaysOpen.openedBy_append (h : StaysOpen calls) (h' : StaysOpen after) :
    openedBy (calls ++ after) = openedBy calls + openedBy after := by
  have hcount := h.count_push
  have hcount' := h'.count_push
  simp only [openedBy, List.count_append]
  omega

lemma staysOpen_snoc :
    StaysOpen (calls ++ [c]) ↔
      StaysOpen calls ∧ (calls ++ [c]).count .pop ≤ (calls ++ [c]).count .push := by
  constructor
  · intro h
    exact ⟨h.of_append, h _ List.prefix_rfl⟩
  · rintro ⟨hcalls, hall⟩ first hfirst
    rcases List.prefix_concat_iff.1 hfirst with rfl | hfirst
    · exact hall
    · exact hcalls first hfirst

lemma staysOpen_push : StaysOpen (calls ++ [.push]) ↔ StaysOpen calls := by
  rw [staysOpen_snoc, and_iff_left_iff_imp]
  intro h
  have hcount := h.count_push
  simp
  omega

lemma staysOpen_declare : StaysOpen (calls ++ [.declare name id]) ↔ StaysOpen calls := by
  rw [staysOpen_snoc, and_iff_left_iff_imp]
  intro h
  have hcount := h.count_push
  simp
  omega

lemma staysOpen_pop : StaysOpen (calls ++ [.pop]) ↔ StaysOpen calls ∧ 0 < openedBy calls := by
  rw [staysOpen_snoc, and_congr_right_iff]
  intro h
  have hcount := h.count_push
  simp
  omega

lemma openedBy_nil : openedBy [] = 0 := rfl

lemma openedBy_push (h : StaysOpen calls) : openedBy (calls ++ [.push]) = openedBy calls + 1 := by
  have hcount := h.count_push
  simp [openedBy]
  omega

lemma openedBy_pop : openedBy (calls ++ [.pop]) = openedBy calls - 1 := by
  simp [openedBy]
  omega

lemma openedBy_declare : openedBy (calls ++ [.declare name id]) = openedBy calls := by
  simp [openedBy]

lemma Live.unique (h : Live made name id after) (h' : Live made name id' after')
    (hlength : after.length = after'.length) : id = id' ∧ after = after' := by
  obtain ⟨⟨before, rfl⟩, -⟩ := h
  obtain ⟨⟨before', hmade⟩, -⟩ := h'
  obtain ⟨-, htail⟩ := List.append_inj' hmade (by simp [hlength])
  simpa using htail

/-! ## One more call -/

/-- A declaration is live after one more call if it has just been made, or was live before and has
not been undone by the call. -/
lemma live_snoc :
    Live (made ++ [c]) name id after ↔
      (after = [] ∧ c = .declare name id) ∨
      ∃ rest, after = rest ++ [c] ∧ Live made name id rest ∧ StaysOpen (rest ++ [c]) := by
  constructor
  · rintro ⟨⟨before, hmade⟩, hopen⟩
    rcases List.eq_nil_or_concat after with rfl | ⟨rest, last, rfl⟩
    · obtain ⟨-, hlast⟩ := List.append_inj' hmade rfl
      exact Or.inl ⟨rfl, List.singleton_inj.1 hlast⟩
    · have hsplit : made ++ [c] = (before ++ .declare name id :: rest) ++ [last] := by
        simpa using hmade
      obtain ⟨hmade', hlast⟩ := List.append_inj' hsplit rfl
      obtain rfl : c = last := List.singleton_inj.1 hlast
      rw [List.concat_eq_append] at hopen ⊢
      exact Or.inr ⟨rest, rfl, ⟨⟨before, hmade'⟩, hopen.of_append⟩, hopen⟩
  · rintro (⟨rfl, rfl⟩ | ⟨rest, rfl, ⟨⟨before, rfl⟩, -⟩, hopen⟩)
    · exact ⟨⟨made, rfl⟩, staysOpen_nil⟩
    · exact ⟨⟨before, by simp⟩, hopen⟩

/-- The name has a live declaration with so many scopes open inside the one it was made in. -/
def LiveAt (made : List ScopeCall) (level : Nat) (name : String) (id : SymbolId) : Prop :=
  ∃ after, Live made name id after ∧ openedBy after = level

lemma not_liveAt_nil {level : Nat} : ¬ LiveAt [] level name id := by
  rintro ⟨after, ⟨⟨before, hmade⟩, -⟩, -⟩
  simp at hmade

lemma not_liveAt_push : ¬ LiveAt (made ++ [.push]) 0 name id := by
  rintro ⟨after, hlive, hlevel⟩
  rcases live_snoc.1 hlive with ⟨-, hc⟩ | ⟨rest, rfl, hrest, -⟩
  · cases hc
  · rw [openedBy_push hrest.staysOpen] at hlevel
    omega

lemma liveAt_push {level : Nat} :
    LiveAt (made ++ [.push]) (level + 1) name id ↔ LiveAt made level name id := by
  constructor
  · rintro ⟨after, hlive, hlevel⟩
    rcases live_snoc.1 hlive with ⟨-, hc⟩ | ⟨rest, rfl, hrest, -⟩
    · cases hc
    · rw [openedBy_push hrest.staysOpen] at hlevel
      exact ⟨rest, hrest, by omega⟩
  · rintro ⟨rest, hrest, hlevel⟩
    exact ⟨rest ++ [.push],
      live_snoc.2 (Or.inr ⟨rest, rfl, hrest, staysOpen_push.2 hrest.staysOpen⟩),
      by rw [openedBy_push hrest.staysOpen, hlevel]⟩

lemma liveAt_pop {level : Nat} :
    LiveAt (made ++ [.pop]) level name id ↔ LiveAt made (level + 1) name id := by
  constructor
  · rintro ⟨after, hlive, hlevel⟩
    rcases live_snoc.1 hlive with ⟨-, hc⟩ | ⟨rest, rfl, hrest, hopen⟩
    · cases hc
    · have hpos := (staysOpen_pop.1 hopen).2
      rw [openedBy_pop] at hlevel
      exact ⟨rest, hrest, by omega⟩
  · rintro ⟨rest, hrest, hlevel⟩
    exact ⟨rest ++ [.pop],
      live_snoc.2 (Or.inr ⟨rest, rfl, hrest, staysOpen_pop.2 ⟨hrest.staysOpen, by omega⟩⟩),
      by rw [openedBy_pop]; omega⟩

lemma liveAt_declare {level : Nat} :
    LiveAt (made ++ [.declare other id']) level name id ↔
      (level = 0 ∧ other = name ∧ id' = id) ∨ LiveAt made level name id := by
  constructor
  · rintro ⟨after, hlive, hlevel⟩
    rcases live_snoc.1 hlive with ⟨rfl, hc⟩ | ⟨rest, rfl, hrest, -⟩
    · rw [openedBy_nil] at hlevel
      exact Or.inl ⟨hlevel.symm, ScopeCall.declare.inj hc⟩
    · rw [openedBy_declare] at hlevel
      exact Or.inr ⟨rest, hrest, hlevel⟩
  · rintro (⟨rfl, rfl, rfl⟩ | ⟨rest, hrest, hlevel⟩)
    · exact ⟨[], live_snoc.2 (Or.inl ⟨rfl, rfl⟩), openedBy_nil⟩
    · exact ⟨rest ++ [.declare other id'],
        live_snoc.2 (Or.inr ⟨rest, rfl, hrest, staysOpen_declare.2 hrest.staysOpen⟩),
        by rw [openedBy_declare, hlevel]⟩

end

/-! ## What the stack holds -/

namespace ScopeStack

variable {made calls before after after' : List ScopeCall} {stack target : ScopeStack}
  {name : String} {id id' : SymbolId} {c : ScopeCall} {level : Nat}

lemma lookup_eq_ok_iff {found : Option SymbolId} :
    stack.lookup name = .ok found ↔ stack.depth ≠ 0 ∧ stack.find? name = found := by
  obtain ⟨scopes⟩ := stack
  cases scopes <;> simp [lookup, depth, find?]

lemma lookup_eq_error_iff {fault : ScopeFault} :
    stack.lookup name = .error fault ↔ stack.depth = 0 ∧ fault = .noScope := by
  obtain ⟨scopes⟩ := stack
  cases scopes <;> simp [lookup, depth, @eq_comm _ fault .noScope]

lemma lookupLocal_eq_ok_iff {found : Option SymbolId} :
    stack.lookupLocal name = .ok found ↔ stack.depth ≠ 0 ∧ stack.local? name = found := by
  obtain ⟨scopes⟩ := stack
  cases scopes <;> simp [lookupLocal, depth, local?]

lemma lookupLocal_eq_error_iff {fault : ScopeFault} :
    stack.lookupLocal name = .error fault ↔ stack.depth = 0 ∧ fault = .noScope := by
  obtain ⟨scopes⟩ := stack
  cases scopes <;> simp [lookupLocal, depth, @eq_comm _ fault .noScope]

lemma pop_eq_error_iff {fault : ScopeFault} :
    stack.pop = .error fault ↔ stack.depth = 0 ∧ fault = .noScope := by
  obtain ⟨scopes⟩ := stack
  cases scopes <;> simp [pop, depth, @eq_comm _ fault .noScope]

lemma declare_eq_error_iff {fault : ScopeFault} :
    stack.declare name id = .error fault ↔
      (stack.depth = 0 ∧ fault = .noScope) ∨
      (fault = .duplicateName name ∧ stack.local? name ≠ none) := by
  obtain ⟨scopes⟩ := stack
  cases scopes with
  | nil => simp [declare, depth, local?, @eq_comm _ fault .noScope]
  | cons scope outer =>
      by_cases taken : name ∈ scope.names
      · simp [declare, depth, local?, taken, scope.find?_eq_none_iff]
        exact eq_comm
      · simp [declare, depth, local?, taken, (scope.find?_eq_none_iff name).2 taken]

lemma depth_ne_zero_of_find? (h : stack.find? name = some id) : stack.depth ≠ 0 := by
  obtain ⟨scopes⟩ := stack
  cases scopes with
  | nil => cases h
  | cons scope outer => simp [depth]

lemma depth_ne_zero_of_local? (h : stack.local? name = some id) : stack.depth ≠ 0 := by
  obtain ⟨scopes⟩ := stack
  cases scopes with
  | nil => cases h
  | cons scope outer => simp [depth]

/-- The handle of a name in the scope with so many scopes inside it. -/
def at? (stack : ScopeStack) (level : Nat) (name : String) : Option SymbolId :=
  stack.scopes[level]?.bind (·.find? name)

lemma at?_zero : stack.at? 0 name = stack.local? name := by
  rw [at?, local?, List.head?_eq_getElem?]

lemma find?_eq_some_iff_at? :
    stack.find? name = some id ↔
      ∃ level, stack.at? level name = some id ∧ ∀ inner < level, stack.at? inner name = none := by
  constructor
  · intro hfind
    obtain ⟨inside, scope, outer, hscopes, hscope, hfree⟩ := List.findSome?_eq_some_iff.1 hfind
    refine ⟨inside.length, by simp [at?, hscopes, hscope], fun inner hlt => ?_⟩
    rw [at?, hscopes, List.getElem?_append_left hlt, Option.bind_eq_none_iff]
    exact fun s hs => hfree s (List.mem_of_getElem? hs)
  · rintro ⟨level, hat, hinner⟩
    obtain ⟨scope, hscope, hfind⟩ := Option.bind_eq_some_iff.1 hat
    obtain ⟨hlevel, rfl⟩ := List.getElem?_eq_some_iff.1 hscope
    have hsplit : stack.scopes = stack.scopes.take level ++
        stack.scopes[level] :: stack.scopes.drop (level + 1) := by simp
    refine List.findSome?_eq_some_iff.2 ⟨_, _, _, hsplit, hfind, fun s hs => ?_⟩
    obtain ⟨inner, hlt, rfl⟩ := List.mem_take_iff_getElem.1 hs
    simpa [at?, show inner < stack.scopes.length by omega] using hinner inner (by omega)

lemma find?_eq_none_iff_at? : stack.find? name = none ↔ ∀ level, stack.at? level name = none := by
  rw [find?, List.findSome?_eq_none_iff]
  constructor
  · intro hnone level
    rw [at?, Option.bind_eq_none_iff]
    exact fun scope hscope => hnone scope (List.mem_of_getElem? hscope)
  · intro hnone scope hmem
    obtain ⟨level, hlevel⟩ := List.mem_iff_getElem?.1 hmem
    simpa [at?, hlevel] using hnone level

namespace Reached

/-- The open scopes are those that were opened and not closed. -/
lemma depth_add (h : Reached made stack) : stack.depth + made.count .pop = made.count .push := by
  induction h with
  | start => rfl
  | @call made stack target c before done ih =>
      cases c with
      | push =>
          obtain rfl := Except.ok.inj done
          simp
          omega
      | pop =>
          obtain ⟨scope, hscopes⟩ := scopes_of_pop done
          simp only [depth, hscopes, List.length_cons] at ih
          simp [depth]
          omega
      | declare name id =>
          obtain ⟨scope, outer, new, hs, ht⟩ := scopes_of_declare done
          simp only [depth, hs, List.length_cons] at ih
          simp [depth, ht]
          omega

/-- Each scope binds what the live declarations of its level say. -/
lemma at?_eq_some_iff (h : Reached made stack) :
    stack.at? level name = some id ↔ LiveAt made level name id := by
  -- the level is not fixed, since opening and closing a scope shift it by one
  induction h generalizing level with
  | start => simp [at?, empty, not_liveAt_nil]
  | @call made stack target c before done ih =>
      cases c with
      | push =>
          obtain rfl := Except.ok.inj done
          cases level with
          | zero => simp [at?, push, not_liveAt_push]
          | succ level =>
              rw [liveAt_push, ← ih]
              simp [at?, push]
      | pop =>
          obtain ⟨scope, hscopes⟩ := scopes_of_pop done
          rw [liveAt_pop, ← ih]
          simp [at?, hscopes]
      | declare other id' =>
          obtain ⟨scope, outer, new, hs, ht⟩ := scopes_of_declare done
          rw [liveAt_declare, ← ih]
          cases level with
          | succ level => simp [at?, hs, ht]
          | zero =>
              have hnew := (scope.find?_eq_none_iff other).2 new
              by_cases hname : name = other
              · simp [at?, hs, ht, Scope.find?_insert, hname, hnew]
              · simp [at?, hs, ht, Scope.find?_insert, hname, Ne.symm hname]

lemma of_snoc (h : Reached (made ++ [c]) target) :
    ∃ stack, Reached made stack ∧ stack.perform c = .ok target := by
  generalize hall : made ++ [c] = all at h
  cases h with
  | start => simp at hall
  | call before done =>
      obtain ⟨rfl, hc⟩ := List.append_inj' hall rfl
      obtain rfl := List.singleton_inj.1 hc
      exact ⟨_, before, done⟩

/-- Every call of the history was made on a stack that the calls before it lead to. -/
lemma at_call (h : Reached (before ++ c :: after) target) :
    ∃ stack next, Reached before stack ∧ stack.perform c = .ok next := by
  induction after using List.reverseRecOn generalizing target with
  | nil =>
      obtain ⟨stack, hstack, hc⟩ := h.of_snoc
      exact ⟨stack, target, hstack, hc⟩
  | append_singleton after last ih =>
      rw [← List.cons_append, ← List.append_assoc] at h
      obtain ⟨stack, hstack, -⟩ := h.of_snoc
      exact ih hstack

/-- Of two live declarations of a name the later one stands in a scope further inside: in the same
scope it would have been refused. -/
lemma openedBy_lt (h : Reached made stack) (live : Live made name id after)
    (live' : Live made name id' after') (later : after.length < after'.length) :
    openedBy after < openedBy after' := by
  obtain ⟨⟨before, rfl⟩, hopen⟩ := live
  obtain ⟨⟨before', hsplit⟩, hopen'⟩ := live'
  -- the later declaration is among the calls after the earlier one
  obtain ⟨mid, rfl, rfl⟩ : ∃ mid, before = before' ++ .declare name id' :: mid ∧
      after' = mid ++ .declare name id :: after := by
    rw [List.append_cons before'] at hsplit
    rcases List.append_eq_append_iff.1 hsplit with ⟨rest, hbefore, hafter⟩ | ⟨mid, rfl, hafter⟩
    · have hlength := congrArg List.length hafter
      simp only [List.length_cons, List.length_append] at hlength
      obtain rfl : rest = [] := List.length_eq_zero_iff.1 (by omega)
      exact ⟨[], by simpa using hbefore.symm, by simpa using hafter.symm⟩
    · exact ⟨mid, by simp, hafter⟩
  have hmid : StaysOpen mid := hopen'.of_append
  have hdeclare : StaysOpen (mid ++ [.declare name id]) := staysOpen_declare.2 hmid
  have hsum : openedBy (mid ++ .declare name id :: after) = openedBy mid + openedBy after := by
    rw [List.append_cons, hdeclare.openedBy_append hopen, openedBy_declare]
  have hpos : openedBy mid ≠ 0 := by
    intro hzero
    -- the earlier declaration is then in the scope that the later one was made in
    obtain ⟨stack', target, hstack', hdone⟩ := h.at_call
    obtain ⟨scope, outer, new, hs, -⟩ := scopes_of_declare hdone
    have hbound : stack'.at? 0 name = some id' :=
      hstack'.at?_eq_some_iff.2 ⟨mid, ⟨⟨before', rfl⟩, hmid⟩, hzero⟩
    have hfree := (scope.find?_eq_none_iff name).2 new
    simp [at?, hs, hfree] at hbound
  omega

/-- From the innermost scope outwards, the first that has a name has it from the live declaration
that was made last. -/
lemma find?_eq_some_iff (h : Reached made stack) :
    stack.find? name = some id ↔ ∃ after, MostRecent made name id after := by
  rw [find?_eq_some_iff_at?]
  constructor
  · rintro ⟨level, hat, hinner⟩
    obtain ⟨after, hlive, rfl⟩ := h.at?_eq_some_iff.1 hat
    refine ⟨after, hlive, fun id' after' hlive' => ?_⟩
    by_contra hlater
    have hlt : openedBy after' < openedBy after := h.openedBy_lt hlive' hlive (by omega)
    have hat' : stack.at? (openedBy after') name = some id' :=
      h.at?_eq_some_iff.2 ⟨after', hlive', rfl⟩
    rw [hinner _ hlt] at hat'
    cases hat'
  · rintro ⟨after, hlive, hleast⟩
    refine ⟨openedBy after, h.at?_eq_some_iff.2 ⟨after, hlive, rfl⟩, fun level hlevel => ?_⟩
    rw [Option.eq_none_iff_forall_ne_some]
    intro id' hat
    obtain ⟨after', hlive', rfl⟩ := h.at?_eq_some_iff.1 hat
    rcases Nat.lt_or_eq_of_le (hleast id' after' hlive') with hlt | heq
    · have hlt' := h.openedBy_lt hlive hlive' hlt
      omega
    · obtain ⟨-, rfl⟩ := hlive.unique hlive' heq
      omega

/-- No scope has a name that no live declaration has. -/
lemma find?_eq_none_iff (h : Reached made stack) :
    stack.find? name = none ↔ ∀ id after, ¬ Live made name id after := by
  rw [find?_eq_none_iff_at?]
  constructor
  · intro hnone id after hlive
    have hat := h.at?_eq_some_iff.2 ⟨after, hlive, rfl⟩
    rw [hnone] at hat
    cases hat
  · intro hnone level
    rw [Option.eq_none_iff_forall_ne_some]
    intro id hat
    obtain ⟨after, hlive, -⟩ := h.at?_eq_some_iff.1 hat
    exact hnone id after hlive

/-- The live declaration in the innermost scope is the one that was made last. -/
lemma local?_eq_some_iff (h : Reached made stack) :
    stack.local? name = some id ↔ ∃ after, MostRecent made name id after ∧ openedBy after = 0 := by
  rw [← at?_zero]
  constructor
  · intro hat
    obtain ⟨after, hlive, hlevel⟩ := h.at?_eq_some_iff.1 hat
    refine ⟨after, ⟨hlive, fun id' after' hlive' => ?_⟩, hlevel⟩
    by_contra hlater
    have hlt := h.openedBy_lt hlive' hlive (by omega)
    omega
  · rintro ⟨after, hrecent, hlevel⟩
    exact h.at?_eq_some_iff.2 ⟨after, hrecent.live, hlevel⟩

/-- A name is taken if a live declaration of the innermost scope has it. -/
lemma local?_ne_none_iff (h : Reached made stack) :
    stack.local? name ≠ none ↔ ∃ id after, Live made name id after ∧ openedBy after = 0 := by
  rw [← at?_zero, Option.ne_none_iff_exists']
  exact exists_congr fun id => h.at?_eq_some_iff

end Reached

/-! ## All calls -/

lemma call_of_ok (h : stack.perform c = .ok target) : stack.call c = target := by
  simp [call, h]

lemma call_of_error {fault : ScopeFault} (h : stack.perform c = .error fault) :
    stack.call c = stack := by
  simp [call, h]

/-- A failing call is as if it had not been made. -/
lemma afterCalls_of_failing {fault : ScopeFault}
    (h : (afterCalls calls).perform c = .error fault) (rest : List ScopeCall) :
    afterCalls (calls ++ c :: rest) = afterCalls (calls ++ rest) := by
  have hcall := call_of_error h
  simp only [afterCalls] at hcall ⊢
  rw [List.foldl_append, List.foldl_append, List.foldl_cons, hcall]

lemma reached_foldl (calls : List ScopeCall) : ∀ {made : List ScopeCall} {stack : ScopeStack},
    Reached made stack → Reached (made ++ stack.succeeding calls) (calls.foldl call stack) := by
  induction calls with
  | nil => simp [succeeding]
  | cons c calls ih =>
      intro made stack h
      cases hc : stack.perform c with
      | ok target =>
          have hnext := ih (h.call hc)
          simpa [succeeding, hc, call_of_ok hc] using hnext
      | error fault =>
          have hnext := ih h
          simpa [succeeding, hc, call_of_error hc] using hnext

lemma reached_afterCalls (calls : List ScopeCall) :
    Reached (empty.succeeding calls) (afterCalls calls) :=
  reached_foldl calls .start

/-- Opening a scope always succeeds. -/
lemma count_push_succeeding (calls : List ScopeCall) :
    ∀ stack : ScopeStack, (stack.succeeding calls).count .push = calls.count .push := by
  induction calls with
  | nil => simp [succeeding]
  | cons c calls ih =>
      intro stack
      cases hc : stack.perform c with
      | ok target => simp [succeeding, hc, List.count_cons, ih]
      | error fault =>
          have hne : c ≠ .push := by
            rintro rfl
            cases hc
          simp [succeeding, hc, ih, hne]

end ScopeStack

open ScopeStack in
/-- The answers of a stack, without it: how many scopes are open, what a name means, what it means
in the innermost scope, and which calls are refused.  A call that is refused leaves all later answers
as they are. -/
theorem scopes_tell_their_history (calls : List ScopeCall) :
    let stack := afterCalls calls
    let made := empty.succeeding calls
    stack.depth + made.count .pop = calls.count .push ∧
    (∀ name id, stack.lookup name = .ok (some id) ↔ ∃ after, MostRecent made name id after) ∧
    (∀ name, stack.lookup name = .ok none ↔
      stack.depth ≠ 0 ∧ ∀ id after, ¬ Live made name id after) ∧
    (∀ name id, stack.lookupLocal name = .ok (some id) ↔
      ∃ after, MostRecent made name id after ∧ openedBy after = 0) ∧
    (∀ name, stack.lookupLocal name = .ok none ↔
      stack.depth ≠ 0 ∧ ∀ id after, MostRecent made name id after → openedBy after ≠ 0) ∧
    (∀ name id fault, stack.declare name id = .error fault ↔
      (stack.depth = 0 ∧ fault = .noScope) ∨
      (fault = .duplicateName name ∧
        ∃ id' after, Live made name id' after ∧ openedBy after = 0)) ∧
    (∀ fault, stack.pop = .error fault ↔ stack.depth = 0 ∧ fault = .noScope) ∧
    (∀ name fault, stack.lookup name = .error fault ↔ stack.depth = 0 ∧ fault = .noScope) ∧
    (∀ name fault, stack.lookupLocal name = .error fault ↔
      stack.depth = 0 ∧ fault = .noScope) ∧
    ∀ c fault, stack.perform c = .error fault →
      ∀ rest, afterCalls (calls ++ c :: rest) = afterCalls (calls ++ rest) := by
  intro stack made
  have h : Reached made stack := reached_afterCalls calls
  refine ⟨?_, fun name id => ?_, fun name => ?_, fun name id => ?_, fun name => ?_,
    fun name id fault => ?_, fun _ => pop_eq_error_iff, fun _ _ => lookup_eq_error_iff,
    fun _ _ => lookupLocal_eq_error_iff, fun c fault hc => afterCalls_of_failing hc⟩
  · rw [h.depth_add, count_push_succeeding]
  · rw [lookup_eq_ok_iff, ← h.find?_eq_some_iff, and_iff_right_iff_imp]
    exact depth_ne_zero_of_find?
  · rw [lookup_eq_ok_iff, h.find?_eq_none_iff]
  · rw [lookupLocal_eq_ok_iff, ← h.local?_eq_some_iff, and_iff_right_iff_imp]
    exact depth_ne_zero_of_local?
  · rw [lookupLocal_eq_ok_iff, Option.eq_none_iff_forall_ne_some]
    simp only [ne_eq, h.local?_eq_some_iff, not_exists, not_and]
  · rw [declare_eq_error_iff, h.local?_ne_none_iff]

open ScopeStack in
/-- A second `a` in the inner scope is refused, as if it had not been asked for.  When the inner scope
is closed, `a` is the first one again. -/
theorem doubledName_leaves_no_trace :
    let calls := [.push, .declare "a" ⟨1⟩, .push, .declare "a" ⟨2⟩]
    (afterCalls calls).perform (.declare "a" ⟨3⟩) = .error (.duplicateName "a") ∧
      afterCalls (calls ++ [.declare "a" ⟨3⟩, .pop, .pop, .pop]) =
        afterCalls (calls ++ [.pop, .pop, .pop]) ∧
      ∃ after, MostRecent (empty.succeeding (calls ++ [.declare "a" ⟨3⟩, .pop])) "a" ⟨1⟩ after := by
  intro calls
  obtain ⟨-, -, -, -, -, -, -, -, -, failing⟩ := scopes_tell_their_history calls
  obtain ⟨-, meaning, -⟩ := scopes_tell_their_history (calls ++ [.declare "a" ⟨3⟩, .pop])
  have hrefused : (afterCalls calls).perform (.declare "a" ⟨3⟩) = .error (.duplicateName "a") := rfl
  have hfirst : (afterCalls (calls ++ [.declare "a" ⟨3⟩, .pop])).lookup "a" = .ok (some ⟨1⟩) := rfl
  exact ⟨hrefused, failing _ _ hrefused _, (meaning "a" ⟨1⟩).1 hfirst⟩

end StructLang
