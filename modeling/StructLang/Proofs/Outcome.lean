import Mathlib.Tactic.Common
import StructLang.Proofs.Run
import StructLang.Proofs.Traversal

/-!
# Runs that may meet a fault

What can be said of a run when it is not known that nothing goes wrong.  `Pass.Ends` says that a
computation goes on to a result and a run with some property, or meets a fault that is allowed to
occur; with no fault allowed it says that the computation goes on.

A halted run must not come to life again for that to compose, and it does not: every computation of
the passes is `Pass.Stable`.
-/

namespace StructLang

/-- The faults that come from a tree whose slots were filled beforehand. -/
def Fault.OfTree : Fault → Prop
  | slotFilled _ | dangling _ => True
  | scope _ | internal _ => False

lemma ok_of_liftScope {α : Type} {r : Except ScopeFault α} {a : α} (h : liftScope r = .ok a) :
    r = .ok a := by
  cases r with
  | ok b => exact congrArg _ (Except.ok.inj h)
  | error fault => cases h

namespace Pass

variable {σ α β : Type}

/-! ## Halted runs stay as they are -/

/-- The computation leaves halted runs alone. -/
def Stable (x : Pass σ α) : Prop := x.Moves fun s t => s.halted.isSome = true → t = s

lemma Stable.pure (a : α) : Stable (Pure.pure a : Pass σ α) := fun _ _ => rfl

lemma Stable.get : Stable (get : Pass σ (Run σ)) := fun _ _ => rfl

lemma Stable.bind {x : Pass σ α} {f : α → Pass σ β} (hx : Stable x) (hf : ∀ a, Stable (f a)) :
    Stable (x >>= f) := by
  refine Moves.bind (fun s t u hst htu hs => ?_) hx hf
  have heq := hst hs
  subst heq
  exact htu hs

lemma Stable.act (f : Run σ → Run σ) : Stable (act f) :=
  fun _ hs => congrArg Prod.snd (run_act_of_halted hs f)

lemma Stable.update (f : σ → σ) : Stable (update f) := Stable.act _

lemma Stable.note (event : Event) : Stable (note event : Pass σ Unit) := Stable.act _

lemma Stable.report (loc : Location) (problem : Problem) :
    Stable (report loc problem : Pass σ Unit) := Stable.act _

lemma Stable.require (answer : Except Fault α) (substitute : α) :
    Stable (require answer substitute : Pass σ α) :=
  fun _ hs => run_require_of_halted hs answer substitute

lemma Stable.fill {purpose : String} (slot : Slot purpose α) (value : α) :
    Stable (fill slot value : Pass σ (Slot purpose α)) :=
  fun _ hs => congrArg Prod.snd (run_fill_of_halted hs slot value)

lemma Stable.mapM {f : α → Pass σ β} (hf : ∀ a, Stable (f a)) (l : List α) : Stable (l.mapM f) := by
  induction l with
  | nil => rw [List.mapM_nil]; exact .pure []
  | cons a l ih =>
      rw [List.mapM_cons]
      exact (hf a).bind fun b => ih.bind fun bs => .pure (b :: bs)

end Pass

/-- All that the visitor does leaves halted runs alone. -/
structure Visitor.Stable {σ : Type} (v : Visitor σ) : Prop where
  name : ∀ id, (v.onName id).Stable
  callee : ∀ id, (v.onCallee id).Stable
  field : ∀ base field failed, (v.onField base field failed).Stable
  expr : ∀ e, (v.onExpr e).Stable
  decl : ∀ d, (v.onLocal d).Stable
  enter : v.onEnter.Stable
  leave : v.onLeave.Stable
  simple : ∀ verb e, (v.onSimple verb e).Stable
  condition : ∀ guard e, (v.onCondition guard e).Stable
  ret : ∀ value loc, (v.onReturn value loc).Stable

namespace Visitor.Stable

variable {σ : Type} {v : Visitor σ} (h : v.Stable)

include h

lemma respects : v.Respects (fun s t => s.halted.isSome = true → t = s)
    (fun s t => s.halted.isSome = true → t = s) where
  refl _ _ := rfl
  trans s t u hst htu hs := by
    have heq := hst hs
    subst heq
    exact htu hs
  innerTrans s t u hst htu hs := by
    have heq := hst hs
    subst heq
    exact htu hs
  innerOfOuter := fun hst => hst
  name := h.name
  callee := h.callee
  field := h.field
  expr := h.expr
  decl := h.decl
  bracket := fun {s t} hinner hs => by
    have henter := h.enter s hs
    rw [henter] at hinner
    have ht := hinner hs
    subst ht
    exact h.leave t hs
  simple := h.simple
  condition := h.condition
  ret := h.ret

lemma exprVisit (e : Expr) : (e.visit v).Stable := e.visit_moves h.respects

lemma exprVisitAll (es : List Expr) : (Expr.visitAll v es).Stable :=
  Expr.visitAll_moves h.respects es

lemma blockVisit (b : Block) : (b.visit v).Stable := b.visit_moves h.respects

lemma stmtVisitAll (ss : List Stmt) : (Stmt.visitAll v ss).Stable :=
  Stmt.visitAll_moves h.respects ss

end Visitor.Stable

/-! ## How a computation ends -/

lemma Run.live_of_outcome {σ : Type} {s : Run σ} (h : s.outcome = .ok ()) : s.halted = none := by
  unfold Run.outcome at h
  split at h
  · assumption
  · cases h

/-- The run has met one of the faults that may occur. -/
def Run.Halts {σ : Type} (may : Fault → Prop) (s : Run σ) : Prop :=
  ∃ fault, s.halted = some fault ∧ may fault

namespace Pass

variable {σ α β : Type} {may : Fault → Prop} {s t : Run σ}

/-- From the run `s` the computation goes on, to a result and a run of which `Q` holds, or it meets
a fault that may occur. -/
def Ends (may : Fault → Prop) (s : Run σ) (x : Pass σ α) (Q : α → Run σ → Prop) : Prop :=
  ((x.run s).2.halted = none ∧ Q (x.run s).1 (x.run s).2) ∨ (x.run s).2.Halts may

lemma Ends.of_run {x : Pass σ α} {Q : α → Run σ → Prop} {a : α} (h : x.run s = (a, t))
    (live : t.halted = none) (hq : Q a t) : Ends may s x Q := by
  refine Or.inl ?_
  rw [h]
  exact ⟨live, hq⟩

lemma Ends.pure {Q : α → Run σ → Prop} {a : α} (live : s.halted = none) (hq : Q a s) :
    Ends may s (Pure.pure a) Q := .of_run (run_return a s) live hq

/-- What comes after a computation may rely on what the computation ends with. -/
lemma Ends.bind {x : Pass σ α} {f : α → Pass σ β} {P : α → Run σ → Prop} {Q : β → Run σ → Prop}
    (hx : Ends may s x P) (hf : ∀ a, Stable (f a))
    (h : ∀ a t, t.halted = none → P a t → Ends may t (f a) Q) : Ends may s (x >>= f) Q := by
  rcases hx with ⟨live, hp⟩ | hhalts
  · exact h _ _ live hp
  · obtain ⟨fault, hfault, hmay⟩ := hhalts
    refine Or.inr ⟨fault, ?_, hmay⟩
    have hstay : ((f (x.run s).1).run (x.run s).2).2 = (x.run s).2 :=
      hf _ _ (by rw [hfault]; rfl)
    show ((f (x.run s).1).run (x.run s).2).2.halted = some fault
    rw [hstay, hfault]

lemma Ends.congr {x y : Pass σ α} {Q : α → Run σ → Prop} (hy : Ends may s y Q)
    (h : x.run s = y.run s) : Ends may s x Q := by
  unfold Ends
  rw [h]
  exact hy

/-- A first computation of which all is known. -/
lemma Ends.run_bind {x : Pass σ α} {f : α → Pass σ β} {Q : β → Run σ → Prop} {a : α}
    (h : x.run s = (a, t)) (hf : Ends may t (f a) Q) : Ends may s (x >>= f) Q := by
  unfold Ends
  rw [Pass.run_bind h]
  exact hf

lemma Ends.mono {x : Pass σ α} {P Q : α → Run σ → Prop} (hx : Ends may s x P)
    (h : ∀ a t, P a t → Q a t) : Ends may s x Q := by
  rcases hx with ⟨live, hp⟩ | hhalts
  · exact Or.inl ⟨live, h _ _ hp⟩
  · exact Or.inr hhalts

/-- With no fault allowed, the computation goes on. -/
lemma Ends.goes_on {x : Pass σ α} {Q : α → Run σ → Prop} (hx : Ends (fun _ => False) s x Q) :
    ∃ a t, x.run s = (a, t) ∧ t.halted = none ∧ Q a t := by
  rcases hx with ⟨live, hq⟩ | ⟨_, _, hfalse⟩
  · exact ⟨_, _, rfl, live, hq⟩
  · exact hfalse.elim

lemma Ends.of_live {x : Pass σ α} {Q : α → Run σ → Prop} (hx : Ends may s x Q)
    (live : (x.run s).2.halted = none) : Q (x.run s).1 (x.run s).2 := by
  rcases hx with ⟨-, hq⟩ | ⟨fault, hfault, -⟩
  · exact hq
  · rw [live] at hfault
    cases hfault

lemma Ends.require {answer : Except Fault α} {substitute : α} (live : s.halted = none)
    (h : ∀ fault, answer = .error fault → may fault) :
    Ends may s (require answer substitute) fun a t => answer = .ok a ∧ t = s := by
  cases answer with
  | ok a => exact .of_run (run_require_ok a substitute) live ⟨rfl, rfl⟩
  | error fault =>
      refine Or.inr ⟨fault, ?_, h fault rfl⟩
      have hrun : (halt fault : Pass σ Unit).run s = ((), { s with halted := some fault }) :=
        run_act live _
      show ((halt fault >>= fun _ => Pure.pure substitute).run s).2.halted = some fault
      rw [Pass.run_bind hrun]
      rfl

lemma Ends.fill {purpose : String} {slot : Slot purpose α} {value : α} (live : s.halted = none)
    (h : slot.content = none ∨ may (.slotFilled purpose)) :
    Ends may s (fill slot value) fun filled t => filled = { content := some value } ∧ t = s := by
  have hends : Ends may s (Pass.require (slot.fill value) slot)
      fun filled t => slot.fill value = .ok filled ∧ t = s := by
    refine .require live fun fault hfault => ?_
    obtain ⟨hfilled, rfl⟩ := (Slot.fill_eq_error_iff _ _ _).1 hfault
    rcases h with hempty | hmay
    · rw [Slot.isFilled, hempty] at hfilled
      cases hfilled
    · exact hmay
  have hfill : (Pass.fill slot value).run s = (Pass.require (slot.fill value) slot).run s := by
    rw [Pass.fill, Pass.run_bind (run_get s), live]
  refine (hends.congr hfill).mono ?_
  rintro filled t ⟨hok, ht⟩
  exact ⟨((Slot.fill_eq_ok_iff _ _ _).1 hok).2, ht⟩

end Pass

/-! ## What a computation needs -/

/-- The computation goes on only if `P`. -/
def Pass.Needs {σ α : Type} (P : Prop) (x : Pass σ α) : Prop := ∀ s, (x.run s).2.halted = none → P

namespace Pass

variable {σ α β : Type} {P Q : Prop}

lemma Needs.mono {x : Pass σ α} (hx : Needs P x) (h : P → Q) : Needs Q x :=
  fun s live => h (hx s live)

/-- What the first of two computations needs; once halted, a run stays so. -/
lemma Needs.first {x : Pass σ α} {f : α → Pass σ β} (hx : Needs P x) (hf : ∀ a, Stable (f a)) :
    Needs P (x >>= f) := by
  intro s live
  refine hx s ?_
  by_contra hhalted
  have hstay : ((f (x.run s).1).run (x.run s).2).2 = (x.run s).2 :=
    hf _ _ (Option.isSome_iff_ne_none.2 hhalted)
  exact hhalted (hstay ▸ live)

lemma Needs.second {x : Pass σ α} {f : α → Pass σ β} (hf : ∀ a, Needs P (f a)) :
    Needs P (x >>= f) := fun _ live => hf _ _ live

lemma Needs.both {x : Pass σ α} {f : α → Pass σ β} (hx : Needs P x) (stable : ∀ a, Stable (f a))
    (hf : ∀ a, Needs Q (f a)) : Needs (P ∧ Q) (x >>= f) :=
  fun s live => ⟨hx.first stable s live, Needs.second hf s live⟩

lemma needs_require (answer : Except Fault α) (substitute : α) :
    (require answer substitute : Pass σ α).Needs (∃ a, answer = .ok a) := by
  intro s live
  cases answer with
  | ok a => exact ⟨a, rfl⟩
  | error fault =>
      have hhalts : ((halt fault : Pass σ Unit).run s).2.halted.isSome = true := by
        show (s.act fun run => { run with halted := some fault }).halted.isSome = true
        unfold Run.act
        split
        · rfl
        · next hs => rw [hs]; rfl
      have hnone : ((halt fault : Pass σ Unit).run s).2.halted = none := live
      rw [hnone] at hhalts
      cases hhalts

lemma needs_fill {purpose : String} (slot : Slot purpose α) (value : α) :
    (fill slot value : Pass σ (Slot purpose α)).Needs (slot.content = none) := by
  intro s live
  unfold fill at live
  rw [run_bind (run_get s)] at live
  split at live
  · obtain ⟨slot', hfill⟩ := needs_require _ _ s live
    exact ((Slot.fill_eq_ok_iff _ _ _).1 hfill).1
  · next hs =>
      rw [run_return, hs] at live
      cases live

end Pass

end StructLang
