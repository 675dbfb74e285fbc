import Mathlib.Tactic.Common
import StructLang.Proofs.Analysis
import StructLang.Proofs.Extension
import StructLang.Proofs.Resting
import StructLang.Proofs.Sessions
import StructLang.Proofs.Uniqueness

/-!
# Analysing a tree again

A tree that has been analysed keeps its bindings, and a binding cannot be filled twice.  So a second
analysis comes to an end as soon as it would bind something.  It does so at the first identifier
that the first analysis has bound: without symbols no use finds anything, so what is bound first is
the name of a declaration, and up to there both analyses are at the same point with the same names,
which are none.  A program without symbols has no such place.  Then it has no functions either, and
the second analysis is like the first.

* `Pass.Stops` — a computation halts at a filled binding, having reported some of the findings.
* `Naming.Replays` — a part of name resolution, once more on what the rules made of its tree: it
  goes on if the rules declared nothing, and stops otherwise.  There is one lemma for each rule.
* `reanalysis_fails_cleanly` — what the second analysis of a program returns, reports and leaves.
-/

namespace StructLang

/-! ## Stopping at a filled slot -/

namespace Pass

variable {σ α β : Type} {s t : Run σ} {P : α → Prop} {Q : β → Prop} {x : Pass σ α}
  {f : α → Pass σ β} {fs gs : List Finding}

/-- From the run the computation comes to a binding that is filled already, and halts there.  By
then it has reported the first of the findings, and what it returns has the property. -/
structure Stops (s : Run σ) (x : Pass σ α) (P : α → Prop) (fs : List Finding) : Prop where
  returns : P (x.run s).1
  halted : (x.run s).2.halted = some (.slotFilled "binding")
  reported : ∃ gs, gs <+: fs ∧ s.Reported (x.run s).2 gs

lemma Stops.bind (hx : Stops s x P fs) (hf : ∀ a, P a → (f a).Stable ∧ (f a).Rests Q) :
    Stops s (x >>= f) Q fs := by
  obtain ⟨hstable, hrests⟩ := hf _ hx.returns
  have hs : (x.run s).2.halted.isSome = true := by
    rw [hx.halted]
    rfl
  have hrun : ((x >>= f).run s).2 = (x.run s).2 := hstable _ hs
  exact ⟨hrests _ hs, hrun ▸ hx.halted, hrun ▸ hx.reported⟩

/-- What was reported before comes first. -/
lemma Stops.run_bind {a : α} (h : x.run s = (a, t)) (hst : s.Reported t gs)
    (hf : Stops t (f a) Q fs) : Stops s (x >>= f) Q (gs ++ fs) := by
  obtain ⟨hreturns, hhalted, hs, hprefix, hreported⟩ := hf
  have hrun : (x >>= f).run s = (f a).run t := Pass.run_bind h
  rw [← hrun] at hreturns hhalted hreported
  exact ⟨hreturns, hhalted, _, (List.prefix_append_right_inj gs).2 hprefix, hst.trans hreported⟩

lemma Stops.more (hx : Stops s x P fs) (gs : List Finding) : Stops s x P (fs ++ gs) := by
  obtain ⟨hs, hprefix, hreported⟩ := hx.reported
  exact ⟨hx.returns, hx.halted, hs, hprefix.trans (List.prefix_append fs gs), hreported⟩

end Pass

open Pass

lemma Run.reported_refl {σ : Type} (s : Run σ) : s.Reported s [] :=
  s.reported_after s.work []

lemma Run.reported_withWork {σ : Type} (s : Run σ) (work : σ) : s.Reported (s.withWork work) [] :=
  s.reported_after work []

/-! ## Before the first symbol -/

lemma Arena.isEmpty_of_grows {A B : Arena} (hAB : A.Grows B) (hA : A.isEmpty = false) :
    B.isEmpty = false := by
  have hle : A.symbols.size ≤ B.symbols.size := hAB.size_le
  rw [Arena.isEmpty, Array.isEmpty_eq_false_iff, ← Array.size_pos_iff] at hA ⊢
  exact Nat.lt_of_lt_of_le hA hle

lemma Arena.isEmpty_push (A : Arena) (symbol : Symbol) (room : A.size < UInt32.size) :
    (A.push symbol room).isEmpty = false :=
  Array.isEmpty_eq_false_iff.2 Array.push_ne_empty

lemma ScopeStack.opened_withScope : ScopeStack.withScope.scopes ≠ [] := List.cons_ne_nil _ _

/-- No symbols, and one scope without names. -/
abbrev Names.start : Names := ⟨{}, .withScope⟩

namespace Naming

variable {α β : Type} {s : Run Names} {A : Arena} {w : Names} {es : List Event} {k : SymbolId}

lemma bind_stops {id : Ident} (live : s.halted = none) (hid : id.symbol? = some k) (h : SymbolId) :
    Stops s (bind id h) (· = id) [] := by
  have hrun : (bind id h).run s = (id, { s with halted := some (.slotFilled "binding") }) :=
    Pass.run_bind (run_fill_of_filled live hid h)
  constructor
  · rw [hrun]
  · rw [hrun]
  · rw [hrun]
    exact ⟨[], List.nil_prefix, s.reported_refl.count, s.reported_refl.logged, s.reported_refl.told⟩

/-- The symbol is allocated and its name declared, and then its identifier is bound already. -/
lemma introduce_stops {id : Ident} {kind : Symbol.Kind} (live : s.halted = none)
    (hs : s.work = .start) (hid : id.symbol? = some k) :
    Stops s (introduce .withScope id kind) (fun r => r.2.1 = id) [] := by
  have room : s.work.symbols.size < UInt32.size := by
    rw [hs]
    decide
  obtain ⟨target, hd⟩ := ScopeStack.declare_of_free ScopeStack.opened_withScope
    (show ScopeStack.withScope.local? id.name = none from rfl) s.work.symbols.nextId
  refine .run_bind run_symbols s.reported_refl ?_
  rw [Arena.alloc_of_room room]
  refine .run_bind (run_require_ok _ _) s.reported_refl
    (.run_bind (run_update live _) (s.reported_withWork _) ?_)
  rw [hd]
  refine .run_bind (run_require_ok _ _) (Run.reported_refl _) ?_
  exact (bind_stops (by simpa) hid _).bind fun _ same => ⟨.pure _, .pure same⟩

lemma introduceHere_stops {id : Ident} {kind : Symbol.Kind} (live : s.halted = none)
    (hs : s.work = .start) (hid : id.symbol? = some k) :
    Stops s (introduceHere id kind) (fun r => r.1 = id) [] := by
  refine .run_bind run_table s.reported_refl ?_
  rw [hs]
  exact (introduce_stops live hs hid).bind fun _ same =>
    ⟨(stable_setTable _).bind fun _ => .pure _, .after (stable_setTable _) fun _ => .pure same⟩

lemma run_rejectDuplicate_start {id : Ident} (hs : s.work = .start) :
    (rejectDuplicate id).run s = (false, s) := by
  apply run_rejectDuplicate_free
  · rw [hs]
    exact ScopeStack.opened_withScope
  · rw [hs]
    rfl

/-- The declaration of a variable whose identifier is bound. -/
lemma declareIn_stops {d : VarDecl} (live : s.halted = none) (hty : d.ty = .int ∨ d.ty = .bool)
    (hs : s.work = .start) (hid : d.id.symbol? = some k) :
    Stops s (declareIn .withScope .withScope d) (fun r => r.2 = d) [] := by
  obtain ⟨kind, hkind⟩ : ∃ kind, (kindOf .withScope d.id d.ty).run s = ((d.ty, some kind), s) := by
    rcases hty with hty | hty
    · exact ⟨_, by rw [hty]; rfl⟩
    · exact ⟨_, by rw [hty]; rfl⟩
  refine .run_bind hkind s.reported_refl (.run_bind (run_require_ok _ _) s.reported_refl ?_)
  exact (introduce_stops live hs hid).bind fun _ same =>
    ⟨(Stable.note _).bind fun _ => .pure _, .after (.note _) fun _ =>
      .pure (congrArg (VarDecl.mk d.ty) same)⟩

/-! ## What the rules make of the first declarations -/

lemma StructNameRule.of_withScope {name name' : Ident} {defn : Option SymbolId}
    (rule : StructNameRule A .withScope name name' defn es) : name' = name ∧ defn = none := by
  cases rule with
  | means found symbol struct => cases found
  | invalid wrong => exact ⟨rfl, rfl⟩

/-- Where no name is known, only numbers and truth values can be declared. -/
lemma KindRule.of_withScope {owner : Ident} {ty ty' : TypeName} {kind : Option Symbol.Kind}
    (rule : KindRule A .withScope owner ty ty' kind es) :
    ty' = ty ∧ (kind = none ∨ reports es = [] ∧ (ty = .int ∨ ty = .bool)) := by
  cases rule with
  | int => exact ⟨rfl, Or.inr ⟨rfl, Or.inl rfl⟩⟩
  | bool => exact ⟨rfl, Or.inr ⟨rfl, Or.inr rfl⟩⟩
  | void => exact ⟨rfl, Or.inl rfl⟩
  | struct type =>
      obtain ⟨rfl, rfl⟩ := type.of_withScope
      exact ⟨rfl, Or.inl rfl⟩

/-- A declaration that is not accepted is as it was, and an accepted one is bound. -/
lemma DeclareRule.of_start {types : ScopeStack → ScopeStack} {d d' : VarDecl}
    (rule : DeclareRule types .start d d' w es) (ht : types .withScope = .withScope) :
    (w = .start ∧ d' = d) ∨ (w.symbols.isEmpty = false ∧ reports es = [] ∧
      (d'.ty = .int ∨ d'.ty = .bool) ∧ ∃ k, d'.id.symbol? = some k) := by
  cases rule with
  | taken type known => cases known
  | @rejected ty _ type free =>
      rw [ht] at type
      obtain ⟨rfl, -⟩ := type.of_withScope
      exact Or.inl ⟨rfl, rfl⟩
  | @declared ty kind target es type room scope =>
      rw [ht] at type
      obtain ⟨rfl, hnone | ⟨hquiet, hty⟩⟩ := type.of_withScope
      · cases hnone
      · refine Or.inr ⟨rfl, ?_, hty, _, rfl⟩
        rw [reports_append, hquiet]
        rfl

/-! ## Once more

The rules start without symbols and names.  Either they declare nothing of a tree, and then they
bind nothing in it, or there is a first identifier that they bind.  So another run over what they
left does as they do, or it stops at that identifier.
-/

/-- From a run without symbols and names the computation goes on with neither, and reports the
findings. -/
def Idles (x : Naming α) (a : α) (fs : List Finding) : Prop :=
  ∀ s : Run Names, s.halted = none → s.work = .start →
    ∃ es, reports es = fs ∧ x.run s = (a, s.after es)

/-- A computation on what the rules made of a tree, once more without symbols and names, when the
rules have come to the names `w`.  If nothing was declared it goes on, and returns what the rules
started from; otherwise it stops. -/
inductive Replays (w : Names) (x : Naming α) (a : α) (P : α → Prop) (fs : List Finding) : Prop
  | idles (nothing : w = .start) (returns : P a) (idles : Idles x a fs)
  | stops (something : w.symbols.isEmpty = false)
      (stops : ∀ s : Run Names, s.halted = none → s.work = .start → Stops s x P fs)

lemma Idles.pure (a : α) : Idles (Pure.pure a) a [] := fun _ _ _ => ⟨[], rfl, rfl⟩

lemma Idles.after {x : Naming α} {f : α → Naming β} {a : α} {b : β} {P : β → Prop}
    {fs gs : List Finding} (hx : Idles x a fs) (hf : Replays w (f a) b P gs) :
    Replays w (x >>= f) b P (fs ++ gs) := by
  cases hf with
  | idles nothing returns idles =>
      refine .idles nothing returns fun s live hs => ?_
      obtain ⟨es, rfl, hrun⟩ := hx s live hs
      obtain ⟨es', rfl, hrun'⟩ := idles (s.after es) (by simpa) (by simpa)
      refine ⟨es ++ es', reports_append _ _, ?_⟩
      rw [Pass.run_bind hrun, hrun', Run.after_after]
  | stops something stops =>
      refine .stops something fun s live hs => ?_
      obtain ⟨es, rfl, hrun⟩ := hx s live hs
      exact .run_bind hrun (s.reported_events es) (stops _ (by simpa) (by simpa))

lemma Replays.bind {x : Naming α} {f : α → Naming β} {a : α} {b : β} {w' : Names} {P : α → Prop}
    {Q : β → Prop} {fs gs : List Finding} (hx : Replays w x a P fs)
    (hgrows : w.symbols.Grows w'.symbols) (hf : w = .start → P a → Replays w' (f a) b Q gs)
    (hrest : ∀ a, P a → (f a).Stable ∧ (f a).Rests Q) : Replays w' (x >>= f) b Q (fs ++ gs) := by
  cases hx with
  | idles nothing returns idles => exact idles.after (hf nothing returns)
  | stops something stops =>
      have something' : w'.symbols.isEmpty = false := Arena.isEmpty_of_grows hgrows something
      exact .stops something' fun s live hs => ((stops s live hs).bind hrest).more gs

lemma Replays.map {x : Naming α} {a : α} {P : α → Prop} {Q : β → Prop} {fs : List Finding}
    (hx : Replays w x a P fs) (g : α → β) (h : ∀ a, P a → Q (g a)) :
    Replays w (x >>= fun a => Pure.pure (g a)) (g a) Q fs := by
  rw [← List.append_nil fs]
  exact hx.bind (.refl _) (fun nothing returns => .idles nothing (h _ returns) (.pure _))
    fun a returns => ⟨.pure _, .pure (h a returns)⟩

lemma idles_table : Idles table .withScope [] := by
  intro s _ hs
  exact ⟨[], rfl, by rw [run_table, hs]; rfl⟩

lemma idles_setTable : Idles (setTable .withScope) () [] := by
  intro s live hs
  have hwork : s.withWork ⟨s.work.symbols, .withScope⟩ = s := by
    conv_rhs => rw [← s.withWork_work, hs]
    rw [hs]
  exact ⟨[], rfl, by rw [run_setTable live, hwork]; rfl⟩

lemma idles_note {event : Event} (h : event.finding? = none) : Idles (note event) () [] :=
  fun _ live _ => ⟨[event], by rw [reports_cons_of_none h, reports_nil], run_note live h⟩

lemma idles_rejectDuplicate (id : Ident) : Idles (rejectDuplicate id) false [] :=
  fun _ _ hs => ⟨[], rfl, run_rejectDuplicate_start hs⟩

/-! ## Declarations, once more -/

lemma DeclareRule.replays {d d' : VarDecl}
    (rule : DeclareRule (fun _ => .withScope) .start d d' w es)
    (hd : ∀ id ∈ d.idents, id.symbol? = none) :
    Replays w (declareIn .withScope .withScope d') (.withScope, d) (fun r => r.2 = d')
      (reports es) := by
  rcases rule.of_start rfl with ⟨rfl, rfl⟩ | ⟨hnew, hquiet, hty, k, hk⟩
  · refine .idles rfl rfl fun s live hs => ⟨es, rfl, ?_⟩
    have hw : Names.Sound 0 ⟨s.work.symbols, .withScope⟩ := by
      rw [hs]
      exact sound_start
    obtain ⟨⟨stack, d''⟩, t, hrun, -, A, fs, rule', rfl⟩ :=
      (declareIn_ends live (Or.inl (by rw [hs]; decide)) hw hw (Or.inl hd)).goes_on
    rw [hs] at rule'
    obtain ⟨rfl, hstart, rfl⟩ := rule.unique rule'
    obtain ⟨rfl, rfl⟩ := Names.mk.inj hstart
    rw [hrun, Run.after_eq_withWork s es, hs]
    rfl
  · rw [hquiet]
    exact .stops hnew fun s live hs => declareIn_stops live hty hs hk

/-- Where no name is known, struct types are looked up soundly. -/
lemma soundTypes_withScope (A : Arena) : SoundTypes 0 (fun _ => .withScope) A :=
  fun _ _ hw => Names.sound_withScope hw.arena (Nat.zero_le _)

lemma DeclaresRule.replays {ds ds' : List VarDecl}
    (rule : DeclaresRule (fun _ => .withScope) .start ds ds' w es)
    (hds : ∀ id ∈ ds.flatMap VarDecl.idents, id.symbol? = none) :
    Replays w (declareFields .withScope .withScope ds') (.withScope, ds) (fun r => r.2 = ds')
      (reports es) := by
  generalize hstart : Names.start = v at rule
  induction rule with
  | nil =>
      subst hstart
      exact .idles rfl rfl (.pure _)
  | cons first rest ih =>
      subst hstart
      rw [List.flatMap_cons] at hds
      have hsound := (first.extends (soundTypes_withScope _) sound_start).sound
      have hgrows := (rest.extends (soundTypes_withScope _) hsound).grows
      rw [reports_append]
      refine (first.replays fun id hid => hds id (List.mem_append_left _ hid)).bind hgrows ?_ ?_
      · rintro hstart rfl
        have hrest := ih (fun id hid => hds id (List.mem_append_right _ hid)) hstart.symm
        exact hrest.map _ fun _ same => congrArg (_ :: ·) same
      · rintro ⟨fields, d⟩ rfl
        refine ⟨(stable_declareFields _ _ _).bind fun _ => .pure _, ?_⟩
        exact .bind (stable_declareFields _ _ _) (rests_declareFields _ _ _) fun _ same =>
          .pure (congrArg (_ :: ·) same)

/-- The variable is declared among the others, in the scope that the rules start with. -/
lemma DeclareRule.replays_var {d d' : VarDecl} (rule : DeclareRule id .start d d' w es)
    (hd : ∀ id ∈ d.idents, id.symbol? = none) :
    Replays w (declareVar d') d (· = d') (reports es) := by
  have hrule : DeclareRule (fun _ => .withScope) .start d d' w es := rule.congr rfl
  rw [← List.nil_append (reports es), ← List.append_nil (reports es)]
  refine idles_table.after ((hrule.replays hd).bind (.refl _) ?_ ?_)
  · exact fun nothing same => idles_setTable.after (.idles nothing same (.pure _))
  · rintro ⟨stack, d⟩ rfl
    exact ⟨(stable_setTable _).bind fun _ => .pure _, .after (stable_setTable _) fun _ => .pure rfl⟩

/-- The fields come first, and if none of them is declared then the struct is. -/
lemma StructRule.replays {st st' : StructDecl} (rule : StructRule .start st st' w es)
    (hst : ∀ id ∈ (Decl.struct st).idents, id.symbol? = none) :
    Replays w (resolveStruct st') st (· = st') (reports es) := by
  cases rule with
  | taken known all => cases known
  | @declared fields w' target es all room scope =>
      have hfields := all.replays fun id hid => hst id (Decl.mem_idents_fields hid)
      have hnew := Arena.isEmpty_push w'.symbols ⟨st.id.name, .structDef w'.table⟩ room
      -- One list for each step of the resolution.
      have hquiet : reports (.opened 1 :: es ++ [.declaredStruct st.id.name w'.symbols.nextId]) =
          [] ++ ([] ++ ([] ++ (reports es ++ []))) := by
        rw [reports_append, reports_cons_of_none rfl, reports_cons_of_none rfl]
        rfl
      rw [hquiet]
      unfold resolveStruct
      refine (idles_rejectDuplicate _).after ?_
      refine (idles_note rfl).after ?_
      refine idles_table.after ?_
      refine hfields.bind (Arena.grows_push _ _ room) ?_ ?_
      · rintro rfl rfl
        refine .stops hnew fun s live hs => ?_
        refine (introduceHere_stops live hs rfl).bind ?_
        rintro ⟨_, h⟩ rfl
        exact ⟨(Stable.note _).bind fun _ => .pure _, .after (.note _) fun _ => .pure rfl⟩
      · rintro ⟨stack, fields⟩ rfl
        refine ⟨(stable_introduceHere _ _).bind fun _ => (Stable.note _).bind fun _ => .pure _,
          .bind (stable_introduceHere _ _) (rests_introduceHere _ _) ?_⟩
        rintro ⟨_, h⟩ rfl
        exact .after (.note _) fun _ => .pure rfl

lemma ReturnRule.idles {ret ret' : TypeName} {ty : Ty} (rule : ReturnRule .start ret ret' ty es)
    (hret : ∀ id ∈ ret.idents, id.symbol? = none) :
    Idles (returnType ret') (ret', ty) (reports es) := by
  obtain rfl : ret' = ret := by
    cases rule with
    | plain type => rfl
    | struct type => rw [type.of_withScope.1]
  intro s live hs
  have hw : s.work.Sound 0 := by
    rw [hs]
    exact sound_start
  obtain ⟨⟨ret, ty'⟩, t, hrun, -, fs, rule', rfl⟩ := (returnType_ends live hw (Or.inl hret)).goes_on
  rw [hs] at rule'
  obtain ⟨rfl, rfl, rfl⟩ := rule.unique rule'
  exact ⟨_, rfl, hrun⟩

/-- A function is declared before anything in it is. -/
lemma HeadRule.stops {id id' : Ident} {params : List Ty} {ret : Ty}
    (rule : HeadRule .start id params ret id' w es) :
    w.symbols.isEmpty = false ∧ ∀ s : Run Names, s.halted = none → s.work = .start →
      Stops s (declareFn id' ret) (fun r => r.1 = id') (reports es) := by
  cases rule with
  | taken known => cases known
  | @declared target room scope =>
      refine ⟨Arena.isEmpty_push _ _ room, fun s live hs => ?_⟩
      exact .run_bind (run_rejectDuplicate_start hs) s.reported_refl
        ((introduceHere_stops live hs rfl).bind fun _ same => ⟨.pure _, .pure same⟩)

lemma FnRule.stops {f f' : FnDecl} (rule : FnRule .start f f' w es)
    (hf : ∀ id ∈ (Decl.fn f).idents, id.symbol? = none) (body : Block) :
    w.symbols.isEmpty = false ∧ ∀ s : Run Names, s.halted = none → s.work = .start →
      Stops s (resolveFn { f' with body }) (· = { f' with body }) (reports es) := by
  cases rule with
  | @mk ret ty id' formals _ w₁ w₂ w₃ es₁ es₂ es₃ es₄ type head params inside =>
      have hhead := head.extends_of_type type sound_start
      have hparams := params.extends_here hhead.sound.enter
      have hgrows := hparams.grows.trans (inside.extends hparams.sound).grows
      obtain ⟨hnew, hstops⟩ := head.stops
      refine ⟨Arena.isEmpty_of_grows hgrows hnew, fun s live hs => ?_⟩
      have htype := type.idles fun id hid => hf id (Decl.mem_idents_ret hid)
      obtain ⟨es, hes, hrun⟩ := htype s live hs
      rw [List.append_assoc, reports_append, reports_append, ← hes]
      have hfn := hstops (s.after es) (by simpa) (by simpa)
      refine .run_bind hrun (s.reported_events es) ((hfn.bind ?_).more _)
      rintro ⟨id', h⟩ rfl
      exact ⟨stable_afterHead { ret, id := id', formals, body } ret (id', h),
        rests_afterHead { ret, id := id', formals, body } ret (id', h)⟩

end Naming

/-! ## Declarations of the program, once more -/

/-- The same declaration, but for the body of a function. -/
inductive Decl.SameHead : Decl → Decl → Prop
  | var (d : VarDecl) : SameHead (.var d) (.var d)
  | fn (f : FnDecl) (body : Block) : SameHead (.fn f) (.fn { f with body })
  | struct (st : StructDecl) : SameHead (.struct st) (.struct st)

lemma Decl.SameHead.refl (d : Decl) : d.SameHead d := by
  cases d with
  | var d => exact .var d
  | fn f => exact .fn f f.body
  | struct st => exact .struct st

/-- Type checking works in the bodies of functions alone. -/
lemma Decl.sameHead_decorate (A : Arena) (d : Decl) : d.SameHead (d.decorate A) := by
  cases d with
  | var d => exact .var d
  | fn f => exact .fn f _
  | struct st => exact .struct st

/-- Variables have no bodies, so there is nothing for type checking to do. -/
lemma Decl.SameHead.of_vars {ds ds' : List Decl} (hsame : List.Forall₂ Decl.SameHead ds ds')
    (h : ∀ d ∈ ds, ∃ v, d = .var v) : ds' = ds ∧ ds'.flatMap Decl.judgements = [] := by
  induction hsame with
  | nil => exact ⟨rfl, rfl⟩
  | cons hfirst hrest ih =>
      obtain ⟨⟨v, rfl⟩, hvars⟩ := List.forall_mem_cons.1 h
      cases hfirst
      obtain ⟨rfl, hnone⟩ := ih hvars
      exact ⟨rfl, hnone⟩

namespace Naming

variable {w : Names} {es : List Event}

lemma DeclRule.replays {d d' e : Decl} (rule : DeclRule .start d d' w es)
    (hd : ∀ id ∈ d.idents, id.symbol? = none) (he : d'.SameHead e) :
    Replays w (resolveDecl e) d (· = e) (reports es) := by
  cases rule with
  | var rule =>
      cases he
      have hrule := rule.replays_var fun id hid => hd id (List.mem_append_left _ hid)
      exact hrule.map _ fun _ same => congrArg Decl.var same
  | @fn f _ _ _ rule =>
      cases he with
      | fn f' body =>
          have hrule : Replays w _ f _ _ := .stops (rule.stops hd body).1 (rule.stops hd body).2
          exact hrule.map _ fun _ same => congrArg Decl.fn same
  | struct rule =>
      cases he
      exact (rule.replays hd).map _ fun _ same => congrArg Decl.struct same

/-- **Once more up to the first declaration.**  Name resolution of what the rules made of a program,
where type checking may have decorated the bodies, stops if the rules have declared anything. -/
theorem DeclsRule.replays {ds ds' ds'' : List Decl} (rule : DeclsRule .start ds ds' w es)
    (hds : ∀ id ∈ ds.flatMap Decl.idents, id.symbol? = none)
    (hsame : List.Forall₂ Decl.SameHead ds' ds'') :
    Replays w (ds''.mapM resolveDecl) ds (· = ds'') (reports es) := by
  -- The rest starts where the first declaration did, unless that one has stopped the run.
  generalize hstart : Names.start = v at rule
  induction rule generalizing ds'' with
  | nil =>
      subst hstart
      cases hsame
      exact .idles rfl rfl (.pure _)
  | cons first rest ih =>
      subst hstart
      cases hsame with
      | cons hfirst hrest =>
          rw [List.flatMap_cons] at hds
          have hsound := (first.extends sound_start).sound
          rw [reports_append, List.mapM_cons]
          refine (first.replays (fun id hid => hds id (List.mem_append_left _ hid)) hfirst).bind
            (rest.extends hsound).grows ?_ ?_
          · rintro hstart rfl
            have hrest := ih (fun id hid => hds id (List.mem_append_right _ hid)) hrest hstart.symm
            exact hrest.map _ fun _ same => congrArg (_ :: ·) same
          · rintro _ rfl
            exact ⟨(Stable.mapM stable_resolveDecl _).bind fun _ => .pure _,
              .bind (.mapM stable_resolveDecl _) (.mapM stable_resolveDecl rests_resolveDecl _)
                fun _ same => .pure (congrArg (_ :: ·) same)⟩

/-- Only a variable can be left undeclared where no name is known. -/
lemma DeclRule.of_isEmpty {d d' : Decl} (rule : DeclRule .start d d' w es)
    (hd : ∀ id ∈ d.idents, id.symbol? = none) (hw : w.symbols.isEmpty = true) :
    w = .start ∧ d' = d ∧ ∃ v, d = .var v := by
  cases rule with
  | var rule =>
      rcases rule.of_start rfl with ⟨rfl, rfl⟩ | ⟨hnew, -⟩
      · exact ⟨rfl, rfl, _, rfl⟩
      · cases hw.symm.trans hnew
  | @fn f f' _ _ rule => cases hw.symm.trans (rule.stops hd f'.body).1
  | struct rule =>
      cases rule with
      | taken known all => cases known
      | declared all room scope => cases hw.symm.trans (Arena.isEmpty_push _ _ room)

lemma DeclsRule.of_isEmpty {ds ds' : List Decl} (rule : DeclsRule .start ds ds' w es)
    (hds : ∀ id ∈ ds.flatMap Decl.idents, id.symbol? = none) (hw : w.symbols.isEmpty = true) :
    ds' = ds ∧ ∀ d ∈ ds, ∃ v, d = .var v := by
  generalize hstart : Names.start = v at rule
  induction rule with
  | nil => exact ⟨rfl, nofun⟩
  | @cons _ w' w'' d d' ds ds' _ _ first rest ih =>
      subst hstart
      rw [List.flatMap_cons] at hds
      have hgrows := (rest.extends (first.extends sound_start).sound).grows
      have hfirst : w'.symbols.isEmpty = true := by
        by_contra hnew
        rw [Bool.not_eq_true] at hnew
        cases hw.symm.trans (Arena.isEmpty_of_grows hgrows hnew)
      obtain ⟨rfl, rfl, hvar⟩ :=
        first.of_isEmpty (fun id hid => hds id (List.mem_append_left _ hid)) hfirst
      obtain ⟨rfl, hvars⟩ := ih (fun id hid => hds id (List.mem_append_right _ hid)) hw rfl
      exact ⟨rfl, List.forall_mem_cons.2 ⟨hvar, hvars⟩⟩

end Naming

/-! ## The second analysis -/

open Naming in
/-- Once halted, name resolution ends without doing anything. -/
lemma rests_closing (dumpScopes : Bool) (decls : List Decl) :
    let x : Naming Program := do
      if dumpScopes then
        logScopes
      closeScope
      note (.namingFinished (← symbols).size (← get).errors)
      return { decls }
    x.Stable ∧ x.Rests (· = { decls }) := by
  have hclose :
      let x : Naming Program := do
        closeScope
        note (.namingFinished (← symbols).size (← get).errors)
        return { decls }
      x.Stable ∧ x.Rests (· = { decls }) :=
    ⟨stable_closeScope.bind fun _ => stable_symbols.bind fun _ => Stable.get.bind fun _ =>
      (Stable.note _).bind fun _ => .pure _,
    .after stable_closeScope fun _ => .after stable_symbols fun _ => .after .get fun _ =>
      .after (.note _) fun _ => .pure rfl⟩
  cases dumpScopes with
  | false => exact hclose
  | true =>
      exact ⟨stable_logScopes.bind fun _ => hclose.1, .after stable_logScopes fun _ => hclose.2⟩

open Naming in
/-- Name resolution of what an analysis left comes to the first identifier that is bound. -/
lemma resolveProgram_stops (dumpScopes : Bool) {p named tree : Program} {w : Names}
    {es : List Event} (rule : DeclsRule .start p.decls named.decls w es) (h : p.Unfilled)
    (hsame : List.Forall₂ Decl.SameHead named.decls tree.decls)
    (hw : w.symbols.isEmpty = false) (sink : Diagnostics) :
    Stops { work := {}, sink } (resolveProgram dumpScopes tree) (· = tree) (reports es) := by
  have hdecls : ∀ s : Run Names, s.halted = none → s.work = .start →
      Stops s (tree.decls.mapM resolveDecl) (· = tree.decls) (reports es) := by
    cases rule.replays (fun id hid => h.unbound id (Program.mem_idents_decls hid)) hsame with
    | idles nothing returns idles => rw [nothing] at hw; cases hw
    | stops something stops => exact stops
  unfold resolveProgram
  generalize hs : ({ work := {}, sink } : Run Names) = s
  have live : s.halted = none := by rw [← hs]
  have hrestart : (modify fun run => run.restart { run.work with table := .empty } :
      Naming Unit).run s = ((), s.withWork ⟨{}, .empty⟩) := by
    rw [← hs]
    rfl
  show Stops s _ _ ([] ++ ([] ++ ([] ++ reports es)))
  refine .run_bind hrestart (s.reported_withWork _) ?_
  refine .run_bind (run_note (by simpa) rfl) (Run.reported_events _ _) ?_
  refine .run_bind (run_openScope (by simpa)) (Run.reported_after _ _ _) ?_
  refine (hdecls _ (by simpa) ?_).bind ?_
  · rw [Run.work_withWork, Run.work_after, Run.work_withWork]
    rfl
  · rintro _ rfl
    exact rests_closing dumpScopes tree.decls

/-- The two ways in which an analysis can end, as far as they are alike. -/
lemma Explains.outline {config : Config} {p : Program} {sink : Diagnostics} {R : Analyzed}
    (E : Explains config p sink R) :
    ∃ (named : Program) (w : Names) (es : List Event) (fs : List Finding) (a : Analysis),
      Naming.DeclsRule .start p.decls named.decls w es ∧
      List.Forall₂ Decl.SameHead named.decls R.program.decls ∧
      (R.program.judgements = [] → fs = []) ∧ Told sink R.sink (reports es ++ fs) ∧
      R.result = .ok a ∧ a.symbols = w.symbols ∧ a.nameErrors = (reports es).length ∧
      a.typeErrors = fs.length := by
  cases E with
  | @skipped named w es rule wrong skips program told result logged =>
      refine ⟨named, w, es, [], _, rule, ?_, fun _ => rfl, ?_, result, rfl, rfl, rfl⟩
      · rw [program]
        exact List.forall₂_same.2 fun d _ => .refl d
      · rwa [List.append_nil]
  | @checked named w es rule checks program told result logged =>
      refine ⟨named, w, es, _, _, rule, ?_, fun hnone => ?_, told, result, rfl, rfl, ?_⟩
      · rw [program]
        exact List.forall₂_map_right_iff.2 (List.forall₂_same.2 fun d _ => d.sameHead_decorate _)
      · rw [Program.complaints, hnone]
        rfl
      · rw [List.length_map]

/-- An analysis whose name resolution stops leaves the tree alone. -/
lemma analyze_stops {config : Config} {tree : Program} {sink : Diagnostics} {fs : List Finding}
    (hx : Stops { work := {}, sink } (resolveProgram config.dumpScopes tree) (· = tree) fs) :
    let S := analyze config tree sink
    S.program = tree ∧ S.result = .error (.slotFilled "binding") ∧
      ∃ gs, gs <+: fs ∧ Told sink S.sink gs := by
  obtain ⟨hreturns, hhalted, gs, hprefix, hreported⟩ := hx
  rcases hrun : (resolveProgram config.dumpScopes tree).run { work := {}, sink } with ⟨p, t⟩
  rw [hrun] at hreturns hhalted hreported
  dsimp only at hhalted
  unfold analyze
  simp only [hrun, hhalted]
  exact ⟨hreturns, trivial, gs, hprefix, hreported.told⟩

open Naming in
/-- **Analysing again fails cleanly.**  A program in which nothing is filled is analysed, and then
what is left of it, with any two configurations.  The second analysis leaves the tree alone.  If the
first one has a symbol the second ends in a fault, and what it reports before comes first in what
the first one reported; otherwise both report the same and count the same. -/
theorem reanalysis_fails_cleanly (config config' : Config) {p : Program} (h : p.Unfilled)
    (sink sink' : Diagnostics) :
    let R := analyze config p sink
    let S := analyze config' R.program sink'
    ∃ a fs gs, R.result = .ok a ∧ Told sink R.sink fs ∧ Told sink' S.sink gs ∧
      S.program = R.program ∧
      (a.symbols.isEmpty = false → S.result = .error (.slotFilled "binding") ∧ gs <+: fs) ∧
      (a.symbols.isEmpty = true → gs = fs ∧ ∃ b, S.result = .ok b ∧
        b.nameErrors = a.nameErrors ∧ b.typeErrors = a.typeErrors) := by
  intro R S
  obtain ⟨named, w, es, fs, a, rule, hsame, hquiet, htold, ha, hsymbols, hnames, htypes⟩ :=
    (analyze_explained config h sink).outline
  cases hw : w.symbols.isEmpty with
  | false =>
      obtain ⟨hprogram, hresult, gs, hprefix, htold'⟩ :=
        analyze_stops (resolveProgram_stops config'.dumpScopes rule h hsame hw sink')
      refine ⟨a, _, gs, ha, htold, htold', hprogram, fun _ => ⟨hresult, ?_⟩, fun hempty => ?_⟩
      · exact hprefix.trans (List.prefix_append _ _)
      · rw [hsymbols, hw] at hempty
        cases hempty
  | true =>
      obtain ⟨hnamed, hvars⟩ :=
        rule.of_isEmpty (fun id hid => h.unbound id (Program.mem_idents_decls hid)) hw
      rw [hnamed] at hsame
      obtain ⟨hR, hnone⟩ := Decl.SameHead.of_vars hsame hvars
      obtain ⟨named', w', es', gs, b, rule', hsame', hquiet', htold', hb, -, hnames', htypes'⟩ :=
        (analyze_explained config' h sink').outline
      obtain ⟨hnamed', rfl, rfl⟩ := rule.unique rule'
      rw [← hnamed', hnamed] at hsame'
      obtain ⟨hS, hnone'⟩ := Decl.SameHead.of_vars hsame' hvars
      rw [hquiet hnone] at htold htypes
      rw [hquiet' hnone'] at htold' htypes'
      have hp : R.program = p := congrArg Program.mk hR
      have hsecond : S = analyze config' p sink' := congrArg (analyze config' · sink') hp
      rw [hsecond, hp]
      refine ⟨a, _, _, ha, htold, htold', congrArg Program.mk hS, fun hnew => ?_, fun _ =>
        ⟨rfl, b, hb, hnames'.trans hnames.symm, htypes'.trans htypes.symm⟩⟩
      rw [hsymbols, hw] at hnew
      cases hnew

/-- A variable that cannot be declared, before a struct and a variable of its type. -/
def voidBeforePoint : Program where
  decls := .var { ty := .void, id := .unbound "nothing" .nowhere } :: pointAndVariable.decls

/-- The variable is reported a second time, and then the first field of the struct is bound. -/
theorem voidBeforePoint_again : voidBeforePoint.Unfilled ∧
    let R := analyze .standard voidBeforePoint {}
    let S := analyze { dumpScopes := true } R.program {}
    S.result = .error (.slotFilled "binding") ∧ S.program = R.program ∧
      S.sink.entries.toList.map (·.message) = ["Non-function declared void"] := by
  have h : voidBeforePoint.Unfilled := ⟨by decide, by decide, by decide⟩
  obtain ⟨a, fs, gs, ha, -, -, hprogram, hstops, -⟩ :=
    reanalysis_fails_cleanly .standard { dumpScopes := true } h {} {}
  have hany : (analyze .standard voidBeforePoint {}).result.toOption.any
    (fun a => !a.symbols.isEmpty) = true := by decide +kernel
  obtain ⟨b, hb, hnew⟩ := exists_of_any hany
  obtain rfl := Except.ok.inj (ha.symm.trans hb)
  rw [Bool.not_eq_true'] at hnew
  exact ⟨h, (hstops hnew).1, hprogram, by decide +kernel⟩

end StructLang
