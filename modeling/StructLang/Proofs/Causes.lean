import Mathlib.Tactic.Common
import StructLang.Proofs.Verdict

/-!
# Why an expression is an error

Type checking gives an expression the type `Ty.error` and is often silent about it: an operand is an
error already, a callee cannot be used, a function returns an error.  Each time something has been
reported before.

* `Expr.Caused` — the causes that an error can have: a report inside the expression, or a call
  inside it of a function whose return type was reported.
* `Expr.caused` — the induction.  `Expr.Sourced` is what name resolution provides for it.
* `errors_have_reported_causes` — the same for whole analyses, where what is not bound was reported
  too.
-/

namespace StructLang

/-! ## Causes -/

/-- One of the findings is at the place of a part of the expression, or of an identifier in it. -/
def Expr.ReportedIn (fs : List Finding) (e : Expr) : Prop :=
  (∃ f ∈ fs, ∃ x ∈ e.exprs, f.loc = x.loc) ∨ ReportedAt fs e.idents

instance (fs : List Finding) (e : Expr) : Decidable (e.ReportedIn fs) :=
  inferInstanceAs (Decidable ((∃ f ∈ fs, ∃ x ∈ e.exprs, f.loc = x.loc) ∨ ReportedAt fs e.idents))

/-- The symbol is that of a function in the program whose return type is a struct name, and there is
a finding that the name is not that of a struct. -/
def Program.ReturnsInvalid (p : Program) (fs : List Finding) (k : SymbolId) : Prop :=
  ∃ f name, .fn f ∈ p.decls ∧ f.id.symbol? = some k ∧ f.ret = .struct name ∧
    { loc := name.loc, problem := .invalidStructName } ∈ fs

/-- A part of the expression calls a function with such a return type. -/
def Expr.CallsInvalid (p : Program) (fs : List Finding) (e : Expr) : Prop :=
  ∃ callee args note k, .call callee args note ∈ e.exprs ∧ callee.symbol? = some k ∧
    p.ReturnsInvalid fs k

/-- What may have caused the type of the expression to be an error. -/
def Expr.Caused (p : Program) (fs : List Finding) (e : Expr) : Prop :=
  e.ReportedIn fs ∨ e.CallsInvalid p fs

section

variable {A : Arena} {p : Program} {fs : List Finding}

/-- A cause of a part is a cause of the whole. -/
lemma Expr.Caused.of_part {x e : Expr} (h : x.Caused p fs) (hsub : x.exprs ⊆ e.exprs) :
    e.Caused p fs := by
  rcases h with (⟨f, hf, y, hy, hloc⟩ | h) | ⟨callee, args, note, k, hcall, h⟩
  · exact Or.inl (Or.inl ⟨f, hf, y, hsub hy, hloc⟩)
  · exact Or.inl (Or.inr (h.mono (fun _ => id) (List.filterMap_subset _ hsub)))
  · exact Or.inr ⟨callee, args, note, k, hsub hcall, h⟩

lemma Expr.Caused.of_ident {e : Expr} {f : Finding} (hf : f ∈ fs) {id : Ident} (hid : id ∈ e.idents)
    (hloc : f.loc = id.loc) : e.Caused p fs :=
  Or.inl (Or.inr ⟨f, hf, id, hid, hloc⟩)

lemma not_caused_nil {e : Expr} : ¬ e.Caused p [] := by
  rintro ((⟨f, hf, -⟩ | ⟨f, hf, -⟩) | ⟨_, _, _, _, -, -, _, _, -, -, -, hf⟩) <;> cases hf

/-! ## Findings and their places -/

lemma Verdict.loc_of_mem {v : Verdict} {loc : Location} {f : Finding} (hf : f ∈ v.findings loc) :
    f.loc = loc := by
  cases v with
  | rejected problem => exact congrArg Finding.loc (List.mem_singleton.1 hf)
  | _ => cases hf

/-- What is wrong about arguments is at the place of an argument. -/
lemma mem_args_of_argFindings {args : List Expr} {params : List Ty} {f : Finding}
    (hf : f ∈ argFindings args params) : ∃ arg ∈ args, f.loc = arg.loc := by
  obtain ⟨⟨arg, formal⟩, hmem, hf⟩ := List.mem_flatMap.1 hf
  exact ⟨arg, (List.of_mem_zip hmem).1, Verdict.loc_of_mem hf⟩

lemma Expr.mem_exprsOfAll {e : Expr} {es : List Expr} (he : e ∈ es) : e ∈ Expr.exprsOfAll es := by
  induction es with
  | nil => cases he
  | cons e' es ih =>
      rcases List.mem_cons.1 he with rfl | he
      · exact List.mem_append_left _ e.mem_exprs_self
      · exact List.mem_append_right _ (ih he)

/-- What a judgement of an expression finds is at one of its parts, or at its callee. -/
lemma Expr.caused_of_mem_judged {e : Expr} {f : Finding} (hf : f ∈ (e.judged A).2) (hfs : f ∈ fs) :
    (e.settled A).Caused p fs := by
  have hpart : ∀ x ∈ (e.settled A).exprs, f.loc = x.loc → (e.settled A).Caused p fs :=
    fun x hx hloc => Or.inl (Or.inl ⟨f, hfs, x, hx, hloc⟩)
  cases e with
  | lit value note => cases hf
  | name id note => rw [Expr.judged_name] at hf; cases hf
  | dot base field failed note => rw [Expr.judged_dot] at hf; cases hf
  | assign target value note =>
      refine hpart target (List.mem_cons_of_mem _ ?_) (Verdict.loc_of_mem hf)
      exact List.mem_append_left _ target.mem_exprs_self
  | unary op operand note =>
      exact hpart operand (List.mem_cons_of_mem _ operand.mem_exprs_self) (Verdict.loc_of_mem hf)
  | binary op left right note =>
      have hleft : left ∈ ((Expr.binary op left right note).settled A).exprs :=
        List.mem_cons_of_mem _ (List.mem_append_left _ left.mem_exprs_self)
      have hright : right ∈ ((Expr.binary op left right note).settled A).exprs :=
        List.mem_cons_of_mem _ (List.mem_append_right _ right.mem_exprs_self)
      have hjudged : f ∈ (judgeBinary op left right).2 := hf
      unfold judgeBinary at hjudged
      split at hjudged
      · rcases List.mem_append.1 hjudged with hf | hf
        · exact hpart left hleft (Verdict.loc_of_mem hf)
        · exact hpart right hright (Verdict.loc_of_mem hf)
      · exact hpart left hleft (Verdict.loc_of_mem hjudged)
  | call callee args note =>
      rw [judged_call] at hf
      unfold judgeCall at hf
      split at hf
      · dsimp only at hf
        split at hf
        · obtain ⟨arg, harg, hloc⟩ := mem_args_of_argFindings hf
          exact hpart arg (List.mem_cons_of_mem _ (Expr.mem_exprsOfAll harg)) hloc
        · obtain rfl := List.mem_singleton.1 hf
          exact .of_ident hfs (mem_idents_self rfl) rfl
      · cases hf

lemma Expr.caused_of_judged {e : Expr} (hne : (e.judged A).2 ≠ [])
    (hfs : ∀ f ∈ (e.judged A).2, f ∈ fs) : (e.settled A).Caused p fs := by
  obtain ⟨f, hf⟩ := List.exists_mem_of_ne_nil _ hne
  exact caused_of_mem_judged hf (hfs f hf)

/-! ## The induction -/

/-- All the complaints are among the findings. -/
def Said (fs : List Finding) (cs : List Complaint) : Prop := ∀ c ∈ cs, c.finding ∈ fs

lemma said_append {cs ds : List Complaint} : Said fs (cs ++ ds) ↔ Said fs cs ∧ Said fs ds :=
  List.forall_mem_append

lemma said_blame {b : Bool} {gs : List Finding} : Said fs (blame b gs) ↔ ∀ f ∈ gs, f ∈ fs := by
  simp [Said, blame]

lemma Expr.Accounted.decorate {e : Expr} (h : e.Accounted fs) : (e.decorate A).Accounted fs := by
  cases e with
  | dot base field failed note =>
      intro hnone
      have hidents : (base.decorate A).idents = base.idents := by
        simp only [idents, exprs_decorate, List.filterMap_map, Function.comp_def, ident?_decorate]
      show ReportedAt fs (field :: (base.decorate A).idents)
      rw [hidents]
      exact h hnone
  | _ => exact h

/-- **Every error has a cause.**  If the type of an expression is an error, then an operand is one,
or the rule for it has reported something, or its identifier is not bound, or it calls a function
whose calls are errors. -/
theorem Expr.caused
    (hinvalid : ∀ k name params, A.get k = .ok { name, kind := .fn params .error } →
      p.ReturnsInvalid fs k) :
    ∀ {e : Expr} (b : Bool), (∀ x ∈ e.exprs, x.Sourced A fs) →
      Said fs ((e.decorate A).complaints A b) → (e.decorate A).ty.isError = true →
        (e.decorate A).Caused p fs
  | .lit value note, _, _, _, herror => by
      rw [decorate, ty_settled] at herror
      exact absurd (value.isError_ty.symm.trans herror) Bool.false_ne_true
  | .name id note, _, hsourced, _, herror => by
      rw [decorate, ty_settled, judged_name] at herror
      have hself := hsourced _ (mem_exprs_self _)
      have hnone := hself.unbound_of_isError rfl herror
      exact .of_ident (hself.accounted hnone) (mem_idents_self rfl) rfl
  | .dot base field failed note, _, hsourced, _, herror => by
      rw [decorate, ty_settled, judged_dot] at herror
      have hself := hsourced _ (mem_exprs_self _)
      have hnone := hself.unbound_of_isError rfl herror
      obtain ⟨f, hf, id, hid, hloc⟩ := (Accounted.decorate (A := A) hself.accounted) hnone
      exact .of_ident hf (mem_idents_dot.2 (List.mem_cons.1 hid)) hloc
  | .assign target value note, b, hsourced, hsaid, herror => by
      have hcomplaints : Said fs (_ ++ _ ++ blame b _) := hsaid
      rw [said_append, said_append, said_blame] at hcomplaints
      obtain ⟨⟨htarget, hvalue⟩, hjudged⟩ := hcomplaints
      rw [decorate, ty_settled, ← Bool.not_eq_false, isError_assign_iff, not_and_or, not_and_or,
        Bool.not_eq_false, Bool.not_eq_false] at herror
      rcases herror with hne | herror | herror
      · exact caused_of_judged hne hjudged
      · refine (target.caused hinvalid b (fun x hx => hsourced x ?_) htarget herror).of_part ?_
        · exact List.mem_cons_of_mem _ (List.mem_append_left _ hx)
        · exact fun y hy => List.mem_cons_of_mem _ (List.mem_append_left _ hy)
      · refine (value.caused hinvalid b (fun x hx => hsourced x ?_) hvalue herror).of_part ?_
        · exact List.mem_cons_of_mem _ (List.mem_append_right _ hx)
        · exact fun y hy => List.mem_cons_of_mem _ (List.mem_append_right _ hy)
  | .call callee args note, b, hsourced, hsaid, herror => by
      have hcallee : callee ∈ ((Expr.call callee args note).decorate A).idents :=
        mem_idents_self rfl
      have hself := hsourced _ (mem_exprs_self _)
      have hcomplaints : Said fs (blame b _ ++ _ ++ blame true _) := hsaid
      rw [said_append, said_append, said_blame] at hcomplaints
      have hrejected := hcomplaints.1.1
      rw [decorate, ty_settled, judged_call] at herror
      -- The arguments have no part in it: a call has the return type of its function.
      cases htype : callee.typeIn A with
      | error =>
          have hnone := hself.unbound_of_isError rfl (by rw [htype]; rfl)
          exact .of_ident (hself.accounted hnone) hcallee rfl
      | fn params ret =>
          rw [htype] at herror
          have hfn : (callee.typeIn A).isError = false := by rw [htype]; rfl
          obtain ⟨k, hk⟩ := Ident.symbol_of_typeIn hfn
          obtain ⟨name, hg⟩ := (hself.typed callee rfl k hk).2 params ret htype
          cases ret with
          | error =>
              exact Or.inr ⟨callee, _, _, k, mem_exprs_self _, hk, hinvalid k name params hg⟩
          | _ => cases herror
      | _ =>
          rw [htype] at hrejected
          exact .of_ident (hrejected _ (List.mem_singleton_self _)) hcallee rfl
  | .unary op operand note, b, hsourced, hsaid, herror => by
      have hcomplaints : Said fs (_ ++ blame b _) := hsaid
      rw [said_append, said_blame] at hcomplaints
      obtain ⟨hoperand, hjudged⟩ := hcomplaints
      rw [decorate, ty_settled, ← Bool.not_eq_false, isError_unary_iff, not_and_or,
        Bool.not_eq_false] at herror
      rcases herror with hne | herror
      · exact caused_of_judged hne hjudged
      · refine (operand.caused hinvalid b (fun x hx => hsourced x ?_) hoperand herror).of_part ?_
        · exact List.mem_cons_of_mem _ hx
        · exact List.subset_cons_self _ _
  | .binary op left right note, b, hsourced, hsaid, herror => by
      have hcomplaints : Said fs (_ ++ _ ++ blame b _) := hsaid
      rw [said_append, said_append, said_blame] at hcomplaints
      obtain ⟨⟨hleft, hright⟩, hjudged⟩ := hcomplaints
      rw [decorate, ty_settled, ← Bool.not_eq_false, isError_binary_iff, not_and_or, not_and_or,
        Bool.not_eq_false, Bool.not_eq_false] at herror
      rcases herror with hne | herror | herror
      · exact caused_of_judged hne hjudged
      · refine (left.caused hinvalid b (fun x hx => hsourced x ?_) hleft herror).of_part ?_
        · exact List.mem_cons_of_mem _ (List.mem_append_left _ hx)
        · exact fun y hy => List.mem_cons_of_mem _ (List.mem_append_left _ hy)
      · refine (right.caused hinvalid b (fun x hx => hsourced x ?_) hright herror).of_part ?_
        · exact List.mem_cons_of_mem _ (List.mem_append_right _ hx)
        · exact fun y hy => List.mem_cons_of_mem _ (List.mem_append_right _ hy)

end

/-! ## Programs -/

namespace Naming

variable {A : Arena} {fs : List Finding}

/-- The return type of a function whose calls are errors was reported. -/
lemma DeclsRule.returnsInvalid {w w' : Names} {ds : List Decl} {named : Program} {es : List Event}
    (rule : DeclsRule w ds named.decls w' es) (hw : w.symbols.Flawless)
    (hsub : ∀ f ∈ reports es, f ∈ fs) {k : SymbolId} {name : String} {params : List Ty}
    (hg : w'.symbols.get k = .ok { name, kind := .fn params .error }) :
    (named.decorate A).ReturnsInvalid fs k := by
  rcases rule.fn_declared hg with hg | ⟨f, hf, hdeclares⟩
  · cases hw k name params .error hg
  · obtain ⟨structName, hret, hmem⟩ := hdeclares.reported rfl
    exact ⟨_, structName, List.mem_map.2 ⟨.fn f, hf, rfl⟩, hdeclares.symbol, hret, hsub _ hmem⟩

end Naming

lemma Program.caused {A : Arena} {fs : List Finding} {p : Program}
    (hinvalid : ∀ k name params, A.get k = .ok { name, kind := .fn params .error } →
      (p.decorate A).ReturnsInvalid fs k)
    (hsourced : ∀ e ∈ p.exprs, ∀ x ∈ e.exprs, x.Sourced A fs)
    (hsaid : Said fs ((p.decorate A).complaints A)) {e : Expr} (he : e ∈ (p.decorate A).exprs)
    (herror : e.ty? = some .error) : e.Caused (p.decorate A) fs := by
  obtain ⟨b, hpart⟩ := Program.judgements_part (A := A) he
  rw [Program.exprs_decorate] at he
  obtain ⟨x, hx, rfl⟩ := List.mem_map.1 he
  refine Expr.caused hinvalid b (hsourced x hx) (fun c hc => hsaid c (hpart hc)) ?_
  rw [Expr.ty, herror]
  rfl

/-- What an analysis that reported `fs` and came to its end leaves: what is not bound was reported;
if types were checked, so was the cause of every type that is an error; and if the sink was told
nothing, no type is an error, everything that is used is bound, and the verdict is positive. -/
structure Justified (sink : Diagnostics) (R : Analyzed) (fs : List Finding) (a : Analysis) :
    Prop where
  told : Told sink R.sink fs
  unbound : ∀ e ∈ R.program.exprs, e.Accounted fs
  errors : a.typeChecked = true → ∀ e ∈ R.program.exprs, e.ty? = some .error →
    e.ReportedIn fs ∨ e.CallsInvalid R.program fs
  quiet : R.sink = sink → a.isOk = true ∧
    (∀ e ∈ R.program.exprs, ∃ ty, e.ty? = some ty ∧ ty ≠ .error) ∧
    ∀ id ∈ R.program.uses, id.symbol?.isSome = true

/-- **Every error and every unbound use has a cause that was reported**, in the analysis of every
fresh program. -/
theorem errors_have_reported_causes (config : Config) {p : Program} (h : p.Fresh)
    (sink : Diagnostics) : ∃ a, (analyze config p sink).result = .ok a ∧
      Justified sink (analyze config p sink) (reports (analyze config p sink).log.toList) a := by
  cases analyze_explained config h.toUnfilled sink with
  | @skipped named w es rule wrong skips program told result logged =>
      rw [logged]
      have hsourced : ∀ e ∈ named.exprs, e.Sourced w.symbols (reports es) :=
        rule.carries Naming.carries_sourced sound_start (.refl _) h.exprs fun _ => id
      refine ⟨_, result, told, fun e he => ?_, nofun, fun hquiet => ?_⟩
      · rw [program] at he
        exact (hsourced e he).accounted
      · exact absurd ((told_nil_iff told).1 hquiet) wrong
  | @checked named w es rule checks program told result logged =>
      rw [logged]
      generalize hfs : reports es ++ List.map _ _ = fs at told ⊢
      have hnames : ∀ f ∈ reports es, f ∈ fs := fun f hf => hfs ▸ List.mem_append_left _ hf
      have hsaid : Said fs ((named.decorate w.symbols).complaints w.symbols) := fun c hc =>
        hfs ▸ List.mem_append_right _ (List.mem_map_of_mem (program ▸ hc))
      have hsourced : ∀ e ∈ named.exprs, ∀ x ∈ e.exprs, x.Sourced w.symbols fs :=
        rule.carries Naming.carries_sourced.parts sound_start (.refl _) h.exprs hnames
      have hunbound : ∀ e ∈ (analyze config p sink).program.exprs, e.Accounted fs := by
        rw [program, Program.exprs_decorate, List.forall_mem_map]
        exact fun e he => (hsourced e he e e.mem_exprs_self).accounted.decorate
      have herrors : ∀ e ∈ (analyze config p sink).program.exprs, e.ty? = some .error →
          e.Caused (analyze config p sink).program fs := by
        rw [program]
        exact fun e he => Program.caused (fun k name params hg =>
          rule.returnsInvalid Arena.flawless_empty hnames hg) hsourced hsaid he
      refine ⟨_, result, told, hunbound, fun _ => herrors, fun hquiet => ?_⟩
      obtain rfl := (told_nil_iff told).1 hquiet
      obtain ⟨hnil, hcomplaints⟩ := List.append_eq_nil_iff.1 hfs
      refine ⟨(isOk_iff config h sink result).2 ⟨rfl, ?_, ?_⟩, fun e he => ?_, fun id hid => ?_⟩
      · exact congrArg List.length hnil
      · show Spotless ((analyze config p sink).program.complaints w.symbols)
        rw [List.map_eq_nil_iff.1 hcomplaints]
        exact spotless_nil
      · have hty : ∃ ty, e.ty? = some ty := by
          rw [program, Program.exprs_decorate] at he
          obtain ⟨x, -, rfl⟩ := List.mem_map.1 he
          exact x.ty?_decorate w.symbols
        obtain ⟨ty, hty⟩ := hty
        refine ⟨ty, hty, ?_⟩
        rintro rfl
        exact not_caused_nil (herrors e he hty)
      · obtain ⟨e, he, hident⟩ := List.mem_filterMap.1 hid
        exact (hunbound e he).bound hident

/-- A call of a function whose return type is not the name of a struct. -/
def invalidReturn : Program where
  decls := [
    .fn
      { ret := .struct (.unbound "Missing" { line := 1, column := 8 })
        id := .unbound "f" { line := 1, column := 16 }
        formals := []
        body := .mk [] [.ret (some (.literal (.int 1) { line := 1, column := 29 })) .nowhere] },
    .fn
      { ret := .void
        id := .unbound "main" { line := 2, column := 6 }
        formals := []
        body := .mk [] [.simple .call (.apply (.unbound "f" { line := 2, column := 15 }) [])] }]

/-- Nothing is reported at the call, and its type is an error all the same: the return type of the
function was reported. -/
theorem cause_of_invalidReturn : invalidReturn.Fresh ∧
    ∃ e ∈ (analyze .standard invalidReturn {}).program.exprs, e.ty? = some .error ∧
      ¬ e.ReportedIn (reports (analyze .standard invalidReturn {}).log.toList) ∧
      e.CallsInvalid (analyze .standard invalidReturn {}).program
        (reports (analyze .standard invalidReturn {}).log.toList) := by
  have hfresh : invalidReturn.Fresh := ⟨⟨by decide, by decide, by decide⟩, by decide⟩
  have hsilent : (analyze .standard invalidReturn {}).program.exprs.any (fun e =>
      e.ty?.any Ty.isError && !decide (e.ReportedIn
        (reports (analyze .standard invalidReturn {}).log.toList))) = true := by
    decide +kernel
  have hchecks : (analyze .standard invalidReturn {}).result.toOption.any (·.typeChecked) =
      true := by
    decide +kernel
  obtain ⟨a, hok, hchecked⟩ := exists_of_any hchecks
  obtain ⟨a', hok', hjustified⟩ := errors_have_reported_causes .standard hfresh {}
  obtain rfl := Except.ok.inj (hok.symm.trans hok')
  obtain ⟨e, he, hsilent⟩ := List.any_eq_true.1 hsilent
  simp only [Bool.and_eq_true, Option.any_eq_true, Bool.not_eq_true', decide_eq_false_iff_not]
    at hsilent
  obtain ⟨⟨ty, hty, herror⟩, hsilent⟩ := hsilent
  obtain rfl := Ty.isError_iff.1 herror
  exact ⟨hfresh, e, he, hty, hsilent, (hjustified.errors hchecked e he hty).resolve_left hsilent⟩

end StructLang
