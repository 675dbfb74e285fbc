import Mathlib.Data.List.Forall2
import Mathlib.Tactic.Common
import StructLang.Proofs.Filling
import StructLang.Proofs.Readiness
import StructLang.Proofs.Verdict

/-!
# Losing a binding

An identifier that is bound to nothing has the type `Ty.error`, and every rule excuses an error
that it looks at.  So when bindings are taken out of a tree, types only fade: each stays what it was
or becomes an error.  Verdicts fade along with them, accepted or rejected ones becoming excused, and
what is reported of the tree with fewer bindings is part of what is reported of the other.

* `Ty.Fades`, `Verdict.Fades` — the order in which an error, or an excuse, lies below everything.
* `Expr.Varies.judged_fades` — the rules respect that order, in all operands at once.
* `unbinding_adds_no_report` — two runs of type checking, with and without the bindings.
-/

namespace StructLang

/-! ## Types and verdicts that fade -/

/-- The type stays, or becomes an error. -/
def Ty.Fades (ty ty' : Ty) : Prop := ty' = ty ∨ ty' = .error

/-- The verdict stays, or becomes an excuse. -/
def Verdict.Fades (v v' : Verdict) : Prop := v' = v ∨ v' = .excused

lemma Ty.Fades.refl (ty : Ty) : ty.Fades ty := Or.inl rfl

lemma Ty.Fades.to_error (ty : Ty) : ty.Fades .error := Or.inr rfl

namespace Verdict

variable {v v' : Verdict}

lemma Fades.refl (v : Verdict) : v.Fades v := Or.inl rfl

lemma Fades.accepted (h : v.Fades v') (haccepted : v'.isAccepted = true) : v.isAccepted = true := by
  obtain rfl | rfl := h
  · exact haccepted
  · cases haccepted

lemma Fades.findings (h : v.Fades v') {loc loc' : Location} (hloc : loc' = loc) :
    (v'.findings loc').Sublist (v.findings loc) := by
  subst hloc
  obtain rfl | rfl := h
  · exact .refl _
  · exact List.nil_sublist _

lemma Fades.grant (h : v.Fades v') {ty ty' : Ty} (hty : ty.Fades ty') :
    (v.grant ty).Fades (v'.grant ty') := by
  obtain rfl | rfl := h
  · unfold Verdict.grant
    split
    · exact hty
    · exact .refl _
  · exact Or.inr rfl

lemma Fades.both (h : v.Fades v') {w w' : Verdict} (hw : w.Fades w') (ty : Ty) :
    Ty.Fades (if v.isAccepted && w.isAccepted then ty else .error)
      (if v'.isAccepted && w'.isAccepted then ty else .error) := by
  split_ifs with hfirst hsecond hsecond
  · exact .refl _
  · exact .to_error _
  · rw [Bool.and_eq_true] at hfirst hsecond
    exact absurd ⟨h.accepted hsecond.1, hw.accepted hsecond.2⟩ hfirst
  · exact .refl _

/-- A rule about one type fades with it if it excuses an error. -/
lemma fades_one (rule : Ty → Verdict) (h : rule .error = .excused) {a a' : Ty} (ha : a.Fades a') :
    (rule a).Fades (rule a') := by
  obtain rfl | rfl := ha
  · exact .refl _
  · exact Or.inr h

/-- A rule about two types fades with both if it excuses an error on either side. -/
lemma fades_two {rule : Ty → Ty → Verdict} (left : ∀ b, rule .error b = .excused)
    (right : ∀ a, rule a .error = .excused) {a a' b b' : Ty} (ha : a.Fades a') (hb : b.Fades b') :
    (rule a b).Fades (rule a' b') := by
  obtain rfl | rfl := ha
  · exact fades_one (rule _) (right _) hb
  · exact Or.inr (left _)

end Verdict

section

variable {a a' b b' : Ty}

lemma OperandRule.judge_fades (rule : OperandRule) (h : a.Fades a') :
    (rule.judge a).Fades (rule.judge a') :=
  Verdict.fades_one rule.judge ((rule.judge_excused_iff .error).2 rfl) h

lemma assignRule_fades (ha : a.Fades a') (hb : b.Fades b') :
    (assignRule a b).Fades (assignRule a' b') :=
  Verdict.fades_two (fun b => (assignRule_excused_iff .error b).2 (Or.inl rfl))
    (fun a => (assignRule_excused_iff a .error).2 (Or.inr rfl)) ha hb

lemma equalityRule_fades (ha : a.Fades a') (hb : b.Fades b') :
    (equalityRule a b).Fades (equalityRule a' b') :=
  Verdict.fades_two (fun b => (equalityRule_excused_iff .error b).2 (Or.inl rfl))
    (fun a => (equalityRule_excused_iff a .error).2 (Or.inr rfl)) ha hb

lemma argRule_fades (ha : a.Fades a') (formal : Ty) :
    (argRule a formal).Fades (argRule a' formal) :=
  Verdict.fades_one (argRule · formal) rfl ha

lemma calleeRule_fades (ha : a.Fades a') : (calleeRule a).Fades (calleeRule a') :=
  Verdict.fades_one calleeRule rfl ha

lemma Verb.judge_fades (verb : Verb) (ha : a.Fades a') : (verb.judge a).Fades (verb.judge a') :=
  Verdict.fades_one verb.judge ((verb.judge_excused_iff .error).2 rfl) ha

/-- A function that loses its return type excuses every value; one that keeps it excuses an error,
unless it returns nothing and rejects all values alike. -/
lemma returnRule_some_fades {ret ret' : Ty} (hret : ret.Fades ret') (ha : a.Fades a') :
    (returnRule ret (some a)).Fades (returnRule ret' (some a')) := by
  obtain rfl | rfl := hret
  · obtain rfl | rfl := ha
    · exact .refl _
    · cases hvoid : ret'.isVoid with
      | true => simp only [returnRule, hvoid, if_true]; exact .refl _
      | false => exact Or.inr (by simp [returnRule, hvoid, Ty.isError])
  · exact Or.inr (by simp [returnRule, Ty.isVoid, Ty.isError])

lemma returnRule_none_fades {ret ret' : Ty} (hret : ret.Fades ret') :
    (returnRule ret none).Fades (returnRule ret' none) :=
  Verdict.fades_one (returnRule · none) rfl hret

end

/-! ## Trees with fewer bindings -/

/-- The identifier is left alone, or its slot is emptied. -/
def Ident.Unbinds (id id' : Ident) : Prop := id' = id ∨ id' = id.bare

/-- The struct name in the type, if there is one, is left alone or its slot is emptied. -/
def TypeName.Unbinds (ty ty' : TypeName) : Prop := ty' = ty ∨ ty' = ty.bare

/-- Any of the identifiers that are used, and of the struct names in return types, lose their
bindings. -/
def Variation.unbinding : Variation where
  use := Ident.Unbinds
  flag failed failed' := failed' = failed
  note n n' := n' = n
  var d d' := d' = d
  head id id' := id' = id
  ret := TypeName.Unbinds

/-- The slot for the type is empty in both notes, or the type in it fades. -/
structure Note.Fades (n n' : Note) : Prop where
  loc : n'.loc = n.loc
  ty : Option.Rel Ty.Fades n.ty.content n'.ty.content

/-- Identifiers lose their bindings, and types fade. -/
def Variation.fading : Variation := { Variation.unbinding with note := Note.Fades }

lemma Note.Fades.refl (n : Note) : n.Fades n := by
  refine ⟨rfl, ?_⟩
  cases n.ty.content with
  | none => exact .none
  | some ty => exact .some (.refl ty)

lemma Ident.Unbinds.loc_eq {id id' : Ident} (h : id.Unbinds id') : id'.loc = id.loc := by
  obtain rfl | rfl := h <;> rfl

lemma TypeName.Unbinds.returned {ty ty' : TypeName} (h : ty.Unbinds ty') :
    ty.returned.Fades ty'.returned := by
  obtain rfl | rfl := h
  · exact .refl _
  · cases ty with
    | struct name => exact .to_error _
    | _ => exact .refl _

variable {A : Arena}

lemma Ident.Unbinds.typeIn {id id' : Ident} (h : id.Unbinds id') :
    (id.typeIn A).Fades (id'.typeIn A) := by
  obtain rfl | rfl := h
  · exact .refl _
  · exact .to_error _

lemma Expr.Varies.loc_eq {e e' : Expr} (h : e.Varies .fading e') : e'.loc = e.loc :=
  h.notes.loc

lemma Expr.Varies.ty_fades {e e' : Expr} (h : e.Varies .fading e') : e.ty.Fades e'.ty := by
  have hty : Option.Rel Ty.Fades e.ty? e'.ty? := h.notes.ty
  unfold Expr.ty
  generalize e.ty? = ty, e'.ty? = ty' at hty
  cases hty with
  | none => exact .refl _
  | some hfades => exact hfades

/-! ## Rules about expressions -/

/-- What is reported of arguments whose types fade is part of what was reported. -/
lemma argFindings_sublist {args : List Expr} : ∀ {args' : List Expr} (params : List Ty),
    Expr.VariesAll .fading args args' →
      (argFindings args' params).Sublist (argFindings args params) := by
  induction args with
  | nil =>
      intro args' params h
      cases h
      exact .refl _
  | cons e es ih =>
      intro args' params h
      cases h with
      | cons first rest =>
          cases params with
          | nil => exact .refl _
          | cons formal params =>
              exact ((argRule_fades first.ty_fades formal).findings first.loc_eq).append
                (ih params rest)

lemma Expr.VariesAll.length_eq {V : Variation} {es es' : List Expr} (h : Expr.VariesAll V es es') :
    es'.length = es.length := by
  induction es generalizing es' with
  | nil =>
      cases h
      rfl
  | cons e es ih =>
      cases h with
      | cons first rest => rw [List.length_cons, List.length_cons, ih rest]

/-- The type fades, and no more is reported. -/
structure Fade (r r' : Ty × List Finding) : Prop where
  ty : r.1.Fades r'.1
  findings : r'.2.Sublist r.2

lemma judgeCall_fades {callee callee' : Ident} (hloc : callee'.loc = callee.loc) {ty ty' : Ty}
    (hty : ty.Fades ty') {args args' : List Expr} (hargs : Expr.VariesAll .fading args args') :
    Fade (judgeCall callee ty args) (judgeCall callee' ty' args') := by
  obtain rfl | rfl := hty
  · cases ty' with
    | fn params ret =>
        refine ⟨.refl _, ?_⟩
        unfold judgeCall
        dsimp only
        rw [hargs.length_eq, hloc]
        split
        · exact argFindings_sublist params hargs
        · exact .refl _
    | _ => exact ⟨.refl _, .refl _⟩
  · exact ⟨.to_error _, List.nil_sublist _⟩

/-- Operands that are judged each by itself, as all but those of an equality are. -/
lemma judgeBinary_fades (op : BinaryOp) {left left' right right' : Expr}
    (hl : left.Varies .fading left') (hr : right.Varies .fading right') :
    Fade (judgeBinary op left right) (judgeBinary op left' right') := by
  have hoperands : ∀ rule : OperandRule, Fade
      (if (rule.judge left.ty).isAccepted && (rule.judge right.ty).isAccepted then rule.result
        else .error, (rule.judge left.ty).findings left.loc ++
          (rule.judge right.ty).findings right.loc)
      (if (rule.judge left'.ty).isAccepted && (rule.judge right'.ty).isAccepted then rule.result
        else .error, (rule.judge left'.ty).findings left'.loc ++
          (rule.judge right'.ty).findings right'.loc) := by
    intro rule
    have hleft := rule.judge_fades hl.ty_fades
    have hright := rule.judge_fades hr.ty_fades
    exact ⟨hleft.both hright rule.result,
      (hleft.findings hl.loc_eq).append (hright.findings hr.loc_eq)⟩
  unfold judgeBinary
  cases op.family with
  | equality =>
      have hrule := equalityRule_fades hl.ty_fades hr.ty_fades
      exact ⟨hrule.grant (.refl _), hrule.findings hl.loc_eq⟩
  | arithmetic => exact hoperands .arithmetic
  | logical => exact hoperands .logical
  | relational => exact hoperands .relational

/-- **The rules about expressions fade with their operands**, all at once. -/
theorem Expr.Varies.judged_fades {e e' : Expr} (h : e.Varies .fading e') :
    Fade (e.judged A) (e'.judged A) := by
  cases h with
  | lit value note => exact ⟨.refl _, .refl _⟩
  | name use note =>
      rw [Expr.judged_name, Expr.judged_name]
      exact ⟨use.typeIn, .refl _⟩
  | dot inner use flag note =>
      rw [Expr.judged_dot, Expr.judged_dot]
      exact ⟨use.typeIn, .refl _⟩
  | assign left right note =>
      have hrule := assignRule_fades left.ty_fades right.ty_fades
      exact ⟨hrule.grant left.ty_fades, hrule.findings left.loc_eq⟩
  | call use all note =>
      rw [Expr.judged_call, Expr.judged_call]
      exact judgeCall_fades use.loc_eq use.typeIn all
  | unary op inner note =>
      have hrule := op.rule.judge_fades inner.ty_fades
      exact ⟨hrule.grant (.refl _), hrule.findings inner.loc_eq⟩
  | binary op first second note => exact judgeBinary_fades op first second

/-! ## Decorated trees -/

/-- An expression whose parts fade is given a type that fades. -/
lemma Expr.Varies.settled {e e' : Expr} (h : e.Varies .fading e') :
    (e.settled A).Varies .fading (e'.settled A) :=
  h.withNote ⟨h.loc_eq, .some h.judged_fades.ty⟩

mutual

theorem Expr.Varies.decorate : ∀ {e e' : Expr}, e.Varies .unbinding e' →
    (e.decorate A).Varies .fading (e'.decorate A)
  | _, _, .lit value note => Expr.Varies.settled (.lit value (note ▸ .refl _))
  | _, _, .name use note => Expr.Varies.settled (.name use (note ▸ .refl _))
  | _, _, .dot inner use flag note =>
      Expr.Varies.settled (.dot inner.decorate use flag (note ▸ .refl _))
  | _, _, .assign left right note =>
      Expr.Varies.settled (.assign left.decorate right.decorate (note ▸ .refl _))
  | _, _, .call use all note =>
      Expr.Varies.settled (.call use all.decorateAll (note ▸ .refl _))
  | _, _, .unary op inner note =>
      Expr.Varies.settled (.unary op inner.decorate (note ▸ .refl _))
  | _, _, .binary op first second note =>
      Expr.Varies.settled (.binary op first.decorate second.decorate (note ▸ .refl _))

theorem Expr.VariesAll.decorateAll : ∀ {es es' : List Expr}, Expr.VariesAll .unbinding es es' →
    Expr.VariesAll .fading (Expr.decorateAll A es) (Expr.decorateAll A es')
  | _, _, .nil => .nil
  | _, _, .cons first rest => .cons first.decorate rest.decorateAll

end

mutual

theorem Block.Varies.decorate : ∀ {b b' : Block}, b.Varies .unbinding b' →
    (b.decorate A).Varies .fading (b'.decorate A)
  | _, _, .mk decls stmts => .mk decls stmts.decorateAll

theorem Stmt.Varies.decorate : ∀ {s s' : Stmt}, s.Varies .unbinding s' →
    (s.decorate A).Varies .fading (s'.decorate A)
  | _, _, .simple verb expr => .simple verb expr.decorate
  | _, _, .guarded guard expr branch => .guarded guard expr.decorate branch.decorate
  | _, _, .ifElse expr first second => .ifElse expr.decorate first.decorate second.decorate
  | _, _, .leave loc => .leave loc
  | _, _, .ret loc expr => .ret loc expr.decorate

theorem Stmt.VariesAll.decorateAll : ∀ {ss ss' : List Stmt}, Stmt.VariesAll .unbinding ss ss' →
    Stmt.VariesAll .fading (Stmt.decorateAll A ss) (Stmt.decorateAll A ss')
  | _, _, .nil => .nil
  | _, _, .cons first rest => .cons first.decorate rest.decorateAll

end

lemma Decl.Varies.decorate {d d' : Decl} (h : d.Varies .unbinding d') :
    (d.decorate A).Varies .fading (d'.decorate A) := by
  cases h with
  | var decl => exact .var decl
  | fn ret head params body => exact .fn ret head params body.decorate
  | struct head fields => exact .struct head fields

lemma Program.Varies.decorate {p q : Program} (h : p.Varies .unbinding q) :
    (p.decorate A).Varies .fading (q.decorate A) := by
  show List.Forall₂ _ (p.decls.map _) (q.decls.map _)
  rw [List.forall₂_map_left_iff, List.forall₂_map_right_iff]
  exact h.imp fun _ _ => Decl.Varies.decorate

/-! ## What is said about them -/

mutual

theorem Expr.Varies.complaints (b : Bool) : ∀ {e e' : Expr}, e.Varies .fading e' →
    (e'.complaints A b).Sublist (e.complaints A b)
  | _, _, .lit _ _ => .refl _
  | _, _, .name _ _ => .refl _
  | _, _, .dot inner _ _ _ => inner.complaints b
  | _, _, .assign left right note =>
      ((left.complaints b).append (right.complaints b)).append
        ((Expr.Varies.assign left right note).judged_fades.findings.map _)
  | _, _, .call use all note =>
      ((((calleeRule_fades use.typeIn).findings use.loc_eq).map _).append
        all.complaintsOfAll).append ((Expr.Varies.call use all note).judged_fades.findings.map _)
  | _, _, .unary op inner note =>
      (inner.complaints b).append ((Expr.Varies.unary op inner note).judged_fades.findings.map _)
  | _, _, .binary op first second note =>
      ((first.complaints b).append (second.complaints b)).append
        ((Expr.Varies.binary op first second note).judged_fades.findings.map _)

theorem Expr.VariesAll.complaintsOfAll : ∀ {es es' : List Expr}, Expr.VariesAll .fading es es' →
    (Expr.complaintsOfAll A es').Sublist (Expr.complaintsOfAll A es)
  | _, _, .nil => .refl _
  | _, _, .cons first rest => (first.complaints true).append rest.complaintsOfAll

end

/-- Two statements say the same of expressions that fade, or the second one excuses it. -/
structure Judgement.Fades (A : Arena) (j j' : Judgement) : Prop where
  complaints : (j'.complaints A).Sublist (j.complaints A)
  verdict : j.verdict.Fades j'.verdict

/-- The judgements on two expressions. -/
lemma Judgement.Fades.of_expr {e e' : Expr} (h : e.Varies .fading e') {v v' : Verdict}
    (hv : v.Fades v') : Judgement.Fades A ⟨some e, e.loc, v⟩ ⟨some e', e'.loc, v'⟩ :=
  ⟨(h.complaints false).append ((hv.findings h.loc_eq).map _), hv⟩

mutual

theorem Block.Varies.judgements {ret ret' : Ty} (hret : ret.Fades ret') : ∀ {b b' : Block},
    b.Varies .fading b' →
      List.Forall₂ (Judgement.Fades A) (b.judgements ret) (b'.judgements ret')
  | _, _, .mk _ stmts => stmts.judgementsOfAll hret

theorem Stmt.Varies.judgements {ret ret' : Ty} (hret : ret.Fades ret') : ∀ {s s' : Stmt},
    s.Varies .fading s' →
      List.Forall₂ (Judgement.Fades A) (s.judgements ret) (s'.judgements ret')
  | _, _, .simple verb expr => .cons (.of_expr expr (verb.judge_fades expr.ty_fades)) .nil
  | _, _, .guarded guard expr branch =>
      .cons (.of_expr expr (guard.rule.judge_fades expr.ty_fades)) (branch.judgements hret)
  | _, _, .ifElse expr first second =>
      .cons (.of_expr expr (Guard.branch.rule.judge_fades expr.ty_fades))
        (List.rel_append (first.judgements hret) (second.judgements hret))
  | _, _, .leave loc =>
      have hv := returnRule_none_fades hret
      .cons ⟨(hv.findings rfl).map _, hv⟩ .nil
  | _, _, .ret loc expr => .cons (.of_expr expr (returnRule_some_fades hret expr.ty_fades)) .nil

theorem Stmt.VariesAll.judgementsOfAll {ret ret' : Ty} (hret : ret.Fades ret') :
    ∀ {ss ss' : List Stmt}, Stmt.VariesAll .fading ss ss' →
      List.Forall₂ (Judgement.Fades A) (Stmt.judgementsOfAll ret ss)
        (Stmt.judgementsOfAll ret' ss')
  | _, _, .nil => .nil
  | _, _, .cons first rest => List.rel_append (first.judgements hret) (rest.judgementsOfAll hret)

end

lemma Decl.Varies.judgements {d d' : Decl} (h : d.Varies .fading d') :
    List.Forall₂ (Judgement.Fades A) d.judgements d'.judgements := by
  cases h with
  | fn ret head params body => exact body.judgements (TypeName.Unbinds.returned ret)
  | _ => exact .nil

lemma Program.Varies.judgements {p q : Program} (h : p.Varies .fading q) :
    List.Forall₂ (Judgement.Fades A) p.judgements q.judgements :=
  List.rel_flatMap h fun _ _ => Decl.Varies.judgements

/-- Lists made of sublists are sublists. -/
lemma sublist_flatMap {α β : Type} {R : α → α → Prop} {f : α → List β} {as bs : List α}
    (h : List.Forall₂ R as bs) (hf : ∀ a b, R a b → (f b).Sublist (f a)) :
    (bs.flatMap f).Sublist (as.flatMap f) := by
  induction h with
  | nil => exact .refl _
  | cons first rest ih => exact (hf _ _ first).append ih

/-- If everything is accepted in the second list, it is in the first one. -/
lemma accepted_of_forall₂ {js js' : List Judgement} (h : List.Forall₂ (Judgement.Fades A) js js')
    (haccepted : (js'.all fun j => j.verdict.isAccepted) = true) :
    (js.all fun j => j.verdict.isAccepted) = true := by
  induction h with
  | nil => rfl
  | cons first rest ih =>
      rw [List.all_cons, Bool.and_eq_true] at haccepted ⊢
      exact ⟨first.verdict.accepted haccepted.1, ih haccepted.2⟩

/-! ## Runs -/

/-- A tree that loses bindings stays ready for type checking. -/
lemma Program.Varies.ready {p q : Program} (h : p.Varies .unbinding q)
    (hready : AllReady A p.exprs) : AllReady A q.exprs := by
  have hexprs := h.exprs
  generalize p.exprs = es, q.exprs = es' at hexprs hready
  induction hexprs with
  | nil => exact hready
  | @cons e e' _ _ first rest ih =>
      rw [allReady_cons] at hready ⊢
      refine ⟨⟨?_, fun id' hid' k hk => ?_⟩, ih hready.2⟩
      · rw [Expr.ty?, show e'.note = e.note from first.notes]
        exact hready.1.empty
      · have hident := first.ident
        rw [hid'] at hident
        cases hid : e.ident? with
        | none => rw [hid] at hident; cases hident
        | some id =>
            rw [hid] at hident
            cases hident with
            | some hunbinds =>
                obtain rfl | rfl := hunbinds
                · exact hready.1.known id' hid k hk
                · cases hk

/-- The types in trees that fade, where there are any. -/
lemma Program.Varies.types {p q : Program} (h : (p.decorate A).Varies .fading (q.decorate A)) :
    List.Forall₂ (fun e e' => ∃ ty, e.ty? = some ty ∧ (e'.ty? = some ty ∨ e'.ty? = some .error))
      (p.decorate A).exprs (q.decorate A).exprs := by
  have hexprs := h.exprs
  rw [Program.exprs_decorate, Program.exprs_decorate, List.forall₂_map_left_iff,
    List.forall₂_map_right_iff] at hexprs ⊢
  refine hexprs.imp fun e e' hvaries => ?_
  obtain ⟨ty, hty⟩ := e.ty?_decorate A
  have hnotes : Option.Rel Ty.Fades (e.decorate A).ty? (e'.decorate A).ty? := hvaries.notes.ty
  rw [hty] at hnotes
  cases hty' : (e'.decorate A).ty? with
  | none => rw [hty'] at hnotes; cases hnotes
  | some ty' =>
      rw [hty'] at hnotes
      cases hnotes with
      | some hfades => exact ⟨ty, hty, hfades.imp (congrArg some) (congrArg some)⟩

/-- **Losing a binding never adds a report.**  If type checking comes to its end on a tree, and any
bindings of used identifiers and of struct names in return types are taken out of the tree, then
it comes to its end again, reports a subsequence of what it reported, leaves every type as it was or
makes an error of it, and accepts the program only if it did so before. -/
theorem unbinding_adds_no_report {p q : Program} (h : p.Varies .unbinding q) {s : Run Bool}
    (live : ((checkProgram A p).run s).2.halted = none) (s' : Run Bool) :
    ((checkProgram A q).run s').2.halted = none ∧
    (∃ fs gs : List Finding, gs.Sublist fs ∧ s.Reported ((checkProgram A p).run s).2 fs ∧
      s'.Reported ((checkProgram A q).run s').2 gs) ∧
    List.Forall₂ (fun e e' => ∃ ty, e.ty? = some ty ∧ (e'.ty? = some ty ∨ e'.ty? = some .error))
      ((checkProgram A p).run s).1.exprs ((checkProgram A q).run s').1.exprs ∧
    (((checkProgram A q).run s').2.work = true → ((checkProgram A p).run s).2.work = true) := by
  have hready := checkProgram_goes_on_iff.1 live
  have hready' := h.ready hready
  have hfading := h.decorate (A := A)
  obtain ⟨htree, hreported, hverdict, -⟩ := checkProgram_reported hready s
  obtain ⟨htree', hreported', hverdict', -⟩ := checkProgram_reported hready' s'
  have hjudgements := hfading.judgements (A := A)
  refine ⟨checkProgram_goes_on_iff.2 hready', ⟨_, _, ?_, hreported, hreported'⟩, ?_, ?_⟩
  · exact (sublist_flatMap hjudgements fun _ _ hj => hj.complaints).map _
  · rw [htree, htree']
    exact hfading.types
  · rw [hverdict, hverdict']
    exact accepted_of_forall₂ hjudgements

/-- A variable and a struct without fields. -/
def variableAndStruct : Arena where
  symbols := #[{ name := "x", kind := .var .int }, { name := "S", kind := .structDef .withScope }]
  numbered := Nat.le_of_ble_eq_true rfl

/-- A function that puts a truth value into `x`, and returns `x` where a struct is due. -/
def mismatches (x ret : Slot "binding" SymbolId) : Program where
  decls := [.fn
    { ret := .struct { name := "S", loc := .nowhere, binding := ret }
      id := .unbound "f" .nowhere
      formals := []
      body := .mk []
        [.simple .assign (.set (.use { name := "x", loc := .nowhere, binding := x })
          (.literal (.bool true) .nowhere)),
        .ret (some (.use { name := "x", loc := .nowhere, binding := { content := some ⟨0⟩ } }))
          .nowhere] }]

/-- Two reports go away with two bindings, and the verdict stays negative. -/
theorem unbinding_of_mismatches :
    let bound := mismatches { content := some ⟨0⟩ } { content := some ⟨1⟩ }
    let start : Run Bool := { work := true, sink := {} }
    let first := (checkProgram variableAndStruct bound).run start
    let second := (checkProgram variableAndStruct (mismatches {} {})).run start
    bound.Varies .unbinding (mismatches {} {}) ∧ first.2.halted = none ∧
      second.2.halted = none ∧
      (∃ fs gs : List Finding, gs.Sublist fs ∧ start.Reported first.2 fs ∧
        start.Reported second.2 gs) ∧ first.2.errors = 2 ∧ second.2.errors = 0 := by
  intro bound start first second
  have hvaries : bound.Varies .unbinding (mismatches {} {}) :=
    .cons (.fn (Or.inr rfl) rfl .nil (.mk .nil
      (.cons (.simple .assign (.assign (.name (Or.inr rfl) rfl) (.lit (.bool true) rfl) rfl))
        (.cons (.ret .nowhere (.name (Or.inl rfl) rfl)) .nil)))) .nil
  have live : first.2.halted = none := rfl
  have hunbinding := unbinding_adds_no_report hvaries live start
  exact ⟨hvaries, live, hunbinding.1, hunbinding.2.1, rfl, rfl⟩

end StructLang
