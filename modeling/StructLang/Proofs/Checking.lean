import Mathlib.Tactic.Common
import StructLang.Proofs.Outcome
import StructLang.Tree.Walk
import StructLang.Typing.Check

/-!
# What type checking does

Type checking without the run around it: the tree that it leaves, and what it says about that tree.

* `Expr.decorate`, `Block.decorate`, … — every expression with its type in its slot.
* `Expr.complaints` — what is wrong in a decorated expression, in the order in which it is said.  A
  complaint knows whether it is about the arguments of a call: it lies inside one, or is about their
  number or types.  Nothing else that is wrong leaves the type of the expression standing.
* `Block.judgements` — what the statements of a block say of their expressions.

Those are facts about a tree.  The pass computes them whenever it has empty slots to fill and
handles with symbols behind them (`Expr.Ready`); this is `checkProgram_run`.
-/

namespace StructLang

/-! ## Decorated trees -/

/-- The type that the identifier has, and an error if it has none. -/
def Ident.typeIn (A : Arena) (id : Ident) : Ty :=
  match id.tyIn A with
  | .ok ty => ty
  | .error _ => .error

lemma Ident.typeIn_eq {A : Arena} {id : Ident} {k : SymbolId} {ty : Ty}
    (hk : id.symbol? = some k) (ht : A.typeOf k = .ok ty) : id.typeIn A = ty := by
  simp only [typeIn, tyIn, hk, ht]

/-- The type of an expression whose parts have theirs, and what is wrong with it. -/
def Expr.judged (A : Arena) (e : Expr) : Ty × List Finding :=
  match e.judge A with
  | .ok r => r
  | .error _ => (.error, [])

lemma Expr.judged_name (A : Arena) (id : Ident) (note : Note) :
    (Expr.name id note).judged A = (id.typeIn A, []) := by
  simp only [judged, judge, Ident.typeIn]
  cases id.tyIn A <;> rfl

lemma Expr.judged_dot (A : Arena) (base : Expr) (field : Ident) (failed : Bool) (note : Note) :
    (Expr.dot base field failed note).judged A = (field.typeIn A, []) := by
  simp only [judged, judge, Ident.typeIn]
  cases field.tyIn A <;> rfl

lemma Expr.judged_call (A : Arena) (callee : Ident) (args : List Expr) (note : Note) :
    (Expr.call callee args note).judged A = judgeCall callee (callee.typeIn A) args := by
  simp only [judged, judge, Ident.typeIn]
  cases callee.tyIn A <;> rfl

/-- The expression with its type in its slot. -/
def Expr.settled (A : Arena) (e : Expr) : Expr :=
  e.withNote { e.note with ty := { content := some (e.judged A).1 } }

mutual

/-- The expression with the types of all its parts, and its own. -/
def Expr.decorate (A : Arena) : Expr → Expr
  | .lit value note => (Expr.lit value note).settled A
  | .name id note => (Expr.name id note).settled A
  | .dot base field failed note => (Expr.dot (base.decorate A) field failed note).settled A
  | .assign target value note =>
    (Expr.assign (target.decorate A) (value.decorate A) note).settled A
  | .call callee args note => (Expr.call callee (Expr.decorateAll A args) note).settled A
  | .unary op operand note => (Expr.unary op (operand.decorate A) note).settled A
  | .binary op left right note =>
    (Expr.binary op (left.decorate A) (right.decorate A) note).settled A

/-- The expressions of a list, decorated. -/
def Expr.decorateAll (A : Arena) : List Expr → List Expr
  | [] => []
  | e :: es => e.decorate A :: Expr.decorateAll A es

end

mutual

/-- The block with types in all its expressions. -/
def Block.decorate (A : Arena) : Block → Block
  | .mk decls stmts => .mk decls (Stmt.decorateAll A stmts)

/-- The statement with types in all its expressions. -/
def Stmt.decorate (A : Arena) : Stmt → Stmt
  | .simple verb e => .simple verb (e.decorate A)
  | .guarded guard cond body => .guarded guard (cond.decorate A) (body.decorate A)
  | .ifElse cond yes no => .ifElse (cond.decorate A) (yes.decorate A) (no.decorate A)
  | .ret none loc => .ret none loc
  | .ret (some value) loc => .ret (some (value.decorate A)) loc

/-- The statements of a list, decorated. -/
def Stmt.decorateAll (A : Arena) : List Stmt → List Stmt
  | [] => []
  | s :: ss => s.decorate A :: Stmt.decorateAll A ss

end

/-- The declaration with types in all its expressions. -/
def Decl.decorate (A : Arena) : Decl → Decl
  | .fn f => .fn { f with body := f.body.decorate A }
  | d => d

/-- The program with types in all its expressions. -/
def Program.decorate (A : Arena) (p : Program) : Program := { decls := p.decls.map (·.decorate A) }

/-! ### Flat views

The expressions of a decorated tree are those of the tree, decorated.
-/

section

variable (A : Arena)

lemma Expr.ty?_decorate (e : Expr) : ∃ ty, (e.decorate A).ty? = some ty := by
  cases e <;> exact ⟨_, rfl⟩

@[simp] lemma Expr.ident?_decorate (e : Expr) : (e.decorate A).ident? = e.ident? := by
  cases e <;> rfl

mutual

theorem Expr.exprs_decorate : ∀ e : Expr, (e.decorate A).exprs = e.exprs.map (·.decorate A)
  | .lit _ _ => rfl
  | .name _ _ => rfl
  | .dot base _ _ _ => congrArg (List.cons _) base.exprs_decorate
  | .assign target value _ => by
      simp only [decorate, settled, withNote, exprs, target.exprs_decorate, value.exprs_decorate,
        List.map_cons, List.map_append]
  | .call _ args _ => congrArg (List.cons _) (Expr.exprsOfAll_decorateAll args)
  | .unary _ operand _ => congrArg (List.cons _) operand.exprs_decorate
  | .binary _ left right _ => by
      simp only [decorate, settled, withNote, exprs, left.exprs_decorate, right.exprs_decorate,
        List.map_cons, List.map_append]

theorem Expr.exprsOfAll_decorateAll : ∀ es : List Expr,
    Expr.exprsOfAll (Expr.decorateAll A es) = (Expr.exprsOfAll es).map (·.decorate A)
  | [] => rfl
  | e :: es => by
      rw [Expr.decorateAll, Expr.exprsOfAll, Expr.exprsOfAll, List.map_append, e.exprs_decorate,
        Expr.exprsOfAll_decorateAll es]

end

mutual

theorem Block.exprs_decorate : ∀ b : Block, (b.decorate A).exprs = b.exprs.map (·.decorate A)
  | .mk _ stmts => Stmt.exprsOfAll_decorateAll stmts

theorem Stmt.exprs_decorate : ∀ s : Stmt, (s.decorate A).exprs = s.exprs.map (·.decorate A)
  | .simple _ e => e.exprs_decorate A
  | .guarded _ cond body => by
      rw [Stmt.decorate, Stmt.exprs, Stmt.exprs, List.map_append, cond.exprs_decorate,
        body.exprs_decorate]
  | .ifElse cond yes no => by
      rw [Stmt.decorate, Stmt.exprs, Stmt.exprs, List.map_append, List.map_append,
        cond.exprs_decorate, yes.exprs_decorate, no.exprs_decorate]
  | .ret none _ => rfl
  | .ret (some value) _ => value.exprs_decorate A

theorem Stmt.exprsOfAll_decorateAll : ∀ ss : List Stmt,
    Stmt.exprsOfAll (Stmt.decorateAll A ss) = (Stmt.exprsOfAll ss).map (·.decorate A)
  | [] => rfl
  | s :: ss => by
      rw [Stmt.decorateAll, Stmt.exprsOfAll, Stmt.exprsOfAll, List.map_append, s.exprs_decorate,
        Stmt.exprsOfAll_decorateAll ss]

end

lemma Decl.exprs_decorate (d : Decl) : (d.decorate A).exprs = d.exprs.map (·.decorate A) := by
  cases d with
  | fn f => exact f.body.exprs_decorate A
  | _ => rfl

theorem Program.exprs_decorate (p : Program) :
    (p.decorate A).exprs = p.exprs.map (·.decorate A) := by
  simp only [exprs, decorate, List.flatMap_map, List.map_flatMap, Decl.exprs_decorate]

end

/-! ## What is said about them -/

/-- Something that is reported. -/
structure Complaint where
  finding : Finding
  /-- It lies inside an argument of a call, or is about the arguments of a call. -/
  inArgument : Bool
  deriving DecidableEq

/-- The findings as complaints. -/
def blame (inArgument : Bool) (findings : List Finding) : List Complaint :=
  findings.map fun finding => { finding, inArgument }

@[simp] lemma blame_nil (inArgument : Bool) : blame inArgument [] = [] := rfl

mutual

/-- What is wrong in a decorated expression; the flag says whether the expression lies inside an
argument. -/
def Expr.complaints (A : Arena) (inArgument : Bool) : Expr → List Complaint
  | .lit _ _ => []
  | .name _ _ => []
  | .dot base _ _ _ => base.complaints A inArgument
  | .assign target value note =>
    target.complaints A inArgument ++ value.complaints A inArgument ++
      blame inArgument ((Expr.assign target value note).judged A).2
  | .call callee args note =>
    blame inArgument ((calleeRule (callee.typeIn A)).findings callee.loc) ++
      Expr.complaintsOfAll A args ++ blame true ((Expr.call callee args note).judged A).2
  | .unary op operand note =>
    operand.complaints A inArgument ++ blame inArgument ((Expr.unary op operand note).judged A).2
  | .binary op left right note =>
    left.complaints A inArgument ++ right.complaints A inArgument ++
      blame inArgument ((Expr.binary op left right note).judged A).2

/-- What is wrong in the arguments of a call. -/
def Expr.complaintsOfAll (A : Arena) : List Expr → List Complaint
  | [] => []
  | e :: es => e.complaints A true ++ Expr.complaintsOfAll A es

end

/-- What a statement says of its expression, if it has one, and where. -/
structure Judgement where
  expr? : Option Expr
  loc : Location
  verdict : Verdict

/-- What is wrong in the expression, and what the statement reports. -/
def Judgement.complaints (A : Arena) (j : Judgement) : List Complaint :=
  (j.expr?.elim [] fun e => e.complaints A false) ++ blame false (j.verdict.findings j.loc)

mutual

/-- The judgements of a decorated block in a function with the return type. -/
def Block.judgements (ret : Ty) : Block → List Judgement
  | .mk _ stmts => Stmt.judgementsOfAll ret stmts

/-- The judgements of a decorated statement. -/
def Stmt.judgements (ret : Ty) : Stmt → List Judgement
  | .simple verb e => [⟨some e, e.loc, verb.judge e.ty⟩]
  | .guarded guard cond body =>
    ⟨some cond, cond.loc, guard.rule.judge cond.ty⟩ :: body.judgements ret
  | .ifElse cond yes no =>
    ⟨some cond, cond.loc, Guard.branch.rule.judge cond.ty⟩ ::
      (yes.judgements ret ++ no.judgements ret)
  | .ret none loc => [⟨none, loc, returnRule ret none⟩]
  | .ret (some value) _ => [⟨some value, value.loc, returnRule ret (some value.ty)⟩]

/-- The judgements of a list of decorated statements. -/
def Stmt.judgementsOfAll (ret : Ty) : List Stmt → List Judgement
  | [] => []
  | s :: ss => s.judgements ret ++ Stmt.judgementsOfAll ret ss

end

/-- The judgements of a decorated declaration; only a function has any. -/
def Decl.judgements : Decl → List Judgement
  | .fn f => f.body.judgements f.ret.returned
  | _ => []

namespace Program

/-- The judgements of a decorated program. -/
def judgements (p : Program) : List Judgement := p.decls.flatMap Decl.judgements

/-- All that is wrong in a decorated program. -/
def complaints (A : Arena) (p : Program) : List Complaint :=
  p.judgements.flatMap (·.complaints A)

end Program

/-! ### Parts

What is wrong in a part is wrong in the whole.  Only whether it is about an argument depends on
where the part is.
-/

section

variable {A : Arena} {x : Expr}

mutual

theorem Expr.complaints_part : ∀ {e : Expr} (b : Bool), x ∈ e.exprs →
    ∃ b', x.complaints A b' ⊆ e.complaints A b
  | .lit _ _, b, hx | .name _ _, b, hx => by
      obtain rfl := List.mem_singleton.1 hx
      exact ⟨b, fun _ => id⟩
  | .dot base _ _ _, b, hx => by
      rcases List.mem_cons.1 hx with rfl | hx
      · exact ⟨b, fun _ => id⟩
      · exact base.complaints_part b hx
  | .assign target value _, b, hx => by
      rcases List.mem_cons.1 hx with rfl | hx
      · exact ⟨b, fun _ => id⟩
      rcases List.mem_append.1 hx with hx | hx
      · obtain ⟨b', hsub⟩ := target.complaints_part b hx
        exact ⟨b', fun c hc => List.mem_append_left _ (List.mem_append_left _ (hsub hc))⟩
      · obtain ⟨b', hsub⟩ := value.complaints_part b hx
        exact ⟨b', fun c hc => List.mem_append_left _ (List.mem_append_right _ (hsub hc))⟩
  | .call _ args _, b, hx => by
      rcases List.mem_cons.1 hx with rfl | hx
      · exact ⟨b, fun _ => id⟩
      · obtain ⟨b', hsub⟩ := Expr.complaintsOfAll_part hx
        exact ⟨b', fun c hc => List.mem_append_left _ (List.mem_append_right _ (hsub hc))⟩
  | .unary _ operand _, b, hx => by
      rcases List.mem_cons.1 hx with rfl | hx
      · exact ⟨b, fun _ => id⟩
      · obtain ⟨b', hsub⟩ := operand.complaints_part b hx
        exact ⟨b', fun c hc => List.mem_append_left _ (hsub hc)⟩
  | .binary _ left right _, b, hx => by
      rcases List.mem_cons.1 hx with rfl | hx
      · exact ⟨b, fun _ => id⟩
      rcases List.mem_append.1 hx with hx | hx
      · obtain ⟨b', hsub⟩ := left.complaints_part b hx
        exact ⟨b', fun c hc => List.mem_append_left _ (List.mem_append_left _ (hsub hc))⟩
      · obtain ⟨b', hsub⟩ := right.complaints_part b hx
        exact ⟨b', fun c hc => List.mem_append_left _ (List.mem_append_right _ (hsub hc))⟩

theorem Expr.complaintsOfAll_part : ∀ {es : List Expr}, x ∈ Expr.exprsOfAll es →
    ∃ b, x.complaints A b ⊆ Expr.complaintsOfAll A es
  | e :: es, hx => by
      rcases List.mem_append.1 hx with hx | hx
      · obtain ⟨b, hsub⟩ := e.complaints_part true hx
        exact ⟨b, fun c hc => List.mem_append_left _ (hsub hc)⟩
      · obtain ⟨b, hsub⟩ := Expr.complaintsOfAll_part hx
        exact ⟨b, fun c hc => List.mem_append_right _ (hsub hc)⟩

end

/-- What is wrong in an expression is wrong in one of the judgements. -/
def Expr.HeardIn (A : Arena) (x : Expr) (js : List Judgement) : Prop :=
  ∃ b, x.complaints A b ⊆ js.flatMap (·.complaints A)

lemma Expr.HeardIn.mono {js ks : List Judgement} (h : x.HeardIn A js) (hsub : js ⊆ ks) :
    x.HeardIn A ks := by
  obtain ⟨b, hx⟩ := h
  refine ⟨b, fun c hc => ?_⟩
  obtain ⟨j, hj, hcj⟩ := List.mem_flatMap.1 (hx hc)
  exact List.mem_flatMap.2 ⟨j, hsub hj, hcj⟩

lemma Expr.HeardIn.of_part {e : Expr} (hx : x ∈ e.exprs) {loc : Location} {verdict : Verdict}
    {js : List Judgement} (hj : ⟨some e, loc, verdict⟩ ∈ js) : x.HeardIn A js := by
  obtain ⟨b, hsub⟩ := Expr.complaints_part (A := A) false hx
  exact ⟨b, fun c hc => List.mem_flatMap.2 ⟨_, hj, List.mem_append_left _ (hsub hc)⟩⟩

mutual

theorem Block.judgements_part {ret : Ty} : ∀ {b : Block}, x ∈ b.exprs →
    x.HeardIn A (b.judgements ret)
  | .mk _ _, hx => Stmt.judgementsOfAll_part hx

theorem Stmt.judgements_part {ret : Ty} : ∀ {s : Stmt}, x ∈ s.exprs →
    x.HeardIn A (s.judgements ret)
  | .simple _ _, hx => Expr.HeardIn.of_part hx List.mem_cons_self
  | .guarded _ _ body, hx => by
      rcases List.mem_append.1 hx with hx | hx
      · exact Expr.HeardIn.of_part hx List.mem_cons_self
      · exact (body.judgements_part hx).mono fun _ => List.mem_cons_of_mem _
  | .ifElse _ yes no, hx => by
      rcases List.mem_append.1 hx with hx | hx
      · rcases List.mem_append.1 hx with hx | hx
        · exact Expr.HeardIn.of_part hx List.mem_cons_self
        · exact (yes.judgements_part hx).mono fun _ hj =>
            List.mem_cons_of_mem _ (List.mem_append_left _ hj)
      · exact (no.judgements_part hx).mono fun _ hj =>
          List.mem_cons_of_mem _ (List.mem_append_right _ hj)
  | .ret (some _) _, hx => Expr.HeardIn.of_part hx List.mem_cons_self

theorem Stmt.judgementsOfAll_part {ret : Ty} : ∀ {ss : List Stmt}, x ∈ Stmt.exprsOfAll ss →
    x.HeardIn A (Stmt.judgementsOfAll ret ss)
  | s :: _, hx => by
      rcases List.mem_append.1 hx with hx | hx
      · exact (s.judgements_part hx).mono fun _ => List.mem_append_left _
      · exact (Stmt.judgementsOfAll_part hx).mono fun _ => List.mem_append_right _

end

theorem Program.judgements_part {p : Program} (hx : x ∈ p.exprs) : x.HeardIn A p.judgements := by
  obtain ⟨d, hd, hx⟩ := List.mem_flatMap.1 hx
  cases d with
  | fn f =>
      exact (f.body.judgements_part hx).mono fun j hj => List.mem_flatMap.2 ⟨.fn f, hd, hj⟩
  | _ => cases hx

end

/-! ## Runs -/

/-- The report of a finding. -/
def Finding.event (finding : Finding) : Event := .reported finding.loc finding.problem

@[simp] lemma reports_map_event (findings : List Finding) :
    reports (findings.map Finding.event) = findings := by
  induction findings with
  | nil => rfl
  | cons finding findings ih =>
      rw [List.map_cons, Finding.event, reports_cons_reported, ih]

/-- The reports of the complaints. -/
def saidOf (complaints : List Complaint) : List Event := complaints.map fun c => c.finding.event

@[simp] lemma saidOf_nil : saidOf [] = [] := rfl

@[simp] lemma saidOf_append (cs ds : List Complaint) : saidOf (cs ++ ds) = saidOf cs ++ saidOf ds :=
  List.map_append

lemma saidOf_blame (inArgument : Bool) (findings : List Finding) :
    saidOf (blame inArgument findings) = findings.map Finding.event := by
  simp [saidOf, blame, Function.comp_def]

lemma reports_saidOf (complaints : List Complaint) :
    reports (saidOf complaints) = complaints.map Complaint.finding := by
  have hmap : saidOf complaints = (complaints.map Complaint.finding).map Finding.event := by
    simp [saidOf]
  rw [hmap, reports_map_event]

/-- The slot is empty, and the identifier is bound to nothing or to a symbol. -/
structure Expr.Ready (A : Arena) (e : Expr) : Prop where
  empty : e.ty? = none
  known : ∀ id, e.ident? = some id → ∀ h, id.symbol? = some h → ∃ ty, A.typeOf h = .ok ty

/-- Only the slot and the identifier count. -/
lemma Expr.Ready.of_parts {A : Arena} {e : Expr} (h : e.Ready A) (e' : Expr)
    (hty : e'.ty? = e.ty?) (hident : e'.ident? = e.ident?) : e'.Ready A where
  empty := hty.trans h.empty
  known id hid := h.known id (hident.symm.trans hid)

/-- All expressions of the list are ready. -/
def AllReady (A : Arena) (es : List Expr) : Prop := ∀ e ∈ es, e.Ready A

lemma AllReady.mono {A : Arena} {es fs : List Expr} (h : AllReady A es) (hsub : ∀ e ∈ fs, e ∈ es) :
    AllReady A fs := fun e he => h e (hsub e he)

lemma Ident.tyIn_eq {A : Arena} {id : Ident}
    (known : ∀ h, id.symbol? = some h → ∃ ty, A.typeOf h = .ok ty) :
    id.tyIn A = .ok (id.typeIn A) := by
  unfold typeIn
  cases hsymbol : id.symbol? with
  | none => simp only [tyIn, hsymbol]
  | some h =>
      obtain ⟨ty, hty⟩ := known h hsymbol
      simp only [tyIn, hsymbol, hty]

lemma Expr.judge_eq {A : Arena} {e : Expr} (h : e.Ready A) : e.judge A = .ok (e.judged A) := by
  unfold judged
  cases e with
  | name id note => simp only [judge, Ident.tyIn_eq (h.known id rfl)]; rfl
  | dot base field failed note => simp only [judge, Ident.tyIn_eq (h.known field rfl)]; rfl
  | call callee args note => simp only [judge, Ident.tyIn_eq (h.known callee rfl)]; rfl
  | _ => rfl

/-- The run after what the judgements report, with the verdict on them. -/
def Run.judge (s : Run Bool) (A : Arena) (js : List Judgement) : Run Bool :=
  (s.after (saidOf (js.flatMap (·.complaints A)))).withWork
    (s.work && js.all fun j => j.verdict.isAccepted)

@[simp] lemma Run.halted_judge (s : Run Bool) (A : Arena) (js : List Judgement) :
    (s.judge A js).halted = s.halted := by
  simp [judge]

lemma Run.judge_nil (s : Run Bool) (A : Arena) : s.judge A [] = s := by
  simp [judge]

lemma Run.judge_judge (s : Run Bool) (A : Arena) (js ks : List Judgement) :
    (s.judge A js).judge A ks = s.judge A (js ++ ks) := by
  simp [judge, Bool.and_assoc]

namespace Checking

open Pass

variable {A : Arena} {ret : Ty} {s : Run Bool}

lemma run_reportAll (live : s.halted = none) (findings : List Finding) :
    (reportAll findings).run s = ((), s.after (findings.map Finding.event)) := by
  unfold reportAll
  induction findings generalizing s with
  | nil => rfl
  | cons finding findings ih =>
      refine (run_bind (run_report live _ _)).trans ((ih (by simpa)).trans ?_)
      rw [Run.after_after]
      rfl

lemma run_checkCallee {callee : Ident} (live : s.halted = none)
    (known : ∀ h, callee.symbol? = some h → ∃ ty, A.typeOf h = .ok ty) :
    (checkCallee A callee).run s = (callee, s.after
      (((calleeRule (callee.typeIn A)).findings callee.loc).map Finding.event)) := by
  unfold checkCallee
  rw [Ident.tyIn_eq known, run_bind (run_require_ok _ _), run_bind (run_reportAll live _),
    run_return]

lemma run_finish {e : Expr} (live : s.halted = none) (h : e.Ready A) :
    ((visitor A ret).finish e).run s =
      (e.settled A, s.after ((e.judged A).2.map Finding.event)) := by
  have hsettle : (settle A e).run s = ({ e.note with ty := { content := some (e.judged A).1 } },
      s.after ((e.judged A).2.map Finding.event)) := by
    unfold settle
    rw [Expr.judge_eq h, run_bind (run_require_ok _ _), run_bind (run_reportAll live _),
      run_bind (run_fill_of_empty (by simpa) h.empty _), run_return]
  exact (run_bind hsettle).trans (run_return _ _)

mutual

theorem visitExpr_run : ∀ {e : Expr} {s : Run Bool} (b : Bool), s.halted = none →
    AllReady A e.exprs → (e.visit (visitor A ret)).run s =
      (e.decorate A, s.after (saidOf ((e.decorate A).complaints A b)))
  | .lit value note, s, b, live, h => by
      rw [Expr.visit, run_finish live (h _ (by simp [Expr.exprs]))]
      rfl
  | .name id note, s, b, live, h => by
      rw [Expr.visit]
      refine (run_bind (run_return id s)).trans ?_
      rw [run_finish live (h _ (by simp [Expr.exprs])), Expr.judged_name]
      rfl
  | .dot base field failed note, s, b, live, h => by
      rw [Expr.visit, run_bind (visitExpr_run b live (h.mono fun _ he => by simp [Expr.exprs, he]))]
      refine (run_bind (run_return (field, failed) _)).trans ?_
      have hready := (h _ List.mem_cons_self).of_parts
        (.dot (base.decorate A) field failed note) rfl rfl
      rw [run_finish (by simpa) hready, Expr.judged_dot]
      rfl
  | .assign target value note, s, b, live, h => by
      have hready := (h _ List.mem_cons_self).of_parts
        (.assign (target.decorate A) (value.decorate A) note) rfl rfl
      rw [Expr.visit, run_bind (visitExpr_run b live (h.mono fun _ he => by simp [Expr.exprs, he])),
        run_bind (visitExpr_run b (by simpa) (h.mono fun _ he => by simp [Expr.exprs, he])),
        run_finish (by simpa) hready, Run.after_after, Run.after_after, ← saidOf_blame b,
        ← saidOf_append, ← saidOf_append, ← List.append_assoc]
      rfl
  | .call callee args note, s, b, live, h => by
      have hready := h _ List.mem_cons_self
      rw [Expr.visit]
      refine (run_bind (run_checkCallee live (hready.known callee rfl))).trans ?_
      rw [run_bind (visitAll_run (by simpa) (h.mono fun _ he => by simp [Expr.exprs, he])),
        run_finish (by simpa)
          (hready.of_parts (.call callee (Expr.decorateAll A args) note) rfl rfl),
        Run.after_after, Run.after_after, ← saidOf_blame b, ← saidOf_blame true,
        ← saidOf_append, ← saidOf_append, ← List.append_assoc]
      rfl
  | .unary op operand note, s, b, live, h => by
      have hready := (h _ List.mem_cons_self).of_parts (.unary op (operand.decorate A) note) rfl rfl
      rw [Expr.visit, run_bind (visitExpr_run b live (h.mono fun _ he => by simp [Expr.exprs, he])),
        run_finish (by simpa) hready, Run.after_after, ← saidOf_blame b, ← saidOf_append]
      rfl
  | .binary op left right note, s, b, live, h => by
      have hready := (h _ List.mem_cons_self).of_parts
        (.binary op (left.decorate A) (right.decorate A) note) rfl rfl
      rw [Expr.visit, run_bind (visitExpr_run b live (h.mono fun _ he => by simp [Expr.exprs, he])),
        run_bind (visitExpr_run b (by simpa) (h.mono fun _ he => by simp [Expr.exprs, he])),
        run_finish (by simpa) hready, Run.after_after, Run.after_after, ← saidOf_blame b,
        ← saidOf_append, ← saidOf_append, ← List.append_assoc]
      rfl

theorem visitAll_run : ∀ {es : List Expr} {s : Run Bool}, s.halted = none →
    AllReady A (Expr.exprsOfAll es) → (Expr.visitAll (visitor A ret) es).run s =
      (Expr.decorateAll A es, s.after (saidOf (Expr.complaintsOfAll A (Expr.decorateAll A es))))
  | [], s, live, h => rfl
  | e :: es, s, live, h => by
      rw [Expr.visitAll,
        run_bind (visitExpr_run true live (h.mono fun _ he => by simp [Expr.exprsOfAll, he])),
        run_bind (visitAll_run (by simpa) (h.mono fun _ he => by simp [Expr.exprsOfAll, he])),
        run_return, Run.after_after, ← saidOf_append]
      rfl

end

/-! ### Statements -/

lemma run_conclude (live : s.halted = none) (loc : Location) (verdict : Verdict) :
    (conclude loc verdict).run s = ((), s.judge A [⟨none, loc, verdict⟩]) := by
  unfold conclude
  rw [run_bind (run_reportAll live _), run_update (by simpa), Run.work_after, Run.judge]
  simp [Judgement.complaints, saidOf_blame]

/-- An expression and what its statement says of it. -/
lemma run_visit_conclude {β : Type} {e : Expr} {k : Expr → Checking β} (live : s.halted = none)
    (h : AllReady A e.exprs) (verdict : Expr → Verdict) :
    (do
      let e ← e.visit (visitor A ret)
      conclude e.loc (verdict e)
      k e : Checking β).run s = (k (e.decorate A)).run
        (s.judge A [⟨some (e.decorate A), (e.decorate A).loc, verdict (e.decorate A)⟩]) := by
  rw [run_bind (visitExpr_run false live h),
    run_bind (run_conclude (A := A) (by simpa) _ _)]
  simp [Run.judge, Judgement.complaints]

mutual

theorem visitBlock_run : ∀ {b : Block} {s : Run Bool}, s.halted = none → AllReady A b.exprs →
    (b.visit (visitor A ret)).run s =
      (b.decorate A, s.judge A ((b.decorate A).judgements ret))
  | .mk decls stmts, s, live, h => by
      have hdecls : decls.mapM (visitor A ret).onLocal = pure decls :=
        (List.mapM_pure (f := id)).trans (congrArg pure (List.map_id decls))
      rw [Block.visit, hdecls]
      refine (run_bind (run_return decls s)).trans ?_
      rw [run_bind (visitStmts_run live h), run_return]
      rfl

theorem visitStmt_run : ∀ {st : Stmt} {s : Run Bool}, s.halted = none → AllReady A st.exprs →
    (st.visit (visitor A ret)).run s =
      (st.decorate A, s.judge A ((st.decorate A).judgements ret))
  | .simple verb e, s, live, h => by
      rw [Stmt.visit]
      exact run_visit_conclude live h fun e => verb.judge e.ty
  | .guarded guard cond body, s, live, h => by
      rw [Stmt.visit]
      refine (run_visit_conclude live (h.mono fun _ he => List.mem_append_left _ he)
        fun e => guard.rule.judge e.ty).trans ?_
      refine (run_bind (run_return () _)).trans ?_
      rw [run_bind (visitBlock_run (by simpa) (h.mono fun _ he => List.mem_append_right _ he))]
      refine (run_bind (run_return () _)).trans ?_
      rw [run_return, Run.judge_judge]
      rfl
  | .ifElse cond yes no, s, live, h => by
      rw [Stmt.visit]
      refine (run_visit_conclude live (h.mono fun _ he => by simp [Stmt.exprs, he])
        fun e => Guard.branch.rule.judge e.ty).trans ?_
      refine (run_bind (run_return () _)).trans ?_
      rw [run_bind (visitBlock_run (by simpa) (h.mono fun _ he => by simp [Stmt.exprs, he]))]
      refine (run_bind (run_return () _)).trans ((run_bind (run_return () _)).trans ?_)
      rw [run_bind (visitBlock_run (by simpa) (h.mono fun _ he => by simp [Stmt.exprs, he]))]
      refine (run_bind (run_return () _)).trans ?_
      rw [run_return, Run.judge_judge, Run.judge_judge]
      rfl
  | .ret none loc, s, live, h => by
      rw [Stmt.visit]
      exact run_bind (run_conclude live loc _)
  | .ret (some value) loc, s, live, h => by
      rw [Stmt.visit]
      exact run_visit_conclude live h fun e => returnRule ret (some e.ty)

theorem visitStmts_run : ∀ {ss : List Stmt} {s : Run Bool}, s.halted = none →
    AllReady A (Stmt.exprsOfAll ss) → (Stmt.visitAll (visitor A ret) ss).run s =
      (Stmt.decorateAll A ss, s.judge A (Stmt.judgementsOfAll ret (Stmt.decorateAll A ss)))
  | [], s, live, h => by
      rw [Stmt.visitAll, run_return]
      exact congrArg _ (Run.judge_nil s A).symm
  | st :: ss, s, live, h => by
      rw [Stmt.visitAll,
        run_bind (visitStmt_run live (h.mono fun _ he => List.mem_append_left _ he)),
        run_bind (visitStmts_run (by simpa) (h.mono fun _ he => List.mem_append_right _ he)),
        run_return, Run.judge_judge]
      rfl

end

/-! ### Programs -/

lemma run_checkDecl {d : Decl} (live : s.halted = none) (h : AllReady A d.exprs) :
    (checkDecl A d).run s = (d.decorate A, s.judge A (d.decorate A).judgements) := by
  cases d with
  | fn f => exact run_bind (visitBlock_run live h)
  | var d => exact congrArg _ (Run.judge_nil s A).symm
  | struct st => exact congrArg _ (Run.judge_nil s A).symm

lemma run_checkDecls {ds : List Decl} (live : s.halted = none)
    (h : AllReady A (ds.flatMap Decl.exprs)) :
    (ds.mapM (checkDecl A)).run s =
      (ds.map (·.decorate A), s.judge A ((ds.map (·.decorate A)).flatMap Decl.judgements)) := by
  induction ds generalizing s with
  | nil =>
      rw [List.mapM_nil, run_return]
      exact congrArg _ (Run.judge_nil s A).symm
  | cons d ds ih =>
      rw [List.flatMap_cons] at h
      rw [List.mapM_cons, run_bind (run_checkDecl live (h.mono fun _ => List.mem_append_left _)),
        run_bind (ih (by simpa) (h.mono fun _ => List.mem_append_right _)), run_return,
        Run.judge_judge]
      rfl

end Checking

open Checking Pass in
/-- Type checking of a program that is ready, with all events of the run. -/
theorem checkProgram_logs {A : Arena} {p : Program} (h : AllReady A p.exprs) (s : Run Bool) :
    let complaints := (p.decorate A).complaints A
    (checkProgram A p).run s = (p.decorate A,
      ((s.restart true).after (.checkingStarted :: saidOf complaints ++
        [.checkingFinished (s.errors + complaints.length)])).withWork
          ((p.decorate A).judgements.all fun j => j.verdict.isAccepted)) := by
  intro complaints
  have live : (s.restart true).halted = none := rfl
  have herrors : ((s.restart true).after (.checkingStarted :: saidOf complaints)).errors =
      s.errors + complaints.length := by
    rw [Run.errors_after, reports_cons_of_none rfl, reports_saidOf, List.length_map]
    rfl
  unfold checkProgram
  rw [run_bind (run_modify _ s), run_bind (run_note live rfl),
    run_bind (run_checkDecls (by simp) h), run_bind (run_get _),
    run_bind (run_note (by simp) rfl), run_return, ← herrors]
  simp only [Run.judge, Run.after_after, Run.after_withWork, Run.work_after]
  rfl

/-- **What type checking does.**  From any run, checking a program whose slots are empty and whose
handles have symbols decorates the program, reports what is wrong in it, and ends with the verdict
on its statements. -/
theorem checkProgram_run {A : Arena} {p : Program} (h : AllReady A p.exprs) (s : Run Bool) :
    ∃ before after, reports before = [] ∧ reports after = [] ∧
      (checkProgram A p).run s = (p.decorate A,
        ((s.restart true).after (before ++ saidOf ((p.decorate A).complaints A) ++ after)).withWork
          ((p.decorate A).judgements.all fun j => j.verdict.isAccepted)) :=
  ⟨[.checkingStarted], [.checkingFinished _], rfl, rfl, checkProgram_logs h s⟩

end StructLang
