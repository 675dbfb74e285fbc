import Mathlib.Data.List.Perm.Basic
import Mathlib.Tactic.Common
import StructLang.Proofs.Checking

/-!
# What type checking inspects

The passes say what is wrong with a tree along its shape.  This is the same as a flat list: the
points of a tree in the order in which type checking comes by, what it inspects at each of them, and
what it objects to.  Nothing here knows of passes.  What is objected to is read off from tables, by
the types that are stored on the inspected expressions and the signature of the callee.

* `Program.sites` — the points: a callee before its arguments, an expression after its parts, a
  condition before the blocks that it decides, a statement after its expression.
* `Site.inspections` — what is inspected at a point.  An inspection is of the one or two expressions
  that a rule looks at together, and objects to at most one thing.
* `Program.complaints_findings` — all that type checking says of a decorated tree are the findings
  of its points, in order.
* `Program.operands_perm`, `Program.judgedAt_perm` — every expression of a tree is held by exactly
  one point, and has exactly one point of its own.  `Site.subjects_inspections` adds that a point
  inspects just the expressions that it holds, each of them once.
-/

namespace StructLang

/-! ## Objections -/

/-- What is wrong with a value of the actual type where a number or a truth value is asked for.
Where anything is an error already, nothing. -/
def Ty.objection (problem : Problem) : (asked actual : Ty) → Option Problem
  | .error, _ | _, .error | .int, .int | .bool, .bool => none
  | _, _ => some problem

/-- What is wrong with assigning a value of the second type to something of the first. -/
def Ty.assignObjection : Ty → Ty → Option Problem
  | .error, _ | _, .error | .int, .int | .bool, .bool => none
  | .fn _ _, .fn _ _ => some .assignFn
  | .structDef _, .structDef _ => some .assignStructName
  | .struct _, .struct _ => some .assignStruct
  | _, _ => some .typeMismatch

/-- What is wrong with comparing values of the types for equality. -/
def Ty.equalityObjection : Ty → Ty → Option Problem
  | .error, _ | _, .error | .int, .int | .bool, .bool => none
  | .void, .void => some .equalityOfVoid
  | .fn _ _, .fn _ _ => some .equalityOfFns
  | .structDef _, .structDef _ => some .equalityOfStructNames
  | .struct _, .struct _ => some .equalityOfStructs
  | _, _ => some .typeMismatch

/-- What is wrong with calling something of the type. -/
def Ty.calleeObjection : Ty → Option Problem
  | .fn _ _ | .error => none
  | _ => some .callNonFn

/-- What is wrong with reading into something of the type. -/
def Ty.readObjection : Ty → Option Problem
  | .int | .bool | .void | .error => none
  | .fn _ _ => some .readFn
  | .structDef _ => some .readStructName
  | .struct _ => some .readStruct
  | .string => some .readString

/-- What is wrong with writing out something of the type. -/
def Ty.writeObjection : Ty → Option Problem
  | .int | .bool | .string | .error => none
  | .fn _ _ => some .writeFn
  | .structDef _ => some .writeStructName
  | .struct _ => some .writeStruct
  | .void => some .writeVoid

/-- What is wrong with returning from a function of the return type, with a value of the given type
or without one.  A value that nobody asked for is objected to whatever it is. -/
def Ty.returnObjection : Ty → Option Ty → Option Problem
  | .void, none => none
  | .void, some _ => some .valueFromVoid
  | .error, _ | _, some .error => none
  | _, none => some .missingValue
  | ret, some value => if value.agrees ret then none else some .badValue

/-- What a simple statement objects to. -/
def Verb.objection : Verb → Ty → Option Problem
  | assign, _ | call, _ => none
  | increment, ty | decrement, ty => Ty.objection .arithmeticOperand .int ty
  | read, ty => ty.readObjection
  | write, ty => ty.writeObjection

/-- What a condition that is no truth value is called. -/
def Guard.problem : Guard → Problem
  | branch => .ifCondition
  | loop => .whileCondition

/-- What a unary operator objects to. -/
def UnaryOp.objection : UnaryOp → Ty → Option Problem
  | neg => Ty.objection .arithmeticOperand .int
  | not => Ty.objection .logicalOperand .bool

/-! ## Inspections -/

/-- One question that a rule asks: of which expressions, where an objection is reported, and the
objection, if there is one. -/
structure Inspection where
  subjects : List Expr
  loc : Location
  problem? : Option Problem

/-- What the inspection finds. -/
def Inspection.finding? (i : Inspection) : Option Finding :=
  i.problem?.map fun problem => { loc := i.loc, problem }

/-- The inspection of one expression, with objections reported at its own place. -/
def Expr.inspected (e : Expr) (objection : Ty → Option Problem) : Inspection :=
  ⟨[e], e.loc, objection e.ty⟩

/-- The operands of a binary operator are inspected one by one, except by an equality, which looks
at both of them together. -/
def Family.inspections (left right : Expr) : Family → List Inspection
  | arithmetic => [left, right].map (·.inspected (Ty.objection .arithmeticOperand .int))
  | logical => [left, right].map (·.inspected (Ty.objection .logicalOperand .bool))
  | relational => [left, right].map (·.inspected (Ty.objection .relationalOperand .int))
  | equality => [⟨[left, right], left.loc, left.ty.equalityObjection right.ty⟩]

/-- The arguments of a call are inspected one by one against the parameters, if there are as many of
them.  If not, that is all that is wrong; and of what is no function there are no parameters. -/
def Ident.argInspections (callee : Ident) (args : List Expr) : Ty → List Inspection
  | .fn params _ =>
    if args.length = params.length then
      List.zipWith (fun arg param => arg.inspected (Ty.objection .argMismatch param)) args params
    else ⟨[], callee.loc, some .argCount⟩ :: args.map (·.inspected fun _ => none)
  | _ => args.map (·.inspected fun _ => none)

/-- What the rule for the expression inspects. -/
def Expr.inspections (A : Arena) : Expr → List Inspection
  | .lit _ _ | .name _ _ => []
  | .dot base _ _ _ => [base.inspected fun _ => none]
  | .assign target value _ =>
    [⟨[target, value], target.loc, target.ty.assignObjection value.ty⟩]
  | .call callee args _ => callee.argInspections args (callee.typeIn A)
  | .unary op operand _ => [operand.inspected op.objection]
  | .binary op left right _ => op.family.inspections left right

/-! ## Sites -/

/-- A point of a function body at which something may be reported. -/
inductive Site where
  | callee (id : Ident)
  | expr (e : Expr)
  | simple (verb : Verb) (e : Expr)
  | condition (guard : Guard) (cond : Expr)
  /-- A `return` in a function of the given return type. -/
  | ret (ty : Ty) (value : Option Expr) (loc : Location)

/-- The expressions that stand directly in the expression. -/
def Expr.operands : Expr → List Expr
  | .lit _ _ | .name _ _ => []
  | .dot base _ _ _ => [base]
  | .assign target value _ => [target, value]
  | .call _ args _ => args
  | .unary _ operand _ => [operand]
  | .binary _ left right _ => [left, right]

namespace Site

/-- The expressions that stand directly at the point. -/
def operands : Site → List Expr
  | callee _ => []
  | expr e => e.operands
  | simple _ e => [e]
  | condition _ cond => [cond]
  | ret _ value _ => value.toList

/-- What is inspected at the point. -/
def inspections (A : Arena) : Site → List Inspection
  | callee id => [⟨[], id.loc, (id.typeIn A).calleeObjection⟩]
  | expr e => e.inspections A
  | simple verb e => [e.inspected verb.objection]
  | condition guard cond => [cond.inspected (Ty.objection guard.problem .bool)]
  | ret ty value loc =>
    [⟨value.toList, (value.map Expr.loc).getD loc, ty.returnObjection (value.map Expr.ty)⟩]

/-- What is found at the point. -/
def findings (A : Arena) (site : Site) : List Finding :=
  (site.inspections A).filterMap Inspection.finding?

end Site

mutual

/-- The points of an expression, those of its parts first. -/
def Expr.sites : Expr → List Site
  | e@(.lit _ _) => [.expr e]
  | e@(.name _ _) => [.expr e]
  | e@(.dot base _ _ _) => base.sites ++ [.expr e]
  | e@(.assign target value _) => target.sites ++ value.sites ++ [.expr e]
  | e@(.call callee args _) => .callee callee :: Expr.sitesOfAll args ++ [.expr e]
  | e@(.unary _ operand _) => operand.sites ++ [.expr e]
  | e@(.binary _ left right _) => left.sites ++ right.sites ++ [.expr e]

/-- The points of a list of expressions. -/
def Expr.sitesOfAll : List Expr → List Site
  | [] => []
  | e :: es => e.sites ++ Expr.sitesOfAll es

end

mutual

/-- The points of a block in a function of the return type. -/
def Block.sites (ret : Ty) : Block → List Site
  | .mk _ stmts => Stmt.sitesOfAll ret stmts

/-- The points of a statement. -/
def Stmt.sites (ret : Ty) : Stmt → List Site
  | .simple verb e => e.sites ++ [.simple verb e]
  | .guarded guard cond body => cond.sites ++ .condition guard cond :: body.sites ret
  | .ifElse cond yes no =>
    cond.sites ++ .condition .branch cond :: (yes.sites ret ++ no.sites ret)
  | .ret none loc => [.ret ret none loc]
  | .ret (some value) loc => value.sites ++ [.ret ret (some value) loc]

/-- The points of a list of statements. -/
def Stmt.sitesOfAll (ret : Ty) : List Stmt → List Site
  | [] => []
  | s :: ss => s.sites ret ++ Stmt.sitesOfAll ret ss

end

/-- The points of a declaration; only a function has any. -/
def Decl.sites : Decl → List Site
  | .fn f => f.body.sites f.ret.returned
  | _ => []

/-- The points of a program, in the order in which type checking comes by. -/
def Program.sites (p : Program) : List Site := p.decls.flatMap Decl.sites

/-! ## Rules and tables -/

/-- What a verdict objects to. -/
def Verdict.problem? : Verdict → Option Problem
  | rejected problem => some problem
  | _ => none

lemma Verdict.findings_eq (loc : Location) (v : Verdict) :
    v.findings loc = (v.problem?.map fun problem => ({ loc, problem } : Finding)).toList := by
  cases v <;> rfl

/-- An inspection that objects to what the rule rejects finds what the rule finds. -/
lemma Verdict.findings_of_inspection {v : Verdict} {i : Inspection} (h : v.problem? = i.problem?) :
    v.findings i.loc = [i].filterMap Inspection.finding? := by
  rw [v.findings_eq, h, List.filterMap_cons, Inspection.finding?]
  cases i.problem? <;> rfl

section

variable (a b : Ty)

lemma OperandRule.problem?_judge_int (problem : Problem) (result : Ty) :
    (OperandRule.judge ⟨Ty.isInt, problem, result⟩ a).problem? = Ty.objection problem .int a := by
  cases a <;> rfl

lemma OperandRule.problem?_judge_bool (problem : Problem) (result : Ty) :
    (OperandRule.judge ⟨Ty.isBool, problem, result⟩ a).problem? = Ty.objection problem .bool a := by
  cases a <;> rfl

lemma problem?_assignRule : (assignRule a b).problem? = a.assignObjection b := by
  cases a <;> cases b <;> rfl

lemma problem?_equalityRule : (equalityRule a b).problem? = a.equalityObjection b := by
  cases a <;> cases b <;> rfl

lemma problem?_calleeRule : (calleeRule a).problem? = a.calleeObjection := by
  cases a <;> rfl

lemma problem?_argRule : (argRule a b).problem? = Ty.objection .argMismatch b a := by
  cases a <;> cases b <;> rfl

lemma Verb.problem?_judge (verb : Verb) : (verb.judge a).problem? = verb.objection a := by
  cases verb <;> cases a <;> rfl

lemma Guard.problem?_judge (guard : Guard) :
    (guard.rule.judge a).problem? = Ty.objection guard.problem .bool a := by
  cases guard <;> exact OperandRule.problem?_judge_bool _ _ _

lemma UnaryOp.problem?_judge (op : UnaryOp) : (op.rule.judge a).problem? = op.objection a := by
  cases op with
  | neg => exact OperandRule.problem?_judge_int _ _ _
  | not => exact OperandRule.problem?_judge_bool _ _ _

lemma problem?_returnRule (value : Option Ty) :
    (returnRule a value).problem? = a.returnObjection value := by
  cases value with
  | none => cases a <;> rfl
  | some value =>
      have hagrees : ∀ agree : Bool,
          (if agree then Verdict.accepted else .rejected .badValue).problem? =
            if agree then none else some .badValue := by
        intro agree
        cases agree <;> rfl
      cases a <;> cases value <;> first | rfl | exact hagrees _

end

/-- The findings about arguments that are compared with as many parameters. -/
lemma argFindings_eq : ∀ (args : List Expr) (params : List Ty),
    argFindings args params =
      (List.zipWith (fun arg param => arg.inspected (Ty.objection .argMismatch param)) args
        params).filterMap Inspection.finding?
  | [], _ => rfl
  | _ :: _, [] => rfl
  | arg :: args, param :: params => by
      have hfirst := Verdict.findings_of_inspection (v := argRule arg.ty param)
        (i := arg.inspected (Ty.objection .argMismatch param)) (problem?_argRule _ _)
      have hrest := argFindings_eq args params
      exact (congrArg₂ (· ++ ·) hfirst hrest).trans List.filterMap_append.symm

/-- Where no question is asked, nothing is found. -/
lemma filterMap_unasked (es : List Expr) :
    (es.map (·.inspected fun _ => none)).filterMap Inspection.finding? = [] := by
  rw [List.filterMap_eq_nil_iff]
  intro i hi
  obtain ⟨e, -, rfl⟩ := List.mem_map.1 hi
  rfl

lemma judgeCall_findings (callee : Ident) (ty : Ty) (args : List Expr) :
    (judgeCall callee ty args).2 =
      (callee.argInspections args ty).filterMap Inspection.finding? := by
  cases ty with
  | fn params ret =>
      simp only [judgeCall, Ident.argInspections]
      split
      · exact argFindings_eq args params
      · exact (congrArg (List.cons _) (filterMap_unasked args)).symm
  | _ => exact (filterMap_unasked args).symm

lemma judgeBinary_findings (op : BinaryOp) (left right : Expr) :
    (judgeBinary op left right).2 =
      (op.family.inspections left right).filterMap Inspection.finding? := by
  have hoperands : ∀ (rule : OperandRule) (objection : Ty → Option Problem),
      (∀ a, (rule.judge a).problem? = objection a) →
      (rule.judge left.ty).findings left.loc ++ (rule.judge right.ty).findings right.loc =
        [left.inspected objection, right.inspected objection].filterMap Inspection.finding? := by
    intro rule objection hrule
    rw [← List.singleton_append, List.filterMap_append,
      ← Verdict.findings_of_inspection (i := left.inspected objection) (hrule _),
      ← Verdict.findings_of_inspection (i := right.inspected objection) (hrule _)]
    rfl
  unfold judgeBinary
  cases op.family with
  | arithmetic => exact hoperands .arithmetic _ fun a => OperandRule.problem?_judge_int a _ _
  | logical => exact hoperands .logical _ fun a => OperandRule.problem?_judge_bool a _ _
  | relational => exact hoperands .relational _ fun a => OperandRule.problem?_judge_int a _ _
  | equality =>
      exact Verdict.findings_of_inspection (i := ⟨[left, right], left.loc, _⟩)
        (problem?_equalityRule _ _)

/-- What the rule for an expression finds are the findings of its inspections. -/
lemma Expr.judged_findings (A : Arena) (e : Expr) :
    (e.judged A).2 = (Site.expr e).findings A := by
  cases e with
  | lit value note => rfl
  | name id note => rw [judged_name]; rfl
  | dot base field failed note => rw [judged_dot]; rfl
  | assign target value note =>
      exact Verdict.findings_of_inspection (i := ⟨[target, value], target.loc, _⟩)
        (problem?_assignRule _ _)
  | unary op operand note =>
      exact Verdict.findings_of_inspection (i := operand.inspected op.objection)
        (op.problem?_judge _)
  | binary op left right note => exact judgeBinary_findings op left right
  | call callee args note =>
      rw [judged_call]
      exact judgeCall_findings callee _ args

/-! ## Complaints are the findings of the points -/

/-- All that is found at the points, in order. -/
def findingsOf (A : Arena) (sites : List Site) : List Finding := sites.flatMap (·.findings A)

section

variable (A : Arena)

@[simp] lemma findingsOf_append (ss ts : List Site) :
    findingsOf A (ss ++ ts) = findingsOf A ss ++ findingsOf A ts := List.flatMap_append

@[simp] lemma findingsOf_cons (s : Site) (ss : List Site) :
    findingsOf A (s :: ss) = s.findings A ++ findingsOf A ss := List.flatMap_cons

lemma findingsOf_singleton (s : Site) : findingsOf A [s] = s.findings A := by
  rw [findingsOf_cons, findingsOf, List.flatMap_nil, List.append_nil]

@[simp] lemma map_blame (b : Bool) (findings : List Finding) :
    (blame b findings).map Complaint.finding = findings := by
  simp [blame, Function.comp_def]

mutual

theorem Expr.complaints_findings (b : Bool) : ∀ e : Expr,
    (e.complaints A b).map Complaint.finding = findingsOf A e.sites
  | .lit _ _ => rfl
  | .name _ _ => rfl
  | .dot base _ _ _ => by
      rw [complaints, sites, findingsOf_append, base.complaints_findings b]
      exact (List.append_nil _).symm
  | .assign target value _ => by
      rw [complaints, sites, List.map_append, List.map_append, map_blame,
        target.complaints_findings b, value.complaints_findings b, judged_findings,
        findingsOf_append, findingsOf_append, findingsOf_singleton]
  | .call callee args _ => by
      have hcallee : (calleeRule (callee.typeIn A)).findings callee.loc =
          (Site.callee callee).findings A :=
        Verdict.findings_of_inspection (i := ⟨[], callee.loc, _⟩) (problem?_calleeRule _)
      rw [complaints, sites, List.map_append, List.map_append, map_blame, map_blame, hcallee,
        Expr.complaintsOfAll_findings args, judged_findings, findingsOf_append, findingsOf_cons,
        findingsOf_singleton]
  | .unary _ operand _ => by
      rw [complaints, sites, List.map_append, map_blame, operand.complaints_findings b,
        judged_findings, findingsOf_append, findingsOf_singleton]
  | .binary _ left right _ => by
      rw [complaints, sites, List.map_append, List.map_append, map_blame,
        left.complaints_findings b, right.complaints_findings b, judged_findings,
        findingsOf_append, findingsOf_append, findingsOf_singleton]

theorem Expr.complaintsOfAll_findings : ∀ es : List Expr,
    (Expr.complaintsOfAll A es).map Complaint.finding = findingsOf A (Expr.sitesOfAll es)
  | [] => rfl
  | e :: es => by
      rw [Expr.complaintsOfAll, Expr.sitesOfAll, List.map_append, e.complaints_findings true,
        Expr.complaintsOfAll_findings es, findingsOf_append]

end

/-- What the judgements say, in order. -/
def saidBy (js : List Judgement) : List Finding :=
  (js.flatMap (·.complaints A)).map Complaint.finding

@[simp] lemma saidBy_append (js ks : List Judgement) :
    saidBy A (js ++ ks) = saidBy A js ++ saidBy A ks := by
  rw [saidBy, List.flatMap_append, List.map_append]
  rfl

/-- An expression and the point behind it at which it is judged. -/
lemma saidBy_expr {e : Expr} {v : Verdict} {site : Site} (js : List Judgement)
    (h : v.findings e.loc = site.findings A) :
    saidBy A (⟨some e, e.loc, v⟩ :: js) = findingsOf A (e.sites ++ [site]) ++ saidBy A js := by
  rw [saidBy, List.flatMap_cons, List.map_append, Judgement.complaints, List.map_append, map_blame,
    h, findingsOf_append, findingsOf_singleton]
  exact congrArg (· ++ _ ++ _) (e.complaints_findings A false)

lemma Guard.judge_findings (guard : Guard) (cond : Expr) :
    (guard.rule.judge cond.ty).findings cond.loc = (Site.condition guard cond).findings A :=
  Verdict.findings_of_inspection (i := cond.inspected (Ty.objection guard.problem .bool))
    (guard.problem?_judge _)

mutual

theorem Block.judgements_findings (ret : Ty) : ∀ b : Block,
    saidBy A (b.judgements ret) = findingsOf A (b.sites ret)
  | .mk _ stmts => Stmt.judgementsOfAll_findings ret stmts

theorem Stmt.judgements_findings (ret : Ty) : ∀ s : Stmt,
    saidBy A (s.judgements ret) = findingsOf A (s.sites ret)
  | .simple verb e => by
      have hverb : (verb.judge e.ty).findings e.loc = (Site.simple verb e).findings A :=
        Verdict.findings_of_inspection (i := e.inspected verb.objection) (verb.problem?_judge _)
      exact (saidBy_expr A [] hverb).trans (List.append_nil _)
  | .guarded guard cond body => by
      rw [Stmt.judgements, saidBy_expr A _ (guard.judge_findings A cond),
        body.judgements_findings ret, Stmt.sites, ← findingsOf_append, List.append_assoc,
        List.singleton_append]
  | .ifElse cond yes no => by
      rw [Stmt.judgements, saidBy_expr A _ (Guard.branch.judge_findings A cond), saidBy_append,
        yes.judgements_findings ret, no.judgements_findings ret, Stmt.sites, ← findingsOf_append,
        ← findingsOf_append, List.append_assoc, List.singleton_append]
  | .ret none loc => by
      have hret : (returnRule ret none).findings loc = (Site.ret ret none loc).findings A :=
        Verdict.findings_of_inspection (i := ⟨[], loc, _⟩) (problem?_returnRule _ _)
      rw [Stmt.judgements, Stmt.sites, findingsOf_singleton, ← hret]
      exact (congrArg (List.map Complaint.finding) (List.append_nil _)).trans (map_blame _ _)
  | .ret (some value) loc => by
      have hret : (returnRule ret (some value.ty)).findings value.loc =
          (Site.ret ret (some value) loc).findings A :=
        Verdict.findings_of_inspection (i := ⟨[value], value.loc, _⟩) (problem?_returnRule _ _)
      exact (saidBy_expr A [] hret).trans (List.append_nil _)

theorem Stmt.judgementsOfAll_findings (ret : Ty) : ∀ ss : List Stmt,
    saidBy A (Stmt.judgementsOfAll ret ss) = findingsOf A (Stmt.sitesOfAll ret ss)
  | [] => rfl
  | s :: ss => by
      rw [Stmt.judgementsOfAll, Stmt.sitesOfAll, saidBy_append, findingsOf_append,
        s.judgements_findings ret, Stmt.judgementsOfAll_findings ret ss]

end

/-- **What type checking says of a tree** are the findings of the points of the tree, in order. -/
theorem Program.complaints_findings (p : Program) :
    (p.complaints A).map Complaint.finding = findingsOf A p.sites := by
  have hdecl : ∀ d : Decl, saidBy A d.judgements = findingsOf A d.sites := by
    intro d
    cases d with
    | fn f => exact f.body.judgements_findings A f.ret.returned
    | _ => rfl
  unfold complaints judgements sites
  induction p.decls with
  | nil => rfl
  | cons d ds ih =>
      rw [List.flatMap_cons, List.flatMap_append, List.map_append, List.flatMap_cons,
        findingsOf_append, ih]
      exact congrArg (· ++ _) (hdecl d)

end

/-! ## Every expression is inspected at one point -/

/-- The expressions that stand directly at the points, in order. -/
def operandsOf (sites : List Site) : List Expr := sites.flatMap Site.operands

@[simp] lemma operandsOf_append (ss ts : List Site) :
    operandsOf (ss ++ ts) = operandsOf ss ++ operandsOf ts := List.flatMap_append

lemma operandsOf_singleton (s : Site) : operandsOf [s] = s.operands := List.append_nil _

section

variable {α : Type}

/-- What stands behind the points of its parts, in front of them. -/
lemma perm_of_operand {a : α} {as xs : List α} (h : (a :: as).Perm xs) : (as ++ [a]).Perm xs :=
  (List.perm_append_singleton a as).trans h

lemma perm_of_operands {a b : α} {as bs xs ys : List α} (ha : (a :: as).Perm xs)
    (hb : (b :: bs).Perm ys) : (as ++ bs ++ [a, b]).Perm (xs ++ ys) := by
  have hfront : (as ++ bs ++ [a, b]).Perm ([a, b] ++ (as ++ bs)) := List.perm_append_comm
  have hmiddle : (b :: (as ++ bs)).Perm (as ++ b :: bs) := List.perm_middle.symm
  exact hfront.trans ((hmiddle.cons a).trans (ha.append hb))

end

mutual

theorem Expr.operands_perm : ∀ e : Expr, (e :: operandsOf e.sites).Perm e.exprs
  | .lit _ _ => .refl _
  | .name _ _ => .refl _
  | .dot base _ _ _ => by
      rw [sites, operandsOf_append, operandsOf_singleton]
      exact (perm_of_operand base.operands_perm).cons _
  | .assign target value _ => by
      rw [sites, operandsOf_append, operandsOf_append, operandsOf_singleton]
      exact (perm_of_operands target.operands_perm value.operands_perm).cons _
  | .call callee args _ => by
      rw [sites, operandsOf_append, operandsOf_singleton]
      exact (Expr.operandsOfAll_perm args).cons _
  | .unary _ operand _ => by
      rw [sites, operandsOf_append, operandsOf_singleton]
      exact (perm_of_operand operand.operands_perm).cons _
  | .binary _ left right _ => by
      rw [sites, operandsOf_append, operandsOf_append, operandsOf_singleton]
      exact (perm_of_operands left.operands_perm right.operands_perm).cons _

theorem Expr.operandsOfAll_perm : ∀ es : List Expr,
    (operandsOf (Expr.sitesOfAll es) ++ es).Perm (Expr.exprsOfAll es)
  | [] => .refl _
  | e :: es => by
      rw [Expr.sitesOfAll, operandsOf_append]
      refine List.perm_middle.trans ?_
      rw [List.append_assoc]
      exact e.operands_perm.append (Expr.operandsOfAll_perm es)

end

mutual

theorem Block.operands_perm (ret : Ty) : ∀ b : Block, (operandsOf (b.sites ret)).Perm b.exprs
  | .mk _ stmts => Stmt.operandsOfAll_perm ret stmts

theorem Stmt.operands_perm (ret : Ty) : ∀ s : Stmt, (operandsOf (s.sites ret)).Perm s.exprs
  | .simple verb e => by
      rw [Stmt.sites, operandsOf_append, operandsOf_singleton]
      exact perm_of_operand e.operands_perm
  | .guarded guard cond body => by
      rw [Stmt.sites, List.append_cons, operandsOf_append, operandsOf_append, operandsOf_singleton]
      exact (perm_of_operand cond.operands_perm).append (body.operands_perm ret)
  | .ifElse cond yes no => by
      rw [Stmt.sites, List.append_cons, operandsOf_append, operandsOf_append, operandsOf_append,
        operandsOf_singleton, ← List.append_assoc]
      exact ((perm_of_operand cond.operands_perm).append (yes.operands_perm ret)).append
        (no.operands_perm ret)
  | .ret none _ => .refl _
  | .ret (some value) _ => by
      rw [Stmt.sites, operandsOf_append, operandsOf_singleton]
      exact perm_of_operand value.operands_perm

theorem Stmt.operandsOfAll_perm (ret : Ty) : ∀ ss : List Stmt,
    (operandsOf (Stmt.sitesOfAll ret ss)).Perm (Stmt.exprsOfAll ss)
  | [] => .refl _
  | s :: ss => by
      rw [Stmt.sitesOfAll, operandsOf_append]
      exact (s.operands_perm ret).append (Stmt.operandsOfAll_perm ret ss)

end

/-- Every expression of a tree stands directly at exactly one point of it. -/
theorem Program.operands_perm (p : Program) : (operandsOf p.sites).Perm p.exprs := by
  have hdecl : ∀ d : Decl, (operandsOf d.sites).Perm d.exprs := by
    intro d
    cases d with
    | fn f => exact f.body.operands_perm f.ret.returned
    | _ => exact .refl _
  unfold sites exprs
  induction p.decls with
  | nil => exact .refl _
  | cons d ds ih =>
      rw [List.flatMap_cons, List.flatMap_cons, operandsOf_append]
      exact (hdecl d).append ih

lemma flatMap_subjects_inspected (objection : Expr → Ty → Option Problem) (es : List Expr) :
    (es.map fun e => e.inspected (objection e)).flatMap Inspection.subjects = es := by
  rw [List.flatMap_map]
  exact List.flatMap_singleton' es

lemma flatMap_subjects_zipWith {objection : Ty → Ty → Option Problem} :
    ∀ {args : List Expr} {params : List Ty}, args.length = params.length →
    (List.zipWith (fun arg param => arg.inspected (objection param)) args params).flatMap
      Inspection.subjects = args
  | [], _, _ => rfl
  | _ :: _, [], hlen => nomatch hlen
  | arg :: _, _ :: _, hlen =>
      congrArg (List.cons arg) (flatMap_subjects_zipWith (Nat.succ.inj hlen))

lemma Ident.subjects_argInspections (callee : Ident) (args : List Expr) (ty : Ty) :
    (callee.argInspections args ty).flatMap Inspection.subjects = args := by
  have hunasked := flatMap_subjects_inspected (fun _ _ => none) args
  cases ty with
  | fn params ret =>
      simp only [argInspections]
      split
      next hlen => exact flatMap_subjects_zipWith hlen
      next => exact hunasked
  | _ => exact hunasked

/-- A point inspects just the expressions that stand at it, each of them once. -/
theorem Site.subjects_inspections (A : Arena) (s : Site) :
    (s.inspections A).flatMap Inspection.subjects = s.operands := by
  cases s with
  | callee id => rfl
  | simple verb e => rfl
  | condition guard cond => rfl
  | ret ty value loc => exact List.append_nil _
  | expr e =>
      cases e with
      | call callee args note => exact callee.subjects_argInspections args _
      | binary op left right note =>
          simp only [inspections, Expr.inspections]
          cases op.family <;> rfl
      | _ => rfl

/-! ## Every expression has a point of its own -/

/-- The expression whose rule is applied at the point. -/
def Site.expr? : Site → Option Expr
  | expr e => some e
  | _ => none

/-- The expressions whose rules are applied at the points, in order. -/
def judgedAt (sites : List Site) : List Expr := sites.filterMap Site.expr?

@[simp] lemma judgedAt_append (ss ts : List Site) :
    judgedAt (ss ++ ts) = judgedAt ss ++ judgedAt ts := List.filterMap_append

lemma perm_of_last {α : Type} {a : α} {as xs : List α} (h : as.Perm xs) :
    (as ++ [a]).Perm (a :: xs) :=
  (List.perm_append_singleton a as).trans (h.cons a)

mutual

theorem Expr.judgedAt_perm : ∀ e : Expr, (judgedAt e.sites).Perm e.exprs
  | .lit _ _ => .refl _
  | .name _ _ => .refl _
  | .dot base _ _ _ => by
      rw [sites, judgedAt_append]
      exact perm_of_last base.judgedAt_perm
  | .assign target value _ => by
      rw [sites, judgedAt_append, judgedAt_append]
      exact perm_of_last (target.judgedAt_perm.append value.judgedAt_perm)
  | .call _ args _ => by
      rw [sites, judgedAt_append]
      exact perm_of_last (Expr.judgedAtAll_perm args)
  | .unary _ operand _ => by
      rw [sites, judgedAt_append]
      exact perm_of_last operand.judgedAt_perm
  | .binary _ left right _ => by
      rw [sites, judgedAt_append, judgedAt_append]
      exact perm_of_last (left.judgedAt_perm.append right.judgedAt_perm)

theorem Expr.judgedAtAll_perm : ∀ es : List Expr,
    (judgedAt (Expr.sitesOfAll es)).Perm (Expr.exprsOfAll es)
  | [] => .refl _
  | e :: es => by
      rw [Expr.sitesOfAll, judgedAt_append]
      exact e.judgedAt_perm.append (Expr.judgedAtAll_perm es)

end

mutual

theorem Block.judgedAt_perm (ret : Ty) : ∀ b : Block, (judgedAt (b.sites ret)).Perm b.exprs
  | .mk _ stmts => Stmt.judgedAtAll_perm ret stmts

theorem Stmt.judgedAt_perm (ret : Ty) : ∀ s : Stmt, (judgedAt (s.sites ret)).Perm s.exprs
  | .simple verb e => by
      rw [Stmt.sites, judgedAt_append]
      exact (List.append_nil _).symm ▸ e.judgedAt_perm
  | .guarded _ cond body => by
      rw [Stmt.sites, judgedAt_append]
      exact cond.judgedAt_perm.append (body.judgedAt_perm ret)
  | .ifElse cond yes no => by
      rw [Stmt.sites, judgedAt_append, Stmt.exprs, List.append_assoc]
      refine cond.judgedAt_perm.append ?_
      show (judgedAt (yes.sites ret ++ no.sites ret)).Perm _
      rw [judgedAt_append]
      exact (yes.judgedAt_perm ret).append (no.judgedAt_perm ret)
  | .ret none _ => .refl _
  | .ret (some value) _ => by
      rw [Stmt.sites, judgedAt_append]
      exact (List.append_nil _).symm ▸ value.judgedAt_perm

theorem Stmt.judgedAtAll_perm (ret : Ty) : ∀ ss : List Stmt,
    (judgedAt (Stmt.sitesOfAll ret ss)).Perm (Stmt.exprsOfAll ss)
  | [] => .refl _
  | s :: ss => by
      rw [Stmt.sitesOfAll, judgedAt_append]
      exact (s.judgedAt_perm ret).append (Stmt.judgedAtAll_perm ret ss)

end

/-- The rule for an expression is applied at exactly one point of the tree. -/
theorem Program.judgedAt_perm (p : Program) : (judgedAt p.sites).Perm p.exprs := by
  have hdecl : ∀ d : Decl, (judgedAt d.sites).Perm d.exprs := by
    intro d
    cases d with
    | fn f => exact f.body.judgedAt_perm f.ret.returned
    | _ => exact .refl _
  unfold sites exprs
  induction p.decls with
  | nil => exact .refl _
  | cons d ds ih =>
      rw [List.flatMap_cons, List.flatMap_cons, judgedAt_append]
      exact (hdecl d).append ih

lemma Program.expr_mem_sites {p : Program} {e : Expr} (he : e ∈ p.exprs) : .expr e ∈ p.sites := by
  obtain ⟨site, hsite, heq⟩ := List.mem_filterMap.1 (p.judgedAt_perm.mem_iff.2 he)
  cases site with
  | expr x =>
      obtain rfl := Option.some.inj heq
      exact hsite
  | _ => cases heq

end StructLang
