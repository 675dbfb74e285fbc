import Mathlib.Tactic.Common
import StructLang.Tree.Build
import StructLang.Tree.Walk
import StructLang.Typing.Check

/-!
# What type checking reads

Type checking runs after the scopes of name resolution are gone, and it need not miss them: all that
it learns of an identifier is the symbol that its use is bound to.  The *outline* of a program is
what is left if everything else is struck out, that is the names of the identifiers that are used,
the values of literals, the flags of dot accesses, which operator of its family an operator is, all
formals and local declarations, and every declaration of the program that is not a function.

* `Visitor.Blind` — a pass that does the same at a node and at its outline does the same to a tree
  and to its outline (`Expr.visit_outline`, `Block.visit_outline`).
* `checkProgram_outline` — type checking is such a pass.
* `typeChecking_reads_outline` — so it cannot tell programs of one outline from each other.
-/

namespace StructLang

/-! ## Outlines -/

/-- The kind of literal, shown by a value of that kind. -/
def Literal.outline : Literal → Literal
  | int _ => .int 0
  | string _ => .string ""
  | bool _ => .bool false

/-- The place and the symbol of an identifier, without its name. -/
def Ident.outline (id : Ident) : Ident := { id with name := "" }

/-- The family of an operator, shown by one of its members. -/
def BinaryOp.outline (op : BinaryOp) : BinaryOp :=
  match op.family with
  | .arithmetic => .add
  | .logical => .and
  | .relational => .lt
  | .equality => .eq

mutual

/-- The expression without names, values, flags and the choice of operators in their families. -/
def Expr.outline : Expr → Expr
  | .lit value note => .lit value.outline note
  | .name id note => .name id.outline note
  | .dot base field _ note => .dot base.outline field.outline false note
  | .assign target value note => .assign target.outline value.outline note
  | .call callee args note => .call callee.outline (Expr.outlineAll args) note
  | .unary op operand note => .unary op operand.outline note
  | .binary op left right note => .binary op.outline left.outline right.outline note

/-- The outlines of the expressions of a list. -/
def Expr.outlineAll : List Expr → List Expr
  | [] => []
  | e :: es => e.outline :: Expr.outlineAll es

end

mutual

/-- The block without its declarations. -/
def Block.outline : Block → Block
  | .mk _ stmts => .mk [] (Stmt.outlineAll stmts)

/-- The statement over the outlines of its expressions and blocks. -/
def Stmt.outline : Stmt → Stmt
  | .simple verb e => .simple verb e.outline
  | .guarded guard cond body => .guarded guard cond.outline body.outline
  | .ifElse cond yes no => .ifElse cond.outline yes.outline no.outline
  | .ret none loc => .ret none loc
  | .ret (some value) loc => .ret (some value.outline) loc

/-- The outlines of the statements of a list. -/
def Stmt.outlineAll : List Stmt → List Stmt
  | [] => []
  | s :: ss => s.outline :: Stmt.outlineAll ss

end

/-- The function without its name and its formals. -/
def FnDecl.outline (f : FnDecl) : FnDecl :=
  { ret := f.ret, id := default, formals := [], body := f.body.outline }

/-- The outline of a function; no other declaration has one. -/
def Decl.outline? : Decl → Option Decl
  | .fn f => some (.fn f.outline)
  | _ => none

/-- The outlines of the functions of a program, in order. -/
def Program.outline (p : Program) : Program := { decls := p.decls.filterMap Decl.outline? }

/-! ## Parts of outlines -/

lemma BinaryOp.family_outline (op : BinaryOp) : op.outline.family = op.family := by
  cases op <;> rfl

lemma Expr.outlineAll_eq_map (es : List Expr) : outlineAll es = es.map outline := by
  induction es with
  | nil => rfl
  | cons e es ih => rw [outlineAll, List.map_cons, ih]

namespace Expr

@[simp] lemma note_outline (e : Expr) : e.outline.note = e.note := by
  cases e <;> simp only [outline, note]

@[simp] lemma ty_outline (e : Expr) : e.outline.ty = e.ty := by
  simp only [ty, ty?, note_outline]

@[simp] lemma ty?_outline (e : Expr) : e.outline.ty? = e.ty? := by
  simp only [ty?, note_outline]

@[simp] lemma loc_outline (e : Expr) : e.outline.loc = e.loc := by
  simp only [loc, note_outline]

lemma withNote_outline (n : Note) (e : Expr) : e.outline.withNote n = (e.withNote n).outline := by
  cases e <;> simp only [outline, withNote]

end Expr

/-! ## The expressions of an outline -/

mutual

theorem Expr.exprs_outline : ∀ e : Expr, e.outline.exprs = e.exprs.map outline
  | .lit _ _ => rfl
  | .name _ _ => rfl
  | .dot base _ _ _ => by
    simp only [outline, exprs, base.exprs_outline, List.map_cons]
  | .assign target value _ => by
    simp only [outline, exprs, target.exprs_outline, value.exprs_outline, List.map_cons,
      List.map_append]
  | .call _ args _ => by
    simp only [outline, exprs, Expr.exprsOfAll_outline args, List.map_cons]
  | .unary _ operand _ => by
    simp only [outline, exprs, operand.exprs_outline, List.map_cons]
  | .binary _ left right _ => by
    simp only [outline, exprs, left.exprs_outline, right.exprs_outline, List.map_cons,
      List.map_append]

theorem Expr.exprsOfAll_outline :
    ∀ es : List Expr, exprsOfAll (outlineAll es) = (exprsOfAll es).map outline
  | [] => rfl
  | e :: es => by
    simp only [outlineAll, exprsOfAll, e.exprs_outline, Expr.exprsOfAll_outline es,
      List.map_append]

end

mutual

theorem Block.exprs_outline : ∀ b : Block, b.outline.exprs = b.exprs.map Expr.outline
  | .mk _ stmts => by simp only [Block.outline, Block.exprs, Stmt.exprsOfAll_outline stmts]

theorem Stmt.exprs_outline : ∀ s : Stmt, s.outline.exprs = s.exprs.map Expr.outline
  | .simple _ e => by simp only [Stmt.outline, Stmt.exprs, e.exprs_outline]
  | .guarded _ cond body => by
    simp only [Stmt.outline, Stmt.exprs, cond.exprs_outline, body.exprs_outline, List.map_append]
  | .ifElse cond yes no => by
    simp only [Stmt.outline, Stmt.exprs, cond.exprs_outline, yes.exprs_outline, no.exprs_outline,
      List.map_append]
  | .ret none _ => rfl
  | .ret (some value) _ => by simp only [Stmt.outline, Stmt.exprs, value.exprs_outline]

theorem Stmt.exprsOfAll_outline :
    ∀ ss : List Stmt, Stmt.exprsOfAll (Stmt.outlineAll ss) = (Stmt.exprsOfAll ss).map Expr.outline
  | [] => rfl
  | s :: ss => by
    simp only [Stmt.outlineAll, Stmt.exprsOfAll, s.exprs_outline, Stmt.exprsOfAll_outline ss,
      List.map_append]

end

/-- A declaration that has no outline has no expressions either. -/
lemma Decl.exprs_outline (d : Decl) :
    d.outline?.toList.flatMap Decl.exprs = d.exprs.map Expr.outline := by
  cases d with
  | fn f => simp [outline?, exprs, FnDecl.outline, f.body.exprs_outline]
  | _ => rfl

lemma Program.exprs_outline (p : Program) : p.outline.exprs = p.exprs.map Expr.outline := by
  obtain ⟨ds⟩ := p
  show (ds.filterMap Decl.outline?).flatMap Decl.exprs = (ds.flatMap Decl.exprs).map Expr.outline
  induction ds with
  | nil => rfl
  | cons d ds ih =>
    rw [List.flatMap_cons, List.map_append, ← ih, ← d.exprs_outline, ← List.flatMap_append]
    cases d <;> rfl

/-- Programs of one outline have the same types at corresponding expressions. -/
lemma Program.types_eq_of_outline {p q : Program} (same : p.outline = q.outline) :
    p.exprs.map Expr.ty? = q.exprs.map Expr.ty? := by
  have h : p.outline.exprs.map Expr.ty? = q.outline.exprs.map Expr.ty? := by rw [same]
  simpa only [exprs_outline, List.map_map, Function.comp_def, Expr.ty?_outline] using h

/-! ## Passes that are blind beyond the outline -/

section

variable {σ : Type}

/-- What the pass does at a node it does at the outline of the node as well, and it does nothing at
local declarations. -/
structure Visitor.Blind (v : Visitor σ) : Prop where
  onName : ∀ id, v.onName id.outline = Ident.outline <$> v.onName id
  onCallee : ∀ id, v.onCallee id.outline = Ident.outline <$> v.onCallee id
  onField : ∀ base field failed, v.onField base.outline field.outline false =
    (fun found => (found.1.outline, false)) <$> v.onField base field failed
  onExpr : ∀ e, v.onExpr e.outline = v.onExpr e
  onLocal : ∀ d, v.onLocal d = pure d
  onSimple : ∀ verb e, v.onSimple verb e.outline = v.onSimple verb e
  onCondition : ∀ guard e, v.onCondition guard e.outline = v.onCondition guard e
  onReturn : ∀ value loc, v.onReturn (value.map Expr.outline) loc = v.onReturn value loc

namespace Visitor.Blind

variable {v : Visitor σ} (hv : v.Blind)
include hv

lemma finish (e : Expr) : v.finish e.outline = Expr.outline <$> v.finish e := by
  simp only [Visitor.finish, hv.onExpr, map_bind, map_pure, Expr.withNote_outline]

/-- The declarations of a block are passed over. -/
lemma mapM_onLocal (decls : List VarDecl) : decls.mapM v.onLocal = pure decls := by
  rw [funext hv.onLocal]
  exact (List.mapM_pure (f := id)).trans (congrArg pure (List.map_id decls))

end Visitor.Blind

mutual

theorem Expr.visit_outline {v : Visitor σ} (hv : v.Blind) :
    ∀ e : Expr, e.outline.visit v = outline <$> e.visit v
  | .lit value note => hv.finish (.lit value note)
  | .name id note => by
    simp only [outline, visit, hv.onName, map_bind, bind_map_left]
    exact bind_congr fun id => hv.finish (.name id note)
  | .dot base field failed note => by
    simp only [outline, visit, base.visit_outline hv, hv.onField _ _ failed, map_bind,
      bind_map_left]
    exact bind_congr fun base => bind_congr fun found => hv.finish (.dot base found.1 found.2 note)
  | .assign target value note => by
    simp only [outline, visit, target.visit_outline hv, value.visit_outline hv, map_bind,
      bind_map_left]
    exact bind_congr fun target => bind_congr fun value => hv.finish (.assign target value note)
  | .call callee args note => by
    simp only [outline, visit, hv.onCallee, Expr.visitAll_outline hv args, map_bind, bind_map_left]
    exact bind_congr fun callee => bind_congr fun args => hv.finish (.call callee args note)
  | .unary op operand note => by
    simp only [outline, visit, operand.visit_outline hv, map_bind, bind_map_left]
    exact bind_congr fun operand => hv.finish (.unary op operand note)
  | .binary op left right note => by
    simp only [outline, visit, left.visit_outline hv, right.visit_outline hv, map_bind,
      bind_map_left]
    exact bind_congr fun left => bind_congr fun right => hv.finish (.binary op left right note)

theorem Expr.visitAll_outline {v : Visitor σ} (hv : v.Blind) :
    ∀ es : List Expr, visitAll v (outlineAll es) = outlineAll <$> visitAll v es
  | [] => rfl
  | e :: es => by
    simp only [outlineAll, visitAll, e.visit_outline hv, Expr.visitAll_outline hv es, map_bind,
      bind_map_left, map_pure]

end

mutual

theorem Block.visit_outline {v : Visitor σ} (hv : v.Blind) :
    ∀ b : Block, b.outline.visit v = Block.outline <$> b.visit v
  | .mk decls stmts => by
    simp only [Block.outline, Block.visit, hv.mapM_onLocal, Stmt.visitAll_outline hv stmts,
      pure_bind, map_bind, bind_map_left, map_pure]

theorem Stmt.visit_outline {v : Visitor σ} (hv : v.Blind) :
    ∀ s : Stmt, s.outline.visit v = Stmt.outline <$> s.visit v
  | .simple verb e => by
    simp only [Stmt.outline, Stmt.visit, e.visit_outline hv, hv.onSimple, map_bind, bind_map_left,
      map_pure]
  | .guarded guard cond body => by
    simp only [Stmt.outline, Stmt.visit, cond.visit_outline hv, body.visit_outline hv,
      hv.onCondition, map_bind, bind_map_left, map_pure]
  | .ifElse cond yes no => by
    simp only [Stmt.outline, Stmt.visit, cond.visit_outline hv, yes.visit_outline hv,
      no.visit_outline hv, hv.onCondition, map_bind, bind_map_left, map_pure]
  | .ret none loc => by simp only [Stmt.outline, Stmt.visit, map_bind, map_pure]
  | .ret (some value) loc => by
    have hreturn (e : Expr) : v.onReturn (some e.outline) loc = v.onReturn (some e) loc :=
      hv.onReturn (some e) loc
    simp only [Stmt.outline, Stmt.visit, value.visit_outline hv, hreturn, map_bind, bind_map_left,
      map_pure]

theorem Stmt.visitAll_outline {v : Visitor σ} (hv : v.Blind) :
    ∀ ss : List Stmt, Stmt.visitAll v (Stmt.outlineAll ss) = Stmt.outlineAll <$> Stmt.visitAll v ss
  | [] => rfl
  | s :: ss => by
    simp only [Stmt.outlineAll, Stmt.visitAll, s.visit_outline hv, Stmt.visitAll_outline hv ss,
      map_bind, bind_map_left, map_pure]

end

end

/-! ## Type checking -/

section

variable (A : Arena)

lemma Ident.tyIn_outline (id : Ident) : id.outline.tyIn A = id.tyIn A := rfl

lemma argFindings_outline (args : List Expr) (params : List Ty) :
    argFindings (Expr.outlineAll args) params = argFindings args params := by
  simp only [argFindings, Expr.outlineAll_eq_map, List.zip_map_left, List.flatMap_map,
    Prod.map_fst, Prod.map_snd, id_eq, Expr.ty_outline, Expr.loc_outline]

lemma judgeCall_outline (callee : Ident) (ty : Ty) (args : List Expr) :
    judgeCall callee.outline ty (Expr.outlineAll args) = judgeCall callee ty args := by
  have hlength : (Expr.outlineAll args).length = args.length := by
    rw [Expr.outlineAll_eq_map, List.length_map]
  cases ty <;> simp only [judgeCall, hlength, argFindings_outline, Ident.outline]

lemma judgeBinary_outline (op : BinaryOp) (left right : Expr) :
    judgeBinary op.outline left.outline right.outline = judgeBinary op left right := by
  simp only [judgeBinary, op.family_outline, Expr.ty_outline, Expr.loc_outline]

/-- A judgement is passed on the outline of an expression. -/
lemma Expr.judge_outline (e : Expr) : e.outline.judge A = e.judge A := by
  cases e with
  | lit value note => cases value <;> rfl
  | name id note => rfl
  | dot base field failed note => simp only [outline, judge, Ident.tyIn_outline]
  | assign target value note => simp only [outline, judge, ty_outline, loc_outline]
  | call callee args note =>
    simp only [outline, judge, Ident.tyIn_outline, judgeCall_outline]
  | unary op operand note => simp only [outline, judge, ty_outline, loc_outline]
  | binary op left right note => simp only [outline, judge, judgeBinary_outline]

namespace Checking

lemma settle_outline (e : Expr) : settle A e.outline = settle A e := by
  simp only [settle, e.judge_outline, Expr.note_outline]

lemma checkCallee_outline (callee : Ident) :
    checkCallee A callee.outline = Ident.outline <$> checkCallee A callee := by
  simp only [checkCallee, Ident.tyIn_outline, map_bind, map_pure]
  rfl

lemma visitor_blind (ret : Ty) : (visitor A ret).Blind where
  onName _ := rfl
  onCallee := checkCallee_outline A
  onField _ _ _ := rfl
  onExpr := settle_outline A
  onLocal _ := rfl
  onSimple verb e := by simp only [visitor, Expr.ty_outline, Expr.loc_outline]
  onCondition guard e := by simp only [visitor, Expr.ty_outline, Expr.loc_outline]
  onReturn value loc := by
    cases value with
    | none => rfl
    | some e => simp only [visitor, Option.map_some, Expr.ty_outline, Expr.loc_outline]

/-- The body of a function is checked by its outline. -/
lemma checkDecl_outline (f : FnDecl) :
    checkDecl A (.fn f.outline) = (fun body => .fn { f.outline with body := body.outline }) <$>
      f.body.visit (visitor A f.ret.returned) := by
  simp only [checkDecl, FnDecl.outline, f.body.visit_outline (visitor_blind A _), bind_map_left]
  exact (map_eq_pure_bind _ _).symm

lemma mapM_checkDecl_outline (ds : List Decl) :
    (ds.filterMap Decl.outline?).mapM (checkDecl A) =
      List.filterMap Decl.outline? <$> ds.mapM (checkDecl A) := by
  induction ds with
  | nil => rfl
  | cons d ds ih =>
    cases d with
    | fn f =>
      have houtline : (Decl.fn f :: ds).filterMap Decl.outline? =
          .fn f.outline :: ds.filterMap Decl.outline? := rfl
      rw [houtline, List.mapM_cons, checkDecl_outline, ih]
      simp only [List.mapM_cons, checkDecl, map_bind, bind_map_left, map_pure, bind_assoc,
        pure_bind]
      rfl
    | _ =>
      simp only [Decl.outline?, List.filterMap_cons, ih, List.mapM_cons, checkDecl, pure_bind,
        map_eq_pure_bind, bind_assoc]

end Checking

/-- **Type checking of an outline** is type checking of the program, with the outline of the
tree that it leaves. -/
lemma checkProgram_outline (p : Program) :
    checkProgram A p.outline = Program.outline <$> checkProgram A p := by
  simp only [checkProgram, Program.outline, Checking.mapM_checkDecl_outline, map_bind,
    bind_map_left, map_pure]

end

/-- **Type checking reads nothing but outlines.**  Of two programs of one outline it makes the same,
over every arena and in every run: it comes to the same end, by itself or by a fault, with the same
verdict, and it has told the sink and the log the same.  The trees that it leaves have one outline
again, and store the same types at corresponding expressions. -/
theorem typeChecking_reads_outline {p q : Program} (same : p.outline = q.outline) (A : Arena)
    (s : Run Bool) :
    ((checkProgram A p).run s).2 = ((checkProgram A q).run s).2 ∧
    ((checkProgram A p).run s).1.outline = ((checkProgram A q).run s).1.outline ∧
    ((checkProgram A p).run s).1.exprs.map Expr.ty? =
      ((checkProgram A q).run s).1.exprs.map Expr.ty? := by
  have hrun (r : Program) : (checkProgram A r.outline).run s =
      (((checkProgram A r).run s).1.outline, ((checkProgram A r).run s).2) := by
    rw [checkProgram_outline]
    rfl
  obtain ⟨htree, hend⟩ := Prod.ext_iff.1 ((hrun p).symm.trans ((congrArg (fun r =>
    (checkProgram A r).run s) same).trans (hrun q)))
  exact ⟨hend, htree, Program.types_eq_of_outline htree⟩

/-- A number and a function that makes a number of a truth value, and no third symbol. -/
def numberFunctionNothing : Arena where
  symbols := #[{ name := "n", kind := .var .int }, { name := "f", kind := .fn [.bool] .int }]
  numbered := Nat.le_of_ble_eq_true rfl

/-- A body that puts the outcome of an operation on a call and a literal into a variable, and writes
out a field.  The symbols of variable and callee are those of `numberFunctionNothing`, and the one
of the field does not exist. -/
def operationBody (x f a : String) (op : BinaryOp) (value : Int32) (truth failed : Bool) :
    List Stmt :=
  let use (name : String) (h : UInt32) : Ident := { name, loc := .nowhere, binding := ⟨some ⟨h⟩⟩ }
  [.simple .assign (.set (.use (use x 0))
      (.applyBinary op (.apply (use f 1) [.literal (.int value) .nowhere])
        (.literal (.bool truth) .nowhere))),
    .simple .write (.dot (.use (use x 0)) (use a 2) failed { loc := .nowhere })]

/-- The function `g` puts `f(1) + true` into `x` and writes out `x.a`. -/
def sumInFunction : Program where
  decls := [.fn
    { ret := .void
      id := .unbound "g" .nowhere
      formals := []
      body := .mk [] (operationBody "x" "f" "a" .add 1 true false) }]

/-- Between two other declarations, the function `h` with a formal and a local variable puts
`l(2) * false` into `k` and writes out `k.m`, which could not be resolved. -/
def productInFunction : Program where
  decls := [.var { ty := .bool, id := .unbound "g" .nowhere },
    .fn
    { ret := .void
      id := .unbound "h" .nowhere
      formals := [{ ty := .int, id := .unbound "x" .nowhere }]
      body := .mk [{ ty := .bool, id := .unbound "x" .nowhere }]
        (operationBody "k" "l" "m" .mul 2 false true) },
    .struct { id := .unbound "h" .nowhere, fields := [] }]

/-- Over these bindings the two have the same mistakes, of the argument and of the right operand,
and type checking of both halts at the field. -/
theorem sum_reads_as_product :
    let start : Run Bool := { work := true, sink := {} }
    let first := (checkProgram numberFunctionNothing sumInFunction).run start
    let second := (checkProgram numberFunctionNothing productInFunction).run start
    sumInFunction.outline = productInFunction.outline ∧
      first.2 = second.2 ∧ first.1.outline = second.1.outline ∧
      first.1.exprs.map Expr.ty? = second.1.exprs.map Expr.ty? ∧
      first.2.halted = some (.dangling ⟨2⟩) ∧
      first.2.log.toList = [.checkingStarted, .reported .nowhere .argMismatch,
        .reported .nowhere .arithmeticOperand] := by
  have same : sumInFunction.outline = productInFunction.outline := rfl
  obtain ⟨hend, htree, htypes⟩ := typeChecking_reads_outline same numberFunctionNothing
    { work := true, sink := {} }
  exact ⟨same, hend, htree, htypes, rfl, rfl⟩

end StructLang
