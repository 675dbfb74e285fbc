import StructLang.Run
import StructLang.Tree.Basic

/-!
# Traversing function bodies

Both passes go over statements and expressions in the same order: the parts of an expression
before the expression itself, left before right, a callee before its arguments, a condition before
the blocks that it decides, and the declarations of a block before its statements. A `Visitor` says
what a pass does at each kind of node, and the traversal supplies the order.

The traversal rebuilds the tree from what the visitor returns for identifiers, flags, expressions
and local declarations. Shape, operators and literals are copied, and the visitor cannot change
them.
-/

namespace StructLang

/-- What a pass does at the nodes of a function body. What it does not say is to leave the node as
it is. -/
structure Visitor (σ : Type) where
  /-- At a plain identifier. -/
  onName : Ident → Pass σ Ident := pure
  /-- At the callee of a call, before its arguments. -/
  onCallee : Ident → Pass σ Ident := pure
  /-- At the field and the flag of a dot access, after its base, which is given. -/
  onField : Expr → Ident → Bool → Pass σ (Ident × Bool) := fun _ field failed => pure (field, failed)
  /-- At an expression, after its parts: what is to stand in its note. -/
  onExpr : Expr → Pass σ Note := fun e => pure e.note
  /-- At a declaration of a block. -/
  onLocal : VarDecl → Pass σ VarDecl := pure
  /-- Before a block that a statement contains. -/
  onEnter : Pass σ Unit := pure ()
  /-- After a block that a statement contains. -/
  onLeave : Pass σ Unit := pure ()
  /-- At a simple statement, after its expression. -/
  onSimple : Verb → Expr → Pass σ Unit := fun _ _ => pure ()
  /-- At a condition, after its expression and before the blocks that it decides. -/
  onCondition : Guard → Expr → Pass σ Unit := fun _ _ => pure ()
  /-- At a `return`, after its value. -/
  onReturn : Option Expr → Location → Pass σ Unit := fun _ _ => pure ()

variable {σ : Type}

/-- Lets the visitor decide on the note of an expression whose parts have been visited. -/
def Visitor.finish (v : Visitor σ) (e : Expr) : Pass σ Expr := do
  return e.withNote (← v.onExpr e)

mutual

/-- Visits an expression after its parts. -/
def Expr.visit (v : Visitor σ) : Expr → Pass σ Expr
  | .lit value note => v.finish (.lit value note)
  | .name id note => do
    let id ← v.onName id
    v.finish (.name id note)
  | .dot base field failed note => do
    let base ← base.visit v
    let (field, failed) ← v.onField base field failed
    v.finish (.dot base field failed note)
  | .assign target value note => do
    let target ← target.visit v
    let value ← value.visit v
    v.finish (.assign target value note)
  | .call callee args note => do
    let callee ← v.onCallee callee
    let args ← Expr.visitAll v args
    v.finish (.call callee args note)
  | .unary op operand note => do
    let operand ← operand.visit v
    v.finish (.unary op operand note)
  | .binary op left right note => do
    let left ← left.visit v
    let right ← right.visit v
    v.finish (.binary op left right note)

/-- Visits the expressions of a list in order. -/
def Expr.visitAll (v : Visitor σ) : List Expr → Pass σ (List Expr)
  | [] => return []
  | e :: es => do
    let e ← e.visit v
    let es ← Expr.visitAll v es
    return e :: es

end

mutual

/-- Visits a block: its declarations, then its statements. -/
def Block.visit (v : Visitor σ) : Block → Pass σ Block
  | .mk decls stmts => do
    let decls ← decls.mapM v.onLocal
    let stmts ← Stmt.visitAll v stmts
    return .mk decls stmts

/-- Visits a statement. -/
def Stmt.visit (v : Visitor σ) : Stmt → Pass σ Stmt
  | .simple verb e => do
    let e ← e.visit v
    v.onSimple verb e
    return .simple verb e
  | .guarded guard cond body => do
    let cond ← cond.visit v
    v.onCondition guard cond
    v.onEnter
    let body ← body.visit v
    v.onLeave
    return .guarded guard cond body
  | .ifElse cond yes no => do
    let cond ← cond.visit v
    v.onCondition .branch cond
    v.onEnter
    let yes ← yes.visit v
    v.onLeave
    v.onEnter
    let no ← no.visit v
    v.onLeave
    return .ifElse cond yes no
  | .ret none loc => do
    v.onReturn none loc
    return .ret none loc
  | .ret (some value) loc => do
    let value ← value.visit v
    v.onReturn (some value) loc
    return .ret (some value) loc

/-- Visits the statements of a list in order. -/
def Stmt.visitAll (v : Visitor σ) : List Stmt → Pass σ (List Stmt)
  | [] => return []
  | s :: ss => do
    let s ← s.visit v
    let ss ← Stmt.visitAll v ss
    return s :: ss

end

end StructLang
