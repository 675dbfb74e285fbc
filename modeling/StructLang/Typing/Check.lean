import StructLang.Symbol.Arena
import StructLang.Tree.Traversal
import StructLang.Typing.Rules

/-!
# Type checking

The second pass gives every expression a type and judges every statement. It reads nothing of the
first pass but the symbols that identifiers are bound to; an identifier that is not bound was
reported there, and has the type `Ty.error` here.

The parts of an expression have their types before the expression is judged, and its type goes
into its own slot. So the rules of `StructLang.Typing.Rules` are applied to what the slots hold,
and the tree that the pass leaves tells the whole story. The working data of the pass is a single
truth value: whether every statement so far was accepted.
-/

namespace StructLang

/-- The type that the identifier's symbol gives it, and an error if it is bound to none. -/
def Ident.tyIn (symbols : Arena) (id : Ident) : Except Fault Ty :=
  match id.symbol? with
  | some symbol => symbols.typeOf symbol
  | none => .ok .error

/-- The type of an expression and what is wrong with it, from the types in the slots of its parts
and the symbols of its identifiers. That a callee is no function is not said here, but where the
callee is visited, before its arguments. -/
def Expr.judge (symbols : Arena) : Expr → Except Fault (Ty × List Finding)
  | .lit value _ => return (value.ty, [])
  | .name id _ => return (← id.tyIn symbols, [])
  | .dot _ field _ _ => return (← field.tyIn symbols, [])
  | .assign target value _ =>
    let v := assignRule target.ty value.ty
    return (v.grant target.ty, v.findings target.loc)
  | .call callee args _ => return judgeCall callee (← callee.tyIn symbols) args
  | .unary op operand _ =>
    let v := op.rule.judge operand.ty
    return (v.grant op.rule.result, v.findings operand.loc)
  | .binary op left right _ => return judgeBinary op left right

/-- The type of the values that a function returns, as its body is checked against. A struct name
that is not bound was reported, and is an error. -/
def TypeName.returned : TypeName → Ty
  | .int => .int
  | .bool => .bool
  | .void => .void
  | .struct name => if name.binding.isFilled then .struct name.name else .error

/-- A computation of type checking. Its working data is whether all statements were accepted. -/
abbrev Checking := Pass Bool

namespace Checking

open Pass

/-- Reports what was found, in order. -/
def reportAll (findings : List Finding) : Checking Unit :=
  findings.forM fun finding => report finding.loc finding.problem

/-- Reports what a rule about a statement says, and remembers whether it was accepted. -/
def conclude (loc : Location) (verdict : Verdict) : Checking Unit := do
  reportAll (verdict.findings loc)
  update (· && verdict.isAccepted)

/-- Reports a callee that is not a function. -/
def checkCallee (symbols : Arena) (callee : Ident) : Checking Ident := do
  let ty ← require (callee.tyIn symbols) .error
  reportAll ((calleeRule ty).findings callee.loc)
  return callee

/-- Judges an expression whose parts have their types, and puts its type into its slot. -/
def settle (symbols : Arena) (e : Expr) : Checking Note := do
  let (ty, findings) ← require (e.judge symbols) (.error, [])
  reportAll findings
  return { e.note with ty := ← fill e.note.ty ty }

/-- What type checking does in the body of a function of return type `ret`. -/
def visitor (symbols : Arena) (ret : Ty) : Visitor Bool where
  onCallee := checkCallee symbols
  onExpr := settle symbols
  onSimple verb e := conclude e.loc (verb.judge e.ty)
  onCondition guard cond := conclude cond.loc (guard.rule.judge cond.ty)
  onReturn value loc := conclude ((value.map Expr.loc).getD loc) (returnRule ret (value.map Expr.ty))

/-- Checks a declaration; only a function has anything to check. -/
def checkDecl (symbols : Arena) : Decl → Checking Decl
  | .fn f => do
    let body ← f.body.visit (visitor symbols f.ret.returned)
    return .fn { f with body }
  | decl => return decl

end Checking

open Pass Checking in
/-- Checks all functions of a program against the given symbols. Error count, sink and log of
earlier programs of the same run stay, and the verdict is about this program alone. -/
def checkProgram (symbols : Arena) (p : Program) : Checking Program := do
  modify (Run.restart true)
  note .checkingStarted
  let decls ← p.decls.mapM (checkDecl symbols)
  note (.checkingFinished (← get).errors)
  return { decls }

end StructLang
