import StructLang.Diagnostic.Problem
import StructLang.Tree.Basic

/-!
# Typing rules

The rules say of types alone what is right, what is wrong and what to report. A rule answers with a
`Verdict`, and the third answer beside yes and no is the important one: something that the rule
looks at is already known to be wrong. It is then not accepted, but nothing is reported either, so
that one mistake is one message.

* `OperandRule` — what an operator asks of each operand by itself: `-`, `!`, arithmetic, logical
  and relational operators, `++` and `--`, and conditions.
* `assignRule`, `equalityRule` — what the two sides must be together.
* `readRule`, `writeRule`, `returnRule`, `argRule` — statements and arguments.
-/

namespace StructLang

/-- A mistake at a place. -/
structure Finding where
  loc : Location
  problem : Problem
  deriving DecidableEq

/-- What a rule says. -/
inductive Verdict where
  | accepted
  /-- Something that the rule looks at has been reported already. -/
  | excused
  | rejected (problem : Problem)
  deriving DecidableEq

namespace Verdict

def isAccepted (v : Verdict) : Bool := v = accepted

/-- What is to be reported at the place that the rule is about. -/
def findings (loc : Location) : Verdict → List Finding
  | rejected problem => [{ loc, problem }]
  | _ => []

/-- The type, if the rule accepts, and an error if not. -/
def grant (ty : Ty) (v : Verdict) : Ty := if v.isAccepted then ty else .error

end Verdict

/-- What an operator asks of an operand, what is reported of one that is not so, and the type of
the result. -/
structure OperandRule where
  wants : Ty → Bool
  problem : Problem
  result : Ty

namespace OperandRule

/-- An operand that is already wrong is excused. -/
def judge (rule : OperandRule) (ty : Ty) : Verdict :=
  if ty.isError then .excused
  else if rule.wants ty then .accepted
  else .rejected rule.problem

def arithmetic : OperandRule := ⟨Ty.isInt, .arithmeticOperand, .int⟩

def logical : OperandRule := ⟨Ty.isBool, .logicalOperand, .bool⟩

def relational : OperandRule := ⟨Ty.isInt, .relationalOperand, .bool⟩

end OperandRule

def UnaryOp.rule : UnaryOp → OperandRule
  | neg => .arithmetic
  | not => .logical

/-- The rule for each operand of a family; equality has none, since it looks at both sides
together. -/
def Family.rule? : Family → Option OperandRule
  | arithmetic => some .arithmetic
  | logical => some .logical
  | relational => some .relational
  | equality => none

/-- The condition of a statement must be a truth value. -/
def Guard.rule : Guard → OperandRule
  | branch => ⟨Ty.isBool, .ifCondition, .bool⟩
  | loop => ⟨Ty.isBool, .whileCondition, .bool⟩

/-- Both sides of an assignment are numbers or both are truth values. -/
def assignRule (target value : Ty) : Verdict :=
  if target.isError || value.isError then .excused
  else if target.isFn && value.isFn then .rejected .assignFn
  else if target.isStructDef && value.isStructDef then .rejected .assignStructName
  else if target.isStruct && value.isStruct then .rejected .assignStruct
  else if target.sameScalar value then .accepted
  else .rejected .typeMismatch

/-- Both sides of an equality are numbers or both are truth values. -/
def equalityRule (left right : Ty) : Verdict :=
  if left.isError || right.isError then .excused
  else if left.isVoid && right.isVoid then .rejected .equalityOfVoid
  else if left.isFn && right.isFn then .rejected .equalityOfFns
  else if left.isStructDef && right.isStructDef then .rejected .equalityOfStructNames
  else if left.isStruct && right.isStruct then .rejected .equalityOfStructs
  else if left.sameScalar right then .accepted
  else .rejected .typeMismatch

/-- Only a function can be called. -/
def calleeRule : Ty → Verdict
  | .fn _ _ => .accepted
  | .error => .excused
  | _ => .rejected .callNonFn

/-- An argument and its formal are both numbers or both truth values. -/
def argRule (actual formal : Ty) : Verdict :=
  if actual.isError || formal.isError then .excused
  else if actual.sameScalar formal then .accepted
  else .rejected .argMismatch

/-- What cannot be read into. -/
def readRule : Ty → Verdict
  | .error => .excused
  | .fn _ _ => .rejected .readFn
  | .structDef _ => .rejected .readStructName
  | .struct _ => .rejected .readStruct
  | .string => .rejected .readString
  | _ => .accepted

/-- What cannot be written out. -/
def writeRule : Ty → Verdict
  | .error => .excused
  | .fn _ _ => .rejected .writeFn
  | .structDef _ => .rejected .writeStructName
  | .struct _ => .rejected .writeStruct
  | .void => .rejected .writeVoid
  | _ => .accepted

/-- A `return` in a function of return type `ret`, with a value of the given type or without one.
That a function returning nothing returns a value is wrong whatever the value is. -/
def returnRule (ret : Ty) : Option Ty → Verdict
  | some value =>
    if ret.isVoid then .rejected .valueFromVoid
    else if value.isError || ret.isError then .excused
    else if value.agrees ret then .accepted
    else .rejected .badValue
  | none =>
    if ret.isVoid then .accepted
    else if ret.isError then .excused
    else .rejected .missingValue

/-- What a simple statement asks of its expression. An assignment or a call was judged as an
expression, and only has to be right. -/
def Verb.judge : Verb → Ty → Verdict
  | assign, ty | call, ty => if ty.isError then .excused else .accepted
  | increment, ty | decrement, ty => OperandRule.arithmetic.judge ty
  | read, ty => readRule ty
  | write, ty => writeRule ty

def Literal.ty : Literal → Ty
  | int _ => .int
  | string _ => .string
  | bool _ => .bool

/-- What is wrong with the arguments of a call, each at its own place. -/
def argFindings (args : List Expr) (params : List Ty) : List Finding :=
  (args.zip params).flatMap fun (arg, formal) => (argRule arg.ty formal).findings arg.loc

/-- The type of a binary expression and what is wrong with it, from the types of its operands. -/
def judgeBinary (op : BinaryOp) (left right : Expr) : Ty × List Finding :=
  match op.family.rule? with
  | some rule =>
    let l := rule.judge left.ty
    let r := rule.judge right.ty
    (if l.isAccepted && r.isAccepted then rule.result else .error,
      l.findings left.loc ++ r.findings right.loc)
  | none =>
    let v := equalityRule left.ty right.ty
    (v.grant .bool, v.findings left.loc)

/-- The type of a call and what is wrong with its arguments, from the type of the callee. A call
of a function is of the function's return type, however wrong its arguments are. -/
def judgeCall (callee : Ident) (calleeTy : Ty) (args : List Expr) : Ty × List Finding :=
  match calleeTy with
  | .fn params ret =>
    (ret,
      if args.length = params.length then argFindings args params
      else [{ loc := callee.loc, problem := .argCount }])
  | _ => (.error, [])

end StructLang
