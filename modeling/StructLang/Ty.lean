/-!
# Types of expressions

The language is nominal: a struct type is its name, and a function type is the list of its
parameter types and its result. Beside the types of values there are types for what may stand
where a value is expected without being one (a struct's name, a function), so that a rule can say
*which* wrong thing stands there, and the type `Ty.error` of an expression that has already been
reported.

* `Ty.agrees` — the equality of the language: structural, except that `Ty.error` agrees with
  nothing, itself included, however deep it is nested. A comparison against a broken type
  therefore never succeeds by accident.
* `Ty.render` — the text of a type: `int`, `Point`, `int,bool->void`.
-/

namespace StructLang

/-- The type of an expression. -/
inductive Ty where
  | int
  | bool
  | void
  /-- The type of a string literal. -/
  | string
  /-- A variable of the named struct type. -/
  | struct (name : String)
  /-- The name of a struct type, standing where a value is expected. -/
  | structDef (name : String)
  | fn (params : List Ty) (ret : Ty)
  /-- An expression whose fault has been reported; it is never reported again. -/
  | error
  deriving Inhabited

namespace Ty

def isError : Ty → Bool
  | error => true
  | _ => false

def isInt : Ty → Bool
  | int => true
  | _ => false

def isBool : Ty → Bool
  | bool => true
  | _ => false

def isVoid : Ty → Bool
  | void => true
  | _ => false

def isFn : Ty → Bool
  | fn _ _ => true
  | _ => false

/-- A variable of struct type, as opposed to the name of one. -/
def isStruct : Ty → Bool
  | struct _ => true
  | _ => false

def isStructDef : Ty → Bool
  | structDef _ => true
  | _ => false

/-- The two types that values are computed with. Only they can be assigned, compared for
equality and passed to functions, each with its own kind. -/
def sameScalar (a b : Ty) : Bool :=
  a.isInt && b.isInt || a.isBool && b.isBool

mutual

/-- Equality in the sense of the language: structural, but `error` agrees with nothing. -/
def agrees : Ty → Ty → Bool
  | int, int => true
  | bool, bool => true
  | void, void => true
  | string, string => true
  | struct a, struct b => a == b
  | structDef a, structDef b => a == b
  | fn ps r, fn qs s => agreesAll ps qs && agrees r s
  | _, _ => false

/-- Two lists of equal length whose members agree in pairs. -/
def agreesAll : List Ty → List Ty → Bool
  | [], [] => true
  | p :: ps, q :: qs => agrees p q && agreesAll ps qs
  | _, _ => false

end

mutual

/-- The text of a type. A struct variable and the struct's own name read alike, and a function
shows its parameters, separated by commas, before the arrow. -/
def render : Ty → String
  | int => "int"
  | bool => "bool"
  | void => "void"
  | string => "String"
  | struct name => name
  | structDef name => name
  | fn ps r => ",".intercalate (renderAll ps) ++ "->" ++ render r
  | error => "error"

/-- The texts of a list of types, in order. -/
def renderAll : List Ty → List String
  | [] => []
  | p :: ps => render p :: renderAll ps

end

@[simp] theorem agrees_error_left (t : Ty) : agrees error t = false := by
  cases t <;> rfl

@[simp] theorem agrees_error_right (t : Ty) : agrees t error = false := by
  cases t <;> rfl

end Ty

end StructLang
