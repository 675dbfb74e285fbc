/-!
# What can be wrong with a program

The mistakes that the analysis reports, each with the text that the user reads. The first group
belongs to name resolution, the rest to type checking.
-/

namespace StructLang

/-- A mistake in the analysed program. -/
inductive Problem where
  /-- A variable, formal or field is declared `void`. -/
  | voidVariable
  /-- A declared type names no struct. -/
  | invalidStructName
  /-- The scope already holds the declared name. -/
  | duplicateDeclaration
  /-- No visible declaration has the name. -/
  | undeclared
  /-- What stands left of a dot is not a variable of struct type. -/
  | dotOnNonStruct
  /-- The struct left of a dot has no field of that name. -/
  | invalidField
  | arithmeticOperand
  | logicalOperand
  | relationalOperand
  | equalityOfVoid
  | equalityOfFns
  | equalityOfStructNames
  | equalityOfStructs
  /-- The two sides of an assignment or an equality are of different kinds, or of a kind that can
  be neither assigned nor compared. -/
  | typeMismatch
  | assignFn
  | assignStructName
  | assignStruct
  | callNonFn
  | argCount
  | argMismatch
  | readFn
  | readStructName
  | readStruct
  | readString
  | writeFn
  | writeStructName
  | writeStruct
  | writeVoid
  | ifCondition
  | whileCondition
  /-- A `return` with a value stands in a function that returns none. -/
  | valueFromVoid
  /-- A `return` without a value stands in a function that returns one. -/
  | missingValue
  /-- The returned value is not of the function's return type. -/
  | badValue
  deriving DecidableEq, Inhabited

/-- The text that the user reads. -/
def Problem.message : Problem → String
  | voidVariable => "Non-function declared void"
  | invalidStructName => "Invalid name of struct type"
  | duplicateDeclaration => "Multiply declared identifier"
  | undeclared => "Undeclared identifier"
  | dotOnNonStruct => "Dot-access of non-struct type"
  | invalidField => "Invalid struct field name"
  | arithmeticOperand => "Arithmetic operator applied to non-numeric operand"
  | logicalOperand => "Logical operator applied to non-bool operand"
  | relationalOperand => "Relational operator applied to non-numeric operand"
  | equalityOfVoid => "Equality operator applied to void functions"
  | equalityOfFns => "Equality operator applied to functions"
  | equalityOfStructNames => "Equality operator applied to struct names"
  | equalityOfStructs => "Equality operator applied to struct variables"
  | typeMismatch => "Type mismatch"
  | assignFn => "Function assignment"
  | assignStructName => "Struct name assignment"
  | assignStruct => "Struct variable assignment"
  | callNonFn => "Attempt to call a non-function"
  | argCount => "Function call with wrong number of args"
  | argMismatch => "Type of actual does not match type of formal"
  | readFn => "Attempt to read a function"
  | readStructName => "Attempt to read a struct name"
  | readStruct => "Attempt to read a struct variable"
  | readString => "Attempt to read a string literal"
  | writeFn => "Attempt to write a function"
  | writeStructName => "Attempt to write a struct name"
  | writeStruct => "Attempt to write a struct variable"
  | writeVoid => "Attempt to write void"
  | ifCondition => "Non-bool expression used as an if condition"
  | whileCondition => "Non-bool expression used as a while condition"
  | valueFromVoid => "Return with a value in a void function"
  | missingValue => "Missing return value"
  | badValue => "Bad return value"

end StructLang
