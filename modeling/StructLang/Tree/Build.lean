import StructLang.Tree.Basic

/-!
# Building trees

Constructors that place a node where its source begins: an identifier at its name, a call at its
callee, and a dot access, an assignment or a binary operation at its left end. All slots start
empty and no flag is raised.
-/

namespace StructLang

/-- An identifier that is not bound. -/
def Ident.unbound (name : String) (loc : Location) : Ident := { name, loc }

namespace Expr

/-- A literal at a place. -/
def literal (value : Literal) (loc : Location) : Expr := lit value { loc }

/-- The use of an identifier, where the identifier stands. -/
def use (id : Ident) : Expr := name id { loc := id.loc }

/-- The access to a field, where the accessed expression begins. -/
def select (base : Expr) (field : Ident) : Expr := dot base field false { loc := base.loc }

/-- An assignment, where its target begins. -/
def set (target value : Expr) : Expr := assign target value { loc := target.loc }

/-- A call, where its callee stands. -/
def apply (callee : Ident) (args : List Expr) : Expr := call callee args { loc := callee.loc }

/-- A unary operation at a place, which is that of its operator. -/
def applyUnary (op : UnaryOp) (operand : Expr) (loc : Location) : Expr := unary op operand { loc }

/-- A binary operation, where its left operand begins. -/
def applyBinary (op : BinaryOp) (left right : Expr) : Expr :=
  binary op left right { loc := left.loc }

/-- The same expression at another place; its parts stay where they are. -/
def moveTo (loc : Location) (e : Expr) : Expr := e.withNote { e.note with loc }

/-- The same expression with a type in its slot. -/
def ofTy (ty : Ty) (e : Expr) : Expr := e.withNote { e.note with ty := { content := some ty } }

end Expr

end StructLang
