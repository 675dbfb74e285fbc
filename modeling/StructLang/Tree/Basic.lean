import StructLang.Location
import StructLang.Slot
import StructLang.Ty

/-!
# The tree of a program

A program is a list of declarations: variables, structs and functions. A function body and the
branches of statements are blocks, that is declarations followed by statements.

The tree carries two kinds of slots that an analysis fills in: every identifier has one for the
symbol it is bound to, and every expression has one for its type. A dot access carries in addition
a flag that its field could not be resolved. Everything else of a tree is given by the source and
never changes.
-/

namespace StructLang

/-- A name where it stands in the source, with a slot for the symbol it denotes. -/
structure Ident where
  name : String
  loc : Location
  binding : Slot "binding" SymbolId := {}
  deriving DecidableEq, Inhabited

/-- A type as the source writes it. -/
inductive TypeName where
  | int
  | bool
  | void
  /-- The keyword `struct` and the name of a struct, which is bound to its definition. -/
  | struct (name : Ident)
  deriving DecidableEq, Inhabited

/-- The declaration of a variable, a formal or a field. -/
structure VarDecl where
  ty : TypeName
  id : Ident
  deriving DecidableEq, Inhabited

/-- A value that the source writes out. -/
inductive Literal where
  | int (value : Int32)
  | string (value : String)
  | bool (value : Bool)
  deriving DecidableEq

inductive UnaryOp where
  /-- Arithmetic negation. -/
  | neg
  /-- Logical negation. -/
  | not
  deriving DecidableEq

inductive BinaryOp where
  | add
  | sub
  | mul
  | div
  | and
  | or
  | eq
  | ne
  | lt
  | gt
  | le
  | ge
  deriving DecidableEq

/-- The families of binary operators; the members of one share a typing rule. -/
inductive Family where
  | arithmetic
  | logical
  | relational
  | equality
  deriving DecidableEq

def BinaryOp.family : BinaryOp → Family
  | add | sub | mul | div => .arithmetic
  | and | or => .logical
  | lt | gt | le | ge => .relational
  | eq | ne => .equality

/-- What every expression carries: its place and the slot for its type. -/
structure Note where
  loc : Location
  ty : Slot "type" Ty := {}
  deriving Inhabited

/-- An expression. -/
inductive Expr where
  | lit (value : Literal) (note : Note)
  | name (id : Ident) (note : Note)
  /-- The field of a struct. The flag is raised when the field cannot be resolved. -/
  | dot (base : Expr) (field : Ident) (failed : Bool) (note : Note)
  | assign (target value : Expr) (note : Note)
  | call (callee : Ident) (args : List Expr) (note : Note)
  | unary (op : UnaryOp) (operand : Expr) (note : Note)
  | binary (op : BinaryOp) (left right : Expr) (note : Note)

/-- What a statement does with the one expression that it consists of. -/
inductive Verb where
  | assign
  | increment
  | decrement
  | read
  | write
  | call
  deriving DecidableEq

/-- What the condition of a statement decides. -/
inductive Guard where
  | branch
  | loop
  deriving DecidableEq

mutual

/-- Declarations followed by statements, in a scope of their own. -/
inductive Block where
  | mk (decls : List VarDecl) (stmts : List Stmt)

/-- A statement. -/
inductive Stmt where
  | simple (verb : Verb) (e : Expr)
  /-- A condition and the block that it guards, once or as long as it holds. -/
  | guarded (guard : Guard) (cond : Expr) (body : Block)
  | ifElse (cond : Expr) (yes no : Block)
  | ret (value : Option Expr) (loc : Location)

end

/-- The declaration of a function. -/
structure FnDecl where
  ret : TypeName
  id : Ident
  formals : List VarDecl
  body : Block

/-- The declaration of a struct type. -/
structure StructDecl where
  id : Ident
  fields : List VarDecl

/-- A declaration of the program. -/
inductive Decl where
  | var (decl : VarDecl)
  | fn (decl : FnDecl)
  | struct (decl : StructDecl)

/-- A program: its declarations in the order of the source. -/
structure Program where
  decls : List Decl

/-! ### Parts of nodes -/

/-- The symbol that the identifier is bound to. -/
def Ident.symbol? (id : Ident) : Option SymbolId := id.binding.content

namespace Expr

def note : Expr → Note
  | lit _ note | name _ note | dot _ _ _ note | assign _ _ note | call _ _ note | unary _ _ note
  | binary _ _ _ note => note

def withNote (note : Note) : Expr → Expr
  | lit value _ => lit value note
  | name id _ => name id note
  | dot base field failed _ => dot base field failed note
  | assign target value _ => assign target value note
  | call callee args _ => call callee args note
  | unary op operand _ => unary op operand note
  | binary op left right _ => binary op left right note

/-- The place of the expression. -/
def loc (e : Expr) : Location := e.note.loc

/-- The type in the expression's slot. -/
def ty? (e : Expr) : Option Ty := e.note.ty.content

/-- The type in the expression's slot, and an error while there is none. -/
def ty (e : Expr) : Ty := e.ty?.getD .error

@[simp] theorem note_withNote (note : Note) (e : Expr) : (e.withNote note).note = note := by
  cases e <;> rfl

@[simp] theorem withNote_note (e : Expr) : e.withNote e.note = e := by
  cases e <;> rfl

end Expr

end StructLang
