import StructLang.Tree.Basic

/-!
# Looking at a tree

The parts of a tree as flat lists, in the order of the source: the expressions, each before its
parts, the identifiers that are used, and the identifiers of the declarations.
-/

namespace StructLang

mutual

/-- The expression and all expressions inside it, each before its parts, left before right. -/
def Expr.exprs : Expr → List Expr
  | e@(.lit _ _) => [e]
  | e@(.name _ _) => [e]
  | e@(.dot base _ _ _) => e :: base.exprs
  | e@(.assign target value _) => e :: target.exprs ++ value.exprs
  | e@(.call _ args _) => e :: Expr.exprsOfAll args
  | e@(.unary _ operand _) => e :: operand.exprs
  | e@(.binary _ left right _) => e :: left.exprs ++ right.exprs

/-- The expressions of a list of expressions. -/
def Expr.exprsOfAll : List Expr → List Expr
  | [] => []
  | e :: es => e.exprs ++ Expr.exprsOfAll es

end

/-- The identifier that the expression itself uses: a plain name, a selected field, a callee. -/
def Expr.ident? : Expr → Option Ident
  | .name id _ => some id
  | .dot _ field _ _ => some field
  | .call callee _ _ => some callee
  | _ => none

/-- The identifier that names a declared type, if it is a struct type. -/
def TypeName.idents : TypeName → List Ident
  | .struct name => [name]
  | _ => []

/-- The identifiers of a declaration: its struct type, if it has one, and the declared name. -/
def VarDecl.idents (decl : VarDecl) : List Ident := decl.ty.idents ++ [decl.id]

mutual

/-- The expressions of a block. -/
def Block.exprs : Block → List Expr
  | .mk _ stmts => Stmt.exprsOfAll stmts

/-- The expressions of a statement, a condition before what it decides. -/
def Stmt.exprs : Stmt → List Expr
  | .simple _ e => e.exprs
  | .guarded _ cond body => cond.exprs ++ body.exprs
  | .ifElse cond yes no => cond.exprs ++ yes.exprs ++ no.exprs
  | .ret (some value) _ => value.exprs
  | .ret none _ => []

/-- The expressions of a list of statements. -/
def Stmt.exprsOfAll : List Stmt → List Expr
  | [] => []
  | s :: ss => s.exprs ++ Stmt.exprsOfAll ss

end

mutual

/-- The identifiers of the declarations in a block, its own before those of its statements. -/
def Block.declIdents : Block → List Ident
  | .mk decls stmts => decls.flatMap VarDecl.idents ++ Stmt.declIdentsOfAll stmts

/-- The identifiers of the declarations in the blocks of a statement. -/
def Stmt.declIdents : Stmt → List Ident
  | .simple _ _ => []
  | .guarded _ _ body => body.declIdents
  | .ifElse _ yes no => yes.declIdents ++ no.declIdents
  | .ret _ _ => []

/-- The identifiers of the declarations in a list of statements. -/
def Stmt.declIdentsOfAll : List Stmt → List Ident
  | [] => []
  | s :: ss => s.declIdents ++ Stmt.declIdentsOfAll ss

end

/-- The expressions of a declaration; only a function has any. -/
def Decl.exprs : Decl → List Expr
  | .fn f => f.body.exprs
  | _ => []

/-- The identifiers of a declaration and of all declarations inside it. -/
def Decl.declIdents : Decl → List Ident
  | .var decl => decl.idents
  | .struct s => s.id :: s.fields.flatMap VarDecl.idents
  | .fn f => f.ret.idents ++ f.id :: f.formals.flatMap VarDecl.idents ++ f.body.declIdents

namespace Program

/-- All expressions, each before its parts. -/
def exprs (p : Program) : List Expr := p.decls.flatMap Decl.exprs

/-- All identifiers that are used: plain names, selected fields and callees. -/
def uses (p : Program) : List Ident := p.exprs.filterMap Expr.ident?

/-- All identifiers of declarations: the names of struct types, and the declared names. -/
def declIdents (p : Program) : List Ident := p.decls.flatMap Decl.declIdents

end Program

end StructLang
