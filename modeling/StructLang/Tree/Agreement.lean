import StructLang.Tree.Basic

/-!
# Comparing trees

Two trees agree if they are the same in everything that they show: shape, names, places, literals,
flags and the contents of their slots. Types in slots are compared in the sense of the language,
so a tree with `Ty.error` in a slot agrees with no tree, itself included.
-/

namespace StructLang

/-- The same place, and both slots empty or filled with types that agree. -/
def Note.agrees (a b : Note) : Bool :=
  a.loc == b.loc &&
    match a.ty.content, b.ty.content with
    | none, none => true
    | some s, some t => s.agrees t
    | _, _ => false

mutual

def Expr.agrees : Expr → Expr → Bool
  | .lit v n, .lit w m => v == w && n.agrees m
  | .name i n, .name j m => i == j && n.agrees m
  | .dot a i f n, .dot b j g m => a.agrees b && i == j && f == g && n.agrees m
  | .assign a v n, .assign b w m => a.agrees b && v.agrees w && n.agrees m
  | .call i xs n, .call j ys m => i == j && Expr.allAgree xs ys && n.agrees m
  | .unary o a n, .unary p b m => o == p && a.agrees b && n.agrees m
  | .binary o a c n, .binary p b d m => o == p && a.agrees b && c.agrees d && n.agrees m
  | _, _ => false

/-- Two lists of equal length whose members agree in pairs. -/
def Expr.allAgree : List Expr → List Expr → Bool
  | [], [] => true
  | x :: xs, y :: ys => x.agrees y && Expr.allAgree xs ys
  | _, _ => false

end

mutual

def Block.agrees : Block → Block → Bool
  | .mk ds ss, .mk es ts => ds == es && Stmt.allAgree ss ts

def Stmt.agrees : Stmt → Stmt → Bool
  | .simple v a, .simple w b => v == w && a.agrees b
  | .guarded g a s, .guarded h b t => g == h && a.agrees b && s.agrees t
  | .ifElse a s u, .ifElse b t v => a.agrees b && s.agrees t && u.agrees v
  | .ret (some a) l, .ret (some b) m => a.agrees b && l == m
  | .ret none l, .ret none m => l == m
  | _, _ => false

/-- Two lists of equal length whose members agree in pairs. -/
def Stmt.allAgree : List Stmt → List Stmt → Bool
  | [], [] => true
  | s :: ss, t :: ts => s.agrees t && Stmt.allAgree ss ts
  | _, _ => false

end

def FnDecl.agrees (f g : FnDecl) : Bool :=
  f.ret == g.ret && f.id == g.id && f.formals == g.formals && f.body.agrees g.body

def StructDecl.agrees (s t : StructDecl) : Bool :=
  s.id == t.id && s.fields == t.fields

def Decl.agrees : Decl → Decl → Bool
  | .var a, .var b => a == b
  | .fn f, .fn g => f.agrees g
  | .struct s, .struct t => s.agrees t
  | _, _ => false

/-- Two lists of equal length whose members agree in pairs. -/
def Decl.allAgree : List Decl → List Decl → Bool
  | [], [] => true
  | a :: as, b :: bs => a.agrees b && Decl.allAgree as bs
  | _, _ => false

/-- The two programs show the same, and no type in a slot of theirs is broken. -/
def Program.agrees (p q : Program) : Bool := Decl.allAgree p.decls q.decls

end StructLang
