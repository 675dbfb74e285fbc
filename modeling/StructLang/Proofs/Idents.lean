import Mathlib.Tactic.Common
import StructLang.Tree.Walk

/-!
# The identifiers of a tree

All identifiers whose slots name resolution may fill: those that are declared, those that name
struct types, and those that are used in expressions.  The identifiers of a part are identifiers of
the whole, and one lemma for each kind of tree says which.
-/

namespace StructLang

/-- The identifiers that an expression uses. -/
def Expr.idents (e : Expr) : List Ident := e.exprs.filterMap Expr.ident?

/-- The identifiers that the expressions of a list use. -/
def Expr.identsOfAll (es : List Expr) : List Ident := (Expr.exprsOfAll es).filterMap Expr.ident?

/-- All identifiers of a block. -/
def Block.idents (b : Block) : List Ident := b.declIdents ++ b.exprs.filterMap Expr.ident?

/-- All identifiers of a statement. -/
def Stmt.idents (s : Stmt) : List Ident := s.declIdents ++ s.exprs.filterMap Expr.ident?

/-- All identifiers of a list of statements. -/
def Stmt.identsOfAll (ss : List Stmt) : List Ident :=
  Stmt.declIdentsOfAll ss ++ (Stmt.exprsOfAll ss).filterMap Expr.ident?

/-- All identifiers of a declaration. -/
def Decl.idents (d : Decl) : List Ident := d.declIdents ++ d.exprs.filterMap Expr.ident?

/-- All identifiers of a program. -/
def Program.idents (p : Program) : List Ident := p.declIdents ++ p.uses

section

variable {id : Ident}

-- what is in the list of a node, in terms of the lists of its parts
attribute [local simp] Expr.exprs Expr.exprsOfAll Expr.ident? Stmt.exprs Stmt.declIdents

@[simp] lemma Expr.mem_idents_name {id' : Ident} {note : Note} :
    id ∈ (Expr.name id' note).idents ↔ id = id' := by
  simp [idents]

@[simp] lemma Expr.mem_idents_dot {base : Expr} {field : Ident} {failed : Bool} {note : Note} :
    id ∈ (Expr.dot base field failed note).idents ↔ id = field ∨ id ∈ base.idents := by
  simp [idents]

@[simp] lemma Expr.mem_idents_assign {target value : Expr} {note : Note} :
    id ∈ (Expr.assign target value note).idents ↔ id ∈ target.idents ∨ id ∈ value.idents := by
  simp [idents, or_and_right, exists_or]

@[simp] lemma Expr.mem_idents_call {callee : Ident} {args : List Expr} {note : Note} :
    id ∈ (Expr.call callee args note).idents ↔ id = callee ∨ id ∈ Expr.identsOfAll args := by
  simp [idents, identsOfAll]

@[simp] lemma Expr.mem_idents_unary {op : UnaryOp} {operand : Expr} {note : Note} :
    id ∈ (Expr.unary op operand note).idents ↔ id ∈ operand.idents := by
  simp [idents]

@[simp] lemma Expr.mem_idents_binary {op : BinaryOp} {left right : Expr} {note : Note} :
    id ∈ (Expr.binary op left right note).idents ↔ id ∈ left.idents ∨ id ∈ right.idents := by
  simp [idents, or_and_right, exists_or]

@[simp] lemma Expr.mem_identsOfAll_cons {e : Expr} {es : List Expr} :
    id ∈ Expr.identsOfAll (e :: es) ↔ id ∈ e.idents ∨ id ∈ Expr.identsOfAll es := by
  simp [idents, identsOfAll]

lemma Block.mem_idents_decls {ds : List VarDecl} {ss : List Stmt}
    (h : id ∈ ds.flatMap VarDecl.idents) : id ∈ (Block.mk ds ss).idents :=
  List.mem_append_left _ (List.mem_append_left _ h)

lemma Block.mem_idents_stmts {ds : List VarDecl} {ss : List Stmt}
    (h : id ∈ Stmt.identsOfAll ss) : id ∈ (Block.mk ds ss).idents := by
  rcases List.mem_append.1 h with h | h
  · exact List.mem_append_left _ (List.mem_append_right _ h)
  · exact List.mem_append_right _ h

@[simp] lemma Stmt.mem_idents_simple {verb : Verb} {e : Expr} :
    id ∈ (Stmt.simple verb e).idents ↔ id ∈ e.idents := by
  simp [idents, Expr.idents]

@[simp] lemma Stmt.mem_idents_guarded {guard : Guard} {cond : Expr} {body : Block} :
    id ∈ (Stmt.guarded guard cond body).idents ↔ id ∈ cond.idents ∨ id ∈ body.idents := by
  simp only [idents, declIdents, exprs, Expr.idents, Block.idents, List.filterMap_append,
    List.mem_append]
  grind

@[simp] lemma Stmt.mem_idents_ifElse {cond : Expr} {yes no : Block} :
    id ∈ (Stmt.ifElse cond yes no).idents ↔
      id ∈ cond.idents ∨ id ∈ yes.idents ∨ id ∈ no.idents := by
  simp only [idents, declIdents, exprs, Expr.idents, Block.idents, List.filterMap_append,
    List.mem_append]
  grind

@[simp] lemma Stmt.mem_idents_ret {value : Expr} {loc : Location} :
    id ∈ (Stmt.ret (some value) loc).idents ↔ id ∈ value.idents := by
  simp [idents, Expr.idents]

@[simp] lemma Stmt.mem_identsOfAll_cons {s : Stmt} {ss : List Stmt} :
    id ∈ Stmt.identsOfAll (s :: ss) ↔ id ∈ s.idents ∨ id ∈ Stmt.identsOfAll ss := by
  simp only [idents, identsOfAll, declIdentsOfAll, exprsOfAll, List.filterMap_append,
    List.mem_append]
  grind

lemma Decl.mem_idents_ret {f : FnDecl} (h : id ∈ f.ret.idents) : id ∈ (Decl.fn f).idents := by
  simp [idents, declIdents, h]

lemma Decl.mem_idents_fn {f : FnDecl} : f.id ∈ (Decl.fn f).idents := by
  simp [idents, declIdents]

lemma Decl.mem_idents_formals {f : FnDecl} (h : id ∈ f.formals.flatMap VarDecl.idents) :
    id ∈ (Decl.fn f).idents := by
  simp only [idents, declIdents, List.mem_append, List.mem_cons, h, true_or, or_true]

lemma Decl.mem_idents_body {f : FnDecl} (h : id ∈ f.body.idents) : id ∈ (Decl.fn f).idents := by
  rcases List.mem_append.1 h with h | h
  · simp only [idents, declIdents, List.mem_append, List.mem_cons, h, true_or, or_true]
  · exact List.mem_append_right _ h

lemma Decl.mem_idents_struct {s : StructDecl} : s.id ∈ (Decl.struct s).idents := by
  simp [idents, declIdents]

lemma Decl.mem_idents_fields {s : StructDecl} (h : id ∈ s.fields.flatMap VarDecl.idents) :
    id ∈ (Decl.struct s).idents := by
  simp only [idents, declIdents, List.mem_append, List.mem_cons, h, true_or, or_true]

/-! ### Part by part -/

lemma Block.mem_idents_mk {ds : List VarDecl} {ss : List Stmt} :
    id ∈ (Block.mk ds ss).idents ↔ id ∈ ds.flatMap VarDecl.idents ++ Stmt.identsOfAll ss := by
  simp only [idents, Stmt.identsOfAll, declIdents, exprs, List.mem_append, or_assoc]

lemma Decl.mem_idents_fn_iff {f : FnDecl} : id ∈ (Decl.fn f).idents ↔
    id ∈ f.ret.idents ++ f.id :: (f.formals.flatMap VarDecl.idents ++ f.body.idents) := by
  simp only [idents, Block.idents, declIdents, exprs, List.mem_append, List.mem_cons, or_assoc]

lemma Decl.mem_idents_struct_iff {s : StructDecl} :
    id ∈ (Decl.struct s).idents ↔ id ∈ s.id :: s.fields.flatMap VarDecl.idents := by
  simp [idents, declIdents, exprs]

lemma Decl.mem_idents_var_iff {d : VarDecl} : id ∈ (Decl.var d).idents ↔ id ∈ d.idents := by
  simp [idents, declIdents, exprs]

lemma Program.mem_idents_iff {p : Program} : id ∈ p.idents ↔ id ∈ p.decls.flatMap Decl.idents := by
  simp only [idents, declIdents, uses, exprs, List.filterMap_flatMap, List.mem_append,
    List.mem_flatMap, ← exists_or, ← and_or_left, Decl.idents]

lemma Program.mem_idents_decls {p : Program} (h : id ∈ p.decls.flatMap Decl.idents) :
    id ∈ p.idents := Program.mem_idents_iff.2 h

end

end StructLang
