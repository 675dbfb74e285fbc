import Mathlib.Data.List.Forall2
import Mathlib.Tactic.Common
import StructLang.Proofs.Idents
import StructLang.Tree.Traversal

/-!
# Trees of one shape

Two trees of the same shape, with the same literals and operators, whose identifiers, flags and
notes are related place by place.  Which relations those are is a parameter, a `Variation`; so what
follows from the common shape is proved once, for trees before and after a pass and for trees that
were changed by hand.

* `Expr.Varies`, …, `Program.Varies` — the relation of trees.
* `Block.visit_varies` — if a visitor returns related things at every node, it returns a related
  tree.  Nothing is asked of the run, which may have halted.
* `Program.Varies.exprs`, `Program.Varies.idents` — the flat views of related trees are related
  member by member.
-/

namespace StructLang

/-- How two trees of one shape may differ. -/
structure Variation where
  /-- At identifiers that are used: plain names, callees and fields. -/
  use : Ident → Ident → Prop
  /-- At the flags of dot accesses. -/
  flag : Bool → Bool → Prop
  note : Note → Note → Prop
  /-- At the declarations of variables, formals and fields. -/
  var : VarDecl → VarDecl → Prop
  /-- At the identifiers of functions and structs. -/
  head : Ident → Ident → Prop
  /-- At return types. -/
  ret : TypeName → TypeName → Prop

/-! ## Related trees -/

mutual

/-- Two expressions of one shape. -/
inductive Expr.Varies (V : Variation) : Expr → Expr → Prop
  | lit (value : Literal) {n n' : Note} (note : V.note n n') :
      Expr.Varies V (.lit value n) (.lit value n')
  | name {id id' : Ident} {n n' : Note} (use : V.use id id') (note : V.note n n') :
      Expr.Varies V (.name id n) (.name id' n')
  | dot {base base' : Expr} {field field' : Ident} {failed failed' : Bool} {n n' : Note}
      (inner : Expr.Varies V base base') (use : V.use field field') (flag : V.flag failed failed')
      (note : V.note n n') : Expr.Varies V (.dot base field failed n) (.dot base' field' failed' n')
  | assign {target target' value value' : Expr} {n n' : Note} (left : Expr.Varies V target target')
      (right : Expr.Varies V value value') (note : V.note n n') :
      Expr.Varies V (.assign target value n) (.assign target' value' n')
  | call {callee callee' : Ident} {args args' : List Expr} {n n' : Note}
      (use : V.use callee callee') (all : Expr.VariesAll V args args') (note : V.note n n') :
      Expr.Varies V (.call callee args n) (.call callee' args' n')
  | unary (op : UnaryOp) {operand operand' : Expr} {n n' : Note}
      (inner : Expr.Varies V operand operand') (note : V.note n n') :
      Expr.Varies V (.unary op operand n) (.unary op operand' n')
  | binary (op : BinaryOp) {left left' right right' : Expr} {n n' : Note}
      (first : Expr.Varies V left left') (second : Expr.Varies V right right')
      (note : V.note n n') : Expr.Varies V (.binary op left right n) (.binary op left' right' n')

/-- Two lists of expressions of one shape. -/
inductive Expr.VariesAll (V : Variation) : List Expr → List Expr → Prop
  | nil : Expr.VariesAll V [] []
  | cons {e e' : Expr} {es es' : List Expr} (first : Expr.Varies V e e')
      (rest : Expr.VariesAll V es es') : Expr.VariesAll V (e :: es) (e' :: es')

end

mutual

/-- Two blocks of one shape. -/
inductive Block.Varies (V : Variation) : Block → Block → Prop
  | mk {ds ds' : List VarDecl} {ss ss' : List Stmt} (decls : List.Forall₂ V.var ds ds')
      (stmts : Stmt.VariesAll V ss ss') : Block.Varies V (.mk ds ss) (.mk ds' ss')

/-- Two statements of one shape. -/
inductive Stmt.Varies (V : Variation) : Stmt → Stmt → Prop
  | simple (verb : Verb) {e e' : Expr} (expr : e.Varies V e') :
      Stmt.Varies V (.simple verb e) (.simple verb e')
  | guarded (guard : Guard) {cond cond' : Expr} {body body' : Block} (expr : cond.Varies V cond')
      (branch : Block.Varies V body body') :
      Stmt.Varies V (.guarded guard cond body) (.guarded guard cond' body')
  | ifElse {cond cond' : Expr} {yes yes' no no' : Block} (expr : cond.Varies V cond')
      (first : Block.Varies V yes yes') (second : Block.Varies V no no') :
      Stmt.Varies V (.ifElse cond yes no) (.ifElse cond' yes' no')
  | leave (loc : Location) : Stmt.Varies V (.ret none loc) (.ret none loc)
  | ret {value value' : Expr} (loc : Location) (expr : value.Varies V value') :
      Stmt.Varies V (.ret (some value) loc) (.ret (some value') loc)

/-- Two lists of statements of one shape. -/
inductive Stmt.VariesAll (V : Variation) : List Stmt → List Stmt → Prop
  | nil : Stmt.VariesAll V [] []
  | cons {s s' : Stmt} {ss ss' : List Stmt} (first : Stmt.Varies V s s')
      (rest : Stmt.VariesAll V ss ss') : Stmt.VariesAll V (s :: ss) (s' :: ss')

end

/-- Two declarations of one shape. -/
inductive Decl.Varies (V : Variation) : Decl → Decl → Prop
  | var {d d' : VarDecl} (decl : V.var d d') : Decl.Varies V (.var d) (.var d')
  | fn {f f' : FnDecl} (ret : V.ret f.ret f'.ret) (head : V.head f.id f'.id)
      (params : List.Forall₂ V.var f.formals f'.formals) (body : f.body.Varies V f'.body) :
      Decl.Varies V (.fn f) (.fn f')
  | struct {s s' : StructDecl} (head : V.head s.id s'.id)
      (fields : List.Forall₂ V.var s.fields s'.fields) : Decl.Varies V (.struct s) (.struct s')

/-- Two programs of one shape. -/
def Program.Varies (V : Variation) (p q : Program) : Prop :=
  List.Forall₂ (Decl.Varies V) p.decls q.decls

/-! ## What a visitor makes of a tree -/

variable {σ α β : Type}

/-- From whatever run, the computation returns something with the property. -/
def Pass.Yields (P : α → Prop) (x : Pass σ α) : Prop := ∀ s, P (x.run s).1

namespace Pass

variable {P : α → Prop} {Q : β → Prop}

lemma Yields.pure {a : α} (h : P a) : Yields P (Pure.pure a : Pass σ α) := fun _ => h

lemma Yields.bind {x : Pass σ α} {f : α → Pass σ β} (hx : Yields P x)
    (hf : ∀ a, P a → Yields Q (f a)) : Yields Q (x >>= f) :=
  fun s => hf _ (hx s) _

/-- What comes after a computation of which only the effect matters. -/
lemma Yields.after {x : Pass σ α} {f : α → Pass σ β} (hf : ∀ a, Yields Q (f a)) :
    Yields Q (x >>= f) := fun _ => hf _ _

lemma Yields.mapM {R : α → β → Prop} {f : α → Pass σ β} (hf : ∀ a, Yields (R a) (f a))
    (l : List α) : Yields (List.Forall₂ R l) (l.mapM f) := by
  induction l with
  | nil =>
      rw [List.mapM_nil]
      exact .pure .nil
  | cons a l ih =>
      rw [List.mapM_cons]
      exact (hf a).bind fun b hb => ih.bind fun bs hbs => .pure (.cons hb hbs)

end Pass

/-- Whatever the visitor returns at a node is related to what it found there. -/
structure Visitor.VariesBy (v : Visitor σ) (V : Variation) : Prop where
  name : ∀ id, (v.onName id).Yields (V.use id)
  callee : ∀ id, (v.onCallee id).Yields (V.use id)
  field : ∀ base field failed, (v.onField base field failed).Yields fun r =>
    V.use field r.1 ∧ V.flag failed r.2
  expr : ∀ e, (v.onExpr e).Yields (V.note e.note)
  decl : ∀ d, (v.onLocal d).Yields (V.var d)

variable {v : Visitor σ} {V : Variation}

/-- An expression with parts that vary varies itself, if it does with a related note. -/
lemma Visitor.VariesBy.finish (h : v.VariesBy V) {e e' : Expr}
    (parts : ∀ n, V.note e'.note n → e.Varies V (e'.withNote n)) :
    (v.finish e').Yields (e.Varies V) :=
  (h.expr e').bind fun n hn => .pure (parts n hn)

mutual

theorem Expr.visit_varies (h : v.VariesBy V) : ∀ e : Expr, (e.visit v).Yields (e.Varies V)
  | .lit value _ => h.finish fun _ note => .lit value note
  | .name id _ => (h.name id).bind fun _ use => h.finish fun _ note => .name use note
  | .dot base field failed _ =>
      (base.visit_varies h).bind fun base' inner =>
        (h.field base' field failed).bind fun _ ⟨use, flag⟩ =>
          h.finish fun _ note => .dot inner use flag note
  | .assign target value _ =>
      (target.visit_varies h).bind fun _ left =>
        (value.visit_varies h).bind fun _ right => h.finish fun _ note => .assign left right note
  | .call callee args _ =>
      (h.callee callee).bind fun _ use =>
        (Expr.visitAll_varies h args).bind fun _ all => h.finish fun _ note => .call use all note
  | .unary op operand _ =>
      (operand.visit_varies h).bind fun _ inner => h.finish fun _ note => .unary op inner note
  | .binary op left right _ =>
      (left.visit_varies h).bind fun _ first =>
        (right.visit_varies h).bind fun _ second =>
          h.finish fun _ note => .binary op first second note

theorem Expr.visitAll_varies (h : v.VariesBy V) :
    ∀ es : List Expr, (Expr.visitAll v es).Yields (Expr.VariesAll V es)
  | [] => .pure .nil
  | e :: es =>
      (e.visit_varies h).bind fun _ first =>
        (Expr.visitAll_varies h es).bind fun _ rest => .pure (.cons first rest)

end

mutual

theorem Block.visit_varies (h : v.VariesBy V) : ∀ b : Block, (b.visit v).Yields (b.Varies V)
  | .mk decls stmts =>
      (Pass.Yields.mapM h.decl decls).bind fun _ ds =>
        (Stmt.visitAll_varies h stmts).bind fun _ ss => .pure (.mk ds ss)

theorem Stmt.visit_varies (h : v.VariesBy V) : ∀ s : Stmt, (s.visit v).Yields (s.Varies V)
  | .simple verb e =>
      (e.visit_varies h).bind fun _ expr => .after fun _ => .pure (.simple verb expr)
  | .guarded guard cond body =>
      (cond.visit_varies h).bind fun _ expr => .after fun _ => .after fun _ =>
        (body.visit_varies h).bind fun _ branch =>
          .after fun _ => .pure (.guarded guard expr branch)
  | .ifElse cond yes no =>
      (cond.visit_varies h).bind fun _ expr => .after fun _ => .after fun _ =>
        (yes.visit_varies h).bind fun _ first => .after fun _ => .after fun _ =>
          (no.visit_varies h).bind fun _ second =>
            .after fun _ => .pure (.ifElse expr first second)
  | .ret none loc => .after fun _ => .pure (.leave loc)
  | .ret (some value) loc =>
      (value.visit_varies h).bind fun _ expr => .after fun _ => .pure (.ret loc expr)

theorem Stmt.visitAll_varies (h : v.VariesBy V) :
    ∀ ss : List Stmt, (Stmt.visitAll v ss).Yields (Stmt.VariesAll V ss)
  | [] => .pure .nil
  | s :: ss =>
      (s.visit_varies h).bind fun _ first =>
        (Stmt.visitAll_varies h ss).bind fun _ rest => .pure (.cons first rest)

end

/-! ## Flat views -/

lemma Expr.Varies.notes {e e' : Expr} (h : e.Varies V e') : V.note e.note e'.note := by
  cases h <;> assumption

/-- Notes are exchanged on both sides. -/
lemma Expr.Varies.withNote {e e' : Expr} (h : e.Varies V e') {n n' : Note} (note : V.note n n') :
    (e.withNote n).Varies V (e'.withNote n') := by
  cases h with
  | lit value _ => exact .lit value note
  | name use _ => exact .name use note
  | dot inner use flag _ => exact .dot inner use flag note
  | assign left right _ => exact .assign left right note
  | call use all _ => exact .call use all note
  | unary op inner _ => exact .unary op inner note
  | binary op first second _ => exact .binary op first second note

/-- What the expressions themselves use is related. -/
lemma Expr.Varies.ident {e e' : Expr} (h : e.Varies V e') :
    Option.Rel V.use e.ident? e'.ident? := by
  cases h with
  | name use note => exact .some use
  | dot inner use flag note => exact .some use
  | call use all note => exact .some use
  | _ => exact .none

mutual

/-- Each part of an expression varies as the part of the other one at its place. -/
theorem Expr.Varies.exprs : ∀ {e e' : Expr}, e.Varies V e' →
    List.Forall₂ (Expr.Varies V) e.exprs e'.exprs
  | _, _, .lit value note => .cons (.lit value note) .nil
  | _, _, .name use note => .cons (.name use note) .nil
  | _, _, .dot inner use flag note => .cons (.dot inner use flag note) inner.exprs
  | _, _, .assign left right note =>
      .cons (.assign left right note) (List.rel_append left.exprs right.exprs)
  | _, _, .call use all note => .cons (.call use all note) all.exprs
  | _, _, .unary op inner note => .cons (.unary op inner note) inner.exprs
  | _, _, .binary op first second note =>
      .cons (.binary op first second note) (List.rel_append first.exprs second.exprs)

theorem Expr.VariesAll.exprs : ∀ {es es' : List Expr}, Expr.VariesAll V es es' →
    List.Forall₂ (Expr.Varies V) (Expr.exprsOfAll es) (Expr.exprsOfAll es')
  | _, _, .nil => .nil
  | _, _, .cons first rest => List.rel_append first.exprs rest.exprs

end

mutual

theorem Block.Varies.exprs : ∀ {b b' : Block}, b.Varies V b' →
    List.Forall₂ (Expr.Varies V) b.exprs b'.exprs
  | _, _, .mk _ stmts => stmts.exprs

theorem Stmt.Varies.exprs : ∀ {s s' : Stmt}, s.Varies V s' →
    List.Forall₂ (Expr.Varies V) s.exprs s'.exprs
  | _, _, .simple _ expr => expr.exprs
  | _, _, .guarded _ expr branch => List.rel_append expr.exprs branch.exprs
  | _, _, .ifElse expr first second =>
      List.rel_append (List.rel_append expr.exprs first.exprs) second.exprs
  | _, _, .leave _ => .nil
  | _, _, .ret _ expr => expr.exprs

theorem Stmt.VariesAll.exprs : ∀ {ss ss' : List Stmt}, Stmt.VariesAll V ss ss' →
    List.Forall₂ (Expr.Varies V) (Stmt.exprsOfAll ss) (Stmt.exprsOfAll ss')
  | _, _, .nil => .nil
  | _, _, .cons first rest => List.rel_append first.exprs rest.exprs

end

lemma Decl.Varies.exprs {d d' : Decl} (h : d.Varies V d') :
    List.Forall₂ (Expr.Varies V) d.exprs d'.exprs := by
  cases h with
  | fn ret head params body => exact body.exprs
  | _ => exact .nil

theorem Program.Varies.exprs {p q : Program} (h : p.Varies V q) :
    List.Forall₂ (Expr.Varies V) p.exprs q.exprs :=
  List.rel_flatMap h fun _ _ => Decl.Varies.exprs

/-- Wherever identifiers stand in the tree, the variation relates them by `R`. -/
structure Variation.IdentsBy (V : Variation) (R : Ident → Ident → Prop) : Prop where
  use : ∀ id id', V.use id id' → R id id'
  var : ∀ d d', V.var d d' → List.Forall₂ R d.idents d'.idents
  head : ∀ id id', V.head id id' → R id id'
  ret : ∀ ty ty', V.ret ty ty' → List.Forall₂ R ty.idents ty'.idents

variable {R : Ident → Ident → Prop}

lemma uses_related (hR : V.IdentsBy R) {es es' : List Expr}
    (h : List.Forall₂ (Expr.Varies V) es es') :
    List.Forall₂ R (es.filterMap Expr.ident?) (es'.filterMap Expr.ident?) := by
  refine List.rel_filterMap (fun e e' hvaries => ?_) h
  have hrel := hvaries.ident
  generalize e.ident? = id, e'.ident? = id' at hrel ⊢
  cases hrel with
  | none => exact .none
  | some use => exact .some (hR.use _ _ use)

mutual

lemma Block.Varies.declIdents (hR : V.IdentsBy R) : ∀ {b b' : Block}, b.Varies V b' →
    List.Forall₂ R b.declIdents b'.declIdents
  | _, _, .mk decls stmts =>
      List.rel_append (List.rel_flatMap decls hR.var) (stmts.declIdents hR)

lemma Stmt.Varies.declIdents (hR : V.IdentsBy R) : ∀ {s s' : Stmt}, s.Varies V s' →
    List.Forall₂ R s.declIdents s'.declIdents
  | _, _, .simple _ _ => .nil
  | _, _, .guarded _ _ branch => branch.declIdents hR
  | _, _, .ifElse _ first second => List.rel_append (first.declIdents hR) (second.declIdents hR)
  | _, _, .leave _ => .nil
  | _, _, .ret _ _ => .nil

lemma Stmt.VariesAll.declIdents (hR : V.IdentsBy R) : ∀ {ss ss' : List Stmt},
    Stmt.VariesAll V ss ss' → List.Forall₂ R (Stmt.declIdentsOfAll ss) (Stmt.declIdentsOfAll ss')
  | _, _, .nil => .nil
  | _, _, .cons first rest => List.rel_append (first.declIdents hR) (rest.declIdents hR)

end

lemma Decl.Varies.declIdents (hR : V.IdentsBy R) {d d' : Decl} (h : d.Varies V d') :
    List.Forall₂ R d.declIdents d'.declIdents := by
  cases h with
  | var decl => exact hR.var _ _ decl
  | fn ret head params body =>
      exact List.rel_append (List.rel_append (hR.ret _ _ ret)
        (.cons (hR.head _ _ head) (List.rel_flatMap params hR.var))) (body.declIdents hR)
  | struct head fields => exact .cons (hR.head _ _ head) (List.rel_flatMap fields hR.var)

theorem Program.Varies.idents (hR : V.IdentsBy R) {p q : Program} (h : p.Varies V q) :
    List.Forall₂ R p.idents q.idents :=
  List.rel_append (List.rel_flatMap h fun _ _ => Decl.Varies.declIdents hR)
    (uses_related hR h.exprs)

end StructLang
