import Mathlib.Data.List.Forall2
import Mathlib.Tactic.Common
import StructLang.Proofs.Causes
import StructLang.Proofs.Filling
import StructLang.Proofs.Traversal

/-!
# Every report is accounted for

A mistake is counted, logged and sent to the sink in one step, at the place of the node where it was
found.  So whatever tree a pass is given, and wherever it halts, the sink has grown by as many
errors as the pass has counted, and each of them points into the tree.

* `Pass.Tells` — a computation reports at places of the given kind only, from whatever run.
* `Visitor.TellsInside` — at each node a visitor reports at places of that node.  A traversal visits
  parts that it has rebuilt already, but rebuilding moves nothing, so the places are those of the
  tree that it was given (`Block.visit_tells`).
* `diagnostics_are_accounted_for` — the accounts of name resolution, type checking and analysis.
-/

namespace StructLang

/-! ## Places of a tree -/

mutual

/-- The places of the return statements in a block. -/
def Block.returns : Block → List Location
  | .mk _ stmts => Stmt.returnsOfAll stmts

/-- The places of the return statements in a statement. -/
def Stmt.returns : Stmt → List Location
  | .simple _ _ => []
  | .guarded _ _ body => body.returns
  | .ifElse _ yes no => yes.returns ++ no.returns
  | .ret _ loc => [loc]

/-- The places of the return statements in a list of statements. -/
def Stmt.returnsOfAll : List Stmt → List Location
  | [] => []
  | s :: ss => s.returns ++ Stmt.returnsOfAll ss

end

/-- The places of the return statements in a declaration; only a function has any. -/
def Decl.returns : Decl → List Location
  | .fn f => f.body.returns
  | _ => []

/-- The places of the return statements in the program. -/
def Program.returns (p : Program) : List Location := p.decls.flatMap Decl.returns

/-- The places of the identifiers, of the expressions and of the return statements. -/
def Program.places (p : Program) : List Location :=
  p.idents.map Ident.loc ++ p.exprs.map Expr.loc ++ p.returns

/-- The property holds of the places of the expressions and of the identifiers that they use. -/
def AllPlaced (P : Location → Prop) (es : List Expr) : Prop :=
  ∀ e ∈ es, P e.loc ∧ ∀ id, e.ident? = some id → P id.loc

/-- The property holds of the places of the identifiers. -/
def AllLocated (P : Location → Prop) (ids : List Ident) : Prop := ∀ id ∈ ids, P id.loc

/-- The property holds of all places: of declared names and types, of expressions, and of return
statements. -/
structure Covers (P : Location → Prop) (ids : List Ident) (es : List Expr)
    (returns : List Location) : Prop where
  declared : AllLocated P ids
  placed : AllPlaced P es
  returned : ∀ loc ∈ returns, P loc

/-- The places that the judgement of an expression can report at. -/
def Expr.spots : Expr → List Location
  | .lit _ _ | .name _ _ | .dot _ _ _ _ => []
  | .assign target _ _ => [target.loc]
  | .call callee args _ => callee.loc :: args.map Expr.loc
  | .unary _ operand _ => [operand.loc]
  | .binary _ left right _ => [left.loc, right.loc]

section

variable {P Q : Location → Prop} {es fs : List Expr} {ids jds : List Ident} {ls ms : List Location}

lemma AllPlaced.mono (h : AllPlaced P es) (hsub : fs ⊆ es) : AllPlaced P fs :=
  fun e he => h e (hsub he)

lemma AllLocated.mono (h : AllLocated P ids) (hsub : jds ⊆ ids) : AllLocated P jds :=
  fun id hid => h id (hsub hid)

lemma Covers.mono (h : Covers P ids es ls) (hids : jds ⊆ ids) (hes : fs ⊆ es) (hls : ms ⊆ ls) :
    Covers P jds fs ms :=
  ⟨h.declared.mono hids, h.placed.mono hes, fun loc hloc => h.returned loc (hls hloc)⟩

lemma AllPlaced.self {e : Expr} (h : AllPlaced P e.exprs) : P e.loc := (h e e.mem_exprs_self).1

end

/-! ## What is reported between two runs -/

variable {σ α β : Type} {P Q : Location → Prop}

namespace Run

variable {s t u : Run σ} {fs gs : List Finding}

/-- Between the runs mistakes were reported at places with the property, and nowhere else. -/
def Adds (P : Location → Prop) (s t : Run σ) : Prop :=
  ∃ fs, s.Reported t fs ∧ ∀ f ∈ fs, P f.loc

/-- Counts, log and sink are as they were. -/
lemma Adds.of_eq (count : t.errors = s.errors) (log : t.log = s.log) (sink : t.sink = s.sink) :
    s.Adds P t := by
  refine ⟨[], ⟨count, ?_, ?_⟩, nofun⟩
  · rw [log, List.append_nil]
  · rw [Told, sink, List.map_nil, List.append_nil]

lemma Adds.refl (s : Run σ) : s.Adds P s := .of_eq rfl rfl rfl

lemma Adds.trans (s t u : Run σ) (hst : s.Adds P t) (htu : t.Adds P u) : s.Adds P u := by
  obtain ⟨fs, hfs, hall⟩ := hst
  obtain ⟨gs, hgs, hall'⟩ := htu
  exact ⟨fs ++ gs, hfs.trans hgs, List.forall_mem_append.2 ⟨hall, hall'⟩⟩

lemma adds_after (s : Run σ) {es : List Event} (h : ∀ f ∈ reports es, P f.loc) :
    s.Adds P (s.after es) :=
  ⟨reports es, s.reported_events es, h⟩

end Run

namespace Pass

/-- From whatever run, the computation reports at places with the property only. -/
def Tells (P : Location → Prop) (x : Pass σ α) : Prop := x.Moves (Run.Adds P)

variable {x : Pass σ α} {f : α → Pass σ β}

lemma Tells.mono (hx : x.Tells P) (h : ∀ loc, P loc → Q loc) : x.Tells Q := fun s => by
  obtain ⟨fs, hfs, hall⟩ := hx s
  exact ⟨fs, hfs, fun f hf => h _ (hall f hf)⟩

lemma Tells.pure (a : α) : Tells P (Pure.pure a : Pass σ α) := Run.Adds.refl

lemma Tells.bind (hx : x.Tells P) (hf : ∀ a, (f a).Tells P) : (x >>= f).Tells P :=
  Moves.bind Run.Adds.trans hx hf

/-- What comes second has to be looked at only for what the first can return. -/
lemma Tells.bind_of_yields {R : α → Prop} (hx : x.Tells P) (hr : x.Yields R)
    (hf : ∀ a, R a → (f a).Tells P) : (x >>= f).Tells P :=
  fun s => .trans _ _ _ (hx s) (hf _ (hr s) _)

lemma Tells.mapM {f : α → Pass σ β} {l : List α} (hf : ∀ a ∈ l, (f a).Tells P) :
    (l.mapM f).Tells P := by
  induction l with
  | nil =>
      rw [List.mapM_nil]
      exact .pure []
  | cons a l ih =>
      rw [List.mapM_cons]
      rw [List.forall_mem_cons] at hf
      exact hf.1.bind fun b => (ih hf.2).bind fun bs => .pure (b :: bs)

/-! ### Primitive actions -/

lemma Tells.act {f : Run σ → Run σ} (h : ∀ s : Run σ, s.Adds P (f s)) : (act f).Tells P := by
  intro s
  show s.Adds P (s.act f)
  unfold Run.act
  split
  · exact h s
  · exact .refl s

lemma Tells.report {loc : Location} (h : P loc) (problem : Problem) :
    (report loc problem : Pass σ Unit).Tells P := by
  have hreported : ∀ f ∈ reports [.reported loc problem], P f.loc := by
    intro f hf
    obtain rfl := List.mem_singleton.1 hf
    exact h
  exact .act fun s => s.adds_after hreported

lemma Tells.note {event : Event} (h : event.finding? = none) :
    (note event : Pass σ Unit).Tells P := .act fun s => by
  have hs : s.after [event] = { s with log := s.log.push event } := by
    rw [Run.after_cons, Run.after_nil, Run.emit, h]
  rw [← hs]
  refine s.adds_after fun f hf => ?_
  rw [reports_cons_of_none h] at hf
  cases hf

lemma Tells.update (f : σ → σ) : (update f).Tells P := .act fun _ => .of_eq rfl rfl rfl

lemma Tells.require (answer : Except Fault α) (substitute : α) :
    (require answer substitute : Pass σ α).Tells P := by
  cases answer with
  | ok a => exact .pure a
  | error fault =>
      have hhalt : (halt fault : Pass σ Unit).Tells P := .act fun _ => .of_eq rfl rfl rfl
      exact hhalt.bind fun _ => .pure substitute

lemma Tells.fill {purpose : String} (slot : Slot purpose α) (value : α) :
    (fill slot value : Pass σ (Slot purpose α)).Tells P :=
  Tells.bind Run.Adds.refl fun run => by
    cases run.halted with
    | none => exact .require _ _
    | some fault => exact .pure slot

lemma Tells.raise (flag : Bool) : (raise flag : Pass σ Bool).Tells P := Run.Adds.refl

end Pass

open Pass

/-! ## Traversals -/

/-- At each node the visitor reports at places of that node, and it moves nothing when it rebuilds
the node. -/
structure Visitor.TellsInside (v : Visitor σ) (V : Variation) : Prop where
  varies : v.VariesBy V
  keeps : V.KeepsBare
  name : ∀ id, (v.onName id).Tells (· = id.loc)
  callee : ∀ id, (v.onCallee id).Tells (· = id.loc)
  field : ∀ base field failed, (v.onField base field failed).Tells (· = field.loc)
  expr : ∀ e, (v.onExpr e).Tells (· ∈ e.spots)
  decl : ∀ d, (v.onLocal d).Tells fun loc => ∃ id ∈ d.idents, id.loc = loc
  enter : v.onEnter.Tells fun _ => False
  leave : v.onLeave.Tells fun _ => False
  simple : ∀ verb e, (v.onSimple verb e).Tells (· = e.loc)
  condition : ∀ guard e, (v.onCondition guard e).Tells (· = e.loc)
  ret : ∀ value loc, (v.onReturn value loc).Tells (· = (value.map Expr.loc).getD loc)

section

variable {V : Variation}

/-- What a pass leaves alone of the source includes the places. -/
lemma Variation.KeepsBare.expr_loc (hV : V.KeepsBare) {e e' : Expr} (h : e.Varies V e') :
    e'.loc = e.loc := by
  have hbare : e'.note.bare.loc = e.note.bare.loc := by rw [hV.note _ _ h.notes]
  exact hbare

lemma Variation.KeepsBare.use_loc (hV : V.KeepsBare) {id id' : Ident} (h : V.use id id') :
    id'.loc = id.loc := by
  have hbare : id'.bare.loc = id.bare.loc := by rw [hV.use _ _ h]
  exact hbare

lemma Variation.KeepsBare.expr_locs (hV : V.KeepsBare) {es es' : List Expr}
    (h : Expr.VariesAll V es es') : es'.map Expr.loc = es.map Expr.loc := by
  induction es generalizing es' with
  | nil =>
      cases h
      rfl
  | cons e es ih =>
      cases h with
      | cons first rest => rw [List.map_cons, List.map_cons, hV.expr_loc first, ih rest]

variable {v : Visitor σ}

lemma Visitor.TellsInside.finish (hv : v.TellsInside V) {e : Expr} (h : ∀ loc ∈ e.spots, P loc) :
    (v.finish e).Tells P :=
  ((hv.expr e).mono h).bind fun _ => .pure _

mutual

theorem Expr.visit_tells (hv : v.TellsInside V) :
    ∀ {e : Expr}, AllPlaced P e.exprs → (e.visit v).Tells P
  | .lit _ _, _ => hv.finish nofun
  | .name id note, h => by
      have hid := (h _ List.mem_cons_self).2 id rfl
      exact ((hv.name id).mono fun _ heq => heq ▸ hid).bind fun _ => hv.finish nofun
  | .dot base field failed note, h => by
      have hfield := (h _ List.mem_cons_self).2 field rfl
      have hbase : AllPlaced P base.exprs := h.mono (List.subset_cons_self _ _)
      exact (base.visit_tells hv hbase).bind fun base' =>
        ((hv.field base' field failed).mono fun _ heq => heq ▸ hfield).bind fun _ =>
          hv.finish nofun
  | .assign target value note, h => by
      have hparts : AllPlaced P (target.exprs ++ value.exprs) := h.mono (List.subset_cons_self _ _)
      have htarget : AllPlaced P target.exprs := hparts.mono (List.subset_append_left _ _)
      have hvalue : AllPlaced P value.exprs := hparts.mono (List.subset_append_right _ _)
      exact (target.visit_tells hv htarget).bind_of_yields (target.visit_varies hv.varies)
        fun target' left => (value.visit_tells hv hvalue).bind fun value' =>
          hv.finish (List.forall_mem_singleton.2 (hv.keeps.expr_loc left ▸ htarget.self))
  | .call callee args note, h => by
      have hcallee := (h _ List.mem_cons_self).2 callee rfl
      have hargs : AllPlaced P (Expr.exprsOfAll args) := h.mono (List.subset_cons_self _ _)
      have hlocs : ∀ loc ∈ args.map Expr.loc, P loc := List.forall_mem_map.2 fun arg harg =>
        (hargs arg (Expr.mem_exprsOfAll harg)).1
      refine ((hv.callee callee).mono fun _ heq => heq ▸ hcallee).bind_of_yields
        (hv.varies.callee callee) fun callee' use =>
          (Expr.visitAll_tells hv hargs).bind_of_yields (Expr.visitAll_varies hv.varies args)
            fun args' all => hv.finish (List.forall_mem_cons.2 ⟨?_, ?_⟩)
      · rw [hv.keeps.use_loc use]
        exact hcallee
      · rw [hv.keeps.expr_locs all]
        exact hlocs
  | .unary op operand note, h => by
      have hoperand : AllPlaced P operand.exprs := h.mono (List.subset_cons_self _ _)
      exact (operand.visit_tells hv hoperand).bind_of_yields (operand.visit_varies hv.varies)
        fun operand' inner =>
          hv.finish (List.forall_mem_singleton.2 (hv.keeps.expr_loc inner ▸ hoperand.self))
  | .binary op left right note, h => by
      have hparts : AllPlaced P (left.exprs ++ right.exprs) := h.mono (List.subset_cons_self _ _)
      have hleft : AllPlaced P left.exprs := hparts.mono (List.subset_append_left _ _)
      have hright : AllPlaced P right.exprs := hparts.mono (List.subset_append_right _ _)
      exact (left.visit_tells hv hleft).bind_of_yields (left.visit_varies hv.varies)
        fun left' first =>
          (right.visit_tells hv hright).bind_of_yields (right.visit_varies hv.varies)
          fun right' second => hv.finish (List.forall_mem_cons.2
            ⟨hv.keeps.expr_loc first ▸ hleft.self,
              List.forall_mem_singleton.2 (hv.keeps.expr_loc second ▸ hright.self)⟩)

theorem Expr.visitAll_tells (hv : v.TellsInside V) :
    ∀ {es : List Expr}, AllPlaced P (Expr.exprsOfAll es) → (Expr.visitAll v es).Tells P
  | [], _ => .pure []
  | e :: _, h =>
      (e.visit_tells hv (h.mono (List.subset_append_left _ _))).bind fun _ =>
        (Expr.visitAll_tells hv (h.mono (List.subset_append_right _ _))).bind fun _ => .pure _

end

/-- A condition is judged where it stood before its parts were visited. -/
lemma Visitor.TellsInside.at_varied (hv : v.TellsInside V) {x : Pass σ α} {e e' : Expr}
    (hx : x.Tells (· = e'.loc)) (varies : e.Varies V e') (h : AllPlaced P e.exprs) : x.Tells P :=
  hx.mono fun _ heq => heq ▸ hv.keeps.expr_loc varies ▸ h.self

/-- A block between entering and leaving, and what comes after it. -/
lemma Visitor.TellsInside.enclosed (hv : v.TellsInside V) {x : Pass σ α} {f : α → Pass σ β}
    (hx : x.Tells P) (hf : ∀ a, (f a).Tells P) :
    (do v.onEnter; let a ← x; v.onLeave; f a : Pass σ β).Tells P :=
  (hv.enter.mono fun _ => False.elim).bind fun _ => hx.bind fun a =>
    (hv.leave.mono fun _ => False.elim).bind fun _ => hf a

mutual

theorem Block.visit_tells (hv : v.TellsInside V) :
    ∀ {b : Block}, Covers P b.declIdents b.exprs b.returns → (b.visit v).Tells P
  | .mk decls stmts, h => by
      have hdecl : ∀ d ∈ decls, (v.onLocal d).Tells P := fun d hd =>
        (hv.decl d).mono fun _ ⟨id, hid, heq⟩ => heq ▸ h.declared id
          (List.mem_append_left _ (List.mem_flatMap.2 ⟨d, hd, hid⟩))
      have hstmts : Covers P (Stmt.declIdentsOfAll stmts) (Stmt.exprsOfAll stmts)
          (Stmt.returnsOfAll stmts) :=
        h.mono (List.subset_append_right _ _) (List.Subset.refl _) (List.Subset.refl _)
      exact (Tells.mapM hdecl).bind fun _ => (Stmt.visitAll_tells hv hstmts).bind fun _ => .pure _

theorem Stmt.visit_tells (hv : v.TellsInside V) :
    ∀ {s : Stmt}, Covers P s.declIdents s.exprs s.returns → (s.visit v).Tells P
  | .simple verb e, h =>
      (e.visit_tells hv h.placed).bind_of_yields (e.visit_varies hv.varies) fun e' varies =>
        (hv.at_varied (hv.simple verb e') varies h.placed).bind fun _ => .pure _
  | .guarded guard cond body, h => by
      have hcond : AllPlaced P cond.exprs := h.placed.mono (List.subset_append_left _ _)
      have hbody : Covers P body.declIdents body.exprs body.returns :=
        h.mono (List.Subset.refl _) (List.subset_append_right _ _) (List.Subset.refl _)
      exact (cond.visit_tells hv hcond).bind_of_yields (cond.visit_varies hv.varies)
        fun cond' varies => (hv.at_varied (hv.condition guard cond') varies hcond).bind fun _ =>
          hv.enclosed (body.visit_tells hv hbody) fun _ => .pure _
  | .ifElse cond yes no, h => by
      have hcond : AllPlaced P cond.exprs := h.placed.mono
        (List.subset_append_of_subset_left _ (List.subset_append_left _ _))
      have hyes : Covers P yes.declIdents yes.exprs yes.returns :=
        h.mono (List.subset_append_left _ _)
          (List.subset_append_of_subset_left _ (List.subset_append_right _ _))
          (List.subset_append_left _ _)
      have hno : Covers P no.declIdents no.exprs no.returns :=
        h.mono (List.subset_append_right _ _) (List.subset_append_right _ _)
          (List.subset_append_right _ _)
      exact (cond.visit_tells hv hcond).bind_of_yields (cond.visit_varies hv.varies)
        fun cond' varies => (hv.at_varied (hv.condition .branch cond') varies hcond).bind fun _ =>
          hv.enclosed (yes.visit_tells hv hyes) fun _ =>
            hv.enclosed (no.visit_tells hv hno) fun _ => .pure _
  | .ret none loc, h => by
      have hloc : P loc := h.returned loc List.mem_cons_self
      exact ((hv.ret none loc).mono fun _ heq => heq ▸ hloc).bind fun _ => .pure _
  | .ret (some value) loc, h =>
      (value.visit_tells hv h.placed).bind_of_yields (value.visit_varies hv.varies)
        fun value' varies =>
          (hv.at_varied (hv.ret (some value') loc) varies h.placed).bind fun _ => .pure _

theorem Stmt.visitAll_tells (hv : v.TellsInside V) :
    ∀ {ss : List Stmt}, Covers P (Stmt.declIdentsOfAll ss) (Stmt.exprsOfAll ss)
      (Stmt.returnsOfAll ss) → (Stmt.visitAll v ss).Tells P
  | [], _ => .pure []
  | s :: ss, h => by
      have hfirst : Covers P s.declIdents s.exprs s.returns :=
        h.mono (List.subset_append_left _ _) (List.subset_append_left _ _)
          (List.subset_append_left _ _)
      have hrest : Covers P (Stmt.declIdentsOfAll ss) (Stmt.exprsOfAll ss)
          (Stmt.returnsOfAll ss) :=
        h.mono (List.subset_append_right _ _) (List.subset_append_right _ _)
          (List.subset_append_right _ _)
      exact (s.visit_tells hv hfirst).bind fun _ => (Stmt.visitAll_tells hv hrest).bind fun _ =>
        .pure _

end

end

/-! ## Name resolution -/

namespace Naming

lemma tells_symbols : symbols.Tells P := Run.Adds.refl

lemma tells_table : table.Tells P := Run.Adds.refl

lemma tells_setTable (stack : ScopeStack) : (setTable stack).Tells P := .update _

lemma tells_openScope : openScope.Tells P :=
  tells_table.bind fun _ => (tells_setTable _).bind fun _ => .note rfl

lemma tells_closeScope : closeScope.Tells P :=
  tells_table.bind fun _ => (Tells.require _ _).bind fun _ => (tells_setTable _).bind fun _ =>
    .note rfl

lemma tells_bind (id : Ident) (h : SymbolId) : (bind id h).Tells P :=
  (Tells.fill _ _).bind fun _ => .pure _

lemma tells_use {id : Ident} (hid : P id.loc) : (use id).Tells P :=
  tells_table.bind fun _ => (Tells.require _ _).bind fun found => by
    cases found with
    | none => exact (Tells.report hid _).bind fun _ => .pure _
    | some h => exact (tells_bind id h).bind fun _ => (Tells.note rfl).bind fun _ => .pure _

lemma tells_rejectField {field : Ident} (hfield : P field.loc) (failed : Bool)
    (problem : Problem) : (rejectField field failed problem).Tells P :=
  (Tells.report hfield _).bind fun _ => (Tells.raise _).bind fun _ => .pure _

lemma tells_selectField (base : Expr) {field : Ident} (hfield : P field.loc) (failed : Bool) :
    (selectField base field failed).Tells P := by
  unfold selectField
  cases base.asBase with
  | failed => exact (Tells.raise _).bind fun _ => .pure _
  | nothing => exact tells_rejectField hfield _ _
  | symbol h =>
      refine tells_symbols.bind fun _ => (Tells.require _ _).bind fun fields => ?_
      cases fields with
      | none => exact tells_rejectField hfield _ _
      | some fields =>
          refine (Tells.require _ _).bind fun found => ?_
          cases found with
          | none => exact tells_rejectField hfield _ _
          | some k =>
              exact (tells_bind _ _).bind fun _ => (Tells.note rfl).bind fun _ => .pure _

lemma tells_structNamed (types : ScopeStack) (name : String) : (structNamed types name).Tells P :=
  (Tells.require _ _).bind fun found => by
    cases found with
    | none => exact .pure _
    | some h => exact tells_symbols.bind fun _ => (Tells.require _ _).bind fun _ => .pure _

lemma tells_useStruct (types : ScopeStack) {name : Ident} (hname : P name.loc) :
    (useStruct types name).Tells P :=
  (tells_structNamed _ _).bind fun defn => by
    cases defn with
    | none => exact (Tells.report hname _).bind fun _ => .pure _
    | some h => exact (tells_bind _ _).bind fun _ => .pure _

lemma tells_kindOf (types : ScopeStack) {owner : Ident} {ty : TypeName} (howner : P owner.loc)
    (hty : AllLocated P ty.idents) : (kindOf types owner ty).Tells P := by
  cases ty with
  | int => exact .pure _
  | bool => exact .pure _
  | void => exact (Tells.report howner _).bind fun _ => .pure _
  | struct name =>
      exact (tells_useStruct _ (hty name List.mem_cons_self)).bind fun _ => .pure _

lemma tells_introduce (target : ScopeStack) (id : Ident) (kind : Symbol.Kind) :
    (introduce target id kind).Tells P :=
  tells_symbols.bind fun _ => (Tells.require _ _).bind fun _ => (Tells.update _).bind fun _ =>
    (Tells.require _ _).bind fun _ => (tells_bind _ _).bind fun _ => .pure _

lemma tells_declareIn (types target : ScopeStack) {d : VarDecl} (hd : AllLocated P d.idents) :
    (declareIn types target d).Tells P := by
  have hid : P d.id.loc := hd d.id (List.mem_append_right _ List.mem_cons_self)
  have hty : AllLocated P d.ty.idents := hd.mono (List.subset_append_left _ _)
  refine (tells_kindOf types hid hty).bind fun r => (Tells.require _ _).bind fun known => ?_
  obtain ⟨ty, kind⟩ := r
  cases known with
  | some h => exact (Tells.report hid _).bind fun _ => .pure _
  | none =>
      cases kind with
      | none => exact .pure _
      | some kind =>
          exact (tells_introduce _ _ _).bind fun _ => (Tells.note rfl).bind fun _ => .pure _

lemma tells_declareVar {d : VarDecl} (hd : AllLocated P d.idents) : (declareVar d).Tells P :=
  tells_table.bind fun _ => (tells_declareIn _ _ hd).bind fun _ => (tells_setTable _).bind fun _ =>
    .pure _

lemma tells_declareVars {ds : List VarDecl} (hds : AllLocated P (ds.flatMap VarDecl.idents)) :
    (ds.mapM declareVar).Tells P :=
  .mapM fun _ hd => tells_declareVar fun id hid => hds id (List.mem_flatMap.2 ⟨_, hd, hid⟩)

lemma tells_declareFields (types : ScopeStack) {ds : List VarDecl}
    (hds : AllLocated P (ds.flatMap VarDecl.idents)) :
    ∀ fields : ScopeStack, (declareFields types fields ds).Tells P := by
  induction ds with
  | nil => exact fun _ => .pure _
  | cons d ds ih =>
      have hd : AllLocated P d.idents := hds.mono (List.subset_append_left _ _)
      have hrest : AllLocated P (ds.flatMap VarDecl.idents) :=
        hds.mono (List.subset_append_right _ _)
      exact fun _ => (tells_declareIn _ _ hd).bind fun _ => (ih hrest _).bind fun _ => .pure _

lemma tells_introduceHere (id : Ident) (kind : Symbol.Kind) : (introduceHere id kind).Tells P :=
  tells_table.bind fun _ => (tells_introduce _ _ _).bind fun _ => (tells_setTable _).bind fun _ =>
    .pure _

lemma tells_rejectDuplicate {id : Ident} (hid : P id.loc) : (rejectDuplicate id).Tells P :=
  tells_table.bind fun _ => (Tells.require _ _).bind fun known => by
    cases known with
    | none => exact .pure _
    | some h => exact (Tells.report hid _).bind fun _ => .pure _

lemma tellsInside_visitor : visitor.TellsInside .binding where
  varies := variesBy_visitor
  keeps := keepsBare_binding
  name _ := tells_use rfl
  callee _ := tells_use rfl
  field base field failed := tells_selectField (P := (· = field.loc)) base rfl failed
  expr _ := .pure _
  decl _ := tells_declareVar fun id hid => ⟨id, hid, rfl⟩
  enter := tells_openScope
  leave := tells_closeScope
  simple _ _ := .pure _
  condition _ _ := .pure _
  ret _ _ := .pure _

lemma tells_returnType {ret : TypeName} (hret : AllLocated P ret.idents) :
    (returnType ret).Tells P := by
  cases ret with
  | struct name =>
      exact tells_table.bind fun _ => (tells_useStruct _ (hret name List.mem_cons_self)).bind
        fun _ => .pure _
  | _ => exact .pure _

lemma tells_declareFn {id : Ident} (hid : P id.loc) (ret : Ty) : (declareFn id ret).Tells P :=
  (tells_rejectDuplicate hid).bind fun duplicate => by
    cases duplicate with
    | true => exact .pure _
    | false => exact (tells_introduceHere _ _).bind fun _ => .pure _

lemma tells_setParams (h : SymbolId) (formals : List VarDecl) : (setParams h formals).Tells P :=
  tells_symbols.bind fun _ => (Tells.require _ _).bind fun _ => .update _

lemma tells_resolveFn {f : FnDecl}
    (h : Covers P (Decl.fn f).declIdents (Decl.fn f).exprs (Decl.fn f).returns) :
    (resolveFn f).Tells P := by
  have hhead : AllLocated P (f.ret.idents ++ f.id :: f.formals.flatMap VarDecl.idents) :=
    h.declared.mono (List.subset_append_left _ _)
  have hret : AllLocated P f.ret.idents := hhead.mono (List.subset_append_left _ _)
  have hrest : AllLocated P (f.id :: f.formals.flatMap VarDecl.idents) :=
    hhead.mono (List.subset_append_right _ _)
  have hid : P f.id.loc := hrest f.id List.mem_cons_self
  have hbody : ∀ ret id formals, (do
      let body ← f.body.visit visitor
      closeScope
      return { ret, id, formals, body } : Naming FnDecl).Tells P := fun _ _ _ =>
    (f.body.visit_tells tellsInside_visitor (h.mono (List.subset_append_right _ _)
      (List.Subset.refl _) (List.Subset.refl _))).bind fun _ =>
        tells_closeScope.bind fun _ => .pure _
  refine (tells_returnType hret).bind fun _ => (tells_declareFn hid _).bind fun r =>
    tells_openScope.bind fun _ =>
      (tells_declareVars (hrest.mono (List.subset_cons_self _ _))).bind fun formals => ?_
  obtain ⟨id, symbol⟩ := r
  cases symbol with
  | none => exact hbody _ _ _
  | some h => exact (tells_setParams _ _).bind fun _ => hbody _ _ _

lemma tells_resolveStruct {s : StructDecl} (h : AllLocated P (Decl.struct s).declIdents) :
    (resolveStruct s).Tells P :=
  (tells_rejectDuplicate (h s.id List.mem_cons_self)).bind fun duplicate =>
    (Tells.note rfl).bind fun _ => tells_table.bind fun _ =>
      (tells_declareFields _ (h.mono (List.subset_cons_self _ _)) _).bind fun _ => by
        cases duplicate with
        | true => exact .pure _
        | false =>
            exact (tells_introduceHere _ _).bind fun _ => (Tells.note rfl).bind fun _ => .pure _

lemma tells_resolveDecl {d : Decl} (h : Covers P d.declIdents d.exprs d.returns) :
    (resolveDecl d).Tells P := by
  cases d with
  | var d => exact (tells_declareVar h.declared).bind fun _ => .pure _
  | fn f => exact (tells_resolveFn h).bind fun _ => .pure _
  | struct s => exact (tells_resolveStruct h.declared).bind fun _ => .pure _

lemma tells_logScopes : logScopes.Tells P :=
  tells_table.bind fun _ => tells_symbols.bind fun _ => .note rfl

end Naming

open Naming in
/-- Name resolution reports at places of the program. -/
lemma tells_resolveProgram (dumpScopes : Bool) {p : Program}
    (h : ∀ d ∈ p.decls, Covers P d.declIdents d.exprs d.returns) :
    (resolveProgram dumpScopes p).Tells P := by
  have hend : ∀ decls : List Decl, (do
      closeScope
      Pass.note (.namingFinished (← symbols).size (← get).errors)
      return { decls } : Naming Program).Tells P := fun _ =>
    tells_closeScope.bind fun _ => tells_symbols.bind fun _ =>
      Tells.bind Run.Adds.refl fun _ => (Tells.note rfl).bind fun _ => .pure _
  have hrestart : (modify fun run : Run Names =>
      run.restart { run.work with table := .empty } : Naming Unit).Tells P :=
    fun _ => .of_eq rfl rfl rfl
  refine hrestart.bind fun _ => (Tells.note rfl).bind fun _ => tells_openScope.bind fun _ =>
    (Tells.mapM fun d hd => tells_resolveDecl (h d hd)).bind fun decls => ?_
  cases dumpScopes with
  | false => exact hend decls
  | true => exact tells_logScopes.bind fun _ => hend decls

/-! ## Type checking -/

variable {A : Arena}

/-- What a judgement finds is at the places that it looks at. -/
lemma Expr.mem_spots_of_judged {e : Expr} : ∀ f ∈ (e.judged A).2, f.loc ∈ e.spots := by
  intro f hf
  cases e with
  | lit value note => cases hf
  | name id note =>
      rw [judged_name] at hf
      cases hf
  | dot base field failed note =>
      rw [judged_dot] at hf
      cases hf
  | assign target value note => exact List.mem_singleton.2 (Verdict.loc_of_mem hf)
  | unary op operand note => exact List.mem_singleton.2 (Verdict.loc_of_mem hf)
  | binary op left right note =>
      have hleft : left.loc ∈ (Expr.binary op left right note).spots := List.mem_cons_self
      have hright : right.loc ∈ (Expr.binary op left right note).spots :=
        List.mem_cons_of_mem _ List.mem_cons_self
      have hjudged : f ∈ (judgeBinary op left right).2 := hf
      unfold judgeBinary at hjudged
      split at hjudged
      · rcases List.mem_append.1 hjudged with hf | hf
        · exact Verdict.loc_of_mem hf ▸ hleft
        · exact Verdict.loc_of_mem hf ▸ hright
      · exact Verdict.loc_of_mem hjudged ▸ hleft
  | call callee args note =>
      rw [judged_call] at hf
      unfold judgeCall at hf
      split at hf
      · dsimp only at hf
        split at hf
        · obtain ⟨arg, harg, hloc⟩ := mem_args_of_argFindings hf
          exact List.mem_cons_of_mem _ (List.mem_map.2 ⟨arg, harg, hloc.symm⟩)
        · obtain rfl := List.mem_singleton.1 hf
          exact List.mem_cons_self
      · cases hf

namespace Checking

lemma tells_reportAll {findings : List Finding} (h : ∀ f ∈ findings, P f.loc) :
    (reportAll findings).Tells P := by
  unfold reportAll
  induction findings with
  | nil => exact .pure ()
  | cons f findings ih =>
      rw [List.forall_mem_cons] at h
      exact (Tells.report h.1 _).bind fun _ => ih h.2

lemma tells_conclude (loc : Location) (verdict : Verdict) :
    (conclude loc verdict).Tells (· = loc) :=
  Tells.bind (P := (· = loc)) (tells_reportAll fun _ => Verdict.loc_of_mem) fun _ => .update _

lemma tells_checkCallee {callee : Ident} (hcallee : P callee.loc) :
    (checkCallee A callee).Tells P :=
  (Tells.require _ _).bind fun _ =>
    (tells_reportAll fun _ hf => Verdict.loc_of_mem hf ▸ hcallee).bind fun _ => .pure _

lemma yields_judged (e : Expr) :
    (require (e.judge A) (.error, []) : Checking (Ty × List Finding)).Yields (· = e.judged A) := by
  unfold Expr.judged
  cases e.judge A with
  | ok r => exact .pure rfl
  | error fault => exact .after fun _ => .pure rfl

lemma tells_settle (e : Expr) : (settle A e).Tells (· ∈ e.spots) :=
  (Tells.require _ _).bind_of_yields (yields_judged e) fun _ hr =>
    (tells_reportAll (hr ▸ Expr.mem_spots_of_judged)).bind fun _ => (Tells.fill _ _).bind fun _ =>
      .pure _

lemma tellsInside_visitor (ret : Ty) : (visitor A ret).TellsInside .typing where
  varies := variesBy_visitor A ret
  keeps := keepsBare_typing
  name _ := .pure _
  callee _ := tells_checkCallee rfl
  field _ _ _ := .pure _
  expr := tells_settle
  decl _ := .pure _
  enter := .pure _
  leave := .pure _
  simple _ _ := tells_conclude _ _
  condition _ _ := tells_conclude _ _
  ret _ _ := tells_conclude _ _

lemma tells_checkDecl {d : Decl} (h : Covers P d.declIdents d.exprs d.returns) :
    (checkDecl A d).Tells P := by
  cases d with
  | fn f =>
      exact (f.body.visit_tells (tellsInside_visitor f.ret.returned)
        (h.mono (List.subset_append_right _ _) (List.Subset.refl _) (List.Subset.refl _))).bind
          fun _ => .pure _
  | _ => exact .pure _

end Checking

open Checking in
/-- Type checking reports at places of the program. -/
lemma tells_checkProgram {p : Program}
    (h : ∀ d ∈ p.decls, Covers P d.declIdents d.exprs d.returns) :
    (checkProgram A p).Tells P := by
  have hrestart : (modify (Run.restart true) : Checking Unit).Tells P := fun _ => .of_eq rfl rfl rfl
  exact hrestart.bind fun _ => (Tells.note rfl).bind fun _ =>
    (Tells.mapM fun d hd => tells_checkDecl (h d hd)).bind fun _ =>
      Tells.bind Run.Adds.refl fun _ => (Tells.note rfl).bind fun _ => .pure _

/-! ## Accounts -/

section

variable {p q : Program} {V : Variation}

lemma Program.covers_places : ∀ d ∈ p.decls,
    Covers (· ∈ p.places) d.declIdents d.exprs d.returns := by
  intro d hd
  have hidents : ∀ id ∈ d.idents, id.loc ∈ p.places := fun id hid =>
    List.mem_append_left _ (List.mem_append_left _ (List.mem_map_of_mem
      (Program.mem_idents_iff.2 (List.mem_flatMap.2 ⟨d, hd, hid⟩))))
  refine ⟨fun id hid => hidents id (List.mem_append_left _ hid), fun e he => ⟨?_, fun id hid =>
    hidents id (List.mem_append_right _ (List.mem_filterMap.2 ⟨e, he, hid⟩))⟩, fun loc hloc => ?_⟩
  · exact List.mem_append_left _ (List.mem_append_right _ (List.mem_map_of_mem
      (List.mem_flatMap.2 ⟨d, hd, he⟩)))
  · exact List.mem_append_right _ (List.mem_flatMap.2 ⟨d, hd, hloc⟩)

mutual

theorem Block.Varies.returns_eq : ∀ {b b' : Block}, b.Varies V b' → b'.returns = b.returns
  | _, _, .mk _ stmts => stmts.returnsOfAll_eq

theorem Stmt.Varies.returns_eq : ∀ {s s' : Stmt}, s.Varies V s' → s'.returns = s.returns
  | _, _, .simple _ _ | _, _, .leave _ | _, _, .ret _ _ => rfl
  | _, _, .guarded _ _ branch => branch.returns_eq
  | _, _, .ifElse _ first second => congrArg₂ _ first.returns_eq second.returns_eq

theorem Stmt.VariesAll.returnsOfAll_eq : ∀ {ss ss' : List Stmt}, Stmt.VariesAll V ss ss' →
    Stmt.returnsOfAll ss' = Stmt.returnsOfAll ss
  | _, _, .nil => rfl
  | _, _, .cons first rest => congrArg₂ _ first.returns_eq rest.returnsOfAll_eq

end

lemma Decl.Varies.returns_eq {d d' : Decl} (h : d.Varies V d') : d'.returns = d.returns := by
  cases h with
  | fn ret head params body => exact body.returns_eq
  | _ => rfl

/-- Name resolution moves nothing. -/
lemma Program.Varies.places_eq (h : p.Varies .binding q) : q.places = p.places := by
  have hidents : q.idents.map Ident.loc = p.idents.map Ident.loc :=
    map_eq_of_forall₂ (h.idents identsBy_binding) fun _ _ fills => by
      obtain rfl | ⟨-, k, rfl⟩ := fills <;> rfl
  have hexprs : q.exprs.map Expr.loc = p.exprs.map Expr.loc :=
    map_eq_of_forall₂ h.exprs fun _ _ => keepsBare_binding.expr_loc
  have hreturns : q.decls.map Decl.returns = p.decls.map Decl.returns :=
    map_eq_of_forall₂ h fun _ _ => Decl.Varies.returns_eq
  rw [places, places, hidents, hexprs, returns, returns, List.flatMap, List.flatMap, hreturns]

end

/-- The sink has taken the diagnostics up behind those that it held.  They are errors, each at line
and column of a place of the program. -/
structure Program.Gains (p : Program) (sink sink' : Diagnostics) (ds : List Diagnostic) :
    Prop where
  appended : sink'.entries.toList = sink.entries.toList ++ ds
  errors : ∀ d ∈ ds, d.severity = .error
  placed : ∀ d ∈ ds, ∃ loc ∈ p.places, d.loc.line = loc.line ∧ d.loc.column = loc.column

section

variable {p : Program} {s t : Run σ}

lemma Program.Gains.nothing (sink : Diagnostics) : p.Gains sink sink [] :=
  ⟨(List.append_nil _).symm, nofun, nofun⟩

lemma Run.Adds.gains (h : s.Adds (· ∈ p.places) t) :
    ∃ ds, p.Gains s.sink t.sink ds ∧ t.errors = s.errors + ds.length := by
  obtain ⟨fs, hfs, hall⟩ := h
  refine ⟨fs.map Finding.diagnostic, ⟨hfs.told, ?_, ?_⟩, ?_⟩
  · exact List.forall_mem_map.2 fun f _ => rfl
  · exact List.forall_mem_map.2 fun f hf => ⟨f.loc, hall f hf, rfl, rfl⟩
  · rw [hfs.count, List.length_map]

end

/-- **Every report is accounted for.**  Whatever tree name resolution, type checking or analysis are
given, with whatever in the sink, and however they end: what was in the sink stays first, and behind
it there are errors only, each at a place of the program, and as many as the pass has counted.  An
analysis leaves those of name resolution and then those of type checking, and when it has a result,
the result gives their numbers. -/
theorem diagnostics_are_accounted_for (p : Program) :
    (∀ (dumpScopes : Bool) (s : Run Names), let t := ((resolveProgram dumpScopes p).run s).2
      ∃ ds, p.Gains s.sink t.sink ds ∧ t.errors = s.errors + ds.length) ∧
    (∀ (A : Arena) (s : Run Bool), let t := ((checkProgram A p).run s).2
      ∃ ds, p.Gains s.sink t.sink ds ∧ t.errors = s.errors + ds.length) ∧
    ∀ (config : Config) (sink : Diagnostics),
      let naming := ((resolveProgram config.dumpScopes p).run { work := {}, sink }).2
      let R := analyze config p sink
      ∃ names types, p.Gains sink naming.sink names ∧ p.Gains naming.sink R.sink types ∧
        ∀ a, R.result = .ok a → names.length = a.nameErrors ∧ types.length = a.typeErrors := by
  have hcovers := p.covers_places
  have hnaming : ∀ dumpScopes, (resolveProgram dumpScopes p).Tells (· ∈ p.places) :=
    fun dumpScopes => tells_resolveProgram dumpScopes hcovers
  refine ⟨fun dumpScopes s => (hnaming dumpScopes s).gains,
    fun A s => (tells_checkProgram hcovers s).gains, fun config sink => ?_⟩
  obtain ⟨names, hnames, hcount⟩ := (hnaming config.dumpScopes { work := {}, sink }).gains
  have hvaries := yields_resolveProgram config.dumpScopes p { work := {}, sink }
  rcases hrun : (resolveProgram config.dumpScopes p).run { work := {}, sink } with ⟨q, t⟩
  rw [hrun] at hnames hcount hvaries
  have hplaces := hvaries.places_eq
  have hcheck : (checkProgram t.work.symbols q).Tells (· ∈ p.places) :=
    tells_checkProgram (hplaces ▸ q.covers_places)
  obtain ⟨types, htypes, hcount'⟩ := (hcheck { work := true, sink := t.sink }).gains
  rcases hrun' : (checkProgram t.work.symbols q).run { work := true, sink := t.sink } with ⟨q', u⟩
  rw [hrun'] at htypes hcount'
  rw [Nat.zero_add] at hcount hcount'
  simp only [analyze, hrun, hrun']
  split
  · refine ⟨names, [], hnames, .nothing _, fun a ha => ?_⟩
    cases ha
  · split
    · refine ⟨names, [], hnames, .nothing _, fun a ha => ?_⟩
      obtain rfl := Except.ok.inj ha
      exact ⟨hcount.symm, rfl⟩
    · refine ⟨names, types, hnames, htypes, fun a ha => ?_⟩
      split at ha
      · cases ha
      · obtain rfl := Except.ok.inj ha
        exact ⟨hcount.symm, hcount'.symm⟩

end StructLang
