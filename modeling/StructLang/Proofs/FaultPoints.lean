import Mathlib.Data.List.TakeWhile
import Mathlib.Tactic.Common
import StructLang.Proofs.Inspections
import StructLang.Proofs.Readiness

/-!
# Where type checking can fail

The points of a program (`Program.sites`) are in the order in which type checking comes by.  At each
of them it can meet one fault at most, and which one can be read off from the tree and the symbols
alone: the identifier of an expression has a handle without a type, or the slot is filled already.

* `Site.fault?` — the fault that type checking meets at a point.
* `Program.clear_iff` — no point has one exactly if all expressions are ready.
* `Completed` — points without faults, and the same points after type checking.
* `Halfway` — the points of a tree that was left at a fault: the expressions before it have their
  types, and the slots of the others are as they were.
-/

namespace StructLang

/-! ## Faults of points -/

/-- The fault that looking up the type of the identifier meets. -/
def Ident.fault? (A : Arena) (id : Ident) : Option Fault :=
  match id.tyIn A with
  | .ok _ => none
  | .error fault => some fault

/-- The fault that is met at an expression whose parts have their types.  Its identifier is looked
up first, and then its slot is filled. -/
def Expr.fault? (A : Arena) (e : Expr) : Option Fault :=
  (e.ident?.bind (·.fault? A)).or (if e.note.ty.isFilled then some (.slotFilled "type") else none)

/-- The fault that type checking meets at the point. -/
def Site.fault? (A : Arena) : Site → Option Fault
  | callee id => id.fault? A
  | expr e => e.fault? A
  | simple _ _ | condition _ _ | ret _ _ _ => none

variable {A : Arena}

lemma Ident.fault?_eq_none_iff {id : Ident} :
    id.fault? A = none ↔ ∀ h, id.symbol? = some h → ∃ ty, A.typeOf h = .ok ty := by
  constructor
  · intro hnone
    cases hty : id.tyIn A with
    | ok ty => exact Ident.known_of_tyIn hty
    | error fault => simp only [fault?, hty, reduceCtorEq] at hnone
  · intro known
    simp only [fault?, Ident.tyIn_eq known]

lemma Expr.fault?_eq_none_iff {e : Expr} : e.fault? A = none ↔ e.Ready A := by
  have hslot : (if e.note.ty.isFilled then some (Fault.slotFilled "type") else none) = none ↔
      e.ty? = none := by
    rw [Expr.ty?, Slot.isFilled]
    cases e.note.ty.content <;> simp
  have hident : e.ident?.bind (·.fault? A) = none ↔
      ∀ id, e.ident? = some id → ∀ h, id.symbol? = some h → ∃ ty, A.typeOf h = .ok ty := by
    rw [Option.bind_eq_none_iff]
    exact forall_congr' fun id => imp_congr_right fun _ => Ident.fault?_eq_none_iff
  rw [Expr.fault?, Option.or_eq_none_iff, hslot, hident]
  exact ⟨fun h => ⟨h.2, h.1⟩, fun h => ⟨h.known, h.empty⟩⟩

/-- An expression that cannot be judged fails at its identifier. -/
lemma Expr.fault?_of_judge {e : Expr} {fault : Fault} (h : e.judge A = .error fault) :
    e.fault? A = some fault := by
  have hbind : ∀ {id : Ident} {f : Ty → Ty × List Finding},
      (do return f (← id.tyIn A) : Except Fault _) = .error fault → id.fault? A = some fault := by
    intro id f herror
    unfold Ident.fault?
    cases hty : id.tyIn A with
    | ok ty =>
        rw [hty] at herror
        cases herror
    | error other =>
        rw [hty] at herror
        exact congrArg some (Except.error.inj herror)
  have hident : ∀ {id : Ident}, e.ident? = some id → id.fault? A = some fault →
      e.fault? A = some fault := by
    intro id hid hfault
    rw [Expr.fault?, hid, Option.bind_some, hfault, Option.some_or]
  cases e with
  | name id note => exact hident rfl (hbind (f := fun ty => (ty, [])) h)
  | dot base field failed note => exact hident rfl (hbind (f := fun ty => (ty, [])) h)
  | call callee args note => exact hident rfl (hbind (f := fun ty => judgeCall callee ty args) h)
  | _ => cases h

/-- An expression that can be judged but is not ready fails at its slot. -/
lemma Expr.fault?_of_filled {e : Expr} {r : Ty × List Finding} {ty : Ty} (h : e.judge A = .ok r)
    (hty : e.ty? = some ty) : e.fault? A = some (.slotFilled "type") := by
  have hident : e.ident?.bind (·.fault? A) = none := by
    rw [Option.bind_eq_none_iff]
    exact fun id hid => Ident.fault?_eq_none_iff.2 (Expr.known_of_judge h id hid)
  have hfilled : e.note.ty.isFilled = true := by
    rw [Slot.isFilled, ← Expr.ty?, hty]
    rfl
  rw [Expr.fault?, hident, Option.none_or, if_pos hfilled]

/-! ## Points without faults -/

/-- No point has a fault. -/
def Clear (A : Arena) (sites : List Site) : Prop := ∀ site ∈ sites, site.fault? A = none

lemma clear_append {ss ts : List Site} : Clear A (ss ++ ts) ↔ Clear A ss ∧ Clear A ts :=
  List.forall_mem_append

lemma clear_cons {s : Site} {ss : List Site} :
    Clear A (s :: ss) ↔ s.fault? A = none ∧ Clear A ss := List.forall_mem_cons

lemma clear_singleton {s : Site} : Clear A [s] ↔ s.fault? A = none := List.forall_mem_singleton

/-- The point of an expression comes behind those of its parts. -/
lemma clear_snoc {ss : List Site} {e : Expr} {es : List Expr} (h : Clear A ss ↔ AllReady A es) :
    Clear A (ss ++ [.expr e]) ↔ AllReady A (e :: es) := by
  rw [clear_append, clear_singleton, h, allReady_cons, and_comm]
  exact and_congr_left' Expr.fault?_eq_none_iff

mutual

theorem Expr.clear_iff : ∀ e : Expr, Clear A e.sites ↔ AllReady A e.exprs
  | .lit _ _ => clear_singleton.trans (Expr.fault?_eq_none_iff.trans List.forall_mem_singleton.symm)
  | .name _ _ => clear_singleton.trans
      (Expr.fault?_eq_none_iff.trans List.forall_mem_singleton.symm)
  | .dot base _ _ _ => clear_snoc base.clear_iff
  | .assign target value _ => by
      refine clear_snoc (?_ : _ ↔ AllReady A (target.exprs ++ value.exprs))
      rw [clear_append, target.clear_iff, value.clear_iff, allReady_append]
  | .call callee args _ => by
      -- the callee has a point of its own, and nothing is wrong at it if the call is ready
      rw [sites, List.cons_append, clear_cons, clear_snoc (Expr.clearAll_iff args)]
      refine and_iff_right_of_imp fun h => Ident.fault?_eq_none_iff.2 ?_
      exact (h _ List.mem_cons_self).known callee rfl
  | .unary _ operand _ => clear_snoc operand.clear_iff
  | .binary _ left right _ => by
      refine clear_snoc (?_ : _ ↔ AllReady A (left.exprs ++ right.exprs))
      rw [clear_append, left.clear_iff, right.clear_iff, allReady_append]

theorem Expr.clearAll_iff : ∀ es : List Expr,
    Clear A (Expr.sitesOfAll es) ↔ AllReady A (Expr.exprsOfAll es)
  | [] => iff_of_true (fun _ => nofun) fun _ => nofun
  | e :: es => by
      rw [Expr.sitesOfAll, Expr.exprsOfAll, clear_append, allReady_append, e.clear_iff,
        Expr.clearAll_iff es]

end

mutual

theorem Block.clear_iff (ret : Ty) : ∀ b : Block, Clear A (b.sites ret) ↔ AllReady A b.exprs
  | .mk _ stmts => Stmt.clearAll_iff ret stmts

theorem Stmt.clear_iff (ret : Ty) : ∀ s : Stmt, Clear A (s.sites ret) ↔ AllReady A s.exprs
  | .simple _ e => by
      rw [Stmt.sites, clear_append, clear_singleton, e.clear_iff]
      exact and_iff_left rfl
  | .guarded _ cond body => by
      rw [Stmt.sites, Stmt.exprs, clear_append, clear_cons, cond.clear_iff, body.clear_iff ret,
        allReady_append]
      exact and_congr_right' (and_iff_right rfl)
  | .ifElse cond yes no => by
      rw [Stmt.sites, Stmt.exprs, clear_append, clear_cons, clear_append, cond.clear_iff,
        yes.clear_iff ret, no.clear_iff ret, allReady_append, allReady_append, and_assoc]
      exact and_congr_right' (and_iff_right rfl)
  | .ret none _ => iff_of_true (clear_singleton.2 rfl) fun _ => nofun
  | .ret (some value) _ => by
      rw [Stmt.sites, clear_append, clear_singleton, value.clear_iff]
      exact and_iff_left rfl

theorem Stmt.clearAll_iff (ret : Ty) : ∀ ss : List Stmt,
    Clear A (Stmt.sitesOfAll ret ss) ↔ AllReady A (Stmt.exprsOfAll ss)
  | [] => iff_of_true (fun _ => nofun) fun _ => nofun
  | s :: ss => by
      rw [Stmt.sitesOfAll, Stmt.exprsOfAll, clear_append, allReady_append, s.clear_iff ret,
        Stmt.clearAll_iff ret ss]

end

lemma Decl.clear_iff (d : Decl) : Clear A d.sites ↔ AllReady A d.exprs := by
  cases d with
  | fn f => exact f.body.clear_iff f.ret.returned
  | _ => exact iff_of_true (fun _ => nofun) fun _ => nofun

lemma Decl.clearAll_iff (ds : List Decl) :
    Clear A (ds.flatMap Decl.sites) ↔ AllReady A (ds.flatMap Decl.exprs) := by
  induction ds with
  | nil => exact iff_of_true (fun _ => nofun) fun _ => nofun
  | cons d ds ih =>
      rw [List.flatMap_cons, List.flatMap_cons, clear_append, allReady_append, d.clear_iff, ih]

/-- All expressions are ready exactly if no point of the program has a fault. -/
theorem Program.clear_iff {p : Program} : Clear A p.sites ↔ AllReady A p.exprs :=
  Decl.clearAll_iff p.decls

/-! ## Halfway -/

mutual

theorem Expr.judgedAt_decorate : ∀ e : Expr,
    judgedAt (e.decorate A).sites = (judgedAt e.sites).map (·.decorate A)
  | .lit _ _ => rfl
  | .name _ _ => rfl
  | .dot base _ _ _ => by
      simp only [decorate, settled, withNote, sites, judgedAt_append, base.judgedAt_decorate,
        List.map_append]
      rfl
  | .assign target value _ => by
      simp only [decorate, settled, withNote, sites, judgedAt_append, target.judgedAt_decorate,
        value.judgedAt_decorate, List.map_append]
      rfl
  | .call callee args _ => by
      simp only [decorate, settled, withNote, sites, judgedAt_append, List.map_append]
      exact congrArg (· ++ _) (Expr.judgedAtAll_decorate args)
  | .unary _ operand _ => by
      simp only [decorate, settled, withNote, sites, judgedAt_append, operand.judgedAt_decorate,
        List.map_append]
      rfl
  | .binary _ left right _ => by
      simp only [decorate, settled, withNote, sites, judgedAt_append, left.judgedAt_decorate,
        right.judgedAt_decorate, List.map_append]
      rfl

theorem Expr.judgedAtAll_decorate : ∀ es : List Expr,
    judgedAt (Expr.sitesOfAll (Expr.decorateAll A es)) =
      (judgedAt (Expr.sitesOfAll es)).map (·.decorate A)
  | [] => rfl
  | e :: es => by
      rw [Expr.decorateAll, Expr.sitesOfAll, Expr.sitesOfAll, judgedAt_append, judgedAt_append,
        List.map_append, e.judgedAt_decorate, Expr.judgedAtAll_decorate es]

end

/-- No expression is judged at a condition itself. -/
lemma judgedAt_condition (guard : Guard) (cond : Expr) (ss : List Site) :
    judgedAt (.condition guard cond :: ss) = judgedAt ss := rfl

mutual

theorem Block.judgedAt_decorate (ret : Ty) : ∀ b : Block,
    judgedAt ((b.decorate A).sites ret) = (judgedAt (b.sites ret)).map (·.decorate A)
  | .mk _ stmts => Stmt.judgedAtAll_decorate ret stmts

theorem Stmt.judgedAt_decorate (ret : Ty) : ∀ s : Stmt,
    judgedAt ((s.decorate A).sites ret) = (judgedAt (s.sites ret)).map (·.decorate A)
  | .simple _ e => by
      simp only [Stmt.decorate, Stmt.sites, judgedAt_append, e.judgedAt_decorate, List.map_append]
      rfl
  | .guarded _ cond body => by
      simp only [Stmt.decorate, Stmt.sites, judgedAt_append, judgedAt_condition,
        cond.judgedAt_decorate, body.judgedAt_decorate ret, List.map_append]
  | .ifElse cond yes no => by
      simp only [Stmt.decorate, Stmt.sites, judgedAt_append, judgedAt_condition,
        cond.judgedAt_decorate, yes.judgedAt_decorate ret, no.judgedAt_decorate ret,
        List.map_append]
  | .ret none _ => rfl
  | .ret (some value) _ => by
      simp only [Stmt.decorate, Stmt.sites, judgedAt_append, value.judgedAt_decorate,
        List.map_append]
      rfl

theorem Stmt.judgedAtAll_decorate (ret : Ty) : ∀ ss : List Stmt,
    judgedAt (Stmt.sitesOfAll ret (Stmt.decorateAll A ss)) =
      (judgedAt (Stmt.sitesOfAll ret ss)).map (·.decorate A)
  | [] => rfl
  | s :: ss => by
      rw [Stmt.decorateAll, Stmt.sitesOfAll, Stmt.sitesOfAll, judgedAt_append, judgedAt_append,
        List.map_append, s.judgedAt_decorate ret, Stmt.judgedAtAll_decorate ret ss]

end

lemma Decl.judgedAt_decorate (d : Decl) :
    judgedAt (d.decorate A).sites = (judgedAt d.sites).map (·.decorate A) := by
  cases d with
  | fn f => exact f.body.judgedAt_decorate f.ret.returned
  | _ => rfl

/-- The points have no faults, and what is left of their expressions has the types. -/
structure Completed (A : Arena) (before after : List Site) : Prop where
  clear : Clear A before
  types : judgedAt after = (judgedAt before).map (·.decorate A)

/-- The slots of the expressions are as they were. -/
def Untouched (before after : List Site) : Prop :=
  (judgedAt after).map Expr.ty? = (judgedAt before).map Expr.ty?

/-- The points of a tree and those of the tree that is left when the first fault is met: the points
before the fault are completed, and the others untouched. -/
inductive Halfway (A : Arena) : List Site → List Site → Fault → Prop
  | mk {before before' after after' : List Site} {site : Site} {fault : Fault}
      (completed : Completed A before before') (first : site.fault? A = some fault)
      (untouched : Untouched (site :: after) after') :
      Halfway A (before ++ site :: after) (before' ++ after') fault

section

variable {ss ss' ts ts' : List Site} {fault : Fault}

lemma Completed.nil : Completed A [] [] := ⟨fun _ => nofun, rfl⟩

lemma Completed.append (h : Completed A ss ss') (h' : Completed A ts ts') :
    Completed A (ss ++ ts) (ss' ++ ts') where
  clear := clear_append.2 ⟨h.clear, h'.clear⟩
  types := by rw [judgedAt_append, judgedAt_append, List.map_append, h.types, h'.types]

lemma Completed.callee {id : Ident} (h : id.fault? A = none) :
    Completed A [.callee id] [.callee id] := ⟨clear_singleton.2 h, rfl⟩

lemma Completed.condition (guard : Guard) (cond cond' : Expr) :
    Completed A [.condition guard cond] [.condition guard cond'] := ⟨clear_singleton.2 rfl, rfl⟩

lemma Expr.completed {e : Expr} (h : AllReady A e.exprs) :
    Completed A e.sites (e.decorate A).sites := ⟨e.clear_iff.2 h, e.judgedAt_decorate⟩

lemma Expr.completedAll {es : List Expr} (h : AllReady A (Expr.exprsOfAll es)) :
    Completed A (Expr.sitesOfAll es) (Expr.sitesOfAll (Expr.decorateAll A es)) :=
  ⟨(Expr.clearAll_iff es).2 h, Expr.judgedAtAll_decorate es⟩

lemma Block.completed (ret : Ty) {b : Block} (h : AllReady A b.exprs) :
    Completed A (b.sites ret) ((b.decorate A).sites ret) :=
  ⟨(b.clear_iff ret).2 h, b.judgedAt_decorate ret⟩

lemma Stmt.completed (ret : Ty) {s : Stmt} (h : AllReady A s.exprs) :
    Completed A (s.sites ret) ((s.decorate A).sites ret) :=
  ⟨(s.clear_iff ret).2 h, s.judgedAt_decorate ret⟩

lemma Decl.completed {d : Decl} (h : AllReady A d.exprs) :
    Completed A d.sites (d.decorate A).sites := ⟨d.clear_iff.2 h, d.judgedAt_decorate⟩

lemma Untouched.append (h : Untouched ss ss') (h' : Untouched ts ts') :
    Untouched (ss ++ ts) (ss' ++ ts') := by
  unfold Untouched
  rw [judgedAt_append, judgedAt_append, List.map_append, List.map_append, h, h']

lemma Halfway.behind (h : Completed A ss ss') (h' : Halfway A ts ts' fault) :
    Halfway A (ss ++ ts) (ss' ++ ts') fault := by
  cases h' with
  | mk completed first untouched =>
      rw [← List.append_assoc, ← List.append_assoc]
      exact .mk (h.append completed) first untouched

lemma Halfway.before (h : Halfway A ss ss' fault) (h' : Untouched ts ts') :
    Halfway A (ss ++ ts) (ss' ++ ts') fault := by
  cases h with
  | mk completed first untouched =>
      rw [List.append_assoc, List.append_assoc, List.cons_append]
      exact .mk completed first (untouched.append h')

/-- The fault is met at the first point. -/
lemma Halfway.here {site site' : Site} (hfault : site.fault? A = some fault)
    (h : Untouched [site] [site']) : Halfway A [site] [site'] fault :=
  .mk .nil hfault h

/-- Only the slot and the identifier count. -/
lemma Halfway.expr {e e' : Expr} (hfault : e'.fault? A = some fault)
    (hty : e'.note.ty = e.note.ty) (hident : e'.ident? = e.ident?) :
    Halfway A [.expr e] [.expr e'] fault := by
  have huntouched : Untouched [.expr e] [.expr e'] :=
    congrArg (fun slot : Slot "type" Ty => [slot.content]) hty
  refine .here ?_ huntouched
  rw [← hfault, Site.fault?, Expr.fault?, Expr.fault?, hty, hident]

end

lemma Clear.findSome? (h : Clear A ss) : ss.findSome? (Site.fault? A) = none :=
  List.findSome?_eq_none_iff.2 h

lemma Clear.takeWhile (h : Clear A ss) (ts : List Site) :
    (ss ++ ts).takeWhile (fun site => (site.fault? A).isNone) =
      ss ++ ts.takeWhile fun site => (site.fault? A).isNone :=
  List.takeWhile_append_of_pos fun site hsite => by rw [h site hsite, Option.isNone_none]

end StructLang
