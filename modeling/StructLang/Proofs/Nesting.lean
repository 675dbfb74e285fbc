import Mathlib.Tactic.Common
import StructLang.Proofs.Scopes
import StructLang.Tree.Build

/-!
# Scopes nest

Name resolution opens scopes, fills them and closes them again, for functions and for every block of
a statement.  If it comes to the end of a statement, the open scopes are what they were before it,
and a declaration of the program has added its own name to them or nothing.

Nothing is asked of the run or of the tree for that.  There may be handles in the scopes that have no
symbol, and slots that are filled with whatever.  So this does not come from the rules of name
resolution, which take sound names for granted, but from what each step of the pass does to the
table.

* `Naming.Turns` — how the open scopes before and after are related, in a run that goes on.
* `Naming.respects_turns` — what is inside a block reaches the innermost scope alone, and what is
  around it does not even reach that.
* `ScopeStack.Gains` — what a declaration makes of the open scopes.
* `scopes_are_left_as_found` — the two together.
-/

namespace StructLang

/-! ## What a declaration adds -/

/-- The declaration of an identifier leaves the scopes and the identifier as they are; or the
innermost scope, which lacks the name, gains it with the handle that the identifier is bound to
afterwards. -/
inductive ScopeStack.Gains (stack : ScopeStack) (id : Ident) : Ident → ScopeStack → Prop
  | nothing : stack.Gains id id stack
  | name {scope : Scope} {outer : List Scope} {h : SymbolId} (opened : stack.scopes = scope :: outer)
      (new : id.name ∉ scope.names) :
      stack.Gains id (id.bindTo h) { scopes := scope.insert id.name h new :: outer }

namespace ScopeStack.Gains

variable {stack target : ScopeStack} {id id' : Ident}

lemma of_declare {h : SymbolId} (hd : stack.declare id.name h = .ok target) :
    stack.Gains id (id.bindTo h) target := by
  obtain ⟨scope, outer, new, hs, ht⟩ := scopes_of_declare hd
  have htarget : target = { scopes := scope.insert id.name h new :: outer } := by
    rw [← ht]
  rw [htarget]
  exact .name hs new

lemma outer_eq (h : stack.Gains id id' target) : target.scopes.tail = stack.scopes.tail := by
  cases h with
  | nothing => rfl
  | name opened new => simp [opened]

lemma depth_eq (h : stack.Gains id id' target) : target.depth = stack.depth := by
  cases h with
  | nothing => rfl
  | name opened new => simp [depth, opened]

end ScopeStack.Gains

namespace Naming

open Pass

variable {α β : Type} {P Q R : ScopeStack → ScopeStack → Prop} {s : Run Names}

/-! ## The open scopes before and after -/

/-- A run that goes on was going on before, and the open scopes are related. -/
def Turns (P : ScopeStack → ScopeStack → Prop) (s t : Run Names) : Prop :=
  t.halted = none → s.halted = none ∧ P s.work.table t.work.table

/-- The scopes are all the same. -/
def SameScopes (before after : ScopeStack) : Prop := after = before

/-- The scopes are the same but for the innermost one. -/
def SameOuter (before after : ScopeStack) : Prop := after.scopes.tail = before.scopes.tail

/-- Any fault may occur. -/
def anyFault (_ : Fault) : Prop := True

lemma turns_trans (h : ∀ a b c, P a b → Q b c → R a c) {s t u : Run Names} (hst : Turns P s t)
    (htu : Turns Q t u) : Turns R s u := by
  intro live
  obtain ⟨live', hQ⟩ := htu live
  obtain ⟨live'', hP⟩ := hst live'
  exact ⟨live'', h _ _ _ hP hQ⟩

/-- It suffices to look at runs that are going on. -/
lemma turns_of_ends {x : Naming α} (stable : x.Stable)
    (h : ∀ s : Run Names, s.halted = none →
      Ends anyFault s x fun _ t => P s.work.table t.work.table) : x.Moves (Turns P) := by
  intro s live
  cases hs : s.halted with
  | none =>
      rcases h s hs with ⟨-, hP⟩ | ⟨fault, hfault, -⟩
      · exact ⟨rfl, hP⟩
      · rw [hfault] at live
        cases live
  | some fault =>
      rw [stable s (by simp [hs]), hs] at live
      cases live

lemma ends_of_turns {x : Naming α} (hx : x.Moves (Turns P)) :
    Ends anyFault s x fun a t => a = (x.run s).1 ∧ P s.work.table t.work.table := by
  cases hlive : (x.run s).2.halted with
  | none => exact Or.inl ⟨hlive, rfl, (hx s hlive).2⟩
  | some fault => exact Or.inr ⟨fault, hlive, trivial⟩

/-- All that leaves the table alone leaves the same scopes behind. -/
lemma tableFrame_turns : TableFrame (Turns SameScopes) where
  refl _ live := ⟨live, rfl⟩
  trans _ _ _ hst htu := turns_trans (fun _ _ _ hab hbc => hbc.trans hab) hst htu
  act f hf := turns_of_ends (Stable.act f) fun s hs => by
    have hrun : ((act f).run s).2 = f s := congrArg Prod.snd (run_act hs f)
    cases hlive : ((act f).run s).2.halted with
    | none => exact Or.inl ⟨hlive, by rw [hrun]; exact hf s⟩
    | some fault => exact Or.inr ⟨fault, hlive, trivial⟩

lemma still_turns : Still (Turns SameScopes) := tableFrame_turns.still

lemma turns_openScope : openScope.Moves (Turns fun before after => after = before.push) :=
  turns_of_ends stable_openScope fun s live =>
    .of_run (run_openScope live) (by simpa) rfl

lemma turns_closeScope :
    closeScope.Moves (Turns fun before after => after.scopes = before.scopes.tail) := by
  refine turns_of_ends stable_closeScope fun s live => ?_
  refine .run_bind run_table ((Ends.require live fun _ _ => trivial).bind
    (fun _ => (stable_setTable _).bind fun _ => .note _) ?_)
  rintro outer t live' ⟨hpop, rfl⟩
  obtain ⟨scope, hscopes⟩ := ScopeStack.scopes_of_pop (ok_of_liftScope hpop)
  refine .run_bind (run_setTable live' _) (.of_run (run_note (by simpa) rfl) (by simpa) ?_)
  simp [hscopes]

/-! ## Declarations -/

lemma introduce_gains {target : ScopeStack} {id : Ident} {kind : Symbol.Kind}
    (live : s.halted = none) :
    Ends anyFault s (introduce target id kind) fun r _ => target.Gains id r.2.1 r.1 := by
  refine .run_bind run_symbols ((Ends.require live fun _ _ => trivial).bind
    (fun _ => stable_afterAlloc _ _ _) ?_)
  rintro ⟨A, h⟩ t live' ⟨-, rfl⟩
  refine .run_bind (run_update live' _) ?_
  refine (Ends.require (by simpa) fun _ _ => trivial).bind
    (fun _ => (stable_bind _ _).bind fun _ => .pure _) ?_
  rintro target' t live' ⟨hd, rfl⟩
  have hlenient : Lenient 0 anyFault := ⟨rfl, fun _ _ => trivial⟩
  refine (bind_ends live' (Or.inr hlenient)).bind (fun _ => .pure _) ?_
  rintro id' t live'' ⟨rfl, rfl⟩
  exact .pure live'' (.of_declare (ok_of_liftScope hd))

lemma declareIn_gains {types target : ScopeStack} {d : VarDecl} :
    Ends anyFault s (declareIn types target d) fun r _ => target.Gains d.id r.2.id r.1 := by
  refine (ends_of_turns (still_turns.kindOf types d.id d.ty)).bind
    (fun _ => (Stable.require _ _).bind fun known =>
      tableFrame_stable.afterLookup _ _ _ _ known) ?_
  rintro ⟨ty, kind⟩ t live -
  refine (Ends.require live fun _ _ => trivial).bind
    (fun known => tableFrame_stable.afterLookup _ _ _ _ known) ?_
  rintro known t live -
  cases known with
  | some h => exact .run_bind (run_report live _ _) (.pure (by simpa) .nothing)
  | none =>
      cases kind with
      | none => exact .pure live .nothing
      | some kind =>
          refine (introduce_gains live).bind (fun _ => (Stable.note _).bind fun _ => .pure _) ?_
          rintro ⟨target', id, h⟩ t live hgains
          exact .run_bind (run_note live rfl) (.pure (by simpa) hgains)

lemma declareVar_gains {d : VarDecl} :
    Ends anyFault s (declareVar d) fun d' t => s.work.table.Gains d.id d'.id t.work.table := by
  refine .run_bind run_table (declareIn_gains.bind
    (fun _ => (stable_setTable _).bind fun _ => .pure _) ?_)
  rintro ⟨stack, d'⟩ t live hgains
  exact .run_bind (run_setTable live _) (.pure live hgains)

lemma introduceHere_gains {id : Ident} {kind : Symbol.Kind} (live : s.halted = none) :
    Ends anyFault s (introduceHere id kind) fun r t =>
      s.work.table.Gains id r.1 t.work.table := by
  refine .run_bind run_table ((introduce_gains live).bind
    (fun _ => (stable_setTable _).bind fun _ => .pure _) ?_)
  rintro ⟨stack, id', h⟩ t live' hgains
  exact .run_bind (run_setTable live' _) (.pure live' hgains)

/-! ## Blocks and statements -/

/-- A declaration inside a block reaches the innermost scope alone. -/
lemma turns_declareVar (d : VarDecl) : (declareVar d).Moves (Turns SameOuter) :=
  turns_of_ends (stable_declareVar d) fun _ _ =>
    declareVar_gains.mono fun _ _ hgains => hgains.outer_eq

lemma sameOuter_of_same {s t : Run Names} (h : Turns SameScopes s t) : Turns SameOuter s t := by
  intro live
  obtain ⟨live', hsame⟩ := h live
  exact ⟨live', congrArg (fun stack : ScopeStack => stack.scopes.tail) hsame⟩

lemma sameOuter_trans {s t u : Run Names} (hst : Turns SameOuter s t) (htu : Turns SameOuter t u) :
    Turns SameOuter s u :=
  turns_trans (fun _ _ _ hab hbc => hbc.trans hab) hst htu

/-- What is opened, changed in the innermost scope alone and closed again is as before. -/
lemma same_of_bracket {s t u v : Run Names}
    (opened : Turns (fun before after => after = before.push) s t) (inside : Turns SameOuter t u)
    (closed : Turns (fun before after => after.scopes = before.scopes.tail) u v) :
    Turns SameScopes s v := by
  -- whatever is in the scope that was opened, what stands behind it is the stack of before
  have hfilled : Turns (fun before after => after.scopes.tail = before.scopes) s u :=
    turns_trans (fun a b c hab hbc => by rw [hbc, hab]; rfl) opened inside
  refine turns_trans (fun a b c hab hbc => ?_) hfilled closed
  have hscopes : c.scopes = a.scopes := hbc.trans hab
  exact congrArg ScopeStack.mk hscopes

/-- Inside a block name resolution changes the innermost scope alone, and around it none. -/
lemma respects_turns : visitor.Respects (Turns SameScopes) (Turns SameOuter) where
  refl := still_turns.refl
  trans := still_turns.trans
  innerTrans _ _ _ := sameOuter_trans
  innerOfOuter := sameOuter_of_same
  name := still_turns.use
  callee := still_turns.use
  field := still_turns.selectField
  expr _ := still_turns.pure _
  decl := turns_declareVar
  bracket := fun {s t} inside => same_of_bracket (turns_openScope s) inside (turns_closeScope t)
  simple _ _ := still_turns.pure _
  condition _ _ := still_turns.pure _
  ret _ _ := still_turns.pure _

/-- A block of a statement, in a scope of its own. -/
def resolveNested (b : Block) : Naming Block := do
  openScope
  let b ← b.visit visitor
  closeScope
  return b

lemma visit_guarded_nested (guard : Guard) (cond : Expr) (body : Block) :
    (Stmt.guarded guard cond body).visit visitor = (do
      let cond ← cond.visit visitor
      let body ← resolveNested body
      return .guarded guard cond body) := by
  simp [visit_guarded, resolveNested]

lemma visit_ifElse_nested (cond : Expr) (yes no : Block) :
    (Stmt.ifElse cond yes no).visit visitor = (do
      let cond ← cond.visit visitor
      let yes ← resolveNested yes
      let no ← resolveNested no
      return .ifElse cond yes no) := by
  simp [visit_ifElse, resolveNested]

/-! ## Functions and structs -/

/-- After its head a function leaves no trace in the scopes. -/
lemma turns_afterHead (f : FnDecl) (ret : TypeName) (r : Ident × Option SymbolId) : (do
      openScope
      let formals ← f.formals.mapM declareVar
      match r.2 with
      | some h => setParams h formals
      | none => pure ()
      let body ← f.body.visit visitor
      closeScope
      return { ret, id := r.1, formals, body } : Naming FnDecl).Moves (Turns SameScopes) := by
  intro s
  have hformals : (f.formals.mapM declareVar).Moves (Turns SameOuter) :=
    Moves.mapM (fun s => sameOuter_of_same (still_turns.refl s)) (fun _ _ _ => sameOuter_trans)
      turns_declareVar _
  have hbody : (f.body.visit visitor).Moves (Turns SameOuter) := f.body.visit_moves respects_turns
  obtain ⟨id, h⟩ := r
  cases h with
  | none =>
      exact same_of_bracket (turns_openScope s) (sameOuter_trans (hformals _) (hbody _))
        (turns_closeScope _)
  | some h =>
      have hparams := fun formals t => sameOuter_of_same (tableFrame_turns.setParams h formals t)
      exact same_of_bracket (turns_openScope s)
        (sameOuter_trans (hformals _) (sameOuter_trans (hparams _ _) (hbody _)))
        (turns_closeScope _)

lemma declareFn_gains {id : Ident} {ret : Ty} :
    Ends anyFault s (declareFn id ret) fun r t => s.work.table.Gains id r.1 t.work.table := by
  refine (ends_of_turns (still_turns.rejectDuplicate id)).bind (fun duplicate => ?_) ?_
  · cases duplicate with
    | true => exact .pure _
    | false => exact (stable_introduceHere _ _).bind fun _ => .pure _
  · rintro duplicate t live ⟨-, hsame⟩
    rw [← hsame]
    cases duplicate with
    | true => exact .pure live .nothing
    | false =>
        exact (introduceHere_gains live).bind (fun _ => .pure _) fun _ _ live' hgains =>
          .pure live' hgains

lemma resolveFn_gains {f : FnDecl} :
    Ends anyFault s (resolveFn f) fun f' t => s.work.table.Gains f.id f'.id t.work.table := by
  refine (ends_of_turns (still_turns.returnType f.ret)).bind
    (fun _ => (stable_declareFn _ _).bind fun r => stable_afterHead f _ r) ?_
  rintro ⟨ret, ty⟩ t live ⟨-, hsame⟩
  refine declareFn_gains.bind (fun r => stable_afterHead f ret r) ?_
  rintro ⟨id, h⟩ u live' hgains
  refine (ends_of_turns (turns_afterHead f ret ⟨id, h⟩)).mono ?_
  rintro f' v ⟨rfl, hsame'⟩
  rw [← hsame, hsame']
  cases h with
  | none => exact hgains
  | some h => exact hgains

lemma resolveStruct_gains {st : StructDecl} :
    Ends anyFault s (resolveStruct st) fun st' t =>
      s.work.table.Gains st.id st'.id t.work.table := by
  refine (ends_of_turns (still_turns.rejectDuplicate st.id)).bind
    (fun duplicate => (Stable.note _).bind fun _ => stable_table.bind fun _ =>
      (stable_declareFields _ _ _).bind fun r => stable_afterFields st duplicate r) ?_
  rintro duplicate t live ⟨-, hsame⟩
  rw [← hsame]
  refine .run_bind (run_note live rfl) (.run_bind run_table ?_)
  refine (ends_of_turns (tableFrame_turns.declareFields _ st.fields _)).bind
    (fun r => stable_afterFields st duplicate r) ?_
  rintro ⟨table, fields⟩ u live' ⟨-, hsame'⟩
  rw [Run.work_after] at hsame'
  rw [← hsame']
  cases duplicate with
  | true => exact .pure live' .nothing
  | false =>
      refine (introduceHere_gains live').bind (fun _ => (Stable.note _).bind fun _ => .pure _) ?_
      rintro ⟨id, h⟩ v live'' hgains
      exact .run_bind (run_note live'' rfl) (.pure (by simpa) (by simpa using hgains))

lemma resolveDecl_gains {d : Decl} :
    Ends anyFault s (resolveDecl d) fun d' t => s.work.table.Gains d.id d'.id t.work.table := by
  cases d with
  | var d => exact declareVar_gains.bind (fun _ => .pure _) fun _ _ live hgains => .pure live hgains
  | fn f => exact resolveFn_gains.bind (fun _ => .pure _) fun _ _ live hgains => .pure live hgains
  | struct st =>
      exact resolveStruct_gains.bind (fun _ => .pure _) fun _ _ live hgains => .pure live hgains

end Naming

open Naming in
/-- From any run, a statement that name resolution comes to the end of leaves the open scopes as they
were, and so does a block of a statement.  A declaration of the program leaves the outer scopes as
they were, and the innermost one as well or with the name of the declaration in it. -/
theorem scopes_are_left_as_found (s : Run Names) :
    (∀ st : Stmt,
      let done := (st.visit visitor).run s
      done.2.outcome = .ok () → done.2.work.table = s.work.table) ∧
    (∀ b : Block,
      let done := (resolveNested b).run s
      done.2.outcome = .ok () → done.2.work.table = s.work.table) ∧
    ∀ d : Decl,
      let done := (resolveDecl d).run s
      done.2.outcome = .ok () →
        done.2.work.table.depth = s.work.table.depth ∧
        done.2.work.table.scopes.tail = s.work.table.scopes.tail ∧
        s.work.table.Gains d.id done.1.id done.2.work.table := by
  refine ⟨?_, ?_, ?_⟩
  · intro st done hok
    exact (st.visit_moves respects_turns s (Run.live_of_outcome hok)).2
  · intro b done hok
    have hbody : (b.visit visitor).Moves (Turns SameOuter) := b.visit_moves respects_turns
    exact (same_of_bracket (turns_openScope s) (hbody _) (turns_closeScope _)
      (Run.live_of_outcome hok)).2
  · intro d done hok
    have hgains : s.work.table.Gains d.id done.1.id done.2.work.table :=
      resolveDecl_gains.of_live (Run.live_of_outcome hok)
    exact ⟨hgains.depth_eq, hgains.outer_eq, hgains⟩

/-- A declaration of `p`. -/
def localP : VarDecl where
  ty := .int
  id := .unbound "p" .nowhere

/-- A use of `p`. -/
def useP : Expr := .use (.unbound "p" .nowhere)

/-- A loop whose body declares a `p` of its own, and then once more for each branch of a
condition. -/
def shadowingLoop : Stmt :=
  .guarded .loop useP (.mk [localP] [.ifElse useP (.mk [localP] []) (.mk [localP] [])])

/-- A recursive function with a formal and a local of the name `p`. -/
def recursiveF : Decl :=
  .fn
    { ret := .int
      id := .unbound "f" .nowhere
      formals := [localP]
      body := .mk [localP] [shadowingLoop,
        .simple .call (.apply (.unbound "f" .nowhere) [useP])] }

/-- One open scope inside another; the handles in them denote no symbol. -/
def danglingScopes : Run Names where
  work :=
    { symbols := {}
      table := { scopes := [⟨[("p", ⟨7⟩)], by decide⟩, ⟨[("f", ⟨9⟩)], by decide⟩] } }
  sink := {}

open Naming in
/-- The loop leaves the two scopes alone, also where it stands in a block that declares `p`.  The
function enters the inner scope and hides the `f` of the outer one. -/
theorem danglingScopes_are_left :
    ((shadowingLoop.visit visitor).run danglingScopes).2.work.table = danglingScopes.work.table ∧
    ((resolveNested (.mk [localP] [shadowingLoop])).run danglingScopes).2.work.table =
      danglingScopes.work.table ∧
    danglingScopes.work.table.Gains recursiveF.id ((resolveDecl recursiveF).run danglingScopes).1.id
      ((resolveDecl recursiveF).run danglingScopes).2.work.table ∧
    ((resolveDecl recursiveF).run danglingScopes).2.work.table.lookup "f" = .ok (some ⟨0⟩) := by
  obtain ⟨stmt, block, decl⟩ := scopes_are_left_as_found danglingScopes
  refine ⟨stmt shadowingLoop ?_, block (.mk [localP] [shadowingLoop]) ?_,
    (decl recursiveF ?_).2.2, ?_⟩
  all_goals decide +kernel

end StructLang
