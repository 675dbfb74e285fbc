import Mathlib.Tactic.Common
import StructLang.Proofs.Accounts
import StructLang.Tree.Build

/-!
# What the log says

A log is kept for someone who was not there.  The log of an analysis can be relied on: what it
reports is what the sink was told, what it binds and declares is what is bound on the tree, and the
scopes that it opens it closes again, in the order that brackets have.  The tables of fields are the
exception, since they are opened and never closed.

* `analyze_logs` — the whole log of an analysis.
* `Analyzed.LogAccounts` — what can be relied on in a log.
* `log_accounts_for_run` — so it is in every analysis of a program in which nothing is filled.
-/

namespace StructLang

/-! ## Decorated trees -/

section

variable (A : Arena)

mutual

theorem Block.scopes_decorate (formals : List VarDecl) : ∀ b : Block,
    (b.decorate A).scopes formals = b.scopes formals
  | .mk _ stmts => congrArg (List.cons _) (Stmt.scopesOfAll_decorateAll stmts)

theorem Stmt.scopes_decorate : ∀ s : Stmt, (s.decorate A).scopes = s.scopes
  | .simple _ _ => rfl
  | .guarded _ _ body => body.scopes_decorate []
  | .ifElse _ yes no => congrArg₂ (· ++ ·) (yes.scopes_decorate []) (no.scopes_decorate [])
  | .ret none _ | .ret (some _) _ => rfl

theorem Stmt.scopesOfAll_decorateAll : ∀ ss : List Stmt,
    Stmt.scopesOfAll (Stmt.decorateAll A ss) = Stmt.scopesOfAll ss
  | [] => rfl
  | s :: ss => congrArg₂ (· ++ ·) s.scopes_decorate (Stmt.scopesOfAll_decorateAll ss)

end

lemma Decl.scopes_decorate (d : Decl) : (d.decorate A).scopes = d.scopes := by
  cases d with
  | fn f => exact f.body.scopes_decorate A f.formals
  | _ => rfl

lemma Decl.declaration?_decorate (d : Decl) :
    (d.decorate A).declaration? = d.declaration? := by
  cases d <;> rfl

lemma Expr.binding?_decorate (e : Expr) : (e.decorate A).binding? = e.binding? := by
  cases e <;> rfl

end

/-- The declarations of all scopes of the program, and the events by which they were declared. -/
def Program.declarations (p : Program) : List Event :=
  p.scopes.flatten.filterMap Decl.declaration?

/-- The events by which the uses of the program were bound. -/
def Program.bindings (p : Program) : List Event := p.exprs.filterMap Expr.binding?

namespace Program

lemma flatten_scopes (p : Program) :
    p.scopes.flatten = p.decls ++ within (p.decls.flatMap Decl.scopes) := by
  rw [scopes, List.flatten_cons, ← List.map_flatten]
  rfl

lemma bindings_decorate (A : Arena) (p : Program) : (p.decorate A).bindings = p.bindings := by
  rw [bindings, exprs_decorate, List.filterMap_map]
  simp only [Function.comp_def, Expr.binding?_decorate]
  rfl

lemma declarations_decorate (A : Arena) (p : Program) :
    (p.decorate A).declarations = p.declarations := by
  rw [declarations, declarations, flatten_scopes, flatten_scopes, List.filterMap_append,
    List.filterMap_append]
  simp only [decorate, List.flatMap_map, Decl.scopes_decorate, List.filterMap_map,
    Function.comp_def, Decl.declaration?_decorate]

end Program

/-! ## The whole log -/

lemma isAside_saidOf (complaints : List Complaint) : ∀ e ∈ saidOf complaints, e.isAside = true := by
  intro e he
  obtain ⟨complaint, -, rfl⟩ := List.mem_map.1 he
  rfl

open Naming in
/-- The log of an analysis: name resolution with all that happens in the program scope, and what
comes after the scope is closed. -/
lemma analyze_logs (config : Config) {p : Program} (h : p.Unfilled) (sink : Diagnostics) :
    ∃ named w es text after, DeclsRule ⟨{}, .withScope⟩ p.decls named.decls w es ∧
      ((analyze config p sink).program = named ∨
        (analyze config p sink).program = named.decorate w.symbols) ∧
      (∀ e ∈ after, e.isAside = true) ∧
      (analyze config p sink).log.toList = [.namingStarted p.decls.length] ++ .opened 1 :: es ++
        (if config.dumpScopes then [.scopes text] else []) ++ .closed 0 :: after := by
  obtain ⟨named, t, hrun, live, w, es, rule, ht⟩ :=
    (resolveProgram_logs config.dumpScopes p { work := {}, sink } (Or.inl h.fits) sound_empty
      (Nat.zero_le _) (Or.inl h.unbound)).goes_on
  have hready : AllReady w.symbols named.exprs := rule.ready sound_start h.blank
  have hsymbols : t.work.symbols = w.symbols := by rw [ht]; rfl
  let finished : Event := .namingFinished w.symbols.size (0 + (reports es).length)
  let text := w.table.listing w.symbols
  have hlog : t.log.toList = [.namingStarted p.decls.length] ++ .opened 1 :: es ++
      (if config.dumpScopes then [.scopes text] else []) ++ [.closed 0, finished] := by
    rw [ht, List.append_assoc]
    exact Run.log_after _ _
  have hchecking := checkProgram_logs hready { work := true, sink := t.sink }
  unfold analyze
  simp only [hrun, live, hsymbols]
  split
  · refine ⟨named, w, es, text, [finished, .checkingSkipped t.errors], rule, Or.inl rfl,
      by simp [finished, Event.isAside], ?_⟩
    rw [Array.toList_push, hlog, List.append_assoc]
    rfl
  · let complaints := (named.decorate w.symbols).complaints w.symbols
    let rest := .checkingStarted :: saidOf complaints ++ [.checkingFinished (0 + complaints.length)]
    have hrest : ∀ e ∈ rest, e.isAside = true := by
      rw [List.forall_mem_append, List.forall_mem_cons, List.forall_mem_singleton]
      exact ⟨⟨rfl, isAside_saidOf complaints⟩, rfl⟩
    rw [hchecking]
    refine ⟨named, w, es, text, finished :: rest, rule, Or.inr rfl,
      List.forall_mem_cons.2 ⟨rfl, hrest⟩, ?_⟩
    rw [Array.toList_append, hlog, List.append_assoc]
    exact congrArg _ (congrArg _ (Run.log_after _ _))

/-- What can be relied on in the log that an analysis of the program has left. -/
structure Analyzed.LogAccounts (config : Config) (p : Program) (sink : Diagnostics)
    (R : Analyzed) : Prop where
  /-- What was reported, and nothing else, has reached the sink, in the same order. -/
  told : Told sink R.sink (reports R.log.toList)
  /-- Each use that is bound has its event, with its name, its place and its handle. -/
  bound : (R.log.toList.filter Event.isBinding).Perm R.program.bindings
  /-- Each variable, formal, field and struct that is bound has its event, with its handle. -/
  declared : (R.log.toList.filter Event.isDeclaration).Perm R.program.declarations
  /-- The tables of fields are opened and never closed, and all other scopes are closed. -/
  balanced : R.log.toList.countP Event.isOpening =
    R.log.toList.countP Event.isClosing + p.decls.countP Decl.isStruct
  /-- The scope of the program is opened first and closed last, and in between each declaration has
  its part.  A struct has one table of fields, which is logged as a first scope.  If these are left
  out, the depth goes up and down by one and stays at one or above.  The scopes are written out, if
  at all, once, right before the last of them is closed. -/
  nested : ∃ before parts text after,
    R.log.toList = before ++ .opened 1 :: parts.flatten ++
      (if config.dumpScopes then [.scopes text] else []) ++ .closed 0 :: after ∧
    (∀ e ∈ before ++ after, e.isAside = true) ∧ (∀ e ∈ parts.flatten, e.isListing = false) ∧
    List.Forall₂ (fun d part => part.count (.opened 1) = if d.isStruct then 1 else 0)
      p.decls parts ∧
    (1 :: depthsOf parts.flatten ++ [0]).IsChain (fun m n => n = m + 1 ∨ m = n + 1) ∧
    ∀ n ∈ depthsOf parts.flatten, 1 ≤ n

/-- **The log accounts for the run.**  The analysis of a program in which nothing is filled comes to
its end under every configuration, and its log says what has become of the sink, of the uses and
declarations on the tree, and of the scopes. -/
theorem log_accounts_for_run (config : Config) {p : Program} (h : p.Unfilled)
    (sink : Diagnostics) :
    (∃ a, (analyze config p sink).result = .ok a) ∧
    (analyze config p sink).LogAccounts config p sink := by
  have hended : (∃ a, (analyze config p sink).result = .ok a) ∧
      Told sink (analyze config p sink).sink (reports (analyze config p sink).log.toList) := by
    cases analyze_explained config h sink with
    | skipped rule wrong skips program told result logged => exact ⟨⟨_, result⟩, logged ▸ told⟩
    | checked rule checks program told result logged => exact ⟨⟨_, result⟩, logged ▸ told⟩
  obtain ⟨named, w, es, text, after, rule, hprogram, hasides, hlog⟩ := analyze_logs config h sink
  have hfree : NoneBound (p.decls.flatMap Decl.idents) := Program.noneBound_decls h.unbound
  have hes : Accounts 1 es _ _ _ := rule.accounts (Nat.le_refl 1) hfree
  have hafter : Accounts 1 after [] [] 0 := .asides hasides
  -- decoration fills neither what binds a use nor what declares a name
  obtain ⟨hbindings, hdeclarations⟩ :
      (analyze config p sink).program.bindings = named.bindings ∧
        (analyze config p sink).program.declarations = named.declarations := by
    rcases hprogram with hp | hp
    · rw [hp]
      exact ⟨rfl, rfl⟩
    · rw [hp]
      exact ⟨named.bindings_decorate _, named.declarations_decorate _⟩
  refine ⟨hended.1, hended.2, ?bound, ?declared, ?balanced, ?nested⟩
  case bound =>
    have hnone : after.filter Event.isBinding = [] := hafter.bound.eq_nil
    rw [hbindings, Program.bindings, Program.exprs, hlog]
    cases config.dumpScopes <;> simpa [Event.isBinding, hnone] using hes.bound
  case declared =>
    have hnone : after.filter Event.isDeclaration = [] := hafter.declared.eq_nil
    rw [hdeclarations, Program.declarations, Program.flatten_scopes, hlog]
    cases config.dumpScopes <;> simpa [Event.isDeclaration, hnone] using hes.declared
  case balanced =>
    have hinside := hes.balanced
    have hrest := hafter.balanced
    rw [hlog]
    cases config.dumpScopes <;>
      simp only [List.countP_append, List.countP_cons, List.countP_nil, Event.isOpening,
        Event.isClosing, Bool.false_eq_true, ↓reduceIte] <;>
      omega
  case nested =>
    obtain ⟨parts, rfl, hparts⟩ := rule.parts (Nat.le_refl 1) hfree
    exact ⟨[.namingStarted p.decls.length], parts, text, after, hlog,
      List.forall_mem_cons.2 ⟨rfl, hasides⟩, hes.unlisted, hparts, hes.depths.isChain rfl,
      hes.depths.one_le⟩

/-- The struct `S` is declared twice.  The function `f` has a variable in its body and one in a
block, and asks for a field of `s` and for a name that is not declared. -/
def structTwice : Program where
  decls := [
    .struct
      { id := .unbound "S" .nowhere
        fields := [{ ty := .int, id := .unbound "a" .nowhere }] },
    .struct
      { id := .unbound "S" .nowhere
        fields := [{ ty := .bool, id := .unbound "b" .nowhere }] },
    .fn
      { ret := .void
        id := .unbound "f" .nowhere
        formals := [{ ty := .struct (.unbound "S" .nowhere), id := .unbound "s" .nowhere }]
        body := .mk [{ ty := .int, id := .unbound "x" .nowhere }]
          [.guarded .branch
            (.applyBinary .eq
              (.select (.use (.unbound "s" .nowhere)) (.unbound "a" .nowhere))
              (.use (.unbound "y" .nowhere)))
            (.mk [{ ty := .bool, id := .unbound "x" .nowhere }]
              [.simple .increment (.use (.unbound "x" .nowhere))])] }]

/-- Two tables of fields are opened and not closed.  Three of four uses are bound, and six of seven
variables and structs. -/
theorem structTwice_log :
    let R := analyze { dumpScopes := true } structTwice {}
    structTwice.Unfilled ∧ (∃ a, R.result = .ok a) ∧
      R.LogAccounts { dumpScopes := true } structTwice {} ∧
      R.log.toList.filterMap Event.depth? = [1, 1, 1, 2, 3, 2, 1, 0] ∧
      R.program.bindings.length = 3 ∧ R.program.declarations.length = 6 ∧
      (reports R.log.toList).map Finding.problem =
        [.duplicateDeclaration, .undeclared, .arithmeticOperand] := by
  have unfilled : structTwice.Unfilled := ⟨by decide, by decide, by decide⟩
  obtain ⟨hended, haccounts⟩ := log_accounts_for_run { dumpScopes := true } unfilled {}
  exact ⟨unfilled, hended, haccounts, by decide +kernel, by decide +kernel, by decide +kernel,
    by decide +kernel⟩

end StructLang
