import Mathlib.Tactic.Common
import StructLang.Proofs.Inspections
import StructLang.Proofs.Verdict
import StructLang.Tree.Build

/-!
# Formals and arguments

The parameters of a function symbol are the types that its declaration writes down, in the tree as
it is after name resolution.  This includes a struct name that was rejected there: unlike such a
name for the return type, it does not become an error in the signature.  So an argument for it is
reported too, unless the argument is an error itself.

* `Naming.DeclsRule.signature` — the symbol that a declared function is bound to.
* `Naming.DeclsRule.reported_formal` — a struct name in a formal that is not bound was reported.
* `Arena.argInspections_of_fn` — what a call with the right number of arguments inspects.
* `argument_of_invalid_formal` — both passes together.
-/

namespace StructLang

/-- The function, if the declaration is one. -/
def Decl.fn? : Decl → Option FnDecl
  | .fn f => some f
  | _ => none

/-- The declaration names a struct type, and the name is bound to nothing. -/
def VarDecl.NamesNothing (d : VarDecl) (name : Ident) : Prop :=
  d.ty = .struct name ∧ name.symbol? = none

namespace Naming

variable {w w' : Names} {es : List Event}

/-! ## Signatures -/

/-- A function that was declared is bound to a symbol with its parameters. -/
lemma HeadRule.signature {id id' : Ident} {params : List Ty} {ret : Ty}
    (rule : HeadRule w id params ret id' w' es) (hfree : id.symbol? = none) {k : SymbolId}
    (hk : id'.symbol? = some k) :
    w'.symbols.get k = .ok { name := id.name, kind := .fn params ret } := by
  cases rule with
  | taken known =>
      rw [hfree] at hk
      cases hk
  | declared room scope =>
      obtain rfl := Option.some.inj hk
      exact Arena.get_nextId_push _ room

/-- What the symbol of a function says it returns was worked out before the function was declared. -/
lemma FnRule.signature {base : Nat} {f f' : FnDecl} (rule : FnRule w f f' w' es)
    (hw : w.Sound base) (hfree : f.id.symbol? = none) {k : SymbolId} (hk : f'.id.symbol? = some k) :
    ∃ ret fs, ReturnRule w f.ret f'.ret ret fs ∧ w'.symbols.get k =
      .ok { name := f.id.name, kind := .fn (writtenTypes f'.formals) ret } := by
  cases rule with
  | mk type head params inside =>
      have hhead := head.extends_of_type type hw
      have hparams := params.extends_here hhead.sound.enter
      have hinside := hparams.trans (inside.extends hparams.sound)
      rw [params.writtenTypes]
      exact ⟨_, _, type, hinside.grows _ _ (head.signature hfree hk)⟩

/-- **The signature of a function** has the types that its formals write down. -/
theorem DeclsRule.signature {base : Nat} {ds ds' : List Decl} (rule : DeclsRule w ds ds' w' es)
    (hw : w.Sound base) (hfree : ∀ f, .fn f ∈ ds → f.id.symbol? = none) {f : FnDecl}
    (hf : .fn f ∈ ds') {k : SymbolId} (hk : f.id.symbol? = some k) :
    ∃ name ret, w'.symbols.get k = .ok { name, kind := .fn (writtenTypes f.formals) ret } := by
  induction rule with
  | nil => cases hf
  | cons first rest ih =>
      have hfirst := first.extends hw
      rcases List.mem_cons.1 hf with rfl | hf
      · cases first with
        | fn rule =>
            obtain ⟨ret, -, -, hg⟩ := rule.signature hw (hfree _ List.mem_cons_self) hk
            exact ⟨_, ret, (rest.extends hfirst.sound).grows _ _ hg⟩
      · exact ih hfirst.sound (fun f hf => hfree f (List.mem_cons_of_mem _ hf)) hf

/-! ## Formals that name nothing -/

lemma StructNameRule.reported {A : Arena} {types : ScopeStack} {name name' : Ident}
    {defn : Option SymbolId} (rule : StructNameRule A types name name' defn es)
    (hname : name'.symbol? = none) :
    { loc := name'.loc, problem := .invalidStructName } ∈ reports es := by
  cases rule with
  | means found symbol struct => cases hname
  | invalid wrong => exact List.mem_singleton_self _

lemma KindRule.reported {A : Arena} {types : ScopeStack} {owner name : Ident}
    {ty : TypeName} {kind : Option Symbol.Kind}
    (rule : KindRule A types owner ty (.struct name) kind es) (hname : name.symbol? = none) :
    { loc := name.loc, problem := .invalidStructName } ∈ reports es := by
  cases rule with
  | struct type => exact type.reported hname

lemma DeclareRule.reported {types : ScopeStack → ScopeStack} {d d' : VarDecl}
    (rule : DeclareRule types w d d' w' es) {name : Ident} (h : d'.NamesNothing name) :
    { loc := name.loc, problem := .invalidStructName } ∈ reports es := by
  obtain ⟨hty, hname⟩ := h
  cases rule with
  | taken type known =>
      obtain rfl := hty
      exact reports_append _ _ ▸ List.mem_append_left _ (type.reported hname)
  | rejected type free =>
      obtain rfl := hty
      exact type.reported hname
  | declared type room scope =>
      obtain rfl := hty
      exact reports_append _ _ ▸ List.mem_append_left _ (type.reported hname)

lemma DeclaresRule.reported {types : ScopeStack → ScopeStack} {ds ds' : List VarDecl}
    (rule : DeclaresRule types w ds ds' w' es) {d : VarDecl} (hd : d ∈ ds') {name : Ident}
    (h : d.NamesNothing name) :
    { loc := name.loc, problem := .invalidStructName } ∈ reports es := by
  induction rule with
  | nil => cases hd
  | cons first rest ih =>
      rw [reports_append]
      rcases List.mem_cons.1 hd with rfl | hd
      · exact List.mem_append_left _ (first.reported h)
      · exact List.mem_append_right _ (ih hd)

lemma FnRule.reported_formal {f f' : FnDecl} (rule : FnRule w f f' w' es) {d : VarDecl}
    (hd : d ∈ f'.formals) {name : Ident} (h : d.NamesNothing name) :
    { loc := name.loc, problem := .invalidStructName } ∈ reports es := by
  cases rule with
  | mk type head params inside =>
      have hparams := params.reported hd h
      simp only [reports_append, List.mem_append]
      refine Or.inr (Or.inl (Or.inl ?_))
      rwa [reports_cons_of_none rfl]

/-- A formal whose struct name is bound to nothing was reported at that name. -/
theorem DeclsRule.reported_formal {ds ds' : List Decl} (rule : DeclsRule w ds ds' w' es)
    {f : FnDecl} (hf : .fn f ∈ ds') {d : VarDecl} (hd : d ∈ f.formals) {name : Ident}
    (h : d.NamesNothing name) :
    { loc := name.loc, problem := .invalidStructName } ∈ reports es := by
  induction rule with
  | nil => cases hf
  | cons first rest ih =>
      rw [reports_append]
      rcases List.mem_cons.1 hf with rfl | hf
      · cases first with
        | fn rule => exact List.mem_append_left _ (rule.reported_formal hd h)
      · exact List.mem_append_right _ (ih hf)

end Naming

/-! ## Calls -/

lemma Ty.objection_struct (problem : Problem) (name : String) (actual : Ty) :
    Ty.objection problem (.struct name) actual = if actual.isError then none else some problem := by
  cases actual <;> rfl

lemma Arena.typeIn_fn {A : Arena} {id : Ident} {k : SymbolId} {name : String} {params : List Ty}
    {ret : Ty} (hk : id.symbol? = some k) (hg : A.get k = .ok { name, kind := .fn params ret }) :
    id.typeIn A = .fn params ret :=
  Ident.typeIn_eq hk (typeOf_fn hg)

/-- A call with the right number of arguments inspects each against its formal. -/
lemma Site.inspections_call {A : Arena} {callee : Ident} {args : List Expr}
    {formals : List VarDecl} {ret : Ty} (note : Note)
    (hty : callee.typeIn A = .fn (Naming.writtenTypes formals) ret)
    (hlen : args.length = formals.length) :
    (Site.expr (.call callee args note)).inspections A =
      List.zipWith (fun arg formal => arg.inspected (Ty.objection .argMismatch formal.ty.written))
        args formals := by
  have hparams : args.length = (Naming.writtenTypes formals).length := by
    rw [hlen, Naming.writtenTypes, List.length_map]
  rw [inspections, Expr.inspections, hty, Ident.argInspections, if_pos hparams, Naming.writtenTypes,
    List.zipWith_map_right]

/-- A struct name is objected to, bound or not, by whatever argument is no error. -/
lemma Expr.finding_of_struct {name : Ident} (arg : Expr) {formal : VarDecl}
    (hty : formal.ty = .struct name) :
    (arg.inspected (Ty.objection .argMismatch formal.ty.written)).finding? =
      if arg.ty.isError then none else some { loc := arg.loc, problem := .argMismatch } := by
  rw [hty, Inspection.finding?, inspected, TypeName.written, Ty.objection_struct]
  cases arg.ty.isError <;> rfl

/-! ## Analyses -/

lemma Program.Unfilled.fn_unbound {p : Program} (h : p.Unfilled) {f : FnDecl}
    (hf : .fn f ∈ p.decls) : f.id.symbol? = none := by
  refine h.unbound f.id (List.mem_append_left _ (List.mem_flatMap.2 ⟨.fn f, hf, ?_⟩))
  exact List.mem_append_left _ (List.mem_append_right _ List.mem_cons_self)

/-- **Arguments for formals that were rejected.**  In the analysis of a program in which nothing was
filled, a call of a function with as many arguments as it has formals inspects each argument against
the type that the formal writes down.  If that is a struct name, it was reported if it is bound to
nothing; and the argument is reported, in that case as in any other, exactly if it is no error
itself. -/
theorem argument_of_invalid_formal (config : Config) {p : Program} (h : p.Unfilled)
    (sink : Diagnostics) :
    let R := analyze config p sink
    ∃ a, R.result = .ok a ∧ (a.typeChecked = true →
      ∃ names : List Finding, names.length = a.nameErrors ∧
        Told sink R.sink (names ++ R.program.sites.flatMap (Site.findings a.symbols)) ∧
        ∀ callee args note f k, .call callee args note ∈ R.program.exprs →
          callee.symbol? = some k → .fn f ∈ R.program.decls → f.id.symbol? = some k →
          args.length = f.formals.length →
          .expr (.call callee args note) ∈ R.program.sites ∧
          (Site.expr (.call callee args note)).inspections a.symbols =
            List.zipWith
              (fun arg formal => arg.inspected (Ty.objection .argMismatch formal.ty.written))
              args f.formals ∧
          ∀ arg formal, (arg, formal) ∈ args.zip f.formals → ∀ name, formal.ty = .struct name →
            (name.symbol? = none → { loc := name.loc, problem := .invalidStructName } ∈ names) ∧
            (arg.inspected (Ty.objection .argMismatch formal.ty.written)).finding? =
              if arg.ty.isError then none
              else some { loc := arg.loc, problem := .argMismatch }) := by
  intro R
  cases analyze_explained config h sink with
  | skipped rule wrong skips program told result logged =>
      exact ⟨_, result, fun hchecked => absurd hchecked Bool.false_ne_true⟩
  | @checked named w es rule checks program told result logged =>
      rw [R.program.complaints_findings] at told
      refine ⟨_, result, fun _ => ⟨_, rfl, told, ?_⟩⟩
      intro callee args note f k hcall hk hf hfk hlen
      rw [program] at hf
      obtain ⟨d, hd, heq⟩ := List.mem_map.1 hf
      cases d with
      | fn f₀ =>
          obtain rfl := Decl.fn.inj heq
          obtain ⟨name, ret, hg⟩ := rule.signature sound_start (fun _ => h.fn_unbound) hd hfk
          refine ⟨R.program.expr_mem_sites hcall,
            Site.inspections_call note (Arena.typeIn_fn hk hg) hlen, ?_⟩
          intro arg formal hpair name hty
          have hformal : formal ∈ f₀.formals := (List.of_mem_zip hpair).2
          exact ⟨fun hname => rule.reported_formal hd hformal ⟨hty, hname⟩,
            arg.finding_of_struct hty⟩
      | _ => cases heq

/-- The function `f` has two formals of a struct type that does not exist.  It is called with a
number, and with a name that is not declared. -/
def invalidFormals : Program where
  decls := [
    .fn
      { ret := .int
        id := .unbound "f" .nowhere
        formals := [
          { ty := .struct (.unbound "Missing" .nowhere), id := .unbound "s" .nowhere },
          { ty := .struct (.unbound "Missing" .nowhere), id := .unbound "t" .nowhere }]
        body := .mk [] [.ret (some (.literal (.int 1) .nowhere)) .nowhere] },
    .fn
      { ret := .void
        id := .unbound "main" .nowhere
        formals := []
        body := .mk [] [.simple .call (.apply (.unbound "f" .nowhere)
          [.literal (.int 1) .nowhere, .use (.unbound "x" .nowhere)])] }]

/-- The number is reported, and the name only for not being declared. -/
theorem invalidFormals_reject_arguments :
    let R := analyze .standard invalidFormals {}
    invalidFormals.Unfilled ∧
      (reports R.log.toList).map Finding.problem =
        [.invalidStructName, .invalidStructName, .undeclared, .argMismatch] ∧
      ∃ callee args note f k, .call callee args note ∈ R.program.exprs ∧
        callee.symbol? = some k ∧ .fn f ∈ R.program.decls ∧ f.id.symbol? = some k ∧
        args.length = f.formals.length ∧ args.map (·.ty.isError) = [false, true] ∧
        f.formals.map (fun d => d.ty.idents.map Ident.symbol?) = [[none], [none]] ∧
        ∀ arg formal, (arg, formal) ∈ args.zip f.formals → ∀ name, formal.ty = .struct name →
          (arg.inspected (Ty.objection .argMismatch formal.ty.written)).finding? =
            if arg.ty.isError then none else some { loc := arg.loc, problem := .argMismatch } := by
  have hunfilled : invalidFormals.Unfilled := ⟨by decide, by decide, by decide⟩
  have hmain := argument_of_invalid_formal .standard hunfilled {}
  have hchecks : (analyze .standard invalidFormals {}).result.toOption.any (·.typeChecked) =
      true := by
    decide +kernel
  have hreports : (reports (analyze .standard invalidFormals {}).log.toList).map Finding.problem =
      [.invalidStructName, .invalidStructName, .undeclared, .argMismatch] := by
    decide +kernel
  have hexprs : (analyze .standard invalidFormals {}).program.exprs.any (fun e => decide
      (e.ident?.bind Ident.symbol? = some ⟨0⟩ ∧ e.operands.map (·.ty.isError) = [false, true])) =
      true := by
    decide +kernel
  have hfns : (analyze .standard invalidFormals {}).program.decls.any (fun d => d.fn?.any fun f =>
      decide (f.id.symbol? = some ⟨0⟩ ∧
        f.formals.map (fun d => d.ty.idents.map Ident.symbol?) = [[none], [none]])) = true := by
    decide +kernel
  -- From here on the analysis is not to be computed again.
  dsimp only at hmain ⊢
  generalize analyze .standard invalidFormals {} = R at *
  obtain ⟨a, result, hrest⟩ := hmain
  obtain ⟨b, result', hchecked⟩ := exists_of_any hchecks
  obtain rfl := Except.ok.inj (result.symm.trans result')
  obtain ⟨names, -, -, hcall⟩ := hrest hchecked
  obtain ⟨e, he, hexpr⟩ := List.any_eq_true.1 hexprs
  obtain ⟨hk, hargs⟩ := of_decide_eq_true hexpr
  obtain ⟨d, hd, hfn⟩ := List.any_eq_true.1 hfns
  cases e with
  | call callee args note =>
      cases d with
      | fn f =>
          obtain ⟨hfk, hformals⟩ := of_decide_eq_true hfn
          have hlen : args.length = f.formals.length := by
            simpa [Expr.operands] using
              (congrArg List.length hargs).trans (congrArg List.length hformals).symm
          obtain ⟨-, -, hfinding⟩ := hcall callee args note f _ he hk hd hfk hlen
          refine ⟨hunfilled, hreports, callee, args, note, f, _, he, hk, hd, hfk, hlen, hargs,
            hformals, fun arg formal hpair name hty => ?_⟩
          exact (hfinding arg formal hpair name hty).2
      | _ => cases hfn
  | _ => simp [Expr.ident?, Expr.operands] at hk hargs

/-- The function `f` has a formal of a struct type that does not exist, and is called with a
number. -/
def invalidFormal : Program where
  decls := [
    .fn
      { ret := .int
        id := .unbound "f" { line := 1, column := 5 }
        formals := [
          { ty := .struct (.unbound "Missing" { line := 1, column := 14 })
            id := .unbound "s" { line := 1, column := 22 } }]
        body := .mk [] [.ret (some (.literal (.int 1) { line := 1, column := 34 }))
          { line := 1, column := 27 }] },
    .fn
      { ret := .void
        id := .unbound "main" { line := 2, column := 6 }
        formals := []
        body := .mk [] [.simple .call (.apply (.unbound "f" { line := 2, column := 15 })
          [.literal (.int 1) { line := 2, column := 17 }])] }]

/-- The struct name is reported, and then the argument of the call, for a mismatch with it. -/
theorem invalidFormal_is_reported_at_call :
    let R := analyze .standard invalidFormal {}
    invalidFormal.Fresh ∧ R.result.toOption.any (·.typeChecked) = true ∧
      R.program.declIdents.map Ident.symbol? = [some ⟨0⟩, none, none, some ⟨1⟩] ∧
      R.program.uses.map Ident.symbol? = [some ⟨0⟩] ∧
      reports R.log.toList =
        [{ loc := { line := 1, column := 14 }, problem := .invalidStructName },
          { loc := { line := 2, column := 17 }, problem := .argMismatch }] :=
  ⟨⟨⟨by decide, by decide, by decide⟩, by decide⟩, by decide +kernel, by decide +kernel,
    by decide +kernel, by decide +kernel⟩

end StructLang
