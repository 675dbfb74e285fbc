import Mathlib.Tactic.Common
import StructLang.Proofs.WellTyped

/-!
# Acceptance is the static semantics

Statements, functions and programs are well formed exactly if neither pass finds anything wrong in
them.  So an analysis that goes on to type checking in any case reports nothing exactly if the
program is well formed: `analyze_reports_nothing_iff`.
-/

namespace StructLang

namespace Naming

variable {base : Nat} {B : Arena} {env env' : Env}

/-! ## Statements -/

section

variable {ret : Ty}

lemma blockOk_iff {ds : List VarDecl} {ss : List Stmt} :
    BlockOk ret env (.mk ds ss) ↔ ∃ env', VarsOk id env ds env' ∧ StmtsOk ret env' ss := by
  constructor
  · intro h
    cases h with
    | mk decls stmts => exact ⟨_, decls, stmts⟩
  · rintro ⟨env', decls, stmts⟩
    exact .mk decls stmts

lemma stmtOk_simple_iff {verb : Verb} {e : Expr} :
    StmtOk ret env (.simple verb e) ↔ ∃ ty, HasType env e ty ∧ verb.Suits ty := by
  constructor
  · rintro (_ | _)
    exact ⟨_, by assumption, by assumption⟩
  · rintro ⟨ty, expr, suits⟩
    exact .simple expr suits

lemma stmtOk_guarded_iff {guard : Guard} {cond : Expr} {body : Block} :
    StmtOk ret env (.guarded guard cond body) ↔
      (∃ ty, HasType env cond ty ∧ ty = .bool) ∧ BlockOk ret ([] :: env) body := by
  constructor
  · rintro (_ | _)
    exact ⟨⟨_, by assumption, rfl⟩, by assumption⟩
  · rintro ⟨⟨_, expr, rfl⟩, branch⟩
    exact .guarded expr branch

lemma stmtOk_ifElse_iff {cond : Expr} {yes no : Block} :
    StmtOk ret env (.ifElse cond yes no) ↔
      (∃ ty, HasType env cond ty ∧ ty = .bool) ∧
        BlockOk ret ([] :: env) yes ∧ BlockOk ret ([] :: env) no := by
  constructor
  · rintro (_ | _)
    exact ⟨⟨_, by assumption, rfl⟩, by assumption, by assumption⟩
  · rintro ⟨⟨_, expr, rfl⟩, first, second⟩
    exact .ifElse expr first second

lemma stmtOk_leave_iff {loc : Location} : StmtOk ret env (.ret none loc) ↔ ret = .void :=
  ⟨by rintro ⟨⟩; assumption, .leave⟩

lemma stmtOk_ret_iff {e : Expr} {loc : Location} :
    StmtOk ret env (.ret (some e) loc) ↔ ∃ ty, HasType env e ty ∧ ty = ret ∧ ret ≠ .void := by
  constructor
  · rintro (_ | _)
    exact ⟨_, by assumption, rfl, by assumption⟩
  · rintro ⟨_, expr, rfl, value⟩
    exact .ret expr value

lemma stmtsOk_cons_iff {s : Stmt} {ss : List Stmt} :
    StmtsOk ret env (s :: ss) ↔ StmtOk ret env s ∧ StmtsOk ret env ss := by
  constructor
  · rintro (_ | _)
    exact ⟨by assumption, by assumption⟩
  · rintro ⟨first, rest⟩
    exact .cons first rest

/-- Nothing is wrong in what the judgements are about, and nothing with it. -/
def Quiet (B : Arena) (js : List Judgement) : Prop := ∀ j ∈ js, j.complaints B = []

lemma quiet_singleton {j : Judgement} : Quiet B [j] ↔ j.complaints B = [] :=
  List.forall_mem_singleton

lemma quiet_cons {j : Judgement} {js : List Judgement} :
    Quiet B (j :: js) ↔ j.complaints B = [] ∧ Quiet B js := List.forall_mem_cons

lemma quiet_judgements_append {js ks : List Judgement} :
    Quiet B (js ++ ks) ↔ Quiet B js ∧ Quiet B ks := List.forall_mem_append

/-- An expression of a statement: it is well typed and the statement finds nothing wrong with its
type. -/
lemma ExprRule.judged_iff {w : Names} {e e' : Expr} {es : List Event} {P : Ty → Prop} {v : Verdict}
    {loc : Location} (rule : ExprRule w e e' es) (hdesc : env.Describes w.symbols w.table)
    (hgrows : w.symbols.Grows B) (hflag : ∀ x ∈ e.exprs, x.isFlagged = false)
    (hrule : (e'.decorate B).ty.isError = false → (v.findings loc = [] ↔ P (e'.decorate B).ty)) :
    (∃ ty, HasType env e ty ∧ P ty) ↔
      reports es = [] ∧ Judgement.complaints B ⟨some (e'.decorate B), loc, v⟩ = [] := by
  have hiff := rule.hasType_iff hdesc hgrows hflag false
  show _ ↔ _ ∧ _ ++ blame false _ = []
  rw [List.append_eq_nil_iff, blame_eq_nil_iff]
  constructor
  · rintro ⟨_, hty, hP⟩
    obtain ⟨hq, hc, rfl⟩ := (hiff _).1 hty
    exact ⟨hq, hc, (hrule (isError_of_hasType hdesc hty)).2 hP⟩
  · rintro ⟨hq, hc, hnil⟩
    have hty := (hiff _).2 ⟨hq, hc, rfl⟩
    exact ⟨_, hty, (hrule (isError_of_hasType hdesc hty)).1 hnil⟩

mutual

/-- A block is well formed exactly if neither pass finds anything wrong in it. -/
theorem BlockRule.ok_iff (hret : ret.isWritten = true) : ∀ {env : Env} {w w' : Names} {b b' : Block}
    {es : List Event}, BlockRule w b b' w' es → w.Sound base → env.Describes w.symbols w.table →
      w'.symbols.Grows B → (∀ x ∈ b.exprs, x.isFlagged = false) →
        (BlockOk ret env b ↔ reports es = [] ∧ Quiet B ((b'.decorate B).judgements ret))
  | env, _, _, _, _, _, .mk decls stmts, hw, hdesc, hgrows, hflag => by
      have hdecls := decls.extends_here hw
      rw [blockOk_iff, reports_append_eq_nil_iff]
      constructor
      · rintro ⟨env', hvars, hstmts⟩
        obtain ⟨hq, hdesc'⟩ := decls.of_ok (soundTypes_id _) hw (agree_id _) hdesc hvars
        obtain ⟨hqs, hquiet⟩ := (stmts.ok_iff hret hdecls.sound hdesc' hgrows hflag).1 hstmts
        exact ⟨⟨hq, hqs⟩, hquiet⟩
      · rintro ⟨⟨hq, hqs⟩, hquiet⟩
        obtain ⟨env', hvars, hdesc'⟩ := decls.ok (soundTypes_id _) hw (agree_id _) hdesc hq
        exact ⟨env', hvars, (stmts.ok_iff hret hdecls.sound hdesc' hgrows hflag).2 ⟨hqs, hquiet⟩⟩

theorem BranchRule.ok_iff (hret : ret.isWritten = true) : ∀ {env : Env} {w : Names} {A : Arena}
    {b b' : Block} {es : List Event}, BranchRule w b b' A es → w.Sound base →
      env.Describes w.symbols w.table → A.Grows B → (∀ x ∈ b.exprs, x.isFlagged = false) →
        (BlockOk ret ([] :: env) b ↔ reports es = [] ∧ Quiet B ((b'.decorate B).judgements ret))
  | _, _, _, _, _, _, .mk inside, hw, hdesc, hgrows, hflag => by
      rw [reports_inside]
      exact inside.ok_iff hret hw.enter hdesc.push hgrows hflag

/-- A statement is well formed exactly if neither pass finds anything wrong in it. -/
theorem StmtRule.ok_iff (hret : ret.isWritten = true) : ∀ {env : Env} {w : Names} {A : Arena}
    {s s' : Stmt} {es : List Event}, StmtRule w s s' A es → w.Sound base →
      env.Describes w.symbols w.table → A.Grows B → (∀ x ∈ s.exprs, x.isFlagged = false) →
        (StmtOk ret env s ↔ reports es = [] ∧ Quiet B ((s'.decorate B).judgements ret))
  | _, _, _, _, _, _, .simple verb expr, hw, hdesc, hgrows, hflag => by
      rw [stmtOk_simple_iff]
      show _ ↔ _ ∧ Quiet B [_]
      rw [quiet_singleton]
      exact expr.judged_iff hdesc hgrows hflag Verb.judge_quiet_iff
  | _, _, _, _, _, _, .guarded guard expr branch, hw, hdesc, hgrows, hflag => by
      have hbranch := branch.extends hw
      rw [stmtOk_guarded_iff, reports_append_eq_nil_iff,
        expr.judged_iff hdesc (hbranch.grows.trans hgrows)
          (fun x hx => hflag x (List.mem_append_left _ hx)) guard.judge_quiet_iff,
        branch.ok_iff hret hw hdesc hgrows fun x hx => hflag x (List.mem_append_right _ hx)]
      show _ ↔ _ ∧ Quiet B (_ :: _)
      rw [quiet_cons]
      exact and_and_and_comm
  | _, _, _, _, _, _, .ifElse expr first second, hw, hdesc, hgrows, hflag => by
      have hfirst := first.extends hw
      have hsecond := (second.extends hfirst.sound).grows.trans hgrows
      rw [stmtOk_ifElse_iff, reports_append_eq_nil_iff, reports_append_eq_nil_iff,
        expr.judged_iff hdesc (hfirst.grows.trans hsecond)
          (fun x hx => hflag x (List.mem_append_left _ (List.mem_append_left _ hx)))
          Guard.branch.judge_quiet_iff,
        first.ok_iff hret hw hdesc hsecond fun x hx =>
          hflag x (List.mem_append_left _ (List.mem_append_right _ hx)),
        second.ok_iff hret hfirst.sound (hdesc.grows hfirst.grows) hgrows fun x hx =>
          hflag x (List.mem_append_right _ hx)]
      show _ ↔ _ ∧ Quiet B (_ :: (_ ++ _))
      rw [quiet_cons, quiet_judgements_append]
      tauto
  | _, _, _, _, _, _, .leave loc, hw, hdesc, hgrows, hflag => by
      rw [stmtOk_leave_iff, ← returnRule_none_quiet_iff hret loc]
      show _ ↔ _ ∧ Quiet B [_]
      rw [quiet_singleton]
      show _ ↔ _ ∧ [] ++ blame false _ = []
      rw [List.nil_append, blame_eq_nil_iff]
      exact (and_iff_right rfl).symm
  | _, _, _, _, _, _, .ret loc expr, hw, hdesc, hgrows, hflag => by
      rw [stmtOk_ret_iff]
      show _ ↔ _ ∧ Quiet B [_]
      rw [quiet_singleton]
      exact expr.judged_iff hdesc hgrows hflag (returnRule_some_quiet_iff hret)

theorem StmtsRule.ok_iff (hret : ret.isWritten = true) : ∀ {env : Env} {w : Names} {A : Arena}
    {ss ss' : List Stmt} {es : List Event}, StmtsRule w ss ss' A es → w.Sound base →
      env.Describes w.symbols w.table → A.Grows B →
      (∀ x ∈ Stmt.exprsOfAll ss, x.isFlagged = false) →
        (StmtsOk ret env ss ↔
          reports es = [] ∧ Quiet B (Stmt.judgementsOfAll ret (Stmt.decorateAll B ss')))
  | _, _, _, _, _, _, .nil, _, _, _, _ => iff_of_true .nil ⟨rfl, nofun⟩
  | _, _, _, _, _, _, .cons first rest, hw, hdesc, hgrows, hflag => by
      have hfirst := first.extends hw
      have hrest := (rest.extends hfirst.sound).grows.trans hgrows
      rw [stmtsOk_cons_iff, reports_append_eq_nil_iff,
        first.ok_iff hret hw hdesc hrest fun x hx => hflag x (List.mem_append_left _ hx),
        rest.ok_iff hret hfirst.sound (hdesc.grows hfirst.grows) hgrows fun x hx =>
          hflag x (List.mem_append_right _ hx)]
      show _ ↔ _ ∧ Quiet B (_ ++ _)
      rw [quiet_judgements_append]
      exact and_and_and_comm

end

end

/-! ## Functions and structs -/

section

variable {w w' : Names} {es : List Event}

lemma ReturnRule.of_known {ret ret' : TypeName} {ty : Ty} (rule : ReturnRule w ret ret' ty es)
    (hdesc : env.Describes w.symbols w.table) (hknown : env.Knows ret) :
    reports es = [] ∧ ty = ret.written := by
  cases rule with
  | plain type => exact ⟨rfl, rfl⟩
  | struct type =>
      obtain ⟨struct, fields, hstruct⟩ := hknown _ rfl
      obtain ⟨hquiet, h, rfl, -⟩ := type.of_known hdesc hstruct
      exact ⟨hquiet, rfl⟩

lemma ReturnRule.known {ret ret' : TypeName} {ty : Ty} (rule : ReturnRule w ret ret' ty es)
    (hdesc : env.Describes w.symbols w.table) (hquiet : reports es = []) : env.Knows ret := by
  cases rule with
  | plain type => exact fun name hname => absurd hname (type name)
  | struct type =>
      intro name hname
      obtain rfl := TypeName.struct.inj hname
      exact type.known hdesc hquiet

lemma isError_written (ty : TypeName) : ty.written.isError = false := by
  cases ty <;> rfl

/-- A function whose name is free means what it is declared with. -/
lemma HeadRule.of_declares {id id' : Ident} {params : List Ty} {ret : Ty}
    (rule : HeadRule w id params ret id' w' es) (hdesc : env.Describes w.symbols w.table)
    (hparams : ∀ ty ∈ params, ty.isError = false) (hret : ret.isError = false)
    (hd : env.Declares id.name (.fn params ret) env') :
    reports es = [] ∧ env'.Describes w'.symbols w'.table := by
  cases rule with
  | taken known =>
      rw [hdesc.local_of_declares hd] at known
      cases known
  | declared room scope =>
      exact ⟨rfl, hdesc.declare hd scope (Arena.grows_push _ _ room)
        (.fn (Arena.get_nextId_push _ room) hparams hret)⟩

lemma HeadRule.declares {id id' : Ident} {params : List Ty} {ret : Ty}
    (rule : HeadRule w id params ret id' w' es) (hdesc : env.Describes w.symbols w.table)
    (hquiet : reports es = []) : ∃ env', env.Declares id.name (.fn params ret) env' := by
  cases rule with
  | taken known => cases hquiet
  | declared room scope => exact hdesc.declares_of_declare scope _

/-- A function that is well formed is not reported, nor is what is in it, and it means what the
environment says. -/
lemma FnRule.of_ok {f f' : FnDecl} (rule : FnRule w f f' w' es) (hw : w.Sound base)
    (hdesc : env.Describes w.symbols w.table) (hgrows : w'.symbols.Grows B)
    (hflag : ∀ x ∈ f.body.exprs, x.isFlagged = false) (hok : DeclOk env (.fn f) env') :
    reports es = [] ∧ Quiet B ((f'.body.decorate B).judgements f'.ret.returned) ∧
      env'.Describes w'.symbols w'.table := by
  cases hok with
  | fn known declares formals body =>
      cases rule with
      | mk type head params inside =>
          have hhead := head.extends_of_type type hw
          have hparams := params.extends_here hhead.sound.enter
          have hinside := inside.extends hparams.sound
          obtain ⟨hq₁, rfl⟩ := type.of_known hdesc known
          obtain ⟨hreturned, -⟩ := type.returned hq₁
          obtain ⟨hq₂, hdesc₁⟩ := head.of_declares hdesc
            (fun _ hty => by obtain ⟨d, -, rfl⟩ := List.mem_map.1 hty; exact isError_written d.ty)
            (isError_written f.ret) declares
          obtain ⟨hq₃, hdesc₂⟩ :=
            params.of_ok (soundTypes_id _) hhead.sound.enter (agree_id _) hdesc₁.push formals
          obtain ⟨hq₄, hquiet⟩ := (inside.ok_iff (isWritten_written f.ret) hparams.sound hdesc₂
            hgrows hflag).1 body
          refine ⟨reports_fn_eq_nil_iff.2 ⟨⟨hq₁, hq₂⟩, hq₃, hq₄⟩, ?_, ?_⟩
          · rw [hreturned]
            exact hquiet
          · exact hdesc₁.grows (hparams.grows.trans hinside.grows)

/-- A function in which nothing is reported is well formed. -/
lemma FnRule.ok {f f' : FnDecl} (rule : FnRule w f f' w' es) (hw : w.Sound base)
    (hdesc : env.Describes w.symbols w.table) (hgrows : w'.symbols.Grows B)
    (hflag : ∀ x ∈ f.body.exprs, x.isFlagged = false) (hreports : reports es = [])
    (hquiet : Quiet B ((f'.body.decorate B).judgements f'.ret.returned)) :
    ∃ env', DeclOk env (.fn f) env' := by
  cases rule with
  | mk type head params inside =>
      have hhead := head.extends_of_type type hw
      have hparams := params.extends_here hhead.sound.enter
      obtain ⟨⟨hq₁, hq₂⟩, hq₃, hq₄⟩ := reports_fn_eq_nil_iff.1 hreports
      have known := type.known hdesc hq₁
      obtain ⟨-, rfl⟩ := type.of_known hdesc known
      obtain ⟨hreturned, -⟩ := type.returned hq₁
      obtain ⟨env', declares⟩ := head.declares hdesc hq₂
      obtain ⟨-, hdesc₁⟩ := head.of_declares hdesc
        (fun _ hty => by obtain ⟨d, -, rfl⟩ := List.mem_map.1 hty; exact isError_written d.ty)
        (isError_written f.ret) declares
      obtain ⟨inner, formals, hdesc₂⟩ :=
        params.ok (soundTypes_id _) hhead.sound.enter (agree_id _) hdesc₁.push hq₃
      rw [hreturned] at hquiet
      exact ⟨env', .fn known declares formals ((inside.ok_iff (isWritten_written f.ret)
        hparams.sound hdesc₂ hgrows hflag).2 ⟨hq₄, hquiet⟩)⟩

/-- A struct that is well formed is not reported, and means what the environment says. -/
lemma StructRule.of_ok {s s' : StructDecl} (rule : StructRule w s s' w' es) (hw : w.Sound base)
    (hdesc : env.Describes w.symbols w.table) (hok : DeclOk env (.struct s) env') :
    reports es = [] ∧ env'.Describes w'.symbols w'.table := by
  cases hok with
  | struct members declares =>
      cases rule with
      | taken known all =>
          rw [hdesc.local_of_declares declares] at known
          cases known
      | @declared _ inner _ _ all room scope =>
          obtain ⟨hq, hfields⟩ := all.of_ok (soundTypes_const hw) hw.withScope (agree_const hdesc)
            (Env.describes_withScope _) members
          have hgrown := (all.extends_around hw).2.grows
          have hgrows :=
            inner.symbols.grows_push { name := s.id.name, kind := .structDef inner.table } room
          exact ⟨reports_struct_eq_nil_iff.2 hq, (hdesc.grows hgrown).declare declares scope hgrows
            (represents_struct (Arena.get_nextId_push _ room) (hfields.grows hgrows))⟩

/-- A struct in which nothing is reported is well formed. -/
lemma StructRule.ok {s s' : StructDecl} (rule : StructRule w s s' w' es) (hw : w.Sound base)
    (hdesc : env.Describes w.symbols w.table) (hquiet : reports es = []) :
    ∃ env', DeclOk env (.struct s) env' := by
  cases rule with
  | taken known all => cases hquiet
  | declared all room scope =>
      obtain ⟨inner, members, -⟩ := all.ok (soundTypes_const hw) hw.withScope (agree_const hdesc)
        (Env.describes_withScope _) (reports_struct_eq_nil_iff.1 hquiet)
      obtain ⟨fields, rfl⟩ := members.innermost
      have hgrown := (all.extends_around hw).2.grows
      obtain ⟨env', declares⟩ :=
        (hdesc.grows hgrown).declares_of_declare scope (.struct s.id.name fields)
      exact ⟨env', .struct members declares⟩

end

/-! ## Programs -/

section

variable {w w' : Names} {es : List Event}

lemma DeclRule.of_ok {d d' : Decl} (rule : DeclRule w d d' w' es) (hw : w.Sound base)
    (hdesc : env.Describes w.symbols w.table) (hgrows : w'.symbols.Grows B)
    (hflag : ∀ x ∈ d.exprs, x.isFlagged = false) (hok : DeclOk env d env') :
    reports es = [] ∧ Quiet B (d'.decorate B).judgements ∧ env'.Describes w'.symbols w'.table := by
  cases rule with
  | var rule =>
      cases hok with
      | var type declares =>
          obtain ⟨hq, hdesc'⟩ := rule.of_ok (agree_id _) hdesc type declares
          exact ⟨hq, nofun, hdesc'⟩
  | fn rule => exact rule.of_ok hw hdesc hgrows hflag hok
  | struct rule =>
      obtain ⟨hq, hdesc'⟩ := rule.of_ok hw hdesc hok
      exact ⟨hq, nofun, hdesc'⟩

lemma DeclRule.ok {d d' : Decl} (rule : DeclRule w d d' w' es) (hw : w.Sound base)
    (hdesc : env.Describes w.symbols w.table) (hgrows : w'.symbols.Grows B)
    (hflag : ∀ x ∈ d.exprs, x.isFlagged = false) (hreports : reports es = [])
    (hquiet : Quiet B (d'.decorate B).judgements) : ∃ env', DeclOk env d env' := by
  cases rule with
  | var rule =>
      obtain ⟨m, env', type, declares, -⟩ := rule.ok (agree_id _) hdesc hreports
      exact ⟨env', .var type declares⟩
  | fn rule => exact rule.ok hw hdesc hgrows hflag hreports hquiet
  | struct rule => exact rule.ok hw hdesc hreports

/-- The declarations of a program are well formed exactly if neither pass finds anything wrong in
them. -/
theorem DeclsRule.ok_iff {ds ds' : List Decl} (rule : DeclsRule w ds ds' w' es) (hw : w.Sound base)
    (hdesc : env.Describes w.symbols w.table) (hgrows : w'.symbols.Grows B)
    (hflag : ∀ x ∈ ds.flatMap Decl.exprs, x.isFlagged = false) :
    (∃ env', DeclsOk env ds env') ↔
      reports es = [] ∧ Quiet B ((ds'.map (·.decorate B)).flatMap Decl.judgements) := by
  induction rule generalizing env with
  | nil => exact iff_of_true ⟨_, .nil⟩ ⟨rfl, nofun⟩
  | cons first rest ih =>
      have hfirst := first.extends hw
      have hrest := (rest.extends hfirst.sound).grows.trans hgrows
      rw [List.flatMap_cons] at hflag
      have hflag₁ := fun x hx => hflag x (List.mem_append_left _ hx)
      have hflag₂ := fun x hx => hflag x (List.mem_append_right _ hx)
      rw [reports_append_eq_nil_iff, List.map_cons, List.flatMap_cons, quiet_judgements_append]
      constructor
      · rintro ⟨env', _ | ⟨hok, hoks⟩⟩
        obtain ⟨hq, hquiet, hdesc'⟩ := first.of_ok hw hdesc hrest hflag₁ hok
        obtain ⟨hqs, hquiets⟩ := (ih hfirst.sound hdesc' hgrows hflag₂).1 ⟨env', hoks⟩
        exact ⟨⟨hq, hqs⟩, hquiet, hquiets⟩
      · rintro ⟨⟨hq, hqs⟩, hquiet, hquiets⟩
        obtain ⟨env', hok⟩ := first.ok hw hdesc hrest hflag₁ hq hquiet
        obtain ⟨-, -, hdesc'⟩ := first.of_ok hw hdesc hrest hflag₁ hok
        obtain ⟨env'', hoks⟩ := (ih hfirst.sound hdesc' hgrows hflag₂).2 ⟨hqs, hquiets⟩
        exact ⟨env'', .cons hok hoks⟩

end

end Naming

lemma Program.complaints_eq_nil_iff {A : Arena} {p : Program} :
    p.complaints A = [] ↔ Naming.Quiet A p.judgements := List.flatMap_eq_nil_iff

/-- **Acceptance.**  The analysis of a program that comes from the source as it is reports nothing,
to its count or to the sink, exactly if the program is well formed. -/
theorem analyze_reports_nothing_iff {p : Program} (h : p.Fresh) (sink : Diagnostics) :
    ∃ a, (analyze .standard p sink).result = .ok a ∧ (a.errorCount = 0 ↔ p.WellFormed) ∧
      ((analyze .standard p sink).sink = sink ↔ p.WellFormed) := by
  cases analyze_explained .standard h.toUnfilled sink with
  | skipped rule wrong skips => cases skips
  | @checked named w es rule checks program told result =>
      have hiff : p.WellFormed ↔ reports es = [] ∧
          ((analyze .standard p sink).program.complaints w.symbols) = [] := by
        rw [Program.complaints_eq_nil_iff, program]
        exact rule.ok_iff sound_start (Env.describes_withScope _) (.refl _) h.unflagged
      refine ⟨_, result, ?_, ?_⟩
      · rw [hiff, Analysis.errorCount, Nat.add_eq_zero_iff, List.length_eq_zero_iff,
          List.length_eq_zero_iff]
      · rw [hiff, told_nil_iff told, List.append_eq_nil_iff, List.map_eq_nil_iff]

/-- A struct, a variable of it, and a function that puts its argument into a field. -/
def fieldUpdate : Program where
  decls := [
    .struct
      { id := .unbound "S" .nowhere
        fields := [{ ty := .int, id := .unbound "a" .nowhere }] },
    .var { ty := .struct (.unbound "S" .nowhere), id := .unbound "s" .nowhere },
    .fn
      { ret := .int
        id := .unbound "f" .nowhere
        formals := [{ ty := .int, id := .unbound "a" .nowhere }]
        body := .mk [] [
          .simple .assign (.set
            (.select (.use (.unbound "s" .nowhere)) (.unbound "a" .nowhere))
            (.use (.unbound "a" .nowhere))),
          .ret (some (.apply (.unbound "f" .nowhere)
            [.select (.use (.unbound "s" .nowhere)) (.unbound "a" .nowhere)])) .nowhere] }]

theorem fieldUpdate_wellFormed :
    fieldUpdate.Fresh ∧ fieldUpdate.WellFormed ∧ (analyze .standard fieldUpdate {}).sink = {} ∧
      surplusArgument.Fresh ∧ ¬ surplusArgument.WellFormed := by
  have fresh : fieldUpdate.Fresh := ⟨⟨by decide, by decide, by decide⟩, by decide⟩
  have hquiet : (analyze .standard fieldUpdate {}).sink = {} := by decide +kernel
  have hsurplus : (analyze .standard surplusArgument {}).sink ≠ {} := by decide +kernel
  obtain ⟨-, -, -, hiff⟩ := analyze_reports_nothing_iff fresh {}
  obtain ⟨-, -, -, hiff'⟩ := analyze_reports_nothing_iff fresh_surplusArgument {}
  exact ⟨fresh, hiff.1 hquiet, hquiet, fresh_surplusArgument, mt hiff'.2 hsurplus⟩

end StructLang
