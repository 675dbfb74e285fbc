import Mathlib.Tactic.Common
import StructLang.Proofs.Unbound
import StructLang.Tree.Build

/-!
# Nothing reported, everything bound

Name resolution reports a mistake exactly where it leaves a slot open.  Whatever is reported, some
identifier stays without a symbol: the one that is declared, the struct name in its type, the name
that is used, or the field that is selected.  And whatever stays without a symbol comes with a
report, which for a field may be further left in its chain of dots.

So a program is bound completely if and only if nothing was reported, rule by rule
(`ExprRule.bound_iff`, `DeclareRule.bound_iff`, …) and for whole programs
(`nothing_reported_iff_all_bound`).
-/

namespace StructLang

/-- Every identifier of the list is bound. -/
def AllBound (ids : List Ident) : Prop := ∀ id ∈ ids, id.symbol?.isSome = true

/-- No identifier of the list is bound. -/
def NoneBound (ids : List Ident) : Prop := ∀ id ∈ ids, id.symbol? = none

section

variable {id : Ident} {ids jds : List Ident}

@[simp] lemma allBound_nil : AllBound [] := nofun

@[simp] lemma allBound_cons :
    AllBound (id :: ids) ↔ id.symbol?.isSome = true ∧ AllBound ids := List.forall_mem_cons

@[simp] lemma allBound_append : AllBound (ids ++ jds) ↔ AllBound ids ∧ AllBound jds :=
  List.forall_mem_append

lemma allBound_of_mem_iff (h : ∀ id, id ∈ ids ↔ id ∈ jds) : AllBound ids ↔ AllBound jds :=
  forall_congr' fun id => imp_congr_left (h id)

lemma NoneBound.mono (h : NoneBound ids) (hsub : ∀ id ∈ jds, id ∈ ids) : NoneBound jds :=
  fun id hid => h id (hsub id hid)

lemma noneBound_append : NoneBound (ids ++ jds) ↔ NoneBound ids ∧ NoneBound jds :=
  List.forall_mem_append

lemma not_isSome_of_none (h : id.symbol? = none) : ¬ id.symbol?.isSome = true := by
  rw [h]
  exact Bool.false_ne_true

end

/-- No expression of the list is marked as one whose field cannot be resolved. -/
def NoneFlagged (es : List Expr) : Prop := ∀ e ∈ es, e.isFlagged = false

lemma NoneFlagged.mono {es fs : List Expr} (h : NoneFlagged es) (hsub : ∀ e ∈ fs, e ∈ es) :
    NoneFlagged fs := fun e he => h e (hsub e he)

namespace Naming

variable {w w' : Names} {es : List Event}

/-! ## Uses -/

lemma UseRule.bound_iff {id id' : Ident} (rule : UseRule w id id' es) (free : id.symbol? = none) :
    reports es = [] ↔ id'.symbol?.isSome = true := by
  cases rule with
  | bound found => exact iff_of_true rfl rfl
  | undeclared missing => exact iff_of_false nofun (not_isSome_of_none free)

/-- The field after a base that has not failed. -/
lemma FieldRule.bound_iff {A : Arena} {base : Expr} {field field' : Ident} {failed failed' : Bool}
    (rule : FieldRule A base field failed field' failed' es) (free : field.symbol? = none)
    (hbase : base.asBase ≠ .failed) : reports es = [] ↔ field'.symbol?.isSome = true := by
  cases rule with
  | skipped wrong => exact absurd wrong hbase
  | noStruct wrong => exact iff_of_false nofun (not_isSome_of_none free)
  | unknown symbol struct missing => exact iff_of_false nofun (not_isSome_of_none free)
  | selected symbol struct found => exact iff_of_true rfl rfl

mutual

theorem ExprRule.bound_iff : ∀ {e e' : Expr} {es : List Event}, ExprRule w e e' es →
    NoneBound e.idents → NoneFlagged e.exprs → (reports es = [] ↔ AllBound e'.idents)
  | _, _, _, .lit value note, _, _ => iff_of_true rfl nofun
  | _, _, _, .name note use, free, _ => by
      rw [use.bound_iff (free _ (by simp))]
      simp [AllBound]
  | _, _, _, .dot note first second, free, unflagged => by
      have hinner : NoneFlagged _ := unflagged.mono fun _ => List.mem_cons_of_mem _
      have hfirst := first.bound_iff (free.mono fun _ hmem => by simp [hmem]) hinner
      have hsecond := fun hquiet => second.bound_iff (free _ (by simp))
        (first.asBase_ne_failed hinner hquiet)
      rw [reports_append_eq_nil_iff, and_congr_right hsecond, hfirst, and_comm]
      simp [AllBound]
  | _, _, _, .assign note left right, free, unflagged => by
      rw [reports_append_eq_nil_iff,
        left.bound_iff (free.mono fun _ hmem => by simp [hmem])
          (unflagged.mono fun _ he => by simp [Expr.exprs, he]),
        right.bound_iff (free.mono fun _ hmem => by simp [hmem])
          (unflagged.mono fun _ he => by simp [Expr.exprs, he])]
      simp [AllBound, or_imp, forall_and]
  | _, _, _, .call note use all, free, unflagged => by
      rw [reports_append_eq_nil_iff, use.bound_iff (free _ (by simp)),
        all.bound_iff (free.mono fun _ hmem => by simp [hmem])
          (unflagged.mono fun _ => List.mem_cons_of_mem _)]
      simp [AllBound]
  | _, _, _, .unary op note inner, free, unflagged => by
      rw [inner.bound_iff (free.mono fun _ hmem => by simp [hmem])
        (unflagged.mono fun _ => List.mem_cons_of_mem _)]
      simp [AllBound]
  | _, _, _, .binary op note first second, free, unflagged => by
      rw [reports_append_eq_nil_iff,
        first.bound_iff (free.mono fun _ hmem => by simp [hmem])
          (unflagged.mono fun _ he => by simp [Expr.exprs, he]),
        second.bound_iff (free.mono fun _ hmem => by simp [hmem])
          (unflagged.mono fun _ he => by simp [Expr.exprs, he])]
      simp [AllBound, or_imp, forall_and]

theorem ArgsRule.bound_iff : ∀ {args args' : List Expr} {es : List Event},
    ArgsRule w args args' es → NoneBound (Expr.identsOfAll args) →
      NoneFlagged (Expr.exprsOfAll args) → (reports es = [] ↔ AllBound (Expr.identsOfAll args'))
  | _, _, _, .nil, _, _ => iff_of_true rfl nofun
  | _, _, _, .cons first rest, free, unflagged => by
      rw [reports_append_eq_nil_iff,
        first.bound_iff (free.mono fun _ hmem => by simp [hmem])
          (unflagged.mono fun _ => List.mem_append_left _),
        rest.bound_iff (free.mono fun _ hmem => by simp [hmem])
          (unflagged.mono fun _ => List.mem_append_right _)]
      simp [AllBound, or_imp, forall_and]

end

/-! ## Declarations -/

lemma StructNameRule.bound_iff {A : Arena} {types : ScopeStack} {name name' : Ident}
    {defn : Option SymbolId} (rule : StructNameRule A types name name' defn es)
    (free : name.symbol? = none) :
    (reports es = [] ↔ name'.symbol?.isSome = true) ∧ (reports es = [] ↔ defn.isSome = true) := by
  cases rule with
  | means found symbol struct => exact ⟨iff_of_true rfl rfl, iff_of_true rfl rfl⟩
  | invalid wrong =>
      exact ⟨iff_of_false nofun (not_isSome_of_none free), iff_of_false nofun nofun⟩

/-- What is wrong with the type of a variable is reported, and then there is no kind of symbol that
the variable could be. -/
lemma KindRule.bound_iff {A : Arena} {types : ScopeStack} {owner : Ident} {ty ty' : TypeName}
    {kind : Option Symbol.Kind} (rule : KindRule A types owner ty ty' kind es)
    (free : NoneBound ty.idents) :
    (reports es = [] ↔ kind.isSome = true) ∧ (kind.isSome = true → AllBound ty'.idents) := by
  cases rule with
  | int => exact ⟨iff_of_true rfl rfl, fun _ => nofun⟩
  | bool => exact ⟨iff_of_true rfl rfl, fun _ => nofun⟩
  | void => exact ⟨iff_of_false nofun nofun, nofun⟩
  | struct type =>
      obtain ⟨hname, hdefn⟩ := type.bound_iff (free _ List.mem_cons_self)
      rw [Option.isSome_map]
      refine ⟨hdefn, fun hsome => ?_⟩
      rw [TypeName.idents, allBound_cons]
      exact ⟨hname.1 (hdefn.2 hsome), allBound_nil⟩

lemma VarDecl.free {d : VarDecl} (free : NoneBound d.idents) :
    NoneBound d.ty.idents ∧ d.id.symbol? = none := by
  obtain ⟨hty, hid⟩ := noneBound_append.1 free
  exact ⟨hty, hid _ List.mem_cons_self⟩

/-- Whatever is reported of a declaration, its identifier stays open. -/
lemma DeclareRule.bound_iff {types : ScopeStack → ScopeStack} {d d' : VarDecl}
    (rule : DeclareRule types w d d' w' es) (free : NoneBound d.idents) :
    reports es = [] ↔ AllBound d'.idents := by
  obtain ⟨hty, hid⟩ := VarDecl.free free
  rw [VarDecl.idents, allBound_append, allBound_cons]
  cases rule with
  | taken type known =>
      refine iff_of_false ?_ fun hbound => not_isSome_of_none hid hbound.2.1
      simp [reports_append]
  | rejected type free =>
      refine iff_of_false (fun hquiet => ?_) fun hbound => not_isSome_of_none hid hbound.2.1
      cases (type.bound_iff hty).1.1 hquiet
  | declared type room scope =>
      obtain ⟨hquiet, hbound⟩ := type.bound_iff hty
      rw [reports_append, hquiet.2 rfl]
      exact iff_of_true rfl ⟨hbound rfl, rfl, allBound_nil⟩

lemma DeclaresRule.bound_iff {types : ScopeStack → ScopeStack} {ds ds' : List VarDecl}
    (rule : DeclaresRule types w ds ds' w' es) (free : NoneBound (ds.flatMap VarDecl.idents)) :
    reports es = [] ↔ AllBound (ds'.flatMap VarDecl.idents) := by
  induction rule with
  | nil => exact iff_of_true rfl nofun
  | cons first rest ih =>
      rw [List.flatMap_cons, noneBound_append] at free
      rw [reports_append_eq_nil_iff, first.bound_iff free.1, ih free.2, List.flatMap_cons,
        allBound_append]

/-! ## Blocks and statements -/

mutual

theorem BlockRule.bound_iff : ∀ {w w' : Names} {b b' : Block} {es : List Event},
    BlockRule w b b' w' es → NoneBound b.idents → NoneFlagged b.exprs →
      (reports es = [] ↔ AllBound b'.idents)
  | _, _, _, _, _, .mk decls stmts, free, unflagged => by
      rw [allBound_of_mem_iff fun _ => Block.mem_idents_mk, allBound_append,
        reports_append_eq_nil_iff,
        decls.bound_iff (free.mono fun _ => Block.mem_idents_decls),
        stmts.bound_iff (free.mono fun _ => Block.mem_idents_stmts) unflagged]

theorem BranchRule.bound_iff : ∀ {w : Names} {A : Arena} {b b' : Block} {es : List Event},
    BranchRule w b b' A es → NoneBound b.idents → NoneFlagged b.exprs →
      (reports es = [] ↔ AllBound b'.idents)
  | _, _, _, _, _, .mk inside, free, unflagged => by
      rw [reports_inside]
      exact inside.bound_iff free unflagged

theorem StmtRule.bound_iff : ∀ {w : Names} {A : Arena} {s s' : Stmt} {es : List Event},
    StmtRule w s s' A es → NoneBound s.idents → NoneFlagged s.exprs →
      (reports es = [] ↔ AllBound s'.idents)
  | _, _, _, _, _, .simple verb expr, free, unflagged => by
      rw [expr.bound_iff (free.mono fun _ hmem => by simp [hmem]) unflagged]
      simp [AllBound]
  | _, _, _, _, _, .guarded guard expr branch, free, unflagged => by
      rw [reports_append_eq_nil_iff,
        expr.bound_iff (free.mono fun _ hmem => by simp [hmem])
          (unflagged.mono fun _ => List.mem_append_left _),
        branch.bound_iff (free.mono fun _ hmem => by simp [hmem])
          (unflagged.mono fun _ => List.mem_append_right _)]
      simp [AllBound, or_imp, forall_and]
  | _, _, _, _, _, .ifElse expr first second, free, unflagged => by
      rw [reports_append_eq_nil_iff, reports_append_eq_nil_iff,
        expr.bound_iff (free.mono fun _ hmem => by simp [hmem])
          (unflagged.mono fun _ he => by simp [Stmt.exprs, he]),
        first.bound_iff (free.mono fun _ hmem => by simp [hmem])
          (unflagged.mono fun _ he => by simp [Stmt.exprs, he]),
        second.bound_iff (free.mono fun _ hmem => by simp [hmem])
          (unflagged.mono fun _ he => by simp [Stmt.exprs, he])]
      simp [AllBound, or_imp, forall_and, and_assoc]
  | _, _, _, _, _, .leave loc, _, _ => iff_of_true rfl nofun
  | _, _, _, _, _, .ret loc expr, free, unflagged => by
      rw [expr.bound_iff (free.mono fun _ hmem => by simp [hmem]) unflagged]
      simp [AllBound]

theorem StmtsRule.bound_iff : ∀ {w : Names} {A : Arena} {ss ss' : List Stmt} {es : List Event},
    StmtsRule w ss ss' A es → NoneBound (Stmt.identsOfAll ss) →
      NoneFlagged (Stmt.exprsOfAll ss) → (reports es = [] ↔ AllBound (Stmt.identsOfAll ss'))
  | _, _, _, _, _, .nil, _, _ => iff_of_true rfl nofun
  | _, _, _, _, _, .cons first rest, free, unflagged => by
      rw [reports_append_eq_nil_iff,
        first.bound_iff (free.mono fun _ hmem => by simp [hmem])
          (unflagged.mono fun _ => List.mem_append_left _),
        rest.bound_iff (free.mono fun _ hmem => by simp [hmem])
          (unflagged.mono fun _ => List.mem_append_right _)]
      simp [AllBound, or_imp, forall_and]

end

/-! ## Functions, structs and programs -/

lemma ReturnRule.bound_iff {ret ret' : TypeName} {ty : Ty} (rule : ReturnRule w ret ret' ty es)
    (free : NoneBound ret.idents) : reports es = [] ↔ AllBound ret'.idents := by
  cases rule with
  | plain type =>
      cases ret with
      | struct name => exact absurd rfl (type name)
      | _ => exact iff_of_true rfl nofun
  | struct type =>
      rw [(type.bound_iff (free _ List.mem_cons_self)).1, TypeName.idents, allBound_cons,
        and_iff_left allBound_nil]

lemma HeadRule.bound_iff {id id' : Ident} {params : List Ty} {ret : Ty}
    (rule : HeadRule w id params ret id' w' es) (free : id.symbol? = none) :
    reports es = [] ↔ id'.symbol?.isSome = true := by
  cases rule with
  | taken known => exact iff_of_false nofun (not_isSome_of_none free)
  | declared room scope => exact iff_of_true rfl rfl

lemma FnRule.bound_iff {f f' : FnDecl} (rule : FnRule w f f' w' es)
    (free : NoneBound (Decl.fn f).idents) (unflagged : NoneFlagged f.body.exprs) :
    reports es = [] ↔ AllBound (Decl.fn f').idents := by
  rw [allBound_of_mem_iff fun _ => Decl.mem_idents_fn_iff, allBound_append, allBound_cons,
    allBound_append]
  cases rule with
  | mk type head params inside =>
      rw [reports_fn_eq_nil_iff, type.bound_iff (free.mono fun _ => Decl.mem_idents_ret),
        head.bound_iff (free _ Decl.mem_idents_fn),
        params.bound_iff (free.mono fun _ => Decl.mem_idents_formals),
        inside.bound_iff (free.mono fun _ => Decl.mem_idents_body) unflagged, and_assoc]

lemma StructRule.bound_iff {s s' : StructDecl} (rule : StructRule w s s' w' es)
    (free : NoneBound (Decl.struct s).idents) :
    reports es = [] ↔ AllBound (Decl.struct s').idents := by
  have hid : s.id.symbol? = none := free _ Decl.mem_idents_struct
  have hfields : NoneBound (s.fields.flatMap VarDecl.idents) :=
    free.mono fun _ => Decl.mem_idents_fields
  rw [allBound_of_mem_iff fun _ => Decl.mem_idents_struct_iff, allBound_cons]
  cases rule with
  | taken known all => exact iff_of_false nofun fun hbound => not_isSome_of_none hid hbound.1
  | declared all room scope =>
      rw [reports_struct_eq_nil_iff, all.bound_iff hfields]
      exact (and_iff_right rfl).symm

lemma DeclRule.bound_iff {d d' : Decl} (rule : DeclRule w d d' w' es) (free : NoneBound d.idents)
    (unflagged : NoneFlagged d.exprs) : reports es = [] ↔ AllBound d'.idents := by
  cases rule with
  | var rule =>
      rw [allBound_of_mem_iff fun _ => Decl.mem_idents_var_iff]
      exact rule.bound_iff (free.mono fun _ => Decl.mem_idents_var_iff.2)
  | fn rule => exact rule.bound_iff free unflagged
  | struct rule => exact rule.bound_iff free

theorem DeclsRule.bound_iff {ds ds' : List Decl} (rule : DeclsRule w ds ds' w' es)
    (free : NoneBound (ds.flatMap Decl.idents)) (unflagged : NoneFlagged (ds.flatMap Decl.exprs)) :
    reports es = [] ↔ AllBound (ds'.flatMap Decl.idents) := by
  induction rule with
  | nil => exact iff_of_true rfl nofun
  | cons first rest ih =>
      rw [List.flatMap_cons, noneBound_append] at free
      rw [List.flatMap_cons] at unflagged
      rw [reports_append_eq_nil_iff, List.flatMap_cons, allBound_append,
        first.bound_iff free.1 (unflagged.mono fun _ => List.mem_append_left _),
        ih free.2 (unflagged.mono fun _ => List.mem_append_right _)]

end Naming

/-- **Complete binding is a clean first pass.**  From any run that has a handle left for each of its
declarations, name resolution of a fresh program goes on to its end, and it has counted no mistake
if and only if every identifier of the program is bound: all that are declared or name a struct
type, at every level, and all that are used. -/
theorem nothing_reported_iff_all_bound (dumpScopes : Bool) {p : Program} (h : p.Fresh)
    (s : Run Names) (room : s.work.symbols.size + p.declCount ≤ UInt32.size) :
    ((resolveProgram dumpScopes p).run s).2.outcome = .ok () ∧
      (((resolveProgram dumpScopes p).run s).2.errors = s.errors ↔
        AllBound ((resolveProgram dumpScopes p).run s).1.declIdents ∧
          AllBound ((resolveProgram dumpScopes p).run s).1.uses) := by
  obtain ⟨named, t, hrun, w, es, rule, resolved⟩ :=
    resolveProgram_goes_on dumpScopes h.unbound s room
  have hcount : t.errors = s.errors + (reports es).length := resolved.reported.count
  have hbound : reports es = [] ↔ AllBound (named.decls.flatMap Decl.idents) :=
    rule.bound_iff (fun id hid => h.unbound id (Program.mem_idents_iff.2 hid)) h.unflagged
  rw [hrun]
  refine ⟨resolved.outcome, ?_⟩
  show t.errors = s.errors ↔ AllBound named.declIdents ∧ AllBound named.uses
  rw [hcount, Nat.add_eq_left, List.length_eq_zero_iff, hbound, ← allBound_append]
  exact allBound_of_mem_iff fun _ => Program.mem_idents_iff.symm

/-- A struct with a field that cannot be, and a chain of dots that ends in it. -/
def voidField : Program where
  decls := [
    .struct
      { id := .unbound "Inner" .nowhere
        fields := [{ ty := .void, id := .unbound "nothing" .nowhere }] },
    .struct
      { id := .unbound "Outer" .nowhere
        fields := [{ ty := .struct (.unbound "Inner" .nowhere), id := .unbound "in" .nowhere }] },
    .fn
      { ret := .void
        id := .unbound "f" .nowhere
        formals := [{ ty := .struct (.unbound "Outer" .nowhere), id := .unbound "o" .nowhere }]
        body := .mk [] [.simple .write (.select
          (.select (.use (.unbound "o" .nowhere)) (.unbound "in" .nowhere))
          (.unbound "nothing" .nowhere))] }]

/-- The field is reported where it is declared and where it is selected, and is bound at neither
place. -/
theorem voidField_not_all_bound :
    voidField.Fresh ∧
      ((resolveProgram false voidField).run { work := {}, sink := {} }).2.errors = 2 ∧
      ¬ (AllBound ((resolveProgram false voidField).run { work := {}, sink := {} }).1.declIdents ∧
        AllBound ((resolveProgram false voidField).run { work := {}, sink := {} }).1.uses) := by
  have hfresh : voidField.Fresh := ⟨⟨by decide, by decide, by decide⟩, by decide⟩
  have hcount :
      ((resolveProgram false voidField).run { work := {}, sink := {} }).2.errors = 2 := by
    decide +kernel
  have hiff := (nothing_reported_iff_all_bound false hfresh { work := {}, sink := {} }
    (by decide)).2
  rw [hcount] at hiff
  exact ⟨hfresh, hcount, fun hbound => nomatch hiff.2 hbound⟩

end StructLang
