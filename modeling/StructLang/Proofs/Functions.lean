import Mathlib.Tactic.Common
import StructLang.Proofs.Resolution

/-!
# Which functions there are

Of all declarations only those of functions at the outer level create function symbols; variables,
structs, formals and bodies do not (`Arena.SameFns`).  So behind every function symbol of a program
stands a declaration, and if calls of the function are errors, its return type was reported
(`DeclsRule.fn_declared`).
-/

namespace StructLang

/-- All functions of the later arena are in the earlier one. -/
def Arena.SameFns (A B : Arena) : Prop :=
  ∀ h name params ret, B.get h = .ok { name, kind := .fn params ret } →
    A.get h = .ok { name, kind := .fn params ret }

namespace Arena

variable {A B C : Arena}

lemma SameFns.refl (A : Arena) : A.SameFns A := fun _ _ _ _ => id

lemma SameFns.trans (hAB : A.SameFns B) (hBC : B.SameFns C) : A.SameFns C :=
  fun h name params ret hg => hAB h name params ret (hBC h name params ret hg)

lemma sameFns_push (A : Arena) (name : String) {kind : Symbol.Kind}
    (room : A.size < UInt32.size) (hk : ∀ params ret, kind ≠ .fn params ret) :
    A.SameFns (A.push { name, kind } room) := by
  intro h other params ret hg
  rcases (get_push_eq_ok_iff room).1 hg with hg | ⟨-, heq⟩
  · exact hg
  · exact absurd (congrArg Symbol.kind heq).symm (hk params ret)

end Arena

namespace Naming

/-- What is declared as a variable is no function. -/
lemma KindRule.ne_fn {A : Arena} {types : ScopeStack} {owner : Ident} {ty ty' : TypeName}
    {kind : Option Symbol.Kind} {es : List Event} (rule : KindRule A types owner ty ty' kind es)
    (params : List Ty) (ret : Ty) : kind ≠ some (.fn params ret) := by
  cases rule with
  | @struct _ _ defn _ type => cases defn <;> simp
  | _ => simp

lemma DeclareRule.sameFns {types : ScopeStack → ScopeStack} {w w' : Names} {d d' : VarDecl}
    {es : List Event} (rule : DeclareRule types w d d' w' es) :
    w.symbols.SameFns w'.symbols := by
  cases rule with
  | taken type known => exact .refl _
  | rejected type free => exact .refl _
  | declared type room scope =>
      exact Arena.sameFns_push _ _ room fun params ret hk =>
        absurd (congrArg some hk) (type.ne_fn params ret)

lemma DeclaresRule.sameFns {types : ScopeStack → ScopeStack} {w w' : Names} {ds ds' : List VarDecl}
    {es : List Event} (rule : DeclaresRule types w ds ds' w' es) :
    w.symbols.SameFns w'.symbols := by
  induction rule with
  | nil => exact .refl _
  | cons first rest ih => exact first.sameFns.trans ih

mutual

theorem BlockRule.sameFns : ∀ {w w' : Names} {b b' : Block} {es : List Event},
    BlockRule w b b' w' es → w.symbols.SameFns w'.symbols
  | _, _, _, _, _, .mk decls stmts => decls.sameFns.trans stmts.sameFns

theorem BranchRule.sameFns : ∀ {w : Names} {A : Arena} {b b' : Block} {es : List Event},
    BranchRule w b b' A es → w.symbols.SameFns A
  | _, _, _, _, _, .mk inside => inside.sameFns

theorem StmtRule.sameFns : ∀ {w : Names} {A : Arena} {s s' : Stmt} {es : List Event},
    StmtRule w s s' A es → w.symbols.SameFns A
  | _, _, _, _, _, .simple _ _ => .refl _
  | _, _, _, _, _, .guarded _ _ branch => branch.sameFns
  | _, _, _, _, _, .ifElse _ first second => first.sameFns.trans second.sameFns
  | _, _, _, _, _, .leave _ => .refl _
  | _, _, _, _, _, .ret _ _ => .refl _

theorem StmtsRule.sameFns : ∀ {w : Names} {A : Arena} {ss ss' : List Stmt} {es : List Event},
    StmtsRule w ss ss' A es → w.symbols.SameFns A
  | _, _, _, _, _, .nil => .refl _
  | _, _, _, _, _, .cons first rest => first.sameFns.trans rest.sameFns

end

lemma StructRule.sameFns {w w' : Names} {s s' : StructDecl} {es : List Event}
    (rule : StructRule w s s' w' es) : w.symbols.SameFns w'.symbols := by
  cases rule with
  | taken known all => exact all.sameFns
  | declared all room scope => exact all.sameFns.trans (Arena.sameFns_push _ _ room nofun)

/-- After its head a function adds no other function. -/
lemma FnRule.head_sameFns {w w' : Names} {f f' : FnDecl} {es : List Event}
    (rule : FnRule w f f' w' es) :
    ∃ w₁ ty es₁ es₂, ReturnRule w f.ret f'.ret ty es₁ ∧
      HeadRule w f.id (Naming.writtenTypes f.formals) ty f'.id w₁ es₂ ∧
      w₁.symbols.SameFns w'.symbols ∧ ∀ finding ∈ reports es₁, finding ∈ reports es := by
  cases rule with
  | mk type head params inside =>
      refine ⟨_, _, _, _, type, head, params.sameFns.trans inside.sameFns, fun finding hf => ?_⟩
      simp only [reports_append, List.mem_append]
      exact Or.inl (Or.inl hf)

/-- The function calls of the symbol mean, and what was reported if they are errors. -/
structure Declares (f : FnDecl) (h : SymbolId) (ret : Ty) (es : List Event) : Prop where
  symbol : f.id.symbol? = some h
  reported : ret = .error → ∃ name, f.ret = .struct name ∧
    { loc := name.loc, problem := .invalidStructName } ∈ reports es

lemma ReturnRule.reported {w : Names} {ret ret' : TypeName} {ty : Ty} {es : List Event}
    (rule : ReturnRule w ret ret' ty es) (herror : ty = .error) : ∃ name, ret' = .struct name ∧
      { loc := name.loc, problem := .invalidStructName } ∈ reports es := by
  cases rule with
  | plain type => cases ret <;> cases herror
  | struct type =>
      cases type with
      | means found symbol struct => cases herror
      | invalid wrong => exact ⟨_, rfl, List.mem_singleton_self _⟩

/-- A declaration adds no function but itself. -/
lemma DeclRule.fn_declared {w w' : Names} {d d' : Decl} {es : List Event}
    (rule : DeclRule w d d' w' es) {h : SymbolId} {name : String} {params : List Ty} {ret : Ty}
    (hg : w'.symbols.get h = .ok { name, kind := .fn params ret }) :
    w.symbols.get h = .ok { name, kind := .fn params ret } ∨
      ∃ f, d' = .fn f ∧ Declares f h ret es := by
  cases rule with
  | var rule => exact Or.inl (rule.sameFns h name params ret hg)
  | struct rule => exact Or.inl (rule.sameFns h name params ret hg)
  | @fn _ f' _ _ rule =>
      obtain ⟨w₁, ty, es₁, es₂, type, head, hsame, hsub⟩ := rule.head_sameFns
      have hg₁ := hsame h name params ret hg
      generalize hid : f'.id = id' at head
      cases head with
      | taken known => exact Or.inl hg₁
      | declared room scope =>
          rcases (Arena.get_push_eq_ok_iff room).1 hg₁ with hg | ⟨rfl, heq⟩
          · exact Or.inl hg
          · refine Or.inr ⟨f', rfl, by rw [hid]; rfl, fun herror => ?_⟩
            obtain ⟨-, rfl⟩ := Symbol.Kind.fn.inj (congrArg Symbol.kind heq)
            obtain ⟨structName, hret, hf⟩ := type.reported herror
            exact ⟨structName, hret, hsub _ hf⟩

lemma Declares.mono {f : FnDecl} {h : SymbolId} {ret : Ty} {es fs : List Event}
    (hf : Declares f h ret es) (hsub : ∀ finding ∈ reports es, finding ∈ reports fs) :
    Declares f h ret fs := by
  refine ⟨hf.symbol, fun herror => ?_⟩
  obtain ⟨name, hret, hmem⟩ := hf.reported herror
  exact ⟨name, hret, hsub _ hmem⟩

/-- **Behind a function stands a declaration.**  Every function symbol of a program, unless it was
there before, belongs to one of its declarations; and if its calls are errors, the return type of
the declaration is a struct name that was reported. -/
theorem DeclsRule.fn_declared {w w' : Names} {ds ds' : List Decl} {es : List Event}
    (rule : DeclsRule w ds ds' w' es) {h : SymbolId} {name : String} {params : List Ty} {ret : Ty}
    (hg : w'.symbols.get h = .ok { name, kind := .fn params ret }) :
    w.symbols.get h = .ok { name, kind := .fn params ret } ∨
      ∃ f, .fn f ∈ ds' ∧ Declares f h ret es := by
  induction rule with
  | nil => exact Or.inl hg
  | cons first rest ih =>
      rcases ih hg with hg | ⟨f, hf, hdeclares⟩
      · rcases first.fn_declared hg with hg | ⟨f, rfl, hdeclares⟩
        · exact Or.inl hg
        · exact Or.inr ⟨f, List.mem_cons_self, hdeclares.mono fun _ hmem =>
            reports_append _ _ ▸ List.mem_append_left _ hmem⟩
      · exact Or.inr ⟨f, List.mem_cons_of_mem _ hf, hdeclares.mono fun _ hmem =>
          reports_append _ _ ▸ List.mem_append_right _ hmem⟩

end Naming

end StructLang
