import Mathlib.Tactic.Common
import StructLang.Proofs.Resolution

/-!
# The rules leave no choice

What a rule of name resolution makes of a tree is determined by the tree and by the names that it
starts from.  No two rules for the same node apply together, and none of them picks anything.

So whenever a derivation has been found, it is the one that the pass follows.  Two runs are compared
that way: a derivation for the one is built from a derivation for the other, and `DeclsRule.unique`
says that there is nothing else.  In particular the derivation for a program splits at every
declaration (`DeclsRule.append_inv`), and what stands before does not see what comes after.
-/

namespace StructLang

namespace Naming

variable {w : Names} {A : Arena}

/-! ## Uses -/

lemma UseRule.unique {id id₁ id₂ : Ident} {es₁ es₂ : List Event} (h₁ : UseRule w id id₁ es₁)
    (h₂ : UseRule w id id₂ es₂) : id₁ = id₂ ∧ es₁ = es₂ := by
  cases h₁ with
  | bound found =>
      cases h₂ with
      | bound found' =>
          obtain rfl := Option.some.inj (found.symm.trans found')
          exact ⟨rfl, rfl⟩
      | undeclared missing => cases found.symm.trans missing
  | undeclared missing =>
      cases h₂ with
      | bound found => cases found.symm.trans missing
      | undeclared missing' => exact ⟨rfl, rfl⟩

/-- What stands before a dot settles which fields can be selected. -/
lemma fields_unique {base : Expr} {h k : SymbolId} {fields fields' : Option ScopeStack}
    (hh : base.asBase = .symbol h) (hk : base.asBase = .symbol k) (hf : A.fieldsOf h = .ok fields)
    (hf' : A.fieldsOf k = .ok fields') : fields = fields' := by
  obtain rfl := Base.symbol.inj (hh.symm.trans hk)
  exact Except.ok.inj (hf.symm.trans hf')

lemma WithoutFields.absurd {base : Expr} {h : SymbolId} {fields : ScopeStack}
    (wrong : WithoutFields A base) (symbol : base.asBase = .symbol h)
    (struct : A.fieldsOf h = .ok (some fields)) : False := by
  rcases wrong with hnothing | ⟨k, hk, hnone⟩
  · cases hnothing.symm.trans symbol
  · cases fields_unique hk symbol hnone struct

lemma WithoutFields.ne_failed {base : Expr} (wrong : WithoutFields A base) :
    base.asBase ≠ .failed := by
  rcases wrong with hnothing | ⟨k, hk, -⟩
  · rw [hnothing]
    exact nofun
  · rw [hk]
    exact nofun

lemma FieldRule.unique {base : Expr} {field field₁ field₂ : Ident} {failed failed₁ failed₂ : Bool}
    {es₁ es₂ : List Event} (h₁ : FieldRule A base field failed field₁ failed₁ es₁)
    (h₂ : FieldRule A base field failed field₂ failed₂ es₂) :
    field₁ = field₂ ∧ failed₁ = failed₂ ∧ es₁ = es₂ := by
  cases h₁ with
  | skipped wrong =>
      cases h₂ with
      | skipped wrong' => exact ⟨rfl, rfl, rfl⟩
      | noStruct wrong' => exact absurd wrong wrong'.ne_failed
      | unknown symbol struct missing => cases wrong.symm.trans symbol
      | selected symbol struct found => cases wrong.symm.trans symbol
  | noStruct wrong =>
      cases h₂ with
      | skipped wrong' => exact absurd wrong' wrong.ne_failed
      | noStruct wrong' => exact ⟨rfl, rfl, rfl⟩
      | unknown symbol struct missing => exact (wrong.absurd symbol struct).elim
      | selected symbol struct found => exact (wrong.absurd symbol struct).elim
  | unknown symbol struct missing =>
      cases h₂ with
      | skipped wrong => cases wrong.symm.trans symbol
      | noStruct wrong => exact (wrong.absurd symbol struct).elim
      | unknown symbol' struct' missing' => exact ⟨rfl, rfl, rfl⟩
      | selected symbol' struct' found =>
          obtain rfl := Option.some.inj (fields_unique symbol symbol' struct struct')
          cases missing.symm.trans found
  | selected symbol struct found =>
      cases h₂ with
      | skipped wrong => cases wrong.symm.trans symbol
      | noStruct wrong => exact (wrong.absurd symbol struct).elim
      | unknown symbol' struct' missing =>
          obtain rfl := Option.some.inj (fields_unique symbol symbol' struct struct')
          cases missing.symm.trans found
      | selected symbol' struct' found' =>
          obtain rfl := Option.some.inj (fields_unique symbol symbol' struct struct')
          obtain rfl := Option.some.inj (found.symm.trans found')
          exact ⟨rfl, rfl, rfl⟩

mutual

theorem ExprRule.unique : ∀ {e e₁ e₂ : Expr} {es₁ es₂ : List Event}, ExprRule w e e₁ es₁ →
    ExprRule w e e₂ es₂ → e₁ = e₂ ∧ es₁ = es₂
  | _, _, _, _, _, .lit _ _, .lit _ _ => ⟨rfl, rfl⟩
  | _, _, _, _, _, .name _ use₁, .name _ use₂ => by
      obtain ⟨rfl, rfl⟩ := use₁.unique use₂
      exact ⟨rfl, rfl⟩
  | _, _, _, _, _, .dot _ first₁ second₁, .dot _ first₂ second₂ => by
      obtain ⟨rfl, rfl⟩ := first₁.unique first₂
      obtain ⟨rfl, rfl, rfl⟩ := second₁.unique second₂
      exact ⟨rfl, rfl⟩
  | _, _, _, _, _, .assign _ left₁ right₁, .assign _ left₂ right₂ => by
      obtain ⟨rfl, rfl⟩ := left₁.unique left₂
      obtain ⟨rfl, rfl⟩ := right₁.unique right₂
      exact ⟨rfl, rfl⟩
  | _, _, _, _, _, .call _ use₁ all₁, .call _ use₂ all₂ => by
      obtain ⟨rfl, rfl⟩ := use₁.unique use₂
      obtain ⟨rfl, rfl⟩ := all₁.unique all₂
      exact ⟨rfl, rfl⟩
  | _, _, _, _, _, .unary _ _ inner₁, .unary _ _ inner₂ => by
      obtain ⟨rfl, rfl⟩ := inner₁.unique inner₂
      exact ⟨rfl, rfl⟩
  | _, _, _, _, _, .binary _ _ first₁ second₁, .binary _ _ first₂ second₂ => by
      obtain ⟨rfl, rfl⟩ := first₁.unique first₂
      obtain ⟨rfl, rfl⟩ := second₁.unique second₂
      exact ⟨rfl, rfl⟩

theorem ArgsRule.unique : ∀ {as as₁ as₂ : List Expr} {es₁ es₂ : List Event},
    ArgsRule w as as₁ es₁ → ArgsRule w as as₂ es₂ → as₁ = as₂ ∧ es₁ = es₂
  | _, _, _, _, _, .nil, .nil => ⟨rfl, rfl⟩
  | _, _, _, _, _, .cons first₁ rest₁, .cons first₂ rest₂ => by
      obtain ⟨rfl, rfl⟩ := first₁.unique first₂
      obtain ⟨rfl, rfl⟩ := rest₁.unique rest₂
      exact ⟨rfl, rfl⟩

end

/-! ## Declarations -/

lemma StructNameRule.unique {types : ScopeStack} {name name₁ name₂ : Ident}
    {defn₁ defn₂ : Option SymbolId} {es₁ es₂ : List Event}
    (h₁ : StructNameRule A types name name₁ defn₁ es₁)
    (h₂ : StructNameRule A types name name₂ defn₂ es₂) :
    name₁ = name₂ ∧ defn₁ = defn₂ ∧ es₁ = es₂ := by
  -- a name that means a definition is not invalid
  have hclash : ∀ {h : SymbolId} {d : Symbol}, types.find? name.name = some h → A.get h = .ok d →
      d.isStructDef = true →
      ¬ ∀ h, types.find? name.name = some h → ∃ d, A.get h = .ok d ∧ d.isStructDef = false := by
    intro h d found symbol struct wrong
    obtain ⟨d', symbol', hno⟩ := wrong h found
    obtain rfl := Except.ok.inj (symbol.symm.trans symbol')
    cases struct.symm.trans hno
  cases h₁ with
  | means found symbol struct =>
      cases h₂ with
      | means found' symbol' struct' =>
          obtain rfl := Option.some.inj (found.symm.trans found')
          exact ⟨rfl, rfl, rfl⟩
      | invalid wrong => exact absurd wrong (hclash found symbol struct)
  | invalid wrong =>
      cases h₂ with
      | means found symbol struct => exact absurd wrong (hclash found symbol struct)
      | invalid wrong' => exact ⟨rfl, rfl, rfl⟩

lemma KindRule.unique {types : ScopeStack} {owner : Ident} {ty ty₁ ty₂ : TypeName}
    {kind₁ kind₂ : Option Symbol.Kind} {es₁ es₂ : List Event}
    (h₁ : KindRule A types owner ty ty₁ kind₁ es₁) (h₂ : KindRule A types owner ty ty₂ kind₂ es₂) :
    ty₁ = ty₂ ∧ kind₁ = kind₂ ∧ es₁ = es₂ := by
  cases h₁ with
  | int => cases h₂; exact ⟨rfl, rfl, rfl⟩
  | bool => cases h₂; exact ⟨rfl, rfl, rfl⟩
  | void => cases h₂; exact ⟨rfl, rfl, rfl⟩
  | struct type₁ =>
      cases h₂ with
      | struct type₂ =>
          obtain ⟨rfl, rfl, rfl⟩ := type₁.unique type₂
          exact ⟨rfl, rfl, rfl⟩

lemma DeclareRule.unique {types : ScopeStack → ScopeStack} {d d₁ d₂ : VarDecl} {w₁ w₂ : Names}
    {es₁ es₂ : List Event} (h₁ : DeclareRule types w d d₁ w₁ es₁)
    (h₂ : DeclareRule types w d d₂ w₂ es₂) : d₁ = d₂ ∧ w₁ = w₂ ∧ es₁ = es₂ := by
  cases h₁ with
  | taken type known =>
      cases h₂ with
      | taken type' known' =>
          obtain ⟨rfl, -, rfl⟩ := type.unique type'
          exact ⟨rfl, rfl, rfl⟩
      | rejected type' free => cases known.symm.trans free
      | declared type' room scope => cases known.symm.trans (ScopeStack.local?_of_declare scope)
  | rejected type free =>
      cases h₂ with
      | taken type' known => cases known.symm.trans free
      | rejected type' free' =>
          obtain ⟨rfl, -, rfl⟩ := type.unique type'
          exact ⟨rfl, rfl, rfl⟩
      | declared type' room scope => cases (type.unique type').2.1
  | declared type room scope =>
      cases h₂ with
      | taken type' known => cases known.symm.trans (ScopeStack.local?_of_declare scope)
      | rejected type' free => cases (type.unique type').2.1
      | declared type' room' scope' =>
          obtain ⟨rfl, hkind, rfl⟩ := type.unique type'
          obtain rfl := Option.some.inj hkind
          obtain rfl := Except.ok.inj (scope.symm.trans scope')
          exact ⟨rfl, rfl, rfl⟩

lemma DeclaresRule.unique {types : ScopeStack → ScopeStack} {ds ds₁ ds₂ : List VarDecl}
    {w₁ w₂ : Names} {es₁ es₂ : List Event} (h₁ : DeclaresRule types w ds ds₁ w₁ es₁)
    (h₂ : DeclaresRule types w ds ds₂ w₂ es₂) : ds₁ = ds₂ ∧ w₁ = w₂ ∧ es₁ = es₂ := by
  induction h₁ generalizing ds₂ es₂ with
  | nil => cases h₂; exact ⟨rfl, rfl, rfl⟩
  | cons first rest ih =>
      cases h₂ with
      | cons first' rest' =>
          obtain ⟨rfl, rfl, rfl⟩ := first.unique first'
          obtain ⟨rfl, rfl, rfl⟩ := ih rest'
          exact ⟨rfl, rfl, rfl⟩

/-! ## Blocks and statements -/

mutual

theorem BlockRule.unique : ∀ {w w₁ w₂ : Names} {b b₁ b₂ : Block} {es₁ es₂ : List Event},
    BlockRule w b b₁ w₁ es₁ → BlockRule w b b₂ w₂ es₂ → b₁ = b₂ ∧ w₁ = w₂ ∧ es₁ = es₂
  | _, _, _, _, _, _, _, _, .mk decls₁ stmts₁, .mk decls₂ stmts₂ => by
      obtain ⟨rfl, rfl, rfl⟩ := decls₁.unique decls₂
      obtain ⟨rfl, rfl, rfl⟩ := stmts₁.unique stmts₂
      exact ⟨rfl, rfl, rfl⟩

theorem BranchRule.unique : ∀ {w : Names} {A₁ A₂ : Arena} {b b₁ b₂ : Block} {es₁ es₂ : List Event},
    BranchRule w b b₁ A₁ es₁ → BranchRule w b b₂ A₂ es₂ → b₁ = b₂ ∧ A₁ = A₂ ∧ es₁ = es₂
  | _, _, _, _, _, _, _, _, .mk inside₁, .mk inside₂ => by
      obtain ⟨rfl, rfl, rfl⟩ := inside₁.unique inside₂
      exact ⟨rfl, rfl, rfl⟩

theorem StmtRule.unique : ∀ {w : Names} {A₁ A₂ : Arena} {s s₁ s₂ : Stmt} {es₁ es₂ : List Event},
    StmtRule w s s₁ A₁ es₁ → StmtRule w s s₂ A₂ es₂ → s₁ = s₂ ∧ A₁ = A₂ ∧ es₁ = es₂
  | _, _, _, _, _, _, _, _, .simple _ expr₁, .simple _ expr₂ => by
      obtain ⟨rfl, rfl⟩ := expr₁.unique expr₂
      exact ⟨rfl, rfl, rfl⟩
  | _, _, _, _, _, _, _, _, .guarded _ expr₁ branch₁, .guarded _ expr₂ branch₂ => by
      obtain ⟨rfl, rfl⟩ := expr₁.unique expr₂
      obtain ⟨rfl, rfl, rfl⟩ := branch₁.unique branch₂
      exact ⟨rfl, rfl, rfl⟩
  | _, _, _, _, _, _, _, _, .ifElse expr₁ first₁ second₁, .ifElse expr₂ first₂ second₂ => by
      obtain ⟨rfl, rfl⟩ := expr₁.unique expr₂
      obtain ⟨rfl, rfl, rfl⟩ := first₁.unique first₂
      obtain ⟨rfl, rfl, rfl⟩ := second₁.unique second₂
      exact ⟨rfl, rfl, rfl⟩
  | _, _, _, _, _, _, _, _, .leave _, .leave _ => ⟨rfl, rfl, rfl⟩
  | _, _, _, _, _, _, _, _, .ret _ expr₁, .ret _ expr₂ => by
      obtain ⟨rfl, rfl⟩ := expr₁.unique expr₂
      exact ⟨rfl, rfl, rfl⟩

theorem StmtsRule.unique : ∀ {w : Names} {A₁ A₂ : Arena} {ss ss₁ ss₂ : List Stmt}
    {es₁ es₂ : List Event}, StmtsRule w ss ss₁ A₁ es₁ → StmtsRule w ss ss₂ A₂ es₂ →
    ss₁ = ss₂ ∧ A₁ = A₂ ∧ es₁ = es₂
  | _, _, _, _, _, _, _, _, .nil, .nil => ⟨rfl, rfl, rfl⟩
  | _, _, _, _, _, _, _, _, .cons first₁ rest₁, .cons first₂ rest₂ => by
      obtain ⟨rfl, rfl, rfl⟩ := first₁.unique first₂
      obtain ⟨rfl, rfl, rfl⟩ := rest₁.unique rest₂
      exact ⟨rfl, rfl, rfl⟩

end

/-! ## Functions, structs and programs -/

lemma ReturnRule.unique {ret ret₁ ret₂ : TypeName} {ty₁ ty₂ : Ty} {es₁ es₂ : List Event}
    (h₁ : ReturnRule w ret ret₁ ty₁ es₁) (h₂ : ReturnRule w ret ret₂ ty₂ es₂) :
    ret₁ = ret₂ ∧ ty₁ = ty₂ ∧ es₁ = es₂ := by
  cases h₁ with
  | plain type =>
      cases h₂ with
      | plain type' => exact ⟨rfl, rfl, rfl⟩
      | struct type' => exact absurd rfl (type _)
  | struct type =>
      cases h₂ with
      | plain type' => exact absurd rfl (type' _)
      | struct type' =>
          obtain ⟨rfl, rfl, rfl⟩ := type.unique type'
          exact ⟨rfl, rfl, rfl⟩

lemma HeadRule.unique {id id₁ id₂ : Ident} {params : List Ty} {ret : Ty} {w₁ w₂ : Names}
    {es₁ es₂ : List Event} (h₁ : HeadRule w id params ret id₁ w₁ es₁)
    (h₂ : HeadRule w id params ret id₂ w₂ es₂) : id₁ = id₂ ∧ w₁ = w₂ ∧ es₁ = es₂ := by
  cases h₁ with
  | taken known =>
      cases h₂ with
      | taken known' => exact ⟨rfl, rfl, rfl⟩
      | declared room scope => cases known.symm.trans (ScopeStack.local?_of_declare scope)
  | declared room scope =>
      cases h₂ with
      | taken known => cases known.symm.trans (ScopeStack.local?_of_declare scope)
      | declared room' scope' =>
          obtain rfl := Except.ok.inj (scope.symm.trans scope')
          exact ⟨rfl, rfl, rfl⟩

lemma FnRule.unique {f f₁ f₂ : FnDecl} {w₁ w₂ : Names} {es₁ es₂ : List Event}
    (h₁ : FnRule w f f₁ w₁ es₁) (h₂ : FnRule w f f₂ w₂ es₂) : f₁ = f₂ ∧ w₁ = w₂ ∧ es₁ = es₂ := by
  cases h₁ with
  | mk type head params inside =>
      cases h₂ with
      | mk type' head' params' inside' =>
          obtain ⟨rfl, rfl, rfl⟩ := type.unique type'
          obtain ⟨rfl, rfl, rfl⟩ := head.unique head'
          obtain ⟨rfl, rfl, rfl⟩ := params.unique params'
          obtain ⟨rfl, rfl, rfl⟩ := inside.unique inside'
          exact ⟨rfl, rfl, rfl⟩

lemma StructRule.unique {s s₁ s₂ : StructDecl} {w₁ w₂ : Names} {es₁ es₂ : List Event}
    (h₁ : StructRule w s s₁ w₁ es₁) (h₂ : StructRule w s s₂ w₂ es₂) :
    s₁ = s₂ ∧ w₁ = w₂ ∧ es₁ = es₂ := by
  cases h₁ with
  | taken known all =>
      cases h₂ with
      | taken known' all' =>
          obtain ⟨rfl, rfl, rfl⟩ := all.unique all'
          exact ⟨rfl, rfl, rfl⟩
      | declared all' room scope => cases known.symm.trans (ScopeStack.local?_of_declare scope)
  | declared all room scope =>
      cases h₂ with
      | taken known all' => cases known.symm.trans (ScopeStack.local?_of_declare scope)
      | declared all' room' scope' =>
          obtain ⟨rfl, rfl, rfl⟩ := all.unique all'
          obtain rfl := Except.ok.inj (scope.symm.trans scope')
          exact ⟨rfl, rfl, rfl⟩

lemma DeclRule.unique {d d₁ d₂ : Decl} {w₁ w₂ : Names} {es₁ es₂ : List Event}
    (h₁ : DeclRule w d d₁ w₁ es₁) (h₂ : DeclRule w d d₂ w₂ es₂) :
    d₁ = d₂ ∧ w₁ = w₂ ∧ es₁ = es₂ := by
  cases h₁ with
  | var rule =>
      cases h₂ with
      | var rule' =>
          obtain ⟨rfl, rfl, rfl⟩ := rule.unique rule'
          exact ⟨rfl, rfl, rfl⟩
  | fn rule =>
      cases h₂ with
      | fn rule' =>
          obtain ⟨rfl, rfl, rfl⟩ := rule.unique rule'
          exact ⟨rfl, rfl, rfl⟩
  | struct rule =>
      cases h₂ with
      | struct rule' =>
          obtain ⟨rfl, rfl, rfl⟩ := rule.unique rule'
          exact ⟨rfl, rfl, rfl⟩

/-- **The rules leave no choice.**  Tree, names and events after the declarations of a program
follow from the declarations and the names before them. -/
theorem DeclsRule.unique {ds ds₁ ds₂ : List Decl} {w₁ w₂ : Names} {es₁ es₂ : List Event}
    (h₁ : DeclsRule w ds ds₁ w₁ es₁) (h₂ : DeclsRule w ds ds₂ w₂ es₂) :
    ds₁ = ds₂ ∧ w₁ = w₂ ∧ es₁ = es₂ := by
  induction h₁ generalizing ds₂ es₂ with
  | nil => cases h₂; exact ⟨rfl, rfl, rfl⟩
  | cons first rest ih =>
      cases h₂ with
      | cons first' rest' =>
          obtain ⟨rfl, rfl, rfl⟩ := first.unique first'
          obtain ⟨rfl, rfl, rfl⟩ := ih rest'
          exact ⟨rfl, rfl, rfl⟩

/-! ### Programs in parts -/

lemma DeclsRule.append {w₁ w₂ : Names} {ds ds' es es' : List Decl} {fs gs : List Event}
    (first : DeclsRule w ds ds' w₁ fs) (rest : DeclsRule w₁ es es' w₂ gs) :
    DeclsRule w (ds ++ es) (ds' ++ es') w₂ (fs ++ gs) := by
  induction first with
  | nil => exact rest
  | cons head _ ih =>
      rw [List.append_assoc]
      exact .cons head (ih rest)

/-- Declarations are resolved without a look at those that follow. -/
lemma DeclsRule.append_inv {w₂ : Names} {ds es all : List Decl} {hs : List Event}
    (rule : DeclsRule w (ds ++ es) all w₂ hs) :
    ∃ ds' es' w₁ fs gs, DeclsRule w ds ds' w₁ fs ∧ DeclsRule w₁ es es' w₂ gs ∧
      all = ds' ++ es' ∧ hs = fs ++ gs := by
  induction ds generalizing w all hs with
  | nil => exact ⟨[], all, w, [], hs, .nil, rule, rfl, rfl⟩
  | cons d ds ih =>
      cases rule with
      | cons first rest =>
          obtain ⟨ds', es', w₁, fs, gs, hds, hes, rfl, rfl⟩ := ih rest
          exact ⟨_, es', w₁, _, gs, .cons first hds, hes, rfl, (List.append_assoc _ _ _).symm⟩

/-- One of the declarations, and those around it. -/
lemma DeclsRule.middle_inv {w₃ : Names} {pre rest all : List Decl} {d : Decl} {es : List Event}
    (rule : DeclsRule w (pre ++ d :: rest) all w₃ es) :
    ∃ pre' d' rest' w₁ w₂ fs gs hs, DeclsRule w pre pre' w₁ fs ∧ DeclRule w₁ d d' w₂ gs ∧
      DeclsRule w₂ rest rest' w₃ hs ∧ all = pre' ++ d' :: rest' := by
  obtain ⟨pre', later, w₁, fs, gs, first, rest, rfl, -⟩ := rule.append_inv
  cases rest with
  | cons head rest => exact ⟨pre', _, _, w₁, _, fs, _, _, first, head, rest, rfl⟩

lemma DeclsRule.length_eq {w' : Names} {ds ds' : List Decl} {es : List Event}
    (rule : DeclsRule w ds ds' w' es) : ds'.length = ds.length := by
  induction rule with
  | nil => rfl
  | cons _ _ ih => rw [List.length_cons, List.length_cons, ih]

end Naming

end StructLang
