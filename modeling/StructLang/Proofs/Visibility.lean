import Mathlib.Data.List.Forall2
import Mathlib.Tactic.Common
import StructLang.Proofs.Adequacy
import StructLang.Proofs.Parts
import StructLang.Tree.Build

/-!
# Name resolution is lexical scoping

What a name means, said without a table: by the place of the name in the tree and the declarations
before it.

* `Context` — the declarations that precede a place, one list for each scope around it.
* `Context.Means` — a name means the bound declaration of the innermost scope that has one of that
  name.  A declaration that was rejected is not bound, and hides nothing.
* `Program.occurrences` — all places at which a name is used, as a value or as a struct type, with
  their contexts.

The traversal opens, fills and closes a table instead.  `Context.Fits` ties the table to the context
at each place of the tree, and `resolution_is_lexical` draws the conclusion for all of them.
-/

namespace StructLang

/-! ## Contexts -/

/-- A declaration: its identifier, and whether it defines a struct type. -/
structure Declared where
  id : Ident
  isStruct : Bool

/-- The declarations before a place in each scope around it, the innermost scope first. -/
abbrev Context := List (List Declared)

namespace Context

/-- The context after one more declaration in the innermost scope. -/
def declare (ctx : Context) (d : Declared) : Context :=
  match ctx with
  | [] => []
  | scope :: outer => (d :: scope) :: outer

/-- The name means the declaration. -/
inductive Means : Context → String → Declared → Prop
  | here {scope : List Declared} {outer : Context} {name : String} {d : Declared}
      (mem : d ∈ scope) (named : d.id.name = name) (bound : d.id.symbol?.isSome = true) :
      Means (scope :: outer) name d
  | outer {scope : List Declared} {outer : Context} {name : String} {d : Declared}
      (none : ∀ d ∈ scope, d.id.name = name → d.id.symbol? = none)
      (means : Means outer name d) :
      Means (scope :: outer) name d

/-- A name means something as soon as some scope has a bound declaration of it. -/
lemma exists_means_iff (ctx : Context) (name : String) :
    (∃ d, ctx.Means name d) ↔
      ∃ scope ∈ ctx, ∃ d ∈ scope, d.id.name = name ∧ d.id.symbol?.isSome = true := by
  constructor
  · rintro ⟨d, hmeans⟩
    induction hmeans with
    | here mem named bound => exact ⟨_, List.mem_cons_self, _, mem, named, bound⟩
    | outer none means ih =>
        obtain ⟨scope, hscope, hd⟩ := ih
        exact ⟨scope, List.mem_cons_of_mem _ hscope, hd⟩
  · rintro ⟨scope, hscope, d, hd, hname, hbound⟩
    induction ctx with
    | nil => cases hscope
    | cons inner outer ih =>
        by_cases hinner : ∃ d ∈ inner, d.id.name = name ∧ d.id.symbol?.isSome = true
        · obtain ⟨d', hd', hname', hbound'⟩ := hinner
          exact ⟨d', .here hd' hname' hbound'⟩
        · have hnone : ∀ d ∈ inner, d.id.name = name → d.id.symbol? = none := by
            intro d' hd' hname'
            by_contra hsome
            exact hinner ⟨d', hd', hname', Option.isSome_iff_ne_none.2 hsome⟩
          rcases List.mem_cons.1 hscope with rfl | hscope
          · exact absurd ⟨d, hd, hname, hbound⟩ hinner
          · obtain ⟨d', hmeans⟩ := ih hscope
            exact ⟨d', .outer hnone hmeans⟩

end Context

/-! ## Occurrences -/

/-- How a name is used. -/
inductive Role where
  /-- As a plain identifier or a callee. -/
  | value
  /-- As the struct type of a variable, formal or field, or of what a function returns. -/
  | type
  deriving DecidableEq

/-- A name in use, and the context of the place where it stands. -/
structure Occurrence where
  ctx : Context
  role : Role
  id : Ident

/-- The plain identifier or the callee of an expression. -/
def Expr.value? : Expr → Option Ident
  | .name id _ => some id
  | .call callee _ _ => some callee
  | _ => none

/-- The names that are used in expressions, all in the same context. -/
def valuesIn (ctx : Context) (es : List Expr) : List Occurrence :=
  (es.filterMap Expr.value?).map (⟨ctx, .value, ·⟩)

/-- The struct types that a type consists of. -/
def TypeName.occurrences (ctx : Context) (ty : TypeName) : List Occurrence :=
  ty.idents.map (⟨ctx, .type, ·⟩)

def VarDecl.declared (d : VarDecl) : Declared := ⟨d.id, false⟩

/-- The struct types of declarations in one scope, each in the context of those before it. -/
def VarDecl.occurrencesOfAll : Context → List VarDecl → List Occurrence
  | _, [] => []
  | ctx, d :: ds => d.ty.occurrences ctx ++ VarDecl.occurrencesOfAll (ctx.declare d.declared) ds

/-- The context after the declarations of a scope. -/
def Context.declareAll (ctx : Context) (ds : List VarDecl) : Context :=
  ds.foldl (fun ctx d => ctx.declare d.declared) ctx

mutual

/-- The names in a block whose scope is open already. -/
def Block.occurrences (ctx : Context) : Block → List Occurrence
  | .mk decls stmts =>
    VarDecl.occurrencesOfAll ctx decls ++ Stmt.occurrencesOfAll (ctx.declareAll decls) stmts

/-- The names in a statement; each of its blocks has a scope of its own. -/
def Stmt.occurrences (ctx : Context) : Stmt → List Occurrence
  | .simple _ e => valuesIn ctx e.exprs
  | .guarded _ cond body => valuesIn ctx cond.exprs ++ body.occurrences ([] :: ctx)
  | .ifElse cond yes no =>
    valuesIn ctx cond.exprs ++ yes.occurrences ([] :: ctx) ++ no.occurrences ([] :: ctx)
  | .ret none _ => []
  | .ret (some value) _ => valuesIn ctx value.exprs

/-- The names in statements, all in the same context. -/
def Stmt.occurrencesOfAll (ctx : Context) : List Stmt → List Occurrence
  | [] => []
  | s :: ss => s.occurrences ctx ++ Stmt.occurrencesOfAll ctx ss

end

/-- What a declaration of the program declares. -/
def Decl.declared : Decl → Declared
  | .var d => d.declared
  | .fn f => ⟨f.id, false⟩
  | .struct s => ⟨s.id, true⟩

/-- The names in a declaration of the program.  A function is declared before its formals, and
shares one scope between them and the declarations of its body; all fields of a struct are in the
context of the struct. -/
def Decl.occurrences (ctx : Context) : Decl → List Occurrence
  | .var d => d.ty.occurrences ctx
  | .fn f =>
    let inner : Context := [] :: ctx.declare ⟨f.id, false⟩
    f.ret.occurrences ctx ++ VarDecl.occurrencesOfAll inner f.formals ++
      f.body.occurrences (inner.declareAll f.formals)
  | .struct s => s.fields.flatMap fun d => d.ty.occurrences ctx

/-- The names in the declarations of the program, each in the context of those before it. -/
def Decl.occurrencesOfAll : Context → List Decl → List Occurrence
  | _, [] => []
  | ctx, d :: ds => d.occurrences ctx ++ Decl.occurrencesOfAll (ctx.declare d.declared) ds

/-- All names in use. -/
def Program.occurrences (p : Program) : List Occurrence := Decl.occurrencesOfAll [[]] p.decls

/-! ## The law -/

/-- A name that is used as a value is bound as soon as there is something to mean, to the handle of
what it means, and the symbol is called by the name. -/
structure ValueLaw (A : Arena) (ctx : Context) (id : Ident) : Prop where
  bound_iff : id.symbol?.isSome = true ↔
    ∃ scope ∈ ctx, ∃ d ∈ scope, d.id.name = id.name ∧ d.id.symbol?.isSome = true
  means_iff : ∀ h, id.symbol? = some h ↔ ∃ d, ctx.Means id.name d ∧ d.id.symbol? = some h
  symbol : ∀ h, id.symbol? = some h → ∃ symbol, A.get h = .ok symbol ∧ symbol.name = id.name

/-- A name that is used as a struct type is bound exactly if what it means is a struct, to the
handle of the struct. -/
structure TypeLaw (A : Arena) (ctx : Context) (id : Ident) : Prop where
  means_iff : ∀ h, id.symbol? = some h ↔
    ∃ d, ctx.Means id.name d ∧ d.isStruct = true ∧ d.id.symbol? = some h
  symbol : ∀ h, id.symbol? = some h →
    ∃ symbol, A.get h = .ok symbol ∧ symbol.name = id.name ∧ symbol.isStructDef = true

/-- The law for the role of the occurrence. -/
def Occurrence.Lawful (A : Arena) (o : Occurrence) : Prop :=
  match o.role with
  | .value => ValueLaw A o.ctx o.id
  | .type => TypeLaw A o.ctx o.id

/-! ## The table fits the context -/

/-- The scope has the bound declarations of the list, under their names and handles. -/
structure ScopeFits (A : Arena) (scope : Scope) (ds : List Declared) : Prop where
  find_iff : ∀ name h, scope.find? name = some h ↔
    ∃ d ∈ ds, d.id.name = name ∧ d.id.symbol? = some h
  kind : ∀ d ∈ ds, ∀ h, d.id.symbol? = some h →
    ∃ symbol, A.get h = .ok symbol ∧ symbol.isStructDef = d.isStruct

/-- The open scopes have what the context says. -/
def Context.Fits (ctx : Context) (A : Arena) (table : ScopeStack) : Prop :=
  List.Forall₂ (ScopeFits A) table.scopes ctx

section

variable {A B : Arena} {scope : Scope} {ds : List Declared} {ctx : Context} {table : ScopeStack}

lemma ScopeFits.empty : ScopeFits A .empty [] where
  find_iff name h := by simp
  kind _ hd := by cases hd

lemma ScopeFits.grows (hfits : ScopeFits A scope ds) (hgrows : A.Grows B) :
    ScopeFits B scope ds where
  find_iff := hfits.find_iff
  kind d hd h hsymbol := by
    obtain ⟨symbol, hg, hkind⟩ := hfits.kind d hd h hsymbol
    exact ⟨symbol, hgrows h symbol hg, hkind⟩

/-- A declaration that is not bound makes no difference. -/
lemma ScopeFits.skip (hfits : ScopeFits A scope ds) {d : Declared} (hd : d.id.symbol? = none) :
    ScopeFits A scope (d :: ds) where
  find_iff name h := by
    rw [hfits.find_iff]
    simp [or_and_right, exists_or, hd]
  kind d' hd' h hsymbol := by
    rcases List.mem_cons.1 hd' with rfl | hd'
    · rw [hd] at hsymbol; cases hsymbol
    · exact hfits.kind d' hd' h hsymbol

lemma ScopeFits.insert (hfits : ScopeFits A scope ds) {id : Ident} {h : SymbolId} {symbol : Symbol}
    (new : id.name ∉ scope.names) (hg : A.get h = .ok symbol) :
    ScopeFits A (scope.insert id.name h new) (⟨id.bindTo h, symbol.isStructDef⟩ :: ds) where
  find_iff name k := by
    simp only [Scope.find?_insert, List.mem_cons, or_and_right, exists_or, exists_eq_left,
      ← hfits.find_iff, Ident.name_bindTo, Ident.symbol?_bindTo]
    by_cases hname : name = id.name
    · subst hname
      have hnone := (scope.find?_eq_none_iff id.name).2 new
      simp [hnone]
    · simp [hname, Ne.symm hname]
  kind d hd k hsymbol := by
    rcases List.mem_cons.1 hd with rfl | hd
    · obtain rfl := Option.some.inj hsymbol
      exact ⟨symbol, hg, rfl⟩
    · exact hfits.kind d hd k hsymbol

namespace Context

lemma Fits.grows (hfits : ctx.Fits A table) (hgrows : A.Grows B) : ctx.Fits B table :=
  List.Forall₂.imp (fun _ _ h => h.grows hgrows) hfits

lemma Fits.push (hfits : ctx.Fits A table) : Fits ([] :: ctx) A table.push :=
  .cons .empty hfits

lemma Fits.skip (hfits : ctx.Fits A table) {d : Declared} (hd : d.id.symbol? = none) :
    (ctx.declare d).Fits A table := by
  obtain ⟨scopes⟩ := table
  cases hfits with
  | nil => exact .nil
  | cons hscope houter => exact .cons (hscope.skip hd) houter

lemma Fits.introduce (hfits : ctx.Fits A table) {id : Ident} {target : ScopeStack}
    (room : A.size < UInt32.size) (hd : table.declare id.name A.nextId = .ok target)
    (kind : Symbol.Kind) :
    (ctx.declare ⟨id.bindTo A.nextId, Symbol.isStructDef { name := id.name, kind }⟩).Fits
      (A.push { name := id.name, kind } room) target := by
  obtain ⟨scope, outer, new, hs, ht⟩ := ScopeStack.scopes_of_declare hd
  have hgrown := hfits.grows (A.grows_push { name := id.name, kind } room)
  unfold Fits at hgrown ⊢
  rw [hs] at hgrown
  rw [ht]
  cases hgrown with
  | cons hscope houter =>
      exact .cons (hscope.insert new (Arena.get_nextId_push _ room)) houter

/-- What the table finds is what the name means. -/
lemma Fits.find_iff (hfits : ctx.Fits A table) (name : String) (h : SymbolId) :
    table.find? name = some h ↔ ∃ d, ctx.Means name d ∧ d.id.symbol? = some h := by
  obtain ⟨scopes⟩ := table
  unfold Fits at hfits
  unfold ScopeStack.find?
  dsimp only at hfits ⊢
  induction hfits with
  | nil =>
      constructor
      · intro hfind; cases hfind
      · rintro ⟨d, hmeans, -⟩; cases hmeans
  | @cons scope ds scopes ctx hscope houter ih =>
      rw [List.findSome?_cons]
      cases hfind : scope.find? name with
      | some k =>
          obtain ⟨d, hd, hname, hsymbol⟩ := (hscope.find_iff name k).1 hfind
          constructor
          · intro hk
            obtain rfl := Option.some.inj hk
            exact ⟨d, .here hd hname (by rw [hsymbol]; rfl), hsymbol⟩
          · rintro ⟨d', hmeans, hsymbol'⟩
            cases hmeans with
            | here mem named bound =>
                exact hfind.symm.trans ((hscope.find_iff name h).2 ⟨d', mem, named, hsymbol'⟩)
            | outer none means => rw [none d hd hname] at hsymbol; cases hsymbol
      | none =>
          rw [ih]
          constructor
          · rintro ⟨d, hmeans, hsymbol⟩
            refine ⟨d, .outer (fun d' hd' hname => ?_) hmeans, hsymbol⟩
            cases hsymbol' : d'.id.symbol? with
            | none => rfl
            | some k =>
                have hsome := (hscope.find_iff name k).2 ⟨d', hd', hname, hsymbol'⟩
                rw [hfind] at hsome
                cases hsome
          · rintro ⟨d, hmeans, hsymbol⟩
            cases hmeans with
            | here mem named bound =>
                have hsome := (hscope.find_iff name h).2 ⟨d, mem, named, hsymbol⟩
                rw [hfind] at hsome
                cases hsome
            | outer none means => exact ⟨d, means, hsymbol⟩

/-- What a name means is of the kind that its declaration says. -/
lemma Fits.kind (hfits : ctx.Fits A table) {name : String} {d : Declared} {h : SymbolId}
    (hmeans : ctx.Means name d) (hsymbol : d.id.symbol? = some h) :
    ∃ symbol, A.get h = .ok symbol ∧ symbol.isStructDef = d.isStruct := by
  obtain ⟨scopes⟩ := table
  unfold Fits at hfits
  dsimp only at hfits
  induction hmeans generalizing scopes with
  | here mem named bound =>
      cases hfits with
      | cons hscope houter => exact hscope.kind _ mem h hsymbol
  | outer none means ih =>
      cases hfits with
      | cons hscope houter => exact ih hsymbol _ houter

end Context

end

/-! ## Every rule obeys the law -/

lemma Context.Means.bound {ctx : Context} {name : String} {d : Declared}
    (h : ctx.Means name d) : ∃ k, d.id.symbol? = some k := by
  induction h with
  | here mem named bound => exact Option.isSome_iff_exists.1 bound
  | outer none means ih => exact ih

/-- All occurrences obey the law for their roles. -/
def AllLawful (A : Arena) (os : List Occurrence) : Prop := ∀ o ∈ os, o.Lawful A

lemma AllLawful.nil {A : Arena} : AllLawful A [] := nofun

lemma AllLawful.append {A : Arena} {os ps : List Occurrence} (hos : AllLawful A os)
    (hps : AllLawful A ps) : AllLawful A (os ++ ps) := by
  intro o ho
  rcases List.mem_append.1 ho with ho | ho
  · exact hos o ho
  · exact hps o ho

lemma allLawful_valuesIn {A : Arena} {ctx : Context} {es : List Expr}
    (h : ∀ e ∈ es, ∀ id, e.value? = some id → ValueLaw A ctx id) :
    AllLawful A (valuesIn ctx es) := by
  intro o ho
  obtain ⟨id, hid, rfl⟩ := List.mem_map.1 ho
  obtain ⟨e, he, hvalue⟩ := List.mem_filterMap.1 hid
  exact h e he id hvalue

namespace Naming

variable {base : Nat} {B : Arena} {ctx : Context}

/-! ### Names -/

lemma UseRule.lawful {w : Names} {id id' : Ident} {es : List Event} (rule : UseRule w id id' es)
    (hw : w.Sound base) (hfits : ctx.Fits w.symbols w.table) (hgrows : w.symbols.Grows B)
    (hfree : id.symbol? = none) : ValueLaw B ctx id' := by
  have hname : id'.name = id.name := by cases rule <;> rfl
  have hfind : ∀ h, id'.symbol? = some h ↔ w.table.find? id.name = some h := by
    intro h
    cases rule with
    | bound found => rw [found, Ident.symbol?_bindTo]
    | undeclared missing => rw [missing, hfree]
  have hmeans : ∀ h, id'.symbol? = some h ↔ ∃ d, ctx.Means id'.name d ∧ d.id.symbol? = some h := by
    intro h
    rw [hfind, hfits.find_iff, hname]
  refine ⟨?_, hmeans, fun h hid => ?_⟩
  · rw [← Context.exists_means_iff, Option.isSome_iff_exists]
    constructor
    · rintro ⟨h, hid⟩
      obtain ⟨d, hd, -⟩ := (hmeans h).1 hid
      exact ⟨d, hd⟩
    · rintro ⟨d, hd⟩
      obtain ⟨h, hsymbol⟩ := hd.bound
      exact ⟨h, (hmeans h).2 ⟨d, hd, hsymbol⟩⟩
  · obtain ⟨-, symbol, hg, hsymbol⟩ :=
      hw.named _ _ (ScopeStack.binds_of_find? ((hfind h).1 hid))
    exact ⟨symbol, hgrows h symbol hg, hsymbol.trans hname.symm⟩

lemma StructNameRule.lawful {A : Arena} {types : ScopeStack} {name name' : Ident}
    {defn : Option SymbolId} {es : List Event} (rule : StructNameRule A types name name' defn es)
    (hw : Names.Sound base ⟨A, types⟩) (hfits : ctx.Fits A types) (hgrows : A.Grows B)
    (hfree : name.symbol? = none) : TypeLaw B ctx name' := by
  have hfind : ∀ h, name'.symbol? = some h ↔ types.find? name.name = some h ∧
      ∃ d, A.get h = .ok d ∧ d.isStructDef = true := by
    intro h
    cases rule with
    | @means k d found symbol struct =>
        rw [found, Ident.symbol?_bindTo]
        refine ⟨fun hk => ⟨hk, ?_⟩, And.left⟩
        obtain rfl := Option.some.inj hk
        exact ⟨d, symbol, struct⟩
    | invalid wrong =>
        rw [hfree]
        refine ⟨nofun, fun ⟨found, d, hd, hdef⟩ => ?_⟩
        obtain ⟨d', hd', hdef'⟩ := wrong h found
        obtain rfl := Except.ok.inj (hd.symm.trans hd')
        rw [hdef] at hdef'
        cases hdef'
  refine ⟨fun h => ?_, fun h hid => ?_⟩
  · rw [hfind, hfits.find_iff, rule.name_eq]
    constructor
    · rintro ⟨⟨d, hmeans, hsymbol⟩, symbol, hg, hdef⟩
      obtain ⟨symbol', hg', hkind⟩ := hfits.kind hmeans hsymbol
      obtain rfl := Except.ok.inj (hg.symm.trans hg')
      exact ⟨d, hmeans, hkind.symm.trans hdef, hsymbol⟩
    · rintro ⟨d, hmeans, hstruct, hsymbol⟩
      obtain ⟨symbol, hg, hkind⟩ := hfits.kind hmeans hsymbol
      exact ⟨⟨d, hmeans, hsymbol⟩, symbol, hg, hkind.trans hstruct⟩
  · obtain ⟨found, d, hd, hdef⟩ := (hfind h).1 hid
    obtain ⟨-, symbol, hg, hname⟩ := hw.named _ _ (ScopeStack.binds_of_find? found)
    obtain rfl := Except.ok.inj (hd.symm.trans hg)
    exact ⟨d, hgrows h d hd, hname.trans rule.name_eq.symm, hdef⟩

lemma ExprRule.valuesIn_lawful {w : Names} {e e' : Expr} {es : List Event}
    (rule : ExprRule w e e' es) (hw : w.Sound base) (hfits : ctx.Fits w.symbols w.table)
    (hgrows : w.symbols.Grows B) (hfree : ∀ id ∈ e.idents, id.symbol? = none) :
    AllLawful B (valuesIn ctx e'.exprs) := by
  have hroot : ∀ {e e' : Expr} {es : List Event}, ExprRule w e e' es →
      (∀ x ∈ e.exprs, ∀ id, x.ident? = some id → id.symbol? = none) →
        Only (fun _ => True) es → ∀ id, e'.value? = some id → ValueLaw B ctx id := by
    intro e e' es rule hblank _ id hid
    cases rule with
    | name note use =>
        obtain rfl := Option.some.inj hid
        exact use.lawful hw hfits hgrows (hblank _ List.mem_cons_self _ rfl)
    | call note use all =>
        obtain rfl := Option.some.inj hid
        exact use.lawful hw hfits hgrows (hblank _ List.mem_cons_self _ rfl)
    | _ => cases hid
  refine allLawful_valuesIn (rule.parts hroot (fun x hx id hid => ?_) fun _ _ => trivial)
  exact hfree id (List.mem_filterMap.2 ⟨x, hx, hid⟩)

/-! ### Declarations -/

lemma KindRule.lawful {A : Arena} {types : ScopeStack} {owner : Ident} {ty ty' : TypeName}
    {kind : Option Symbol.Kind} {es : List Event} (rule : KindRule A types owner ty ty' kind es)
    (hw : Names.Sound base ⟨A, types⟩) (hfits : ctx.Fits A types) (hgrows : A.Grows B)
    (hfree : ∀ id ∈ ty.idents, id.symbol? = none) : AllLawful B (ty'.occurrences ctx) := by
  cases rule with
  | struct type =>
      intro o ho
      obtain rfl := List.mem_singleton.1 ho
      exact type.lawful hw hfits hgrows (hfree _ List.mem_cons_self)
  | _ => exact .nil

/-- The declarations of a variable and of a struct variable are none of a struct. -/
lemma KindRule.isStructDef {A : Arena} {types : ScopeStack} {owner : Ident} {ty ty' : TypeName}
    {kind : Symbol.Kind} {es : List Event} (rule : KindRule A types owner ty ty' (some kind) es)
    (name : String) : Symbol.isStructDef { name, kind } = false := by
  generalize hkind : some kind = kind? at rule
  cases rule with
  | int => obtain rfl := Option.some.inj hkind; rfl
  | bool => obtain rfl := Option.some.inj hkind; rfl
  | void => cases hkind
  | @struct _ _ defn _ type =>
      cases defn with
      | none => cases hkind
      | some h => obtain rfl := Option.some.inj hkind; rfl

lemma DeclareRule.type {types : ScopeStack → ScopeStack} {w w' : Names} {d d' : VarDecl}
    {es : List Event} (rule : DeclareRule types w d d' w' es) :
    ∃ kind fs, KindRule w.symbols (types w.table) d.id d.ty d'.ty kind fs := by
  cases rule with
  | taken type known => exact ⟨_, _, type⟩
  | rejected type free => exact ⟨_, _, type⟩
  | declared type room scope => exact ⟨_, _, type⟩

lemma DeclareRule.fits {types : ScopeStack → ScopeStack} {w w' : Names} {d d' : VarDecl}
    {es : List Event} (rule : DeclareRule types w d d' w' es)
    (hfits : ctx.Fits w.symbols w.table) (hfree : d.id.symbol? = none) :
    (ctx.declare d'.declared).Fits w'.symbols w'.table := by
  cases rule with
  | taken type known => exact hfits.skip hfree
  | rejected type free => exact hfits.skip hfree
  | @declared _ kind _ _ type room scope =>
      have hdeclared := hfits.introduce room scope kind
      rw [type.isStructDef] at hdeclared
      exact hdeclared

lemma free_of_flatMap {d : VarDecl} {ds : List VarDecl}
    (hfree : ∀ id ∈ (d :: ds).flatMap VarDecl.idents, id.symbol? = none) :
    (∀ id ∈ d.ty.idents, id.symbol? = none) ∧ d.id.symbol? = none ∧
      ∀ id ∈ ds.flatMap VarDecl.idents, id.symbol? = none := by
  rw [List.flatMap_cons] at hfree
  refine ⟨fun id hid => ?_, ?_, fun id hid => hfree id (List.mem_append_right _ hid)⟩
  · exact hfree id (List.mem_append_left _ (List.mem_append_left _ hid))
  · exact hfree d.id (List.mem_append_left _ (List.mem_append_right _ List.mem_cons_self))

/-- Formals and the declarations of a body. -/
lemma DeclaresRule.lawful {w w' : Names} {ds ds' : List VarDecl} {es : List Event}
    (rule : DeclaresRule id w ds ds' w' es) (hw : w.Sound base)
    (hfits : ctx.Fits w.symbols w.table) (hgrows : w'.symbols.Grows B)
    (hfree : ∀ id ∈ ds.flatMap VarDecl.idents, id.symbol? = none) :
    AllLawful B (VarDecl.occurrencesOfAll ctx ds') ∧
      (ctx.declareAll ds').Fits w'.symbols w'.table := by
  induction rule generalizing ctx with
  | nil => exact ⟨.nil, hfits⟩
  | cons first rest ih =>
      obtain ⟨hty, hid, hrest⟩ := free_of_flatMap hfree
      have hfirst := first.extends (soundTypes_id _) hw
      have hlast := rest.extends (soundTypes_id _) hfirst.sound
      obtain ⟨kind, fs, type⟩ := first.type
      obtain ⟨hlawful, hfits'⟩ := ih hfirst.sound (first.fits hfits hid) hgrows hrest
      exact ⟨.append (type.lawful hw hfits (hfirst.grows.trans (hlast.grows.trans hgrows)) hty)
        hlawful, hfits'⟩

/-- The fields of a struct, in the context of the struct. -/
lemma DeclaresRule.fields_lawful {types : ScopeStack} {w w' : Names} {ds ds' : List VarDecl}
    {es : List Event} (rule : DeclaresRule (fun _ => types) w ds ds' w' es) (hw : w.Sound base)
    (htypes : Names.Sound base ⟨w.symbols, types⟩) (hfits : ctx.Fits w.symbols types)
    (hgrows : w'.symbols.Grows B)
    (hfree : ∀ id ∈ ds.flatMap VarDecl.idents, id.symbol? = none) :
    AllLawful B (ds'.flatMap fun d => d.ty.occurrences ctx) := by
  induction rule with
  | nil => exact .nil
  | cons first rest ih =>
      obtain ⟨hty, -, hrest⟩ := free_of_flatMap hfree
      have hfirst := first.extends (soundTypes_const htypes) hw
      have htypes' := htypes.grows hfirst.grows hfirst.sound.arena
      have hlast := rest.extends (soundTypes_const htypes') hfirst.sound
      obtain ⟨kind, fs, type⟩ := first.type
      rw [List.flatMap_cons]
      exact .append (type.lawful htypes hfits (hfirst.grows.trans (hlast.grows.trans hgrows)) hty)
        (ih hfirst.sound htypes' (hfits.grows hfirst.grows) hgrows hrest)

/-! ### Blocks and statements -/

mutual

theorem BlockRule.lawful : ∀ {w w' : Names} {b b' : Block} {es : List Event} {ctx : Context},
    BlockRule w b b' w' es → w.Sound base → ctx.Fits w.symbols w.table → w'.symbols.Grows B →
      (∀ id ∈ b.idents, id.symbol? = none) → AllLawful B (b'.occurrences ctx)
  | _, _, _, _, _, _, .mk decls stmts, hw, hfits, hgrows, hfree => by
      have hdecls := decls.extends_here hw
      have hstmts := (stmts.extends hdecls.sound).grows.trans hgrows
      obtain ⟨hlawful, hfits'⟩ :=
        decls.lawful hw hfits hstmts fun id hid => hfree id (Block.mem_idents_decls hid)
      exact .append hlawful (stmts.lawful hdecls.sound hfits' hgrows
        fun id hid => hfree id (Block.mem_idents_stmts hid))

theorem BranchRule.lawful : ∀ {w : Names} {A : Arena} {b b' : Block} {es : List Event}
    {ctx : Context}, BranchRule w b b' A es → w.Sound base → ctx.Fits w.symbols w.table →
      A.Grows B → (∀ id ∈ b.idents, id.symbol? = none) → AllLawful B (b'.occurrences ([] :: ctx))
  | _, _, _, _, _, _, .mk inside, hw, hfits, hgrows, hfree =>
      inside.lawful hw.enter hfits.push hgrows hfree

theorem StmtRule.lawful : ∀ {w : Names} {A : Arena} {s s' : Stmt} {es : List Event}
    {ctx : Context}, StmtRule w s s' A es → w.Sound base → ctx.Fits w.symbols w.table →
      A.Grows B → (∀ id ∈ s.idents, id.symbol? = none) → AllLawful B (s'.occurrences ctx)
  | _, _, _, _, _, _, .simple _ expr, hw, hfits, hgrows, hfree =>
      expr.valuesIn_lawful hw hfits hgrows fun id hid => hfree id (by simp [hid])
  | _, _, _, _, _, _, .guarded _ expr branch, hw, hfits, hgrows, hfree => by
      have hbranch := branch.extends hw
      exact .append
        (expr.valuesIn_lawful hw hfits (hbranch.grows.trans hgrows)
          fun id hid => hfree id (by simp [hid]))
        (branch.lawful hw hfits hgrows fun id hid => hfree id (by simp [hid]))
  | _, _, _, _, _, _, .ifElse expr first second, hw, hfits, hgrows, hfree => by
      have hfirst := first.extends hw
      have hsecond := (second.extends hfirst.sound).grows.trans hgrows
      refine .append (.append ?_ ?_) ?_
      · exact expr.valuesIn_lawful hw hfits (hfirst.grows.trans hsecond)
          fun id hid => hfree id (by simp [hid])
      · exact first.lawful hw hfits hsecond fun id hid => hfree id (by simp [hid])
      · exact second.lawful hfirst.sound (hfits.grows hfirst.grows) hgrows
          fun id hid => hfree id (by simp [hid])
  | _, _, _, _, _, _, .leave _, _, _, _, _ => .nil
  | _, _, _, _, _, _, .ret _ expr, hw, hfits, hgrows, hfree =>
      expr.valuesIn_lawful hw hfits hgrows fun id hid => hfree id (by simp [hid])

theorem StmtsRule.lawful : ∀ {w : Names} {A : Arena} {ss ss' : List Stmt} {es : List Event}
    {ctx : Context}, StmtsRule w ss ss' A es → w.Sound base → ctx.Fits w.symbols w.table →
      A.Grows B → (∀ id ∈ Stmt.identsOfAll ss, id.symbol? = none) →
        AllLawful B (Stmt.occurrencesOfAll ctx ss')
  | _, _, _, _, _, _, .nil, _, _, _, _ => .nil
  | _, _, _, _, _, _, .cons first rest, hw, hfits, hgrows, hfree => by
      have hfirst := first.extends hw
      have hrest := (rest.extends hfirst.sound).grows.trans hgrows
      exact .append (first.lawful hw hfits hrest fun id hid => hfree id (by simp [hid]))
        (rest.lawful hfirst.sound (hfits.grows hfirst.grows) hgrows
          fun id hid => hfree id (by simp [hid]))

end

/-! ### Programs -/

lemma ReturnRule.lawful {w : Names} {ret ret' : TypeName} {ty : Ty} {es : List Event}
    (rule : ReturnRule w ret ret' ty es) (hw : w.Sound base)
    (hfits : ctx.Fits w.symbols w.table) (hgrows : w.symbols.Grows B)
    (hfree : ∀ id ∈ ret.idents, id.symbol? = none) : AllLawful B (ret'.occurrences ctx) := by
  cases rule with
  | plain type =>
      cases ret with
      | struct name => exact absurd rfl (type name)
      | _ => exact .nil
  | struct type =>
      intro o ho
      obtain rfl := List.mem_singleton.1 ho
      exact type.lawful hw hfits hgrows (hfree _ List.mem_cons_self)

lemma HeadRule.fits {w w' : Names} {id id' : Ident} {params : List Ty} {ret : Ty}
    {es : List Event} (rule : HeadRule w id params ret id' w' es)
    (hfits : ctx.Fits w.symbols w.table) (hfree : id.symbol? = none) :
    (ctx.declare ⟨id', false⟩).Fits w'.symbols w'.table := by
  cases rule with
  | taken known => exact hfits.skip hfree
  | declared room scope => exact hfits.introduce room scope (.fn params ret)

lemma DeclRule.lawful {w w' : Names} {d d' : Decl} {es : List Event} (rule : DeclRule w d d' w' es)
    (hw : w.Sound base) (hfits : ctx.Fits w.symbols w.table) (hgrows : w'.symbols.Grows B)
    (hfree : ∀ id ∈ d.idents, id.symbol? = none) :
    AllLawful B (d'.occurrences ctx) ∧ (ctx.declare d'.declared).Fits w'.symbols w'.table := by
  have hext := rule.extends hw
  cases rule with
  | var rule =>
      obtain ⟨kind, fs, type⟩ := rule.type
      exact ⟨type.lawful hw hfits (hext.grows.trans hgrows)
          fun id hid => hfree id (List.mem_append_left _ (List.mem_append_left _ hid)),
        rule.fits hfits (hfree _ (List.mem_append_left _
          (List.mem_append_right _ List.mem_cons_self)))⟩
  | fn rule =>
      cases rule with
      | mk type head params inside =>
          have hhead := head.extends_of_type type hw
          have hparams := params.extends_here hhead.sound.enter
          have hinside := inside.extends hparams.sound
          have hfits₁ := head.fits hfits (hfree _ Decl.mem_idents_fn)
          obtain ⟨hformals, hfits₂⟩ := params.lawful hhead.sound.enter hfits₁.push
            (hinside.grows.trans hgrows) fun id hid => hfree id (Decl.mem_idents_formals hid)
          refine ⟨.append (.append ?_ hformals) ?_, ?_⟩
          · exact type.lawful hw hfits (hext.grows.trans hgrows)
              fun id hid => hfree id (Decl.mem_idents_ret hid)
          · exact inside.lawful hparams.sound hfits₂ hgrows
              fun id hid => hfree id (Decl.mem_idents_body hid)
          · exact hfits₁.grows (hparams.grows.trans hinside.grows)
  | struct rule =>
      cases rule with
      | taken known all =>
          have haround := (all.extends_around hw).2
          exact ⟨all.fields_lawful hw.withScope hw hfits hgrows
              fun id hid => hfree id (Decl.mem_idents_fields hid),
            (hfits.grows haround.grows).skip (hfree _ Decl.mem_idents_struct)⟩
      | declared all room scope =>
          have haround := (all.extends_around hw).2
          exact ⟨all.fields_lawful hw.withScope hw hfits
              ((Arena.grows_push _ _ room).trans hgrows)
              fun id hid => hfree id (Decl.mem_idents_fields hid),
            (hfits.grows haround.grows).introduce room scope (.structDef _)⟩

lemma DeclsRule.lawful {w w' : Names} {ds ds' : List Decl} {es : List Event}
    (rule : DeclsRule w ds ds' w' es) (hw : w.Sound base) (hfits : ctx.Fits w.symbols w.table)
    (hgrows : w'.symbols.Grows B) (hfree : ∀ d ∈ ds, ∀ id ∈ d.idents, id.symbol? = none) :
    AllLawful B (Decl.occurrencesOfAll ctx ds') := by
  induction rule generalizing ctx with
  | nil => exact .nil
  | cons first rest ih =>
      have hfirst := first.extends hw
      have hrest := (rest.extends hfirst.sound).grows.trans hgrows
      obtain ⟨hlawful, hfits'⟩ := first.lawful hw hfits hrest (hfree _ List.mem_cons_self)
      exact .append hlawful (ih hfirst.sound hfits' hgrows
        fun d hd => hfree d (List.mem_cons_of_mem _ hd))

end Naming

/-! ## The names are those of the program -/

/-- What the source says of an occurrence. -/
def Occurrence.written (o : Occurrence) : Role × String × Location := (o.role, o.id.name, o.id.loc)

/-- The same names in the same places, whatever they are bound to. -/
def SameNames (os ps : List Occurrence) : Prop :=
  os.map Occurrence.written = ps.map Occurrence.written

lemma SameNames.append {os os' ps ps' : List Occurrence} (h : SameNames os os')
    (h' : SameNames ps ps') : SameNames (os ++ ps) (os' ++ ps') := by
  unfold SameNames at *
  rw [List.map_append, List.map_append, h, h']

lemma sameNames_valuesIn (ctx ctx' : Context) {ids ids' : List Ident}
    (h : ids'.map (fun id => (id.name, id.loc)) = ids.map fun id => (id.name, id.loc)) :
    SameNames (ids'.map (⟨ctx', .value, ·⟩)) (ids.map (⟨ctx, .value, ·⟩)) := by
  have hwritten : ∀ (ctx : Context) (ids : List Ident),
      (ids.map fun id => (⟨ctx, .value, id⟩ : Occurrence)).map Occurrence.written =
        (ids.map fun id => (id.name, id.loc)).map (Role.value, ·) := by
    intro ctx ids
    rw [List.map_map, List.map_map]
    rfl
  rw [SameNames, hwritten, hwritten, h]

namespace Naming

mutual

lemma ExprRule.values_eq {w : Names} : ∀ {e e' : Expr} {es : List Event}, ExprRule w e e' es →
    (e'.exprs.filterMap Expr.value?).map (fun id => (id.name, id.loc)) =
      (e.exprs.filterMap Expr.value?).map fun id => (id.name, id.loc)
  | _, _, _, .lit _ _ => rfl
  | _, _, _, .name _ use => by cases use <;> rfl
  | _, _, _, .dot _ first _ => first.values_eq
  | _, _, _, .assign _ left right => by
      have hleft := left.values_eq
      have hright := right.values_eq
      simp [Expr.exprs, Expr.value?, List.filterMap_cons, hleft, hright]
  | _, _, _, .call _ use all => by
      have hall := all.values_eq
      cases use <;> simp [Expr.exprs, Expr.value?, hall]
  | _, _, _, .unary _ _ inner => inner.values_eq
  | _, _, _, .binary _ _ first second => by
      have hfirst := first.values_eq
      have hsecond := second.values_eq
      simp [Expr.exprs, Expr.value?, List.filterMap_cons, hfirst, hsecond]

lemma ArgsRule.values_eq {w : Names} : ∀ {args args' : List Expr} {es : List Event},
    ArgsRule w args args' es →
      ((Expr.exprsOfAll args').filterMap Expr.value?).map (fun id => (id.name, id.loc)) =
        ((Expr.exprsOfAll args).filterMap Expr.value?).map fun id => (id.name, id.loc)
  | _, _, _, .nil => rfl
  | _, _, _, .cons first rest => by
      have hfirst := first.values_eq
      have hrest := rest.values_eq
      simp [Expr.exprsOfAll, hfirst, hrest]

end

lemma ExprRule.sameNames {w : Names} {e e' : Expr} {es : List Event} (rule : ExprRule w e e' es)
    (ctx ctx' : Context) : SameNames (valuesIn ctx' e'.exprs) (valuesIn ctx e.exprs) :=
  sameNames_valuesIn ctx ctx' rule.values_eq

lemma StructNameRule.sameNames {A : Arena} {types : ScopeStack} {name name' : Ident}
    {defn : Option SymbolId} {es : List Event} (rule : StructNameRule A types name name' defn es)
    (ctx ctx' : Context) :
    SameNames ((TypeName.struct name').occurrences ctx')
      ((TypeName.struct name).occurrences ctx) := by
  cases rule <;> rfl

lemma DeclareRule.sameNames {types : ScopeStack → ScopeStack} {w w' : Names} {d d' : VarDecl}
    {es : List Event} (rule : DeclareRule types w d d' w' es) (ctx ctx' : Context) :
    SameNames (d'.ty.occurrences ctx') (d.ty.occurrences ctx) := by
  obtain ⟨kind, fs, type⟩ := rule.type
  generalize d'.ty = ty' at type
  generalize d.ty = ty at type
  cases type with
  | struct type => exact type.sameNames ctx ctx'
  | _ => rfl

lemma DeclaresRule.sameNames {types : ScopeStack → ScopeStack} {w w' : Names}
    {ds ds' : List VarDecl} {es : List Event} (rule : DeclaresRule types w ds ds' w' es)
    (ctx ctx' : Context) :
    SameNames (VarDecl.occurrencesOfAll ctx' ds') (VarDecl.occurrencesOfAll ctx ds) := by
  induction rule generalizing ctx ctx' with
  | nil => rfl
  | cons first rest ih => exact (first.sameNames ctx ctx').append (ih _ _)

lemma DeclaresRule.fields_sameNames {types : ScopeStack → ScopeStack} {w w' : Names}
    {ds ds' : List VarDecl} {es : List Event} (rule : DeclaresRule types w ds ds' w' es)
    (ctx ctx' : Context) :
    SameNames (ds'.flatMap fun d => d.ty.occurrences ctx')
      (ds.flatMap fun d => d.ty.occurrences ctx) := by
  induction rule with
  | nil => rfl
  | cons first rest ih =>
      rw [List.flatMap_cons, List.flatMap_cons]
      exact (first.sameNames ctx ctx').append ih

mutual

theorem BlockRule.sameNames : ∀ {w w' : Names} {b b' : Block} {es : List Event}
    (ctx ctx' : Context), BlockRule w b b' w' es →
      SameNames (b'.occurrences ctx') (b.occurrences ctx)
  | _, _, _, _, _, ctx, ctx', .mk decls stmts =>
      (decls.sameNames ctx ctx').append (stmts.sameNames _ _)

theorem BranchRule.sameNames : ∀ {w : Names} {A : Arena} {b b' : Block} {es : List Event}
    (ctx ctx' : Context), BranchRule w b b' A es →
      SameNames (b'.occurrences ctx') (b.occurrences ctx)
  | _, _, _, _, _, ctx, ctx', .mk inside => inside.sameNames ctx ctx'

theorem StmtRule.sameNames : ∀ {w : Names} {A : Arena} {s s' : Stmt} {es : List Event}
    (ctx ctx' : Context), StmtRule w s s' A es →
      SameNames (s'.occurrences ctx') (s.occurrences ctx)
  | _, _, _, _, _, ctx, ctx', .simple _ expr => expr.sameNames ctx ctx'
  | _, _, _, _, _, ctx, ctx', .guarded _ expr branch =>
      (expr.sameNames ctx ctx').append (branch.sameNames _ _)
  | _, _, _, _, _, ctx, ctx', .ifElse expr first second =>
      ((expr.sameNames ctx ctx').append (first.sameNames _ _)).append (second.sameNames _ _)
  | _, _, _, _, _, _, _, .leave _ => rfl
  | _, _, _, _, _, ctx, ctx', .ret _ expr => expr.sameNames ctx ctx'

theorem StmtsRule.sameNames : ∀ {w : Names} {A : Arena} {ss ss' : List Stmt} {es : List Event}
    (ctx ctx' : Context), StmtsRule w ss ss' A es →
      SameNames (Stmt.occurrencesOfAll ctx' ss') (Stmt.occurrencesOfAll ctx ss)
  | _, _, _, _, _, _, _, .nil => rfl
  | _, _, _, _, _, ctx, ctx', .cons first rest =>
      (first.sameNames ctx ctx').append (rest.sameNames ctx ctx')

end

lemma ReturnRule.sameNames {w : Names} {ret ret' : TypeName} {ty : Ty} {es : List Event}
    (rule : ReturnRule w ret ret' ty es) (ctx ctx' : Context) :
    SameNames (ret'.occurrences ctx') (ret.occurrences ctx) := by
  cases rule with
  | plain type =>
      cases ret with
      | struct name => exact absurd rfl (type name)
      | _ => rfl
  | struct type => exact type.sameNames ctx ctx'

lemma DeclRule.sameNames {w w' : Names} {d d' : Decl} {es : List Event}
    (rule : DeclRule w d d' w' es) (ctx ctx' : Context) :
    SameNames (d'.occurrences ctx') (d.occurrences ctx) := by
  cases rule with
  | var rule => exact rule.sameNames ctx ctx'
  | fn rule =>
      cases rule with
      | mk type head params inside =>
          exact ((type.sameNames ctx ctx').append (params.sameNames _ _)).append
            (inside.sameNames _ _)
  | struct rule =>
      cases rule with
      | taken known all => exact all.fields_sameNames ctx ctx'
      | declared all room scope => exact all.fields_sameNames ctx ctx'

lemma DeclsRule.sameNames {w w' : Names} {ds ds' : List Decl} {es : List Event}
    (rule : DeclsRule w ds ds' w' es) (ctx ctx' : Context) :
    SameNames (Decl.occurrencesOfAll ctx' ds') (Decl.occurrencesOfAll ctx ds) := by
  induction rule generalizing ctx ctx' with
  | nil => rfl
  | cons first rest ih => exact (first.sameNames ctx ctx').append (ih _ _)

end Naming

/-- **Name resolution is lexical scoping.**  From any run that has a handle left for each of its
declarations, name resolution of a program in which no identifier is bound goes on to its end.  Then
the names in use are those of the program, and every one of them obeys the law for its role at the
place where it stands. -/
theorem resolution_is_lexical (dumpScopes : Bool) {p : Program}
    (hfree : ∀ id ∈ p.idents, id.symbol? = none) (s : Run Names)
    (room : s.work.symbols.size + p.declCount ≤ UInt32.size) :
    ((resolveProgram dumpScopes p).run s).2.halted = none ∧
      SameNames ((resolveProgram dumpScopes p).run s).1.occurrences p.occurrences ∧
      ∀ o ∈ ((resolveProgram dumpScopes p).run s).1.occurrences,
        o.Lawful ((resolveProgram dumpScopes p).run s).2.work.symbols := by
  obtain ⟨named, t, hrun, w, es, rule, resolved⟩ :=
    resolveProgram_goes_on dumpScopes hfree s room
  rw [hrun]
  refine ⟨resolved.1, rule.sameNames [[]] [[]], ?_⟩
  have hdecls : ∀ d ∈ p.decls, ∀ id ∈ d.idents, id.symbol? = none := fun d hd id hid =>
    hfree id (Program.mem_idents_decls (List.mem_flatMap.2 ⟨d, hd, hid⟩))
  show AllLawful t.work.symbols named.occurrences
  rw [resolved.symbols_eq]
  exact rule.lawful (Names.sound_behind _) (.cons .empty .nil) (.refl _) hdecls

/-- A program variable, a formal that hides it, and a variable of a branch that hides the formal. -/
def shadowed : Program where
  decls := [
    .var { ty := .int, id := .unbound "x" .nowhere },
    .fn
      { ret := .void
        id := .unbound "f" .nowhere
        formals := [{ ty := .bool, id := .unbound "x" .nowhere }]
        body := .mk [] [
          .guarded .branch (.use (.unbound "x" .nowhere))
            (.mk [{ ty := .int, id := .unbound "x" .nowhere }]
              [.simple .write (.use (.unbound "x" .nowhere))]),
          .simple .write (.use (.unbound "x" .nowhere))] }]

theorem resolution_of_shadowed : (∀ id ∈ shadowed.idents, id.symbol? = none) ∧
    shadowed.declCount ≤ UInt32.size ∧
    (((resolveProgram false shadowed).run { work := {}, sink := {} }).1.occurrences.map
      fun o => o.id.symbol?.map SymbolId.index) = [some 2, some 3, some 2] ∧
    ∀ o ∈ ((resolveProgram false shadowed).run { work := {}, sink := {} }).1.occurrences,
      o.Lawful ((resolveProgram false shadowed).run { work := {}, sink := {} }).2.work.symbols :=
  have unbound : ∀ id ∈ shadowed.idents, id.symbol? = none := by decide
  ⟨unbound, by decide, by decide +kernel,
    (resolution_is_lexical false unbound { work := {}, sink := {} } (by decide)).2.2⟩

end StructLang
