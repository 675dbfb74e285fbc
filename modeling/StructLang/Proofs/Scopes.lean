import Mathlib.Data.List.Perm.Basic
import Mathlib.Tactic.Common
import StructLang.Proofs.Analysis
import StructLang.Proofs.Declared

/-!
# The scopes of a program

Three kinds of declarations put names into scopes: variables, functions and structs.  The scope of
the program has all of them, the scopes inside it have variables alone.  A function has one scope
for its formals and the declarations of its body, each block of a statement has one, and each struct
has one for its fields.

* `Program.scopes` — the declarations of each scope, in the order of the source.
* `Program.declared_perm` — every declared name of the program is in exactly one of them.
* `ScopeStack.Holds` — the innermost scope at hand has the bound ones of the declarations so far,
  and nothing else.  Each rule keeps it (`DeclareRule.holds`, `DeclRule.holds`).
* `Made` — how a scope inside a declaration comes about: by declarations one after the other, from
  an empty scope on.  All of them come about like this (`DeclsRule.made`).
* `DeclsRule.places` — so what is to be shown of every declaration in every scope is shown once, for
  a declaration after others (`Places`).
-/

namespace StructLang

/-! ## Scopes in a tree -/

/-- The declared name. -/
def Decl.id : Decl → Ident
  | .var d => d.id
  | .fn f => f.id
  | .struct s => s.id

lemma Decl.mem_idents_id (d : Decl) : d.id ∈ d.idents := by
  cases d with
  | var d => exact Decl.mem_idents_var_iff.2 (List.mem_append_right _ List.mem_cons_self)
  | fn f => exact Decl.mem_idents_fn
  | struct s => exact Decl.mem_idents_struct

mutual

/-- The scopes in a block, whose own scope has the formals in it already. -/
def Block.scopes (formals : List VarDecl) : Block → List (List VarDecl)
  | .mk decls stmts => (formals ++ decls) :: Stmt.scopesOfAll stmts

/-- The scopes in a statement; each of its blocks has one. -/
def Stmt.scopes : Stmt → List (List VarDecl)
  | .simple _ _ => []
  | .guarded _ _ body => body.scopes []
  | .ifElse _ yes no => yes.scopes [] ++ no.scopes []
  | .ret _ _ => []

/-- The scopes in a list of statements. -/
def Stmt.scopesOfAll : List Stmt → List (List VarDecl)
  | [] => []
  | s :: ss => s.scopes ++ Stmt.scopesOfAll ss

end

/-- The scopes inside a declaration. -/
def Decl.scopes : Decl → List (List VarDecl)
  | .var _ => []
  | .fn f => f.body.scopes f.formals
  | .struct s => [s.fields]

/-- All scopes of the program, its own first. -/
def Program.scopes (p : Program) : List (List Decl) :=
  p.decls :: (p.decls.flatMap Decl.scopes).map (List.map .var)

/-! ### Declared names -/

/-- The declared names of the scopes. -/
def namesIn (scopes : List (List VarDecl)) : List Ident := scopes.flatten.map (·.id)

@[simp] lemma namesIn_append (ss ts : List (List VarDecl)) :
    namesIn (ss ++ ts) = namesIn ss ++ namesIn ts := by
  rw [namesIn, List.flatten_append, List.map_append]
  rfl

lemma namesIn_cons (ds : List VarDecl) (ss : List (List VarDecl)) :
    namesIn (ds :: ss) = ds.map (·.id) ++ namesIn ss := by
  rw [namesIn, List.flatten_cons, List.map_append]
  rfl

mutual

theorem Block.namesIn_scopes (formals : List VarDecl) : ∀ b : Block,
    namesIn (b.scopes formals) = formals.map (·.id) ++ b.declaredNames
  | .mk decls stmts => by
      rw [Block.scopes, Block.declaredNames, namesIn_cons, List.map_append,
        Stmt.namesIn_scopesOfAll stmts, List.append_assoc]

theorem Stmt.namesIn_scopes : ∀ s : Stmt, namesIn s.scopes = s.declaredNames
  | .simple _ _ => rfl
  | .guarded _ _ body => body.namesIn_scopes []
  | .ifElse _ yes no => by
      rw [Stmt.scopes, Stmt.declaredNames, namesIn_append, yes.namesIn_scopes, no.namesIn_scopes]
      rfl
  | .ret _ _ => rfl

theorem Stmt.namesIn_scopesOfAll : ∀ ss : List Stmt,
    namesIn (Stmt.scopesOfAll ss) = Stmt.declaredNamesOfAll ss
  | [] => rfl
  | s :: ss => by
      rw [Stmt.scopesOfAll, Stmt.declaredNamesOfAll, namesIn_append, s.namesIn_scopes,
        Stmt.namesIn_scopesOfAll ss]

end

/-- A struct is declared after its fields, and everything else before what is inside it. -/
lemma Decl.declared_perm (d : Decl) : (d.id :: namesIn d.scopes).Perm d.declaredNames := by
  cases d with
  | var d => exact .refl _
  | struct s =>
      have hnames : namesIn [s.fields] = s.fields.map (·.id) :=
        (namesIn_cons _ _).trans (List.append_nil _)
      rw [scopes, hnames]
      exact (List.perm_append_singleton _ _).symm
  | fn f =>
      rw [scopes, f.body.namesIn_scopes]
      exact .refl _

/-- Every declared name of the program is the name of exactly one declaration of one scope. -/
theorem Program.declared_perm (p : Program) :
    (p.scopes.flatten.map Decl.id).Perm (p.decls.flatMap Decl.declaredNames) := by
  have hinner : ((p.decls.flatMap Decl.scopes).map (List.map Decl.var)).flatten.map Decl.id =
      namesIn (p.decls.flatMap Decl.scopes) := by
    rw [← List.map_flatten, List.map_map]
    rfl
  rw [scopes, List.flatten_cons, List.map_append, hinner]
  induction p.decls with
  | nil => exact .refl _
  | cons d ds ih =>
      rw [List.flatMap_cons, List.flatMap_cons, namesIn_append, List.map_cons, List.cons_append]
      -- the names inside the first declaration move over those of the other declarations
      refine List.Perm.trans ?_ (d.declared_perm.append ih)
      exact (List.perm_append_comm_assoc _ _ _).cons _

/-! ### Declarations and those before them -/

/-- The declarations of a scope, each with those before it. -/
def placedAfter : List Decl → List Decl → List (List Decl × Decl)
  | _, [] => []
  | before, d :: ds => (before, d) :: placedAfter (before ++ [d]) ds

lemma placedAfter_append (before ds cs : List Decl) :
    placedAfter before (ds ++ cs) = placedAfter before ds ++ placedAfter (before ++ ds) cs := by
  induction ds generalizing before with
  | nil => rw [List.append_nil]; rfl
  | cons d ds ih =>
      rw [List.cons_append, placedAfter, placedAfter, ih, List.append_assoc]
      rfl

/-- A declaration is placed in a scope where the scope splits into what is before and after it. -/
lemma mem_placedAfter_iff {start ds before : List Decl} {d : Decl} :
    (before, d) ∈ placedAfter start ds ↔ ∃ as bs, ds = as ++ d :: bs ∧ before = start ++ as := by
  induction ds generalizing start with
  | nil => simp [placedAfter]
  | cons c ds ih =>
      rw [placedAfter, List.mem_cons, ih]
      constructor
      · rintro (heq | ⟨as, bs, rfl, rfl⟩)
        · obtain ⟨rfl, rfl⟩ := Prod.mk.inj heq
          exact ⟨[], ds, rfl, (List.append_nil _).symm⟩
        · exact ⟨c :: as, bs, rfl, by simp⟩
      · rintro ⟨as, bs, heq, rfl⟩
        cases as with
        | nil =>
            obtain ⟨rfl, rfl⟩ := List.cons.inj heq
            exact Or.inl (by rw [List.append_nil])
        | cons a as =>
            obtain ⟨rfl, rfl⟩ := List.cons.inj heq
            exact Or.inr ⟨as, bs, rfl, by simp⟩

/-! ### Kinds of variables -/

/-- The kind of symbol that a variable of the type is.  There is none for `void`, and none for a
struct type whose name is not bound. -/
def TypeName.kind? : TypeName → Option Symbol.Kind
  | .int => some (.var .int)
  | .bool => some (.var .bool)
  | .void => none
  | .struct name => name.symbol?.map .structVar

namespace Naming

/-- What name resolution takes for the kind can be read off from the type that it leaves. -/
lemma KindRule.kind_eq {A : Arena} {types : ScopeStack} {owner : Ident} {ty ty' : TypeName}
    {kind : Option Symbol.Kind} {es : List Event} (rule : KindRule A types owner ty ty' kind es)
    (free : NoneBound ty.idents) : ty'.kind? = kind := by
  cases rule with
  | struct type =>
      cases type with
      | means found symbol struct => rfl
      | invalid wrong =>
          rw [TypeName.kind?, free _ List.mem_cons_self, Option.map_none]
  | _ => rfl

end Naming

/-! ## What a scope holds -/

/-- The innermost scope has the bound ones of the declarations, under their names and handles. -/
def ScopeStack.Holds (table : ScopeStack) (before : List Decl) : Prop :=
  ∀ name h, table.local? name = some h ↔ ∃ d ∈ before, d.id.name = name ∧ d.id.symbol? = some h

/-- One of the declarations is bound and has the name of the declaration at hand. -/
def Decl.Taken (before : List Decl) (d : Decl) : Prop :=
  ∃ b ∈ before, b.id.name = d.id.name ∧ b.id.symbol?.isSome = true

instance (before : List Decl) (d : Decl) : Decidable (d.Taken before) :=
  inferInstanceAs (Decidable (∃ b ∈ before, b.id.name = d.id.name ∧ b.id.symbol?.isSome = true))

lemma ScopeStack.local?_declare {table target : ScopeStack} {name : String} {h : SymbolId}
    (hd : table.declare name h = .ok target) (other : String) :
    target.local? other = if other = name then some h else table.local? other := by
  obtain ⟨scope, outer, new, hs, ht⟩ := scopes_of_declare hd
  rw [local?, local?, hs, ht]
  exact scope.find?_insert name other h new

namespace ScopeStack.Holds

variable {table target : ScopeStack} {before : List Decl} {d : Decl}

lemma push (table : ScopeStack) : table.push.Holds [] := by
  intro name h
  simp [local?, ScopeStack.push]

/-- The scope of a struct that has no fields yet. -/
lemma withScope : ScopeStack.withScope.Holds [] := push _

/-- A name is taken exactly if the scope has it. -/
lemma taken_iff (holds : table.Holds before) :
    d.Taken before ↔ (table.local? d.id.name).isSome = true := by
  rw [Option.isSome_iff_exists]
  constructor
  · rintro ⟨b, hb, hname, hbound⟩
    obtain ⟨h, hh⟩ := Option.isSome_iff_exists.1 hbound
    exact ⟨h, (holds _ h).2 ⟨b, hb, hname, hh⟩⟩
  · rintro ⟨h, hh⟩
    obtain ⟨b, hb, hname, hbound⟩ := (holds _ h).1 hh
    exact ⟨b, hb, hname, hbound ▸ rfl⟩

lemma taken (holds : table.Holds before) {h : SymbolId} (known : table.local? d.id.name = some h) :
    d.Taken before := holds.taken_iff.2 (known ▸ rfl)

lemma not_taken (holds : table.Holds before) (free : table.local? d.id.name = none) :
    ¬ d.Taken before := by
  rw [holds.taken_iff, free]
  exact Bool.false_ne_true

/-- A declaration that is not bound makes no difference. -/
lemma skip (holds : table.Holds before) (hd : d.id.symbol? = none) :
    table.Holds (before ++ [d]) := by
  intro name h
  rw [holds]
  simp [or_and_right, exists_or, hd]

/-- A declaration that is bound goes into the scope. -/
lemma introduce (holds : table.Holds before) {id : Ident} {h : SymbolId}
    (hd : d.id = id.bindTo h) (scope : table.declare id.name h = .ok target) :
    target.Holds (before ++ [d]) := by
  intro name k
  have hfree : ∀ b ∈ before, b.id.name = id.name → b.id.symbol? ≠ some k := by
    intro b hb hname hsymbol
    have hnone := local?_of_declare scope
    rw [(holds _ k).2 ⟨b, hb, hname, hsymbol⟩] at hnone
    cases hnone
  rw [local?_declare scope]
  simp only [List.mem_append, List.mem_singleton, or_and_right, exists_or, exists_eq_left, hd,
    Ident.name_bindTo, Ident.symbol?_bindTo, Option.some.injEq]
  by_cases hname : name = id.name
  · subst hname
    rw [if_pos rfl, Option.some.injEq, and_iff_right rfl]
    exact ⟨Or.inr, fun hk => hk.resolve_left fun ⟨b, hb, hname, hsymbol⟩ =>
      hfree b hb hname hsymbol⟩
  · rw [if_neg hname, holds]
    exact ⟨Or.inl, fun hk => hk.resolve_right fun ⟨heq, _⟩ => hname heq.symm⟩

end ScopeStack.Holds

namespace Naming

variable {base : Nat} {B : Arena} {w w' w'' : Names} {es fs : List Event} {before : List Decl}

/-! ### Declarations one after the other -/

lemma DeclareRule.holds {types : ScopeStack → ScopeStack} {d d' : VarDecl}
    (rule : DeclareRule types w d d' w' es) (free : d.id.symbol? = none)
    (holds : w.table.Holds before) : w'.table.Holds (before ++ [.var d']) := by
  cases rule with
  | taken type known => exact holds.skip free
  | rejected type available => exact holds.skip free
  | declared type room scope => exact holds.introduce rfl scope

lemma HeadRule.holds {id id' : Ident} {params : List Ty} {ret : Ty}
    (rule : HeadRule w id params ret id' w' es) (free : id.symbol? = none)
    (holds : w.table.Holds before) {d : Decl} (hd : d.id = id') :
    w'.table.Holds (before ++ [d]) := by
  cases rule with
  | taken known => exact holds.skip (hd ▸ free)
  | declared room scope => exact holds.introduce hd scope

lemma StructRule.holds {s s' : StructDecl} (rule : StructRule w s s' w' es)
    (free : s.id.symbol? = none) (holds : w.table.Holds before) :
    w'.table.Holds (before ++ [.struct s']) := by
  cases rule with
  | taken known all => exact holds.skip free
  | declared all room scope => exact holds.introduce rfl scope

lemma DeclRule.holds {d d' : Decl} (rule : DeclRule w d d' w' es) (free : d.id.symbol? = none)
    (holds : w.table.Holds before) : w'.table.Holds (before ++ [d']) := by
  cases rule with
  | var rule => exact rule.holds free holds
  | fn rule =>
      cases rule with
      | mk type head params inside => exact head.holds free holds rfl
  | struct rule => exact rule.holds free holds

/-- After the declarations of a program its scope has those of them that are bound. -/
lemma DeclsRule.holds {ds ds' : List Decl} (rule : DeclsRule w ds ds' w' es)
    (free : NoneBound (ds.flatMap Decl.idents)) (holds : w.table.Holds before) :
    w'.table.Holds (before ++ ds') := by
  induction rule generalizing before with
  | nil =>
      rw [List.append_nil]
      exact holds
  | @cons _ _ _ d _ _ _ _ _ first rest ih =>
      rw [List.flatMap_cons, noneBound_append] at free
      have hrest := ih free.2 (first.holds (free.1 _ d.mem_idents_id) holds)
      rwa [List.append_assoc] at hrest

lemma DeclaresRule.holds {types : ScopeStack → ScopeStack} {ds ds' : List VarDecl}
    (rule : DeclaresRule types w ds ds' w' es) (free : NoneBound (ds.map (·.id)))
    (holds : w.table.Holds before) : w'.table.Holds (before ++ ds'.map .var) := by
  induction rule generalizing before with
  | nil =>
      rw [List.map_nil, List.append_nil]
      exact holds
  | cons first rest ih =>
      have hfirst := first.holds (free _ List.mem_cons_self) holds
      have hrest := ih (free.mono fun _ => List.mem_cons_of_mem _) hfirst
      rwa [List.append_assoc] at hrest

lemma DeclaresRule.append {types : ScopeStack → ScopeStack} {ds ds' cs cs' : List VarDecl}
    (rule : DeclaresRule types w ds ds' w' es) (rule' : DeclaresRule types w' cs cs' w'' fs) :
    DeclaresRule types w (ds ++ cs) (ds' ++ cs') w'' (es ++ fs) := by
  induction rule with
  | nil => exact rule'
  | cons first rest ih =>
      rw [List.append_assoc]
      exact .cons first (ih rule')

/-! ### Scopes inside declarations -/

/-- The declarations of a scope inside some declaration, as a run that ends with the symbols `B`
leaves them: they were declared one after the other, the first of them in an empty scope. -/
inductive Made (base : Nat) (B : Arena) : List VarDecl → Prop
  | mk {types : ScopeStack → ScopeStack} {w w' : Names} {ds ds' : List VarDecl} {es : List Event}
      (rule : DeclaresRule types w ds ds' w' es) (start : w.table.Holds [])
      (lookup : SoundTypes base types w.symbols) (sound : w.Sound base)
      (grows : w'.symbols.Grows B) (free : NoneBound (ds.flatMap VarDecl.idents)) :
      Made base B ds'

/-- All scopes are made like this. -/
def AllMade (base : Nat) (B : Arena) (scopes : List (List VarDecl)) : Prop :=
  ∀ scope ∈ scopes, Made base B scope

lemma allMade_append {ss ts : List (List VarDecl)} (hss : AllMade base B ss)
    (hts : AllMade base B ts) : AllMade base B (ss ++ ts) :=
  List.forall_mem_append.2 ⟨hss, hts⟩

mutual

/-- A block whose scope has been started with some formals. -/
theorem BlockRule.made : ∀ {w₀ w w' : Names} {formals formals' : List VarDecl} {b b' : Block}
    {es fs : List Event}, DeclaresRule id w₀ formals formals' w fs → BlockRule w b b' w' es →
      w₀.table.Holds [] → w₀.Sound base → w'.symbols.Grows B →
        NoneBound (formals.flatMap VarDecl.idents) → NoneBound b.idents →
          AllMade base B (b'.scopes formals')
  | _, _, _, _, _, _, _, _, _, params, .mk decls stmts, start, hw, hgrows, hformals, free => by
      have hdecls := (params.append decls).extends_here hw
      have hstmts := (stmts.extends hdecls.sound).grows.trans hgrows
      refine List.forall_mem_cons.2 ⟨.mk (params.append decls) start (soundTypes_id _) hw hstmts ?_,
        stmts.made hdecls.sound hgrows (free.mono fun _ => Block.mem_idents_stmts)⟩
      rw [List.flatMap_append]
      exact noneBound_append.2 ⟨hformals, free.mono fun _ => Block.mem_idents_decls⟩

theorem BranchRule.made : ∀ {w : Names} {A : Arena} {b b' : Block} {es : List Event},
    BranchRule w b b' A es → w.Sound base → A.Grows B → NoneBound b.idents →
      AllMade base B (b'.scopes [])
  | _, _, _, _, _, .mk inside, hw, hgrows, free =>
      inside.made .nil (.push _) hw.enter hgrows nofun free

theorem StmtRule.made : ∀ {w : Names} {A : Arena} {s s' : Stmt} {es : List Event},
    StmtRule w s s' A es → w.Sound base → A.Grows B → NoneBound s.idents →
      AllMade base B s'.scopes
  | _, _, _, _, _, .simple _ _, _, _, _ | _, _, _, _, _, .leave _, _, _, _
  | _, _, _, _, _, .ret _ _, _, _, _ => nofun
  | _, _, _, _, _, .guarded _ _ branch, hw, hgrows, free =>
      branch.made hw hgrows (free.mono fun _ hmem => by simp [hmem])
  | _, _, _, _, _, .ifElse _ first second, hw, hgrows, free => by
      have hfirst := first.extends hw
      have hsecond := (second.extends hfirst.sound).grows.trans hgrows
      exact allMade_append (first.made hw hsecond (free.mono fun _ hmem => by simp [hmem]))
        (second.made hfirst.sound hgrows (free.mono fun _ hmem => by simp [hmem]))

theorem StmtsRule.made : ∀ {w : Names} {A : Arena} {ss ss' : List Stmt} {es : List Event},
    StmtsRule w ss ss' A es → w.Sound base → A.Grows B → NoneBound (Stmt.identsOfAll ss) →
      AllMade base B (Stmt.scopesOfAll ss')
  | _, _, _, _, _, .nil, _, _, _ => nofun
  | _, _, _, _, _, .cons first rest, hw, hgrows, free => by
      have hfirst := first.extends hw
      have hrest := (rest.extends hfirst.sound).grows.trans hgrows
      exact allMade_append (first.made hw hrest (free.mono fun _ hmem => by simp [hmem]))
        (rest.made hfirst.sound hgrows (free.mono fun _ hmem => by simp [hmem]))

end

lemma DeclRule.made {d d' : Decl} (rule : DeclRule w d d' w' es) (hw : w.Sound base)
    (hgrows : w'.symbols.Grows B) (free : NoneBound d.idents) : AllMade base B d'.scopes := by
  cases rule with
  | var rule => nofun
  | fn rule =>
      cases rule with
      | mk type head params inside =>
          have hhead := head.extends_of_type type hw
          exact inside.made params (.push _) hhead.sound.enter hgrows
            (free.mono fun _ => Decl.mem_idents_formals) (free.mono fun _ => Decl.mem_idents_body)
  | struct rule =>
      have hfields : NoneBound _ := free.mono fun _ => Decl.mem_idents_fields
      cases rule with
      | taken known all =>
          exact List.forall_mem_singleton.2
            (.mk all .withScope (soundTypes_const hw) hw.withScope hgrows hfields)
      | declared all room scope =>
          exact List.forall_mem_singleton.2 (.mk all .withScope (soundTypes_const hw) hw.withScope
            ((Arena.grows_push _ _ room).trans hgrows) hfields)

/-- All scopes inside the declarations of a program are made by declarations one after the
other. -/
theorem DeclsRule.made {ds ds' : List Decl} (rule : DeclsRule w ds ds' w' es) (hw : w.Sound base)
    (hgrows : w'.symbols.Grows B) (free : NoneBound (ds.flatMap Decl.idents)) :
    AllMade base B (ds'.flatMap Decl.scopes) := by
  induction rule with
  | nil => nofun
  | cons first rest ih =>
      rw [List.flatMap_cons, noneBound_append] at free
      have hfirst := first.extends hw
      have hrest := (rest.extends hfirst.sound).grows.trans hgrows
      exact allMade_append (first.made hw hrest free.1) (ih hfirst.sound hgrows free.2)

/-! ### From a declaration to all scopes -/

/-- In a run that ends with the symbols `B`, the rules make `Q` of every declaration and those
before it in its scope. -/
structure Places (base : Nat) (B : Arena) (Q : List Decl → Decl → Prop) : Prop where
  var : ∀ {types : ScopeStack → ScopeStack} {w w' : Names} {d d' : VarDecl} {es : List Event}
    {before : List Decl}, DeclareRule types w d d' w' es → SoundTypes base types w.symbols →
      w.Sound base → w'.symbols.Grows B → NoneBound d.idents → w.table.Holds before →
        Q before (.var d')
  fn : ∀ {w w' : Names} {f f' : FnDecl} {es : List Event} {before : List Decl},
    FnRule w f f' w' es → w.Sound base → w'.symbols.Grows B → NoneBound (Decl.fn f).idents →
      w.table.Holds before → Q before (.fn f')
  struct : ∀ {w w' : Names} {s s' : StructDecl} {es : List Event} {before : List Decl},
    StructRule w s s' w' es → w.Sound base → w'.symbols.Grows B →
      NoneBound (Decl.struct s).idents → w.table.Holds before → Q before (.struct s')

section

variable {Q : List Decl → Decl → Prop}

lemma DeclaresRule.places {types : ScopeStack → ScopeStack} {ds ds' : List VarDecl}
    (rule : DeclaresRule types w ds ds' w' es) (hQ : Places base B Q)
    (lookup : SoundTypes base types w.symbols) (hw : w.Sound base) (hgrows : w'.symbols.Grows B)
    (free : NoneBound (ds.flatMap VarDecl.idents)) (holds : w.table.Holds before) :
    ∀ x ∈ placedAfter before (ds'.map .var), Q x.1 x.2 := by
  induction rule generalizing before with
  | nil => exact fun _ hx => absurd hx List.not_mem_nil
  | cons first rest ih =>
      rw [List.flatMap_cons, noneBound_append] at free
      have hfirst := first.extends lookup hw
      have hlater := lookup.grows hfirst.grows
      have hrest := (rest.extends hlater hfirst.sound).grows.trans hgrows
      exact List.forall_mem_cons.2 ⟨hQ.var first lookup hw hrest free.1 holds,
        ih hlater hfirst.sound hgrows free.2 (first.holds (VarDecl.free free.1).2 holds)⟩

lemma Made.places {scope : List VarDecl} (made : Made base B scope) (hQ : Places base B Q) :
    ∀ x ∈ placedAfter [] (scope.map .var), Q x.1 x.2 := by
  cases made with
  | mk rule start lookup sound grows free => exact rule.places hQ lookup sound grows free start

lemma DeclRule.places {d d' : Decl} (rule : DeclRule w d d' w' es) (hQ : Places base B Q)
    (hw : w.Sound base) (hgrows : w'.symbols.Grows B) (free : NoneBound d.idents)
    (holds : w.table.Holds before) : Q before d' := by
  cases rule with
  | var rule =>
      exact hQ.var rule (soundTypes_id _) hw hgrows
        (free.mono fun _ => Decl.mem_idents_var_iff.2) holds
  | fn rule => exact hQ.fn rule hw hgrows free holds
  | struct rule => exact hQ.struct rule hw hgrows free holds

lemma DeclsRule.places_top {ds ds' : List Decl} (rule : DeclsRule w ds ds' w' es)
    (hQ : Places base B Q) (hw : w.Sound base) (hgrows : w'.symbols.Grows B)
    (free : NoneBound (ds.flatMap Decl.idents)) (holds : w.table.Holds before) :
    ∀ x ∈ placedAfter before ds', Q x.1 x.2 := by
  induction rule generalizing before with
  | nil => exact fun _ hx => absurd hx List.not_mem_nil
  | @cons _ _ _ d _ _ _ _ _ first rest ih =>
      rw [List.flatMap_cons, noneBound_append] at free
      have hfirst := first.extends hw
      have hrest := (rest.extends hfirst.sound).grows.trans hgrows
      exact List.forall_mem_cons.2 ⟨first.places hQ hw hrest free.1 holds,
        ih hfirst.sound hgrows free.2 (first.holds (free.1 _ d.mem_idents_id) holds)⟩

/-- What the rules make of every declaration is true in all scopes of the program. -/
theorem DeclsRule.places {ds ds' : List Decl} (rule : DeclsRule w ds ds' w' es)
    (hQ : Places base B Q) (hw : w.Sound base) (hgrows : w'.symbols.Grows B)
    (free : NoneBound (ds.flatMap Decl.idents)) (start : w.table.Holds []) :
    ∀ scope ∈ Program.scopes ⟨ds'⟩, ∀ x ∈ placedAfter [] scope, Q x.1 x.2 := by
  refine List.forall_mem_cons.2 ⟨rule.places_top hQ hw hgrows free start, fun scope hscope => ?_⟩
  obtain ⟨inner, hinner, rfl⟩ := List.mem_map.1 hscope
  exact (rule.made hw hgrows free inner hinner).places hQ

/-- The same where it does not matter what comes before the declaration. -/
lemma DeclsRule.everywhere {P : Decl → Prop} {ds ds' : List Decl} (rule : DeclsRule w ds ds' w' es)
    (hP : Places base B fun _ d => P d) (hw : w.Sound base) (hgrows : w'.symbols.Grows B)
    (free : NoneBound (ds.flatMap Decl.idents)) (start : w.table.Holds []) :
    ∀ d ∈ (Program.scopes ⟨ds'⟩).flatten, P d := by
  intro d hd
  obtain ⟨scope, hscope, hd⟩ := List.mem_flatten.1 hd
  obtain ⟨before, after, rfl⟩ := List.append_of_mem hd
  exact rule.places hP hw hgrows free start _ hscope (before, d)
    (mem_placedAfter_iff.2 ⟨before, after, rfl, rfl⟩)

end

end Naming

/-! ## Runs of name resolution -/

lemma Program.noneBound_decls {p : Program} (free : NoneBound p.idents) :
    NoneBound (p.decls.flatMap Decl.idents) :=
  fun id hid => free id (Program.mem_idents_iff.2 hid)

/-- From any run with a handle left for each declaration, name resolution of a program in which
nothing is bound goes on to its end, and what it leaves and reports is what the rules say. -/
theorem resolveProgram_explained (dumpScopes : Bool) {p : Program} (free : NoneBound p.idents)
    (s : Run Names) (room : s.work.symbols.size + p.declCount ≤ UInt32.size) :
    let done := (resolveProgram dumpScopes p).run s
    ∃ base w es, Names.Sound base ⟨s.work.symbols, .withScope⟩ ∧
      Naming.DeclsRule ⟨s.work.symbols, .withScope⟩ p.decls done.1.decls w es ∧
      done.2.outcome = .ok () ∧ done.2.work.symbols = w.symbols ∧
      s.Reported done.2 (reports es) := by
  intro done
  obtain ⟨named, t, hrun, w, es, rule, resolved⟩ :=
    resolveProgram_goes_on dumpScopes free s room
  have hdone : done = (named, t) := hrun
  rw [hdone]
  exact ⟨_, w, es, Names.sound_behind _, rule, resolved.outcome, resolved.symbols_eq,
    resolved.reported⟩

end StructLang
