import Mathlib.Tactic.Common
import StructLang.Naming.Program
import StructLang.Proofs.Symbols

/-!
# The rules of name resolution

Name resolution as relations: which tree, which symbols and scopes, and which events a run that
goes on makes of a tree.  There is one rule for each way in which a node can come out, and no
rule mentions a fault.  Where a declaration is given a symbol, the rule asks for a handle that is
left, so a tree for which there are not enough has no derivation.

The rules read better than the pass in two places.

* A function is declared with its parameter types at once.  The pass adds them after the formals,
  which makes no difference to the formals (`DeclaresRule.withParams`).
* A statement ends with the scopes that it began with, so its rule yields symbols alone.

`DeclaresRule` covers formals, declarations of a body and fields.  They differ in where struct types
are looked up: the function `types` says it in terms of the scopes at hand.  It is `id` where names
are declared in the scopes themselves, and constant for the fields of a struct.

Every rule keeps symbols and scopes sound, and leaves the outer scopes alone: `Names.Extends`.
-/

namespace StructLang

/-- The identifier bound to a symbol. -/
def Ident.bindTo (id : Ident) (h : SymbolId) : Ident := { id with binding := { content := some h } }

@[simp] lemma Ident.name_bindTo (id : Ident) (h : SymbolId) : (id.bindTo h).name = id.name := rfl

@[simp] lemma Ident.loc_bindTo (id : Ident) (h : SymbolId) : (id.bindTo h).loc = id.loc := rfl

@[simp] lemma Ident.symbol?_bindTo (id : Ident) (h : SymbolId) :
    (id.bindTo h).symbol? = some h := rfl

/-- Names with parameter types for a function that they have. -/
def Names.withParams (w : Names) (h : SymbolId) (params : List Ty) : Names :=
  { w with symbols := w.symbols.withParams h params }

namespace Naming

/-! ## Uses -/

/-- A plain name or a callee. -/
inductive UseRule (w : Names) (id : Ident) : Ident → List Event → Prop
  | bound {h : SymbolId} (found : w.table.find? id.name = some h) :
      UseRule w id (id.bindTo h) [.bound id.name id.loc h]
  | undeclared (missing : w.table.find? id.name = none) :
      UseRule w id id [.reported id.loc .undeclared]

/-- The base denotes something that has no fields, or nothing. -/
def WithoutFields (A : Arena) (base : Expr) : Prop :=
  base.asBase = .nothing ∨ ∃ h, base.asBase = .symbol h ∧ A.fieldsOf h = .ok none

/-- The field and the flag of a dot after the base. -/
inductive FieldRule (A : Arena) (base : Expr) (field : Ident) (failed : Bool) :
    Ident → Bool → List Event → Prop
  | skipped (wrong : base.asBase = .failed) : FieldRule A base field failed field true []
  | noStruct (wrong : WithoutFields A base) :
      FieldRule A base field failed field true [.reported field.loc .dotOnNonStruct]
  | unknown {h : SymbolId} {fields : ScopeStack} (symbol : base.asBase = .symbol h)
      (struct : A.fieldsOf h = .ok (some fields)) (missing : fields.find? field.name = none) :
      FieldRule A base field failed field true [.reported field.loc .invalidField]
  | selected {h k : SymbolId} {fields : ScopeStack} (symbol : base.asBase = .symbol h)
      (struct : A.fieldsOf h = .ok (some fields)) (found : fields.find? field.name = some k) :
      FieldRule A base field failed (field.bindTo k) failed [.boundField field.name field.loc k]

mutual

/-- An expression, in symbols and scopes that it does not change. -/
inductive ExprRule (w : Names) : Expr → Expr → List Event → Prop
  | lit (value : Literal) (note : Note) : ExprRule w (.lit value note) (.lit value note) []
  | name {id id' : Ident} {es : List Event} (note : Note) (use : UseRule w id id' es) :
      ExprRule w (.name id note) (.name id' note) es
  | dot {base base' : Expr} {field field' : Ident} {failed failed' : Bool} {es fs : List Event}
      (note : Note) (first : ExprRule w base base' es)
      (second : FieldRule w.symbols base' field failed field' failed' fs) :
      ExprRule w (.dot base field failed note) (.dot base' field' failed' note) (es ++ fs)
  | assign {target target' value value' : Expr} {es fs : List Event} (note : Note)
      (left : ExprRule w target target' es) (right : ExprRule w value value' fs) :
      ExprRule w (.assign target value note) (.assign target' value' note) (es ++ fs)
  | call {callee callee' : Ident} {args args' : List Expr} {es fs : List Event} (note : Note)
      (use : UseRule w callee callee' es) (all : ArgsRule w args args' fs) :
      ExprRule w (.call callee args note) (.call callee' args' note) (es ++ fs)
  | unary {operand operand' : Expr} {es : List Event} (op : UnaryOp) (note : Note)
      (inner : ExprRule w operand operand' es) :
      ExprRule w (.unary op operand note) (.unary op operand' note) es
  | binary {left left' right right' : Expr} {es fs : List Event} (op : BinaryOp) (note : Note)
      (first : ExprRule w left left' es) (second : ExprRule w right right' fs) :
      ExprRule w (.binary op left right note) (.binary op left' right' note) (es ++ fs)

/-- The arguments of a call. -/
inductive ArgsRule (w : Names) : List Expr → List Expr → List Event → Prop
  | nil : ArgsRule w [] [] []
  | cons {e e' : Expr} {args args' : List Expr} {es fs : List Event}
      (first : ExprRule w e e' es) (rest : ArgsRule w args args' fs) :
      ArgsRule w (e :: args) (e' :: args') (es ++ fs)

end

/-! ## Declarations -/

/-- The name of a struct type, and the definition that it means. -/
inductive StructNameRule (A : Arena) (types : ScopeStack) (name : Ident) :
    Ident → Option SymbolId → List Event → Prop
  | means {h : SymbolId} {d : Symbol} (found : types.find? name.name = some h)
      (symbol : A.get h = .ok d) (struct : d.isStructDef = true) :
      StructNameRule A types name (name.bindTo h) (some h) []
  | invalid (wrong : ∀ h, types.find? name.name = some h →
        ∃ d, A.get h = .ok d ∧ d.isStructDef = false) :
      StructNameRule A types name name none [.reported name.loc .invalidStructName]

/-- The type of a variable, and the kind of symbol that the variable is if it can be one. -/
inductive KindRule (A : Arena) (types : ScopeStack) (owner : Ident) :
    TypeName → TypeName → Option Symbol.Kind → List Event → Prop
  | int : KindRule A types owner .int .int (some (.var .int)) []
  | bool : KindRule A types owner .bool .bool (some (.var .bool)) []
  | void : KindRule A types owner .void .void none [.reported owner.loc .voidVariable]
  | struct {name name' : Ident} {defn : Option SymbolId} {es : List Event}
      (type : StructNameRule A types name name' defn es) :
      KindRule A types owner (.struct name) (.struct name') (defn.map .structVar) es

/-- The declaration of a variable, formal or field in the innermost scope. -/
inductive DeclareRule (types : ScopeStack → ScopeStack) (w : Names) (d : VarDecl) :
    VarDecl → Names → List Event → Prop
  | taken {ty : TypeName} {kind : Option Symbol.Kind} {h : SymbolId} {es : List Event}
      (type : KindRule w.symbols (types w.table) d.id d.ty ty kind es)
      (known : w.table.local? d.id.name = some h) :
      DeclareRule types w d { d with ty } w (es ++ [.reported d.id.loc .duplicateDeclaration])
  | rejected {ty : TypeName} {es : List Event}
      (type : KindRule w.symbols (types w.table) d.id d.ty ty none es)
      (free : w.table.local? d.id.name = none) :
      DeclareRule types w d { d with ty } w es
  | declared {ty : TypeName} {kind : Symbol.Kind} {target : ScopeStack} {es : List Event}
      (type : KindRule w.symbols (types w.table) d.id d.ty ty (some kind) es)
      (room : w.symbols.size < UInt32.size)
      (scope : w.table.declare d.id.name w.symbols.nextId = .ok target) :
      DeclareRule types w d { ty, id := d.id.bindTo w.symbols.nextId }
        ⟨w.symbols.push { name := d.id.name, kind } room, target⟩
        (es ++ [.declared d.id.name w.symbols.nextId])

/-- Declarations one after the other. -/
inductive DeclaresRule (types : ScopeStack → ScopeStack) :
    Names → List VarDecl → List VarDecl → Names → List Event → Prop
  | nil {w : Names} : DeclaresRule types w [] [] w []
  | cons {w w' w'' : Names} {d d' : VarDecl} {ds ds' : List VarDecl} {es fs : List Event}
      (first : DeclareRule types w d d' w' es) (rest : DeclaresRule types w' ds ds' w'' fs) :
      DeclaresRule types w (d :: ds) (d' :: ds') w'' (es ++ fs)

/-! ## Blocks and statements -/

mutual

/-- A block, in the scope that is open for it. -/
inductive BlockRule : Names → Block → Block → Names → List Event → Prop
  | mk {w w' : Names} {ds ds' : List VarDecl} {ss ss' : List Stmt} {A : Arena} {es fs : List Event}
      (decls : DeclaresRule id w ds ds' w' es) (stmts : StmtsRule w' ss ss' A fs) :
      BlockRule w (.mk ds ss) (.mk ds' ss') ⟨A, w'.table⟩ (es ++ fs)

/-- A block in a scope of its own. -/
inductive BranchRule : Names → Block → Block → Arena → List Event → Prop
  | mk {w w' : Names} {b b' : Block} {es : List Event} (inside : BlockRule w.enter b b' w' es) :
      BranchRule w b b' w'.symbols
        (.opened w.enter.table.depth :: es ++ [.closed w.table.depth])

/-- A statement. -/
inductive StmtRule : Names → Stmt → Stmt → Arena → List Event → Prop
  | simple {w : Names} {e e' : Expr} {es : List Event} (verb : Verb) (expr : ExprRule w e e' es) :
      StmtRule w (.simple verb e) (.simple verb e') w.symbols es
  | guarded {w : Names} {cond cond' : Expr} {body body' : Block} {A : Arena} {es fs : List Event}
      (guard : Guard) (expr : ExprRule w cond cond' es) (branch : BranchRule w body body' A fs) :
      StmtRule w (.guarded guard cond body) (.guarded guard cond' body') A (es ++ fs)
  | ifElse {w : Names} {cond cond' : Expr} {yes yes' no no' : Block} {A B : Arena}
      {es fs gs : List Event} (expr : ExprRule w cond cond' es) (first : BranchRule w yes yes' A fs)
      (second : BranchRule ⟨A, w.table⟩ no no' B gs) :
      StmtRule w (.ifElse cond yes no) (.ifElse cond' yes' no') B (es ++ fs ++ gs)
  | leave {w : Names} (loc : Location) : StmtRule w (.ret none loc) (.ret none loc) w.symbols []
  | ret {w : Names} {e e' : Expr} {es : List Event} (loc : Location) (expr : ExprRule w e e' es) :
      StmtRule w (.ret (some e) loc) (.ret (some e') loc) w.symbols es

/-- Statements one after the other, in the same scopes. -/
inductive StmtsRule : Names → List Stmt → List Stmt → Arena → List Event → Prop
  | nil {w : Names} : StmtsRule w [] [] w.symbols []
  | cons {w : Names} {s s' : Stmt} {ss ss' : List Stmt} {A B : Arena} {es fs : List Event}
      (first : StmtRule w s s' A es) (rest : StmtsRule ⟨A, w.table⟩ ss ss' B fs) :
      StmtsRule w (s :: ss) (s' :: ss') B (es ++ fs)

end

/-! ## Functions, structs and programs -/

/-- The return type of a function as written, and as calls of the function have it. -/
inductive ReturnRule (w : Names) : TypeName → TypeName → Ty → List Event → Prop
  | plain {ret : TypeName} (type : ∀ name, ret ≠ .struct name) :
      ReturnRule w ret ret ret.written []
  | struct {name name' : Ident} {defn : Option SymbolId} {es : List Event}
      (type : StructNameRule w.symbols w.table name name' defn es) :
      ReturnRule w (.struct name) (.struct name')
        (if defn.isSome then .struct name.name else .error) es

/-- A function with the given parameter and return types, declared unless its name is taken. -/
inductive HeadRule (w : Names) (id : Ident) (params : List Ty) (ret : Ty) :
    Ident → Names → List Event → Prop
  | taken {h : SymbolId} (known : w.table.local? id.name = some h) :
      HeadRule w id params ret id w [.reported id.loc .duplicateDeclaration]
  | declared {target : ScopeStack} (room : w.symbols.size < UInt32.size)
      (scope : w.table.declare id.name w.symbols.nextId = .ok target) :
      HeadRule w id params ret (id.bindTo w.symbols.nextId)
        ⟨w.symbols.push { name := id.name, kind := .fn params ret } room, target⟩ []

/-- The types that the declarations write down. -/
def writtenTypes (ds : List VarDecl) : List Ty := ds.map (·.ty.written)

/-- A function. -/
inductive FnRule (w : Names) (f : FnDecl) : FnDecl → Names → List Event → Prop
  | mk {ret : TypeName} {ty : Ty} {id' : Ident} {formals : List VarDecl} {body : Block}
      {w₁ w₂ w₃ : Names} {es₁ es₂ es₃ es₄ : List Event}
      (type : ReturnRule w f.ret ret ty es₁)
      (head : HeadRule w f.id (writtenTypes f.formals) ty id' w₁ es₂)
      (params : DeclaresRule id w₁.enter f.formals formals w₂ es₃)
      (inside : BlockRule w₂ f.body body w₃ es₄) :
      FnRule w f { ret, id := id', formals, body } ⟨w₃.symbols, w₁.table⟩
        (es₁ ++ es₂ ++ (.opened w₁.enter.table.depth :: es₃ ++ es₄ ++ [.closed w₁.table.depth]))

/-- A struct. -/
inductive StructRule (w : Names) (s : StructDecl) : StructDecl → Names → List Event → Prop
  | taken {h : SymbolId} {fields : List VarDecl} {w' : Names} {es : List Event}
      (known : w.table.local? s.id.name = some h)
      (all : DeclaresRule (fun _ => w.table) ⟨w.symbols, .withScope⟩ s.fields fields w' es) :
      StructRule w s { s with fields } ⟨w'.symbols, w.table⟩
        (.reported s.id.loc .duplicateDeclaration :: .opened 1 :: es)
  | declared {fields : List VarDecl} {w' : Names} {target : ScopeStack} {es : List Event}
      (all : DeclaresRule (fun _ => w.table) ⟨w.symbols, .withScope⟩ s.fields fields w' es)
      (room : w'.symbols.size < UInt32.size)
      (scope : w.table.declare s.id.name w'.symbols.nextId = .ok target) :
      StructRule w s { id := s.id.bindTo w'.symbols.nextId, fields }
        ⟨w'.symbols.push { name := s.id.name, kind := .structDef w'.table } room, target⟩
        (.opened 1 :: es ++ [.declaredStruct s.id.name w'.symbols.nextId])

/-- A declaration of the program. -/
inductive DeclRule (w : Names) : Decl → Decl → Names → List Event → Prop
  | var {d d' : VarDecl} {w' : Names} {es : List Event} (rule : DeclareRule id w d d' w' es) :
      DeclRule w (.var d) (.var d') w' es
  | fn {f f' : FnDecl} {w' : Names} {es : List Event} (rule : FnRule w f f' w' es) :
      DeclRule w (.fn f) (.fn f') w' es
  | struct {s s' : StructDecl} {w' : Names} {es : List Event} (rule : StructRule w s s' w' es) :
      DeclRule w (.struct s) (.struct s') w' es

/-- The declarations of the program one after the other. -/
inductive DeclsRule : Names → List Decl → List Decl → Names → List Event → Prop
  | nil {w : Names} : DeclsRule w [] [] w []
  | cons {w w' w'' : Names} {d d' : Decl} {ds ds' : List Decl} {es fs : List Event}
      (first : DeclRule w d d' w' es) (rest : DeclsRule w' ds ds' w'' fs) :
      DeclsRule w (d :: ds) (d' :: ds') w'' (es ++ fs)

/-! ## Parameter types that come later -/

section

variable {A : Arena} {types : ScopeStack} {h : SymbolId} {f : Symbol}

lemma StructNameRule.withParams {name name' : Ident} {defn : Option SymbolId} {es : List Event}
    (hg : A.get h = .ok f) (params : List Ty) (rule : StructNameRule A types name name' defn es) :
    StructNameRule (A.withParams h params) types name name' defn es := by
  cases rule with
  | means found symbol struct =>
      obtain ⟨d, hd, hdef⟩ := Arena.isStructDef_withParams hg params symbol
      exact .means found hd (hdef.trans struct)
  | invalid wrong =>
      refine .invalid fun k found => ?_
      obtain ⟨d, hd, hdef⟩ := wrong k found
      obtain ⟨d', hd', hdef'⟩ := Arena.isStructDef_withParams hg params hd
      exact ⟨d', hd', hdef'.trans hdef⟩

lemma KindRule.withParams {owner : Ident} {ty ty' : TypeName} {kind : Option Symbol.Kind}
    {es : List Event} (hg : A.get h = .ok f) (params : List Ty)
    (rule : KindRule A types owner ty ty' kind es) :
    KindRule (A.withParams h params) types owner ty ty' kind es := by
  cases rule with
  | int => exact .int
  | bool => exact .bool
  | void => exact .void
  | struct type => exact .struct (type.withParams hg params)

end

/-- **Formals do not see the parameter types.**  What is declared while a function has no parameter
types yet could as well be declared after it got them. -/
lemma DeclaresRule.withParams {types : ScopeStack → ScopeStack} {w w' : Names}
    {ds ds' : List VarDecl} {es : List Event} {h : SymbolId} {f : Symbol}
    (rule : DeclaresRule types w ds ds' w' es) (hg : w.symbols.get h = .ok f) (params : List Ty) :
    DeclaresRule types (w.withParams h params) ds ds' (w'.withParams h params) es := by
  induction rule with
  | nil => exact .nil
  | cons first rest ih =>
      cases first with
      | taken type known => exact .cons (.taken (type.withParams hg params) known) (ih hg)
      | rejected type free => exact .cons (.rejected (type.withParams hg params) free) (ih hg)
      | @declared _ kind target _ type room scope =>
          have hnext := Arena.nextId_withParams hg params
          have hrest := ih (Arena.grows_push _ _ room _ _ hg)
          rw [Names.withParams, ← Arena.withParams_push hg] at hrest
          rw [← hnext] at scope ⊢
          exact .cons (.declared (type.withParams hg params) _ scope) hrest

lemma KindRule.written {A : Arena} {types : ScopeStack} {owner : Ident} {ty ty' : TypeName}
    {kind : Option Symbol.Kind} {es : List Event} (rule : KindRule A types owner ty ty' kind es) :
    ty'.written = ty.written := by
  cases rule with
  | struct type => cases type <;> rfl
  | _ => rfl

/-- A declaration keeps the type that it writes down. -/
lemma DeclareRule.written {types : ScopeStack → ScopeStack} {w w' : Names} {d d' : VarDecl}
    {es : List Event} (rule : DeclareRule types w d d' w' es) :
    d'.ty.written = d.ty.written := by
  cases rule with
  | taken type known => exact type.written
  | rejected type free => exact type.written
  | declared type room scope => exact type.written

lemma DeclaresRule.writtenTypes {types : ScopeStack → ScopeStack} {w w' : Names}
    {ds ds' : List VarDecl} {es : List Event} (rule : DeclaresRule types w ds ds' w' es) :
    writtenTypes ds' = writtenTypes ds := by
  induction rule with
  | nil => rfl
  | cons first rest ih =>
      rw [Naming.writtenTypes, Naming.writtenTypes, List.map_cons, List.map_cons, first.written]
      exact congrArg _ ih

end Naming

/-! ## What every rule keeps -/

/-- Later names: the symbols of before are there, all is sound, and the outer scopes are what they
were. -/
structure Names.Extends (base : Nat) (w w' : Names) : Prop where
  grows : w.symbols.Grows w'.symbols
  sound : w'.Sound base
  outer : w'.table.scopes.tail = w.table.scopes.tail

namespace Names

variable {base : Nat} {w w' w'' : Names}

lemma Extends.refl (hw : w.Sound base) : w.Extends base w := ⟨Arena.Grows.refl _, hw, rfl⟩

lemma Extends.trans (h : w.Extends base w') (h' : w'.Extends base w'') : w.Extends base w'' :=
  ⟨h.grows.trans h'.grows, h'.sound, h'.outer.trans h.outer⟩

/-- New symbols alone, as a scope that was closed again leaves them behind. -/
lemma Sound.extends_symbols (hw : w.Sound base) {A : Arena} (hgrows : w.symbols.Grows A)
    (hA : A.Sound base) : w.Extends base ⟨A, w.table⟩ := ⟨hgrows, hw.grows hgrows hA, rfl⟩

/-- A new symbol under a name that is free. -/
lemma Sound.extends_introduce (hw : w.Sound base) {name : String} {kind : Symbol.Kind}
    {target : ScopeStack} (room : w.symbols.size < UInt32.size)
    (hk : kind.SoundIn w.symbols base w.symbols.size)
    (hd : w.table.declare name w.symbols.nextId = .ok target) :
    w.Extends base ⟨w.symbols.push { name, kind } room, target⟩ :=
  ⟨Arena.grows_push _ _ room, hw.introduce room hk hd, ScopeStack.tail_of_declare hd⟩

end Names

namespace Naming

variable {base : Nat}

/-- Whatever is declared, struct types are looked up in sound scopes. -/
def SoundTypes (base : Nat) (types : ScopeStack → ScopeStack) (A : Arena) : Prop :=
  ∀ w : Names, A.Grows w.symbols → w.Sound base → Names.Sound base ⟨w.symbols, types w.table⟩

lemma soundTypes_id (A : Arena) : SoundTypes base id A := fun _ _ hw => hw

lemma soundTypes_const {w : Names} (hw : w.Sound base) :
    SoundTypes base (fun _ => w.table) w.symbols :=
  fun _ hgrows hw' => hw.grows hgrows hw'.arena

lemma SoundTypes.grows {types : ScopeStack → ScopeStack} {A B : Arena}
    (h : SoundTypes base types A) (hAB : A.Grows B) : SoundTypes base types B :=
  fun w hB hw => h w (hAB.trans hB) hw

/-- A struct name is bound to a struct definition that lies from `base` on. -/
lemma StructNameRule.definition {A : Arena} {types : ScopeStack} {name name' : Ident}
    {h : SymbolId} {es : List Event} (hw : Names.Sound base ⟨A, types⟩)
    (rule : StructNameRule A types name name' (some h) es) :
    base ≤ h.index ∧ ∃ d, A.get h = .ok d ∧ d.isStructDef = true := by
  cases rule with
  | means found symbol struct =>
      obtain ⟨hbase, -⟩ := hw.named _ _ (ScopeStack.binds_of_find? found)
      exact ⟨hbase, _, symbol, struct⟩

/-- The kind of a variable refers to what is there already. -/
lemma KindRule.soundIn {A : Arena} {types : ScopeStack} {owner : Ident} {ty ty' : TypeName}
    {kind : Symbol.Kind} {es : List Event} (hw : Names.Sound base ⟨A, types⟩)
    (rule : KindRule A types owner ty ty' (some kind) es) : kind.SoundIn A base A.size := by
  generalize hkind : some kind = kind? at rule
  cases rule with
  | int => obtain rfl := Option.some.inj hkind; exact Or.inl rfl
  | bool => obtain rfl := Option.some.inj hkind; exact Or.inr rfl
  | void => cases hkind
  | @struct _ _ defn _ type =>
      cases defn with
      | none => cases hkind
      | some h =>
          obtain rfl := Option.some.inj hkind
          obtain ⟨hbase, d, hd, hdef⟩ := type.definition hw
          exact ⟨hbase, Arena.lt_of_get hd, d, hd, hdef⟩

lemma DeclareRule.extends {types : ScopeStack → ScopeStack} {w w' : Names} {d d' : VarDecl}
    {es : List Event} (rule : DeclareRule types w d d' w' es)
    (ht : SoundTypes base types w.symbols) (hw : w.Sound base) : w.Extends base w' := by
  cases rule with
  | taken type known => exact .refl hw
  | rejected type free => exact .refl hw
  | declared type room scope =>
      exact hw.extends_introduce room (type.soundIn (ht w (.refl _) hw)) scope

lemma DeclaresRule.extends {types : ScopeStack → ScopeStack} {w w' : Names} {ds ds' : List VarDecl}
    {es : List Event} (rule : DeclaresRule types w ds ds' w' es)
    (ht : SoundTypes base types w.symbols) (hw : w.Sound base) : w.Extends base w' := by
  induction rule with
  | nil => exact .refl hw
  | cons first rest ih =>
      have hfirst := first.extends ht hw
      exact hfirst.trans (ih (ht.grows hfirst.grows) hfirst.sound)

/-- Declarations whose struct types are looked up among themselves and around them. -/
lemma DeclaresRule.extends_here {w w' : Names} {ds ds' : List VarDecl} {es : List Event}
    (rule : DeclaresRule id w ds ds' w' es) (hw : w.Sound base) : w.Extends base w' :=
  rule.extends (soundTypes_id _) hw

mutual

theorem BlockRule.extends : ∀ {w w' : Names} {b b' : Block} {es : List Event},
    BlockRule w b b' w' es → w.Sound base → w.Extends base w'
  | _, _, _, _, _, .mk decls stmts, hw => by
      have hdecls := decls.extends_here hw
      exact hdecls.trans (stmts.extends hdecls.sound)

theorem BranchRule.extends : ∀ {w : Names} {A : Arena} {b b' : Block} {es : List Event},
    BranchRule w b b' A es → w.Sound base → w.Extends base ⟨A, w.table⟩
  | _, _, _, _, _, .mk inside, hw => by
      have hinside := inside.extends hw.enter
      exact hw.extends_symbols hinside.grows hinside.sound.arena

theorem StmtRule.extends : ∀ {w : Names} {A : Arena} {s s' : Stmt} {es : List Event},
    StmtRule w s s' A es → w.Sound base → w.Extends base ⟨A, w.table⟩
  | _, _, _, _, _, .simple _ _, hw => .refl hw
  | _, _, _, _, _, .guarded _ _ branch, hw => branch.extends hw
  | _, _, _, _, _, .ifElse _ first second, hw => by
      have hfirst := first.extends hw
      exact hfirst.trans (second.extends hfirst.sound)
  | _, _, _, _, _, .leave _, hw => .refl hw
  | _, _, _, _, _, .ret _ _, hw => .refl hw

theorem StmtsRule.extends : ∀ {w : Names} {A : Arena} {ss ss' : List Stmt} {es : List Event},
    StmtsRule w ss ss' A es → w.Sound base → w.Extends base ⟨A, w.table⟩
  | _, _, _, _, _, .nil, hw => .refl hw
  | _, _, _, _, _, .cons first rest, hw => by
      have hfirst := first.extends hw
      exact hfirst.trans (rest.extends hfirst.sound)

end

lemma isWritten_written (ty : TypeName) : ty.written.isWritten = true := by
  cases ty <;> rfl

lemma isWritten_of_mem_writtenTypes {ds : List VarDecl} {ty : Ty} (h : ty ∈ writtenTypes ds) :
    ty.isWritten = true := by
  obtain ⟨d, -, rfl⟩ := List.mem_map.1 h
  exact isWritten_written d.ty

lemma ReturnRule.isWritten {w : Names} {ret ret' : TypeName} {ty : Ty} {es : List Event}
    (rule : ReturnRule w ret ret' ty es) : ty.isWritten = true ∨ ty = .error := by
  cases rule with
  | plain type => exact Or.inl (isWritten_written ret)
  | @struct _ _ defn _ type =>
      cases defn with
      | none => exact Or.inr rfl
      | some h => exact Or.inl rfl

lemma HeadRule.extends {w w' : Names} {id id' : Ident} {params : List Ty} {ret : Ty}
    {es : List Event} (rule : HeadRule w id params ret id' w' es)
    (hparams : ∀ ty ∈ params, ty.isWritten = true) (hret : ret.isWritten = true ∨ ret = .error)
    (hw : w.Sound base) : w.Extends base w' := by
  cases rule with
  | taken known => exact .refl hw
  | declared room scope => exact hw.extends_introduce room ⟨hparams, hret⟩ scope

/-- The head of a function, with the types that its formals and its result are written with. -/
lemma HeadRule.extends_of_type {w w' : Names} {id id' : Ident} {ds : List VarDecl}
    {ret ret' : TypeName} {ty : Ty} {es fs : List Event}
    (rule : HeadRule w id (writtenTypes ds) ty id' w' es) (type : ReturnRule w ret ret' ty fs)
    (hw : w.Sound base) : w.Extends base w' :=
  rule.extends (fun _ => isWritten_of_mem_writtenTypes) type.isWritten hw

lemma FnRule.extends {w w' : Names} {f f' : FnDecl} {es : List Event}
    (rule : FnRule w f f' w' es) (hw : w.Sound base) : w.Extends base w' := by
  cases rule with
  | mk type head params inside =>
      have hhead := head.extends_of_type type hw
      have hparams := params.extends_here hhead.sound.enter
      have hinside := hparams.trans (inside.extends hparams.sound)
      exact hhead.trans (hhead.sound.extends_symbols hinside.grows hinside.sound.arena)

/-- The fields of a struct make later names: nothing is declared in the scopes around it. -/
lemma DeclaresRule.extends_around {w w' : Names} {ds ds' : List VarDecl} {es : List Event}
    (rule : DeclaresRule (fun _ => w.table) ⟨w.symbols, .withScope⟩ ds ds' w' es)
    (hw : w.Sound base) : w'.Sound base ∧ w.Extends base ⟨w'.symbols, w.table⟩ := by
  have hfields := rule.extends (soundTypes_const hw) hw.withScope
  exact ⟨hfields.sound, hw.extends_symbols hfields.grows hfields.sound.arena⟩

lemma StructRule.extends {w w' : Names} {s s' : StructDecl} {es : List Event}
    (rule : StructRule w s s' w' es) (hw : w.Sound base) : w.Extends base w' := by
  cases rule with
  | taken known all => exact (all.extends_around hw).2
  | declared all room scope =>
      obtain ⟨hfields, haround⟩ := all.extends_around hw
      refine haround.trans (haround.sound.extends_introduce room ⟨hfields.opened, ?_⟩ scope)
      intro name h hb
      obtain ⟨hbase, field, hg, hname⟩ := hfields.named name h hb
      exact ⟨hbase, Arena.lt_of_get hg, field, hg, hname⟩

lemma DeclRule.extends {w w' : Names} {d d' : Decl} {es : List Event}
    (rule : DeclRule w d d' w' es) (hw : w.Sound base) : w.Extends base w' := by
  cases rule with
  | var rule => exact rule.extends (soundTypes_id _) hw
  | fn rule => exact rule.extends hw
  | struct rule => exact rule.extends hw

theorem DeclsRule.extends {w w' : Names} {ds ds' : List Decl} {es : List Event}
    (rule : DeclsRule w ds ds' w' es) (hw : w.Sound base) : w.Extends base w' := by
  induction rule with
  | nil => exact .refl hw
  | cons first rest ih =>
      have hfirst := first.extends hw
      exact hfirst.trans (ih hfirst.sound)

end Naming

end StructLang
