import Mathlib.Tactic.Common
import StructLang.Proofs.Relabeling
import StructLang.Proofs.Sizes

/-!
# Name resolution of relabeled trees

Name resolution looks at a name only to compare it with other names, at a handle only to fetch its
symbol, and at a place not at all.  So it does the same to a relabeled tree, in names that mirror
those of before (`Names.Mirrors`): every rule that applies to a tree applies to the relabeled tree
too, and what it makes of it is relabeled in the same way, the events included.

Mirrored names may hold other symbols as well, `n` of them.  What is asked is that all symbols of
before are there under their new handles, and that symbols which are allocated from now on get
handles that correspond.  The other symbols take handles away, so a rule carries over only if there
are enough left: in the end the symbols of before and the `n` others must still have a handle each.
-/

namespace StructLang

variable {T : Relabeling}

/-! ## Scopes -/

lemma Scope.find?_relabel (scope : Scope) (name : String) :
    (scope.relabel T).find? (T.name name) = (scope.find? name).map T.handle := by
  obtain ⟨entries, distinct⟩ := scope
  show List.lookup (T.name name) (entries.map _) = (entries.lookup name).map T.handle
  clear distinct
  induction entries with
  | nil => rfl
  | cons entry entries ih =>
      obtain ⟨other, h⟩ := entry
      rw [List.map_cons, List.lookup_cons, List.lookup_cons]
      by_cases heq : name = other
      · subst heq
        simp
      · have hne : T.name name ≠ T.name other := fun h => heq (T.injective h)
        rw [beq_false_of_ne heq, beq_false_of_ne hne]
        exact ih

lemma Scope.mem_names_relabel {scope : Scope} {name : String} :
    T.name name ∈ (scope.relabel T).names ↔ name ∈ scope.names := by
  have hfind := scope.find?_relabel (T := T) name
  rw [← not_iff_not, ← Scope.find?_eq_none_iff, ← Scope.find?_eq_none_iff, hfind,
    Option.map_eq_none_iff]

namespace ScopeStack

variable {stack target : ScopeStack} {name : String} {h : SymbolId}

lemma find?_relabel (stack : ScopeStack) (name : String) :
    (stack.relabel T).find? (T.name name) = (stack.find? name).map T.handle := by
  obtain ⟨scopes⟩ := stack
  show (scopes.map _).findSome? _ = (scopes.findSome? _).map T.handle
  rw [List.findSome?_map, List.map_findSome?]
  exact congrArg (List.findSome? · scopes) (funext fun scope => scope.find?_relabel name)

lemma local?_relabel (stack : ScopeStack) (name : String) :
    (stack.relabel T).local? (T.name name) = (stack.local? name).map T.handle := by
  obtain ⟨scopes⟩ := stack
  cases scopes with
  | nil => rfl
  | cons scope outer => exact scope.find?_relabel name

lemma declare_relabel (hd : stack.declare name h = .ok target) :
    (stack.relabel T).declare (T.name name) (T.handle h) = .ok (target.relabel T) := by
  obtain ⟨scopes⟩ := stack
  cases scopes with
  | nil => cases hd
  | cons scope outer =>
      by_cases hname : name ∈ scope.names
      · simp only [declare, dif_pos hname, reduceCtorEq] at hd
      · simp only [declare, dif_neg hname, Except.ok.injEq] at hd
        subst hd
        exact dif_neg fun hmem => hname (Scope.mem_names_relabel.1 hmem)

@[simp] lemma depth_relabel (stack : ScopeStack) : (stack.relabel T).depth = stack.depth :=
  List.length_map _

end ScopeStack

/-! ## Arenas -/

@[simp] lemma Symbol.isStructDef_relabel (symbol : Symbol) :
    (symbol.relabel T).isStructDef = symbol.isStructDef := by
  obtain ⟨name, kind⟩ := symbol
  cases kind <;> rfl

namespace Relabeling

/-- All symbols of the first arena are in the second, relabeled and under their new handles. -/
def Maps (T : Relabeling) (A B : Arena) : Prop :=
  ∀ h symbol, A.get h = .ok symbol → B.get (T.handle h) = .ok (symbol.relabel T)

/-- The second arena has the symbols of the first and `n` others, and symbols that both allocate
from now on get corresponding handles. -/
structure Mirrors (T : Relabeling) (n : Nat) (A B : Arena) : Prop where
  maps : T.Maps A B
  size : B.size = A.size + n
  next : ∀ i, A.size ≤ i → i + n < UInt32.size → T.handle (.ofIndex i) = .ofIndex (i + n)

variable {n : Nat} {A B : Arena}

lemma Maps.typeOf {h : SymbolId} {ty : Ty} (hm : T.Maps A B) (ht : A.typeOf h = .ok ty) :
    B.typeOf (T.handle h) = .ok (ty.relabel T) := by
  cases hg : A.get h with
  | error fault => simp only [Arena.typeOf, hg] at ht; cases ht
  | ok symbol =>
      obtain ⟨name, kind⟩ := symbol
      simp only [Arena.typeOf, hg, hm h _ hg] at ht ⊢
      cases kind with
      | structVar defn =>
          cases hd : A.get defn with
          | error fault => simp only [bind, Except.bind, hd] at ht; cases ht
          | ok d =>
              simp only [bind, Except.bind, hd] at ht
              obtain rfl := Except.ok.inj ht
              simp only [Symbol.relabel, Symbol.Kind.relabel, bind, Except.bind, hm defn d hd]
              rfl
      | _ => obtain rfl := Except.ok.inj ht; rfl

lemma Maps.fieldsOf {h : SymbolId} {fields : Option ScopeStack} (hm : T.Maps A B)
    (hf : A.fieldsOf h = .ok fields) :
    B.fieldsOf (T.handle h) = .ok (fields.map (·.relabel T)) := by
  cases hg : A.get h with
  | error fault => simp only [Arena.fieldsOf, hg] at hf; cases hf
  | ok symbol =>
      obtain ⟨name, kind⟩ := symbol
      simp only [Arena.fieldsOf, hg, hm h _ hg] at hf ⊢
      cases kind with
      | structVar defn =>
          cases hd : A.get defn with
          | error fault => simp only [bind, Except.bind, hd] at hf; cases hf
          | ok d =>
              obtain ⟨dname, dkind⟩ := d
              simp only [bind, Except.bind, hd] at hf
              simp only [Symbol.relabel, Symbol.Kind.relabel, bind, Except.bind, hm defn _ hd]
              cases dkind with
              | structDef table => obtain rfl := Except.ok.inj hf; rfl
              | _ => cases hf
      | _ => obtain rfl := Except.ok.inj hf; rfl

lemma Mirrors.nextId (hm : T.Mirrors n A B) (room : B.size < UInt32.size) :
    T.handle A.nextId = B.nextId := by
  rw [Arena.nextId, Arena.nextId, hm.next A.size (Nat.le_refl _) (hm.size ▸ room), hm.size]

/-- Without a symbol on either side, any handles correspond that are counted from zero. -/
lemma mirrors_empty (hid : T.handle = id) : T.Mirrors 0 {} {} where
  maps _ _ hg := absurd hg Arena.get_empty_ne_ok
  size := rfl
  next i _ _ := by rw [hid]; rfl

/-- Both arenas allocate a symbol. -/
lemma Mirrors.push (hm : T.Mirrors n A B) (symbol : Symbol) (room : A.size < UInt32.size)
    (room' : B.size < UInt32.size) :
    T.Mirrors n (A.push symbol room) (B.push (symbol.relabel T) room') where
  maps h other hg := by
    rw [Arena.get_push_eq_ok_iff] at hg ⊢
    rcases hg with hg | ⟨rfl, rfl⟩
    · exact Or.inl (hm.maps h other hg)
    · exact Or.inr ⟨hm.nextId room', rfl⟩
  size := by
    rw [Arena.size_push, Arena.size_push, hm.size]
    exact Nat.add_right_comm _ _ _
  next i hi := hm.next i (Nat.le_of_succ_le (by rwa [Arena.size_push] at hi))

end Relabeling

/-! ### New handles for later symbols

A sound arena has no handles but those of its own symbols.  If these stay, then so do the symbols.
-/

section

variable {f : SymbolId → SymbolId} {A B : Arena} {base limit : Nat}

lemma Scope.find?_of_mem {scope : Scope} {name : String} {h : SymbolId}
    (hmem : (name, h) ∈ scope.entries) : scope.find? name = some h := by
  obtain ⟨entries, distinct⟩ := scope
  show entries.lookup name = some h
  change (name, h) ∈ entries at hmem
  induction entries with
  | nil => cases hmem
  | cons entry entries ih =>
      obtain ⟨other, k⟩ := entry
      rw [List.map_cons, List.nodup_cons] at distinct
      rw [List.lookup_cons]
      rcases List.mem_cons.1 hmem with heq | hrest
      · obtain ⟨rfl, rfl⟩ := Prod.mk.inj heq
        rw [beq_self_eq_true]
      · have hne : name ≠ other := by
          rintro rfl
          exact distinct.1 (List.mem_map.2 ⟨_, hrest, rfl⟩)
        rw [beq_false_of_ne hne]
        exact ih distinct.2 hrest

lemma Scope.relabel_eq_self {scope : Scope}
    (h : ∀ name k, scope.find? name = some k → f k = k) :
    scope.relabel (.ofHandles f) = scope := by
  have hentries : scope.entries.map (fun entry => (entry.1, f entry.2)) = scope.entries := by
    have hself : ∀ entry ∈ scope.entries, (entry.1, f entry.2) = entry := fun entry hmem =>
      congrArg (Prod.mk entry.1) (h _ _ (Scope.find?_of_mem hmem))
    rw [List.map_congr_left hself, List.map_id']
  obtain ⟨entries, distinct⟩ := scope
  simp only [relabel, Scope.mk.injEq]
  exact hentries

lemma ScopeStack.relabel_eq_self {stack : ScopeStack}
    (h : ∀ name k, stack.Binds name k → f k = k) : stack.relabel (.ofHandles f) = stack := by
  have hself : ∀ scope ∈ stack.scopes, scope.relabel (.ofHandles f) = scope := fun scope hmem =>
    Scope.relabel_eq_self fun name k hfind => h name k ⟨scope, hmem, hfind⟩
  exact congrArg ScopeStack.mk (by rw [List.map_congr_left hself, List.map_id'])

lemma Symbol.relabel_eq_self {symbol : Symbol} (hs : symbol.kind.SoundIn A base limit)
    (hf : ∀ k, k.index < limit → f k = k) : symbol.relabel (.ofHandles f) = symbol := by
  obtain ⟨name, kind⟩ := symbol
  refine congrArg (Symbol.mk name) ?_
  cases kind with
  | var ty => exact congrArg Kind.var ty.relabel_ofHandles
  | structDef fields =>
      exact congrArg Kind.structDef
        (ScopeStack.relabel_eq_self fun name k hb => hf k (hs.2 name k hb).2.1)
  | structVar defn => exact congrArg Kind.structVar (hf defn hs.2.1)
  | fn params ret =>
      exact congrArg₂ Kind.fn (Ty.relabelAll_ofHandles params) ret.relabel_ofHandles

/-- Later arenas have the symbols of before under their handles, whatever becomes of other
handles. -/
lemma Arena.Grows.maps (hAB : A.Grows B) (hA : A.Sound 0) (hf : ∀ k, k.index < A.size → f k = k) :
    (Relabeling.ofHandles f).Maps A B := by
  intro h symbol hg
  have hlt : h.index < A.size := Arena.lt_of_get hg
  have hsymbol : symbol.relabel (.ofHandles f) = symbol :=
    Symbol.relabel_eq_self (hA h symbol (Nat.zero_le _) hg) fun k hk => hf k (Nat.lt_trans hk hlt)
  show B.get (f h) = _
  rw [hf h hlt, hsymbol]
  exact hAB h symbol hg

lemma Names.Sound.relabel_table {w : Names} (hw : w.Sound base)
    (hf : ∀ k, k.index < w.symbols.size → f k = k) :
    w.table.relabel (.ofHandles f) = w.table :=
  ScopeStack.relabel_eq_self fun name k hb => by
    obtain ⟨-, symbol, hg, -⟩ := hw.named name k hb
    exact hf k (Arena.lt_of_get hg)

end

/-! ## Declarations

A relabeled tree declares as much as the tree, so it needs as many handles.
-/

mutual

theorem Block.declCount_relabel : ∀ b : Block, (b.relabel T).declCount = b.declCount
  | .mk decls stmts => by
      rw [Block.relabel, Block.declCount, Block.declCount, List.length_map,
        Stmt.declCountOfAll_relabelAll stmts]

theorem Stmt.declCount_relabel : ∀ s : Stmt, (s.relabel T).declCount = s.declCount
  | .simple _ _ | .ret none _ | .ret (some _) _ => rfl
  | .guarded _ _ body => body.declCount_relabel
  | .ifElse _ yes no => congrArg₂ (· + ·) yes.declCount_relabel no.declCount_relabel

theorem Stmt.declCountOfAll_relabelAll : ∀ ss : List Stmt,
    Stmt.declCountOfAll (Stmt.relabelAll T ss) = Stmt.declCountOfAll ss
  | [] => rfl
  | s :: ss => congrArg₂ (· + ·) s.declCount_relabel (Stmt.declCountOfAll_relabelAll ss)

end

lemma Decl.declCount_relabel (d : Decl) : (d.relabel T).declCount = d.declCount := by
  cases d with
  | var d => rfl
  | struct s => simp only [relabel, StructDecl.relabel, declCount, List.length_map]
  | fn f =>
      simp only [relabel, FnDecl.relabel, declCount, List.length_map, Block.declCount_relabel]

lemma Program.declCount_relabel (p : Program) : (p.relabel T).declCount = p.declCount := by
  obtain ⟨ds⟩ := p
  induction ds with
  | nil => rfl
  | cons d ds ih => exact congrArg₂ (· + ·) d.declCount_relabel ih

/-! ## Names -/

/-- Mirrored symbols and the same scopes, relabeled. -/
structure Names.Mirrors (T : Relabeling) (n : Nat) (w v : Names) : Prop where
  symbols : T.Mirrors n w.symbols v.symbols
  table : v.table = w.table.relabel T

namespace Names.Mirrors

variable {n : Nat} {w v : Names}

lemma enter (hm : Names.Mirrors T n w v) : Names.Mirrors T n w.enter v.enter :=
  ⟨hm.symbols, by rw [table_enter, table_enter, hm.table]; rfl⟩

lemma depth_enter (hm : Names.Mirrors T n w v) : v.enter.table.depth = w.enter.table.depth := by
  rw [hm.enter.table, ScopeStack.depth_relabel]

lemma depth (hm : Names.Mirrors T n w v) : v.table.depth = w.table.depth := by
  rw [hm.table, ScopeStack.depth_relabel]

lemma withScope (hm : Names.Mirrors T n w v) :
    Names.Mirrors T n ⟨w.symbols, .withScope⟩ ⟨v.symbols, .withScope⟩ := ⟨hm.symbols, rfl⟩

/-- Later symbols with the scopes of before. -/
lemma later {A B : Arena} (hm : Names.Mirrors T n w v) (hAB : T.Mirrors n A B) :
    Names.Mirrors T n ⟨A, w.table⟩ ⟨B, v.table⟩ := ⟨hAB, hm.table⟩

lemma find? (hm : Names.Mirrors T n w v) (name : String) :
    v.table.find? (T.name name) = (w.table.find? name).map T.handle := by
  rw [hm.table, ScopeStack.find?_relabel]

lemma local? (hm : Names.Mirrors T n w v) (name : String) :
    v.table.local? (T.name name) = (w.table.local? name).map T.handle := by
  rw [hm.table, ScopeStack.local?_relabel]

/-- Both declare a name for the symbol that they allocate, if there is a handle for it in the
second. -/
lemma declare (hm : Names.Mirrors T n w v) {name : String} {target : ScopeStack}
    {kind : Symbol.Kind} {room : w.symbols.size < UInt32.size}
    (hd : w.table.declare name w.symbols.nextId = .ok target)
    (fits : (w.symbols.push { name, kind } room).size + n ≤ UInt32.size) :
    ∃ room' : v.symbols.size < UInt32.size, T.handle w.symbols.nextId = v.symbols.nextId ∧
      v.table.declare (T.name name) v.symbols.nextId = .ok (target.relabel T) ∧
        Names.Mirrors T n ⟨w.symbols.push { name, kind } room, target⟩
          ⟨v.symbols.push { name := T.name name, kind := kind.relabel T } room',
            target.relabel T⟩ := by
  have room' : v.symbols.size < UInt32.size := by
    rw [Arena.size_push] at fits
    have hsize := hm.symbols.size
    omega
  refine ⟨room', hm.symbols.nextId room', ?_, hm.symbols.push _ room room', rfl⟩
  rw [hm.table, ← hm.symbols.nextId room']
  exact ScopeStack.declare_relabel hd

end Names.Mirrors

/-- What a dot starts from, with its handle exchanged. -/
def Base.relabel (T : Relabeling) : Base → Base
  | .failed => .failed
  | .symbol h => .symbol (T.handle h)
  | .nothing => .nothing

lemma Expr.asBase_relabel (e : Expr) : (e.relabel T).asBase = e.asBase.relabel T := by
  cases e with
  | name id note =>
      simp only [relabel, asBase, Ident.symbol?_relabel]
      cases id.symbol? <;> rfl
  | dot base field failed note =>
      cases failed with
      | true => rfl
      | false =>
          simp only [relabel, asBase, Ident.symbol?_relabel]
          cases field.symbol? <;> rfl
  | _ => rfl

lemma TypeName.written_relabel (ty : TypeName) :
    (ty.relabel T).written = ty.written.relabel T := by
  cases ty <;> rfl

namespace Naming

variable {n : Nat} {w v : Names} {A B : Arena}

/-! ## Uses -/

lemma UseRule.relabel {id id' : Ident} {es : List Event} (rule : UseRule w id id' es)
    (hm : Names.Mirrors T n w v) :
    UseRule v (id.relabel T) (id'.relabel T) (es.map (·.relabel T)) := by
  have hfind := hm.find? id.name
  cases rule with
  | bound found => exact .bound (hfind.trans (congrArg _ found))
  | undeclared missing => exact .undeclared (hfind.trans (congrArg _ missing))

lemma FieldRule.relabel {base : Expr} {field field' : Ident} {failed failed' : Bool}
    {es : List Event} (rule : FieldRule A base field failed field' failed' es) (hm : T.Maps A B) :
    FieldRule B (base.relabel T) (field.relabel T) failed (field'.relabel T) failed'
      (es.map (·.relabel T)) := by
  have hbase := base.asBase_relabel (T := T)
  cases rule with
  | skipped wrong => exact .skipped (by rw [hbase, wrong]; rfl)
  | noStruct wrong =>
      refine .noStruct ?_
      rcases wrong with hnothing | ⟨h, symbol, hnone⟩
      · exact Or.inl (by rw [hbase, hnothing]; rfl)
      · exact Or.inr ⟨T.handle h, by rw [hbase, symbol]; rfl, hm.fieldsOf hnone⟩
  | @unknown h fields symbol struct missing =>
      exact .unknown (by rw [hbase, symbol]; rfl) (hm.fieldsOf struct)
        ((fields.find?_relabel _).trans (congrArg _ missing))
  | @selected h k fields symbol struct found =>
      exact .selected (by rw [hbase, symbol]; rfl) (hm.fieldsOf struct)
        ((fields.find?_relabel _).trans (congrArg _ found))

mutual

theorem ExprRule.relabel (hm : Names.Mirrors T n w v) : ∀ {e e' : Expr} {es : List Event},
    ExprRule w e e' es → ExprRule v (e.relabel T) (e'.relabel T) (es.map (·.relabel T))
  | _, _, _, .lit value note => .lit value _
  | _, _, _, .name note use => .name _ (use.relabel hm)
  | _, _, _, .dot note first second => by
      rw [List.map_append]
      exact .dot _ (first.relabel hm) (second.relabel hm.symbols.maps)
  | _, _, _, .assign note left right => by
      rw [List.map_append]
      exact .assign _ (left.relabel hm) (right.relabel hm)
  | _, _, _, .call note use all => by
      rw [List.map_append]
      exact .call _ (use.relabel hm) (all.relabel hm)
  | _, _, _, .unary op note inner => .unary op _ (inner.relabel hm)
  | _, _, _, .binary op note first second => by
      rw [List.map_append]
      exact .binary op _ (first.relabel hm) (second.relabel hm)

theorem ArgsRule.relabel (hm : Names.Mirrors T n w v) : ∀ {args args' : List Expr}
    {es : List Event},
    ArgsRule w args args' es →
      ArgsRule v (Expr.relabelAll T args) (Expr.relabelAll T args') (es.map (·.relabel T))
  | _, _, _, .nil => .nil
  | _, _, _, .cons first rest => by
      rw [List.map_append]
      exact .cons (first.relabel hm) (rest.relabel hm)

end

/-! ## Declarations -/

lemma StructNameRule.relabel {types : ScopeStack} {name name' : Ident} {defn : Option SymbolId}
    {es : List Event} (rule : StructNameRule A types name name' defn es) (hm : T.Maps A B) :
    StructNameRule B (types.relabel T) (name.relabel T) (name'.relabel T) (defn.map T.handle)
      (es.map (·.relabel T)) := by
  have hfind := types.find?_relabel (T := T) name.name
  cases rule with
  | @means h d found symbol struct =>
      exact .means (hfind.trans (congrArg _ found)) (hm h d symbol)
        ((Symbol.isStructDef_relabel d).trans struct)
  | invalid wrong =>
      refine .invalid fun k hk => ?_
      obtain ⟨h, found, rfl⟩ := Option.map_eq_some_iff.1 (hfind.symm.trans hk)
      obtain ⟨d, symbol, hno⟩ := wrong h found
      exact ⟨d.relabel T, hm h d symbol, (Symbol.isStructDef_relabel d).trans hno⟩

lemma KindRule.relabel {types : ScopeStack} {owner : Ident} {ty ty' : TypeName}
    {kind : Option Symbol.Kind} {es : List Event} (rule : KindRule A types owner ty ty' kind es)
    (hm : T.Maps A B) :
    KindRule B (types.relabel T) (owner.relabel T) (ty.relabel T) (ty'.relabel T)
      (kind.map (·.relabel T)) (es.map (·.relabel T)) := by
  cases rule with
  | int => exact .int
  | bool => exact .bool
  | void => exact .void
  | @struct _ _ defn _ type =>
      have hkind : (defn.map Symbol.Kind.structVar).map (·.relabel T) =
          (defn.map T.handle).map Symbol.Kind.structVar := by
        cases defn <;> rfl
      rw [hkind]
      exact .struct (type.relabel hm)

/-- Struct types are looked up in scopes that correspond. -/
def TypesMirror (T : Relabeling) (types types' : ScopeStack → ScopeStack) : Prop :=
  ∀ table, types' (table.relabel T) = (types table).relabel T

lemma DeclareRule.relabel {types types' : ScopeStack → ScopeStack} {w' : Names} {d d' : VarDecl}
    {es : List Event} (rule : DeclareRule types w d d' w' es) (ht : TypesMirror T types types')
    (hm : Names.Mirrors T n w v) (fits : w'.symbols.size + n ≤ UInt32.size) :
    ∃ v', DeclareRule types' v (d.relabel T) (d'.relabel T) v' (es.map (·.relabel T)) ∧
      Names.Mirrors T n w' v' := by
  have hlocal := hm.local? d.id.name
  have htypes : types' v.table = (types w.table).relabel T := by rw [hm.table, ht]
  cases rule with
  | taken type known =>
      have htype := type.relabel hm.symbols.maps
      rw [← htypes] at htype
      rw [List.map_append]
      exact ⟨v, .taken htype (hlocal.trans (congrArg _ known)), hm⟩
  | rejected type free =>
      have htype := type.relabel hm.symbols.maps
      rw [← htypes] at htype
      exact ⟨v, .rejected htype (hlocal.trans (congrArg _ free)), hm⟩
  | @declared ty kind target _ type room scope =>
      have htype := type.relabel hm.symbols.maps
      rw [← htypes] at htype
      obtain ⟨room', hnext, hscope, hafter⟩ := hm.declare scope fits
      have hrule := DeclareRule.declared (d := d.relabel T) htype room' hscope
      rw [← hnext] at hrule
      rw [List.map_append]
      exact ⟨_, hrule, hafter⟩

lemma DeclaresRule.relabel {types types' : ScopeStack → ScopeStack} {w' : Names}
    {ds ds' : List VarDecl} {es : List Event} (rule : DeclaresRule types w ds ds' w' es)
    (ht : TypesMirror T types types') (hm : Names.Mirrors T n w v)
    (fits : w'.symbols.size + n ≤ UInt32.size) :
    ∃ v', DeclaresRule types' v (ds.map (·.relabel T)) (ds'.map (·.relabel T)) v'
      (es.map (·.relabel T)) ∧ Names.Mirrors T n w' v' := by
  induction rule generalizing v with
  | nil => exact ⟨v, .nil, hm⟩
  | cons first rest ih =>
      obtain ⟨v₁, hfirst, hm₁⟩ := first.relabel ht hm (rest.growsBy.fits fits)
      obtain ⟨v₂, hrest, hm₂⟩ := ih hm₁ fits
      rw [List.map_append]
      exact ⟨v₂, .cons hfirst hrest, hm₂⟩

lemma typesMirror_id : TypesMirror T id id := fun _ => rfl

/-! ## Blocks and statements -/

mutual

theorem BlockRule.relabel : ∀ {w v w' : Names} {b b' : Block} {es : List Event},
    BlockRule w b b' w' es → Names.Mirrors T n w v → w'.symbols.size + n ≤ UInt32.size →
      ∃ v', BlockRule v (b.relabel T) (b'.relabel T) v' (es.map (·.relabel T)) ∧
        Names.Mirrors T n w' v'
  | _, _, _, _, _, _, .mk decls stmts, hm, fits => by
      obtain ⟨v₁, hdecls, hm₁⟩ := decls.relabel typesMirror_id hm (stmts.growsBy.fits fits)
      obtain ⟨B, hstmts, hB⟩ := stmts.relabel hm₁ fits
      rw [List.map_append]
      exact ⟨_, .mk hdecls hstmts, hm₁.later hB⟩

theorem BranchRule.relabel : ∀ {w v : Names} {A : Arena} {b b' : Block} {es : List Event},
    BranchRule w b b' A es → Names.Mirrors T n w v → A.size + n ≤ UInt32.size →
      ∃ B, BranchRule v (b.relabel T) (b'.relabel T) B (es.map (·.relabel T)) ∧ T.Mirrors n A B
  | _, _, _, _, _, _, .mk inside, hm, fits => by
      obtain ⟨v₁, hinside, hm₁⟩ := inside.relabel hm.enter fits
      have hrule := BranchRule.mk hinside
      rw [hm.depth_enter, hm.depth] at hrule
      rw [List.map_append, List.map_cons]
      exact ⟨_, hrule, hm₁.symbols⟩

theorem StmtRule.relabel : ∀ {w v : Names} {A : Arena} {s s' : Stmt} {es : List Event},
    StmtRule w s s' A es → Names.Mirrors T n w v → A.size + n ≤ UInt32.size →
      ∃ B, StmtRule v (s.relabel T) (s'.relabel T) B (es.map (·.relabel T)) ∧ T.Mirrors n A B
  | _, _, _, _, _, _, .simple verb expr, hm, _ => ⟨_, .simple verb (expr.relabel hm), hm.symbols⟩
  | _, _, _, _, _, _, .guarded guard expr branch, hm, fits => by
      obtain ⟨B, hbranch, hB⟩ := branch.relabel hm fits
      rw [List.map_append]
      exact ⟨B, .guarded guard (expr.relabel hm) hbranch, hB⟩
  | _, _, _, _, _, _, .ifElse expr first second, hm, fits => by
      obtain ⟨B, hfirst, hB⟩ := first.relabel hm (second.growsBy.fits fits)
      obtain ⟨C, hsecond, hC⟩ := second.relabel (hm.later hB) fits
      rw [List.map_append, List.map_append]
      exact ⟨C, .ifElse (expr.relabel hm) hfirst hsecond, hC⟩
  | _, _, _, _, _, _, .leave _, hm, _ => ⟨_, .leave _, hm.symbols⟩
  | _, _, _, _, _, _, .ret _ expr, hm, _ => ⟨_, .ret _ (expr.relabel hm), hm.symbols⟩

theorem StmtsRule.relabel : ∀ {w v : Names} {A : Arena} {ss ss' : List Stmt} {es : List Event},
    StmtsRule w ss ss' A es → Names.Mirrors T n w v → A.size + n ≤ UInt32.size →
      ∃ B, StmtsRule v (Stmt.relabelAll T ss) (Stmt.relabelAll T ss') B (es.map (·.relabel T)) ∧
        T.Mirrors n A B
  | _, _, _, _, _, _, .nil, hm, _ => ⟨_, .nil, hm.symbols⟩
  | _, _, _, _, _, _, .cons first rest, hm, fits => by
      obtain ⟨B, hfirst, hB⟩ := first.relabel hm (rest.growsBy.fits fits)
      obtain ⟨C, hrest, hC⟩ := rest.relabel (hm.later hB) fits
      rw [List.map_append]
      exact ⟨C, .cons hfirst hrest, hC⟩

end

/-! ## Functions, structs and programs -/

lemma ReturnRule.relabel {ret ret' : TypeName} {ty : Ty} {es : List Event}
    (rule : ReturnRule w ret ret' ty es) (hm : Names.Mirrors T n w v) :
    ReturnRule v (ret.relabel T) (ret'.relabel T) (ty.relabel T) (es.map (·.relabel T)) := by
  cases rule with
  | plain type =>
      rw [← TypeName.written_relabel]
      refine .plain fun name heq => ?_
      cases ret with
      | struct other => exact type other rfl
      | _ => cases heq
  | @struct name _ defn _ type =>
      have htype := type.relabel hm.symbols.maps
      rw [← hm.table] at htype
      have hty : (if defn.isSome then Ty.struct name.name else Ty.error).relabel T =
          if (defn.map T.handle).isSome then Ty.struct (name.relabel T).name else Ty.error := by
        cases defn <;> rfl
      rw [hty]
      exact .struct htype

lemma writtenTypes_relabel (ds : List VarDecl) :
    writtenTypes (ds.map (·.relabel T)) = Ty.relabelAll T (writtenTypes ds) := by
  rw [Ty.relabelAll_eq_map, writtenTypes, writtenTypes, List.map_map, List.map_map]
  exact List.map_congr_left fun d _ => d.ty.written_relabel

lemma HeadRule.relabel {id id' : Ident} {params : List Ty} {ret : Ty} {w' : Names}
    {es : List Event} (rule : HeadRule w id params ret id' w' es) (hm : Names.Mirrors T n w v)
    (fits : w'.symbols.size + n ≤ UInt32.size) :
    ∃ v', HeadRule v (id.relabel T) (Ty.relabelAll T params) (ret.relabel T) (id'.relabel T) v'
      (es.map (·.relabel T)) ∧ Names.Mirrors T n w' v' := by
  cases rule with
  | taken known => exact ⟨v, .taken ((hm.local? id.name).trans (congrArg _ known)), hm⟩
  | declared room scope =>
      obtain ⟨room', hnext, hscope, hafter⟩ := hm.declare scope fits
      have hrule : HeadRule v (id.relabel T) (Ty.relabelAll T params) (ret.relabel T) _ _ _ :=
        .declared room' hscope
      rw [← hnext] at hrule
      exact ⟨_, hrule, hafter⟩

lemma FnRule.relabel {f f' : FnDecl} {w' : Names} {es : List Event} (rule : FnRule w f f' w' es)
    (hm : Names.Mirrors T n w v) (fits : w'.symbols.size + n ≤ UInt32.size) :
    ∃ v', FnRule v (f.relabel T) (f'.relabel T) v' (es.map (·.relabel T)) ∧
      Names.Mirrors T n w' v' := by
  cases rule with
  | mk type head params inside =>
      obtain ⟨v₁, hhead, hm₁⟩ := head.relabel hm ((params.growsBy.trans inside.growsBy).fits fits)
      obtain ⟨v₂, hparams, hm₂⟩ :=
        params.relabel typesMirror_id hm₁.enter (inside.growsBy.fits fits)
      obtain ⟨v₃, hinside, hm₃⟩ := inside.relabel hm₂ fits
      rw [← writtenTypes_relabel] at hhead
      have hrule := FnRule.mk (f := f.relabel T) (type.relabel hm) hhead hparams hinside
      rw [hm₁.depth_enter, hm₁.depth] at hrule
      simp only [List.map_append, List.map_cons, List.map_nil]
      exact ⟨_, hrule, hm₁.later hm₃.symbols⟩

lemma StructRule.relabel {s s' : StructDecl} {w' : Names} {es : List Event}
    (rule : StructRule w s s' w' es) (hm : Names.Mirrors T n w v)
    (fits : w'.symbols.size + n ≤ UInt32.size) :
    ∃ v', StructRule v (s.relabel T) (s'.relabel T) v' (es.map (·.relabel T)) ∧
      Names.Mirrors T n w' v' := by
  have ht : TypesMirror T (fun _ => w.table) (fun _ => v.table) := fun _ => hm.table
  cases rule with
  | taken known all =>
      obtain ⟨v₁, hall, hm₁⟩ := all.relabel ht hm.withScope fits
      exact ⟨_, .taken (s := s.relabel T) ((hm.local? s.id.name).trans (congrArg _ known)) hall,
        hm.later hm₁.symbols⟩
  | @declared _ w₁ _ _ all room scope =>
      obtain ⟨v₁, hall, hm₁⟩ :=
        all.relabel ht hm.withScope ((Arena.GrowsBy.push _ room).fits fits)
      obtain ⟨room', hnext, hscope, hafter⟩ := (hm.later hm₁.symbols).declare scope fits
      have hrule := StructRule.declared (s := s.relabel T) hall room' hscope
      rw [hm₁.table, ← hnext] at hrule
      simp only [List.map_append, List.map_cons, List.map_nil]
      exact ⟨_, hrule, hafter⟩

lemma DeclRule.relabel {d d' : Decl} {w' : Names} {es : List Event}
    (rule : DeclRule w d d' w' es) (hm : Names.Mirrors T n w v)
    (fits : w'.symbols.size + n ≤ UInt32.size) :
    ∃ v', DeclRule v (d.relabel T) (d'.relabel T) v' (es.map (·.relabel T)) ∧
      Names.Mirrors T n w' v' := by
  cases rule with
  | var rule =>
      obtain ⟨v', hrule, hm'⟩ := rule.relabel typesMirror_id hm fits
      exact ⟨v', .var hrule, hm'⟩
  | fn rule =>
      obtain ⟨v', hrule, hm'⟩ := rule.relabel hm fits
      exact ⟨v', .fn hrule, hm'⟩
  | struct rule =>
      obtain ⟨v', hrule, hm'⟩ := rule.relabel hm fits
      exact ⟨v', .struct hrule, hm'⟩

/-- **Relabeled declarations.**  What becomes of the declarations of a program becomes of the
relabeled declarations too, in names that mirror those of before and have the handles for it. -/
theorem DeclsRule.relabel {ds ds' : List Decl} {w' : Names} {es : List Event}
    (rule : DeclsRule w ds ds' w' es) (hm : Names.Mirrors T n w v)
    (fits : w'.symbols.size + n ≤ UInt32.size) :
    ∃ v', DeclsRule v (ds.map (·.relabel T)) (ds'.map (·.relabel T)) v' (es.map (·.relabel T)) ∧
      Names.Mirrors T n w' v' := by
  induction rule generalizing v with
  | nil => exact ⟨v, .nil, hm⟩
  | cons first rest ih =>
      obtain ⟨v₁, hfirst, hm₁⟩ := first.relabel hm (rest.growsBy.fits fits)
      obtain ⟨v₂, hrest, hm₂⟩ := ih hm₁ fits
      rw [List.map_append]
      exact ⟨v₂, .cons hfirst hrest, hm₂⟩

end Naming

end StructLang
