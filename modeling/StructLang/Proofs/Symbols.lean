import Mathlib.Tactic.Common
import StructLang.Proofs.Run
import StructLang.Naming.Basic

/-!
# Arenas and scopes that fit together

What name resolution relies on when it follows handles.

* `Arena.Grows` — later arenas.  Allocation only appends, so the symbols that are there stay as
  they are, and with them their types and fields.  The one exception is a function, which is
  declared without its parameter types and gets them afterwards: `Arena.withParams`.
* `Arena.Sound` — every symbol refers to earlier symbols only, and to symbols of the right kind: a
  struct variable to a struct definition, and the table of a definition to symbols that are called
  as the table says.
* `Names.Sound` — a scope is open, and every name in the open scopes belongs to a symbol of that
  name.

Soundness is stated from a handle `base` on.  Symbols before it were there when the program was
handed in; nothing is asked of them, and nothing from `base` on refers to them.
-/

namespace StructLang

/-! ## Scopes -/

namespace ScopeStack

/-- The handle of a name in the innermost of the scopes that have it. -/
def find? (stack : ScopeStack) (name : String) : Option SymbolId :=
  stack.scopes.findSome? (·.find? name)

/-- The handle of a name in the innermost scope alone. -/
def local? (stack : ScopeStack) (name : String) : Option SymbolId :=
  stack.scopes.head?.bind (·.find? name)

/-- One of the scopes has the name with the handle. -/
def Binds (stack : ScopeStack) (name : String) (id : SymbolId) : Prop :=
  ∃ scope ∈ stack.scopes, scope.find? name = some id

variable {stack target : ScopeStack} {name other : String} {id other' : SymbolId}

lemma lookup_of_open (h : stack.scopes ≠ []) (name : String) :
    stack.lookup name = .ok (stack.find? name) := by
  unfold lookup
  split
  · contradiction
  · rfl

lemma lookupLocal_of_open (h : stack.scopes ≠ []) (name : String) :
    stack.lookupLocal name = .ok (stack.local? name) := by
  unfold lookupLocal local?
  split
  · contradiction
  · next heq => rw [heq]; rfl

/-- A name that the innermost scope does not have yet is put there, and the outer scopes stay. -/
lemma declare_of_free (h : stack.scopes ≠ []) (free : stack.local? name = none) (id : SymbolId) :
    ∃ target, stack.declare name id = .ok target := by
  obtain ⟨scopes⟩ := stack
  cases scopes with
  | nil => contradiction
  | cons scope outer =>
      have hname : name ∉ scope.names := (scope.find?_eq_none_iff name).1 free
      exact ⟨{ scopes := scope.insert name id hname :: outer }, dif_neg hname⟩

lemma scopes_of_declare (h : stack.declare name id = .ok target) :
    ∃ scope outer, ∃ new : name ∉ scope.names,
      stack.scopes = scope :: outer ∧ target.scopes = scope.insert name id new :: outer := by
  obtain ⟨scopes⟩ := stack
  cases scopes with
  | nil => cases h
  | cons scope outer =>
      by_cases hname : name ∈ scope.names
      · simp only [declare, dif_pos hname, reduceCtorEq] at h
      · simp only [declare, dif_neg hname, Except.ok.injEq] at h
        exact ⟨scope, outer, hname, rfl, by rw [← h]⟩

lemma scopes_of_pop (h : stack.pop = .ok target) :
    ∃ scope, stack.scopes = scope :: target.scopes := by
  unfold pop at h
  split at h
  · cases h
  · next scope outer heq =>
      rw [heq, ← Except.ok.inj h]
      exact ⟨scope, rfl⟩

lemma local?_of_declare (h : stack.declare name id = .ok target) : stack.local? name = none := by
  obtain ⟨scope, outer, new, hs, -⟩ := scopes_of_declare h
  rw [local?, hs]
  exact (scope.find?_eq_none_iff name).2 new

lemma open_of_declare (h : stack.declare name id = .ok target) :
    stack.scopes ≠ [] ∧ target.scopes ≠ [] := by
  obtain ⟨scope, outer, new, hs, ht⟩ := scopes_of_declare h
  rw [hs, ht]
  exact ⟨List.cons_ne_nil _ _, List.cons_ne_nil _ _⟩

lemma tail_of_declare (h : stack.declare name id = .ok target) :
    target.scopes.tail = stack.scopes.tail := by
  obtain ⟨scope, outer, new, hs, ht⟩ := scopes_of_declare h
  rw [hs, ht, List.tail_cons, List.tail_cons]

lemma depth_of_declare (h : stack.declare name id = .ok target) : target.depth = stack.depth := by
  obtain ⟨scope, outer, new, hs, ht⟩ := scopes_of_declare h
  rw [depth, depth, hs, ht, List.length_cons, List.length_cons]

lemma binds_of_find? (h : stack.find? name = some id) : stack.Binds name id :=
  List.exists_of_findSome?_eq_some h

lemma binds_push : stack.push.Binds name id ↔ stack.Binds name id := by
  simp [Binds, push]

lemma not_binds_withScope : ¬ withScope.Binds name id := by
  simp [Binds, withScope, push, empty]

/-- After a declaration the bindings are the new one and those of before. -/
lemma binds_of_declare (h : stack.declare name id = .ok target) (hb : target.Binds other other') :
    (other = name ∧ other' = id) ∨ stack.Binds other other' := by
  obtain ⟨scope, outer, new, hs, ht⟩ := scopes_of_declare h
  obtain ⟨inner, hmem, hfind⟩ := hb
  rw [ht] at hmem
  rcases List.mem_cons.1 hmem with rfl | hmem
  · rw [Scope.find?_insert] at hfind
    split at hfind
    · next heq => exact Or.inl ⟨heq, (Option.some.inj hfind).symm⟩
    · exact Or.inr ⟨scope, by simp [hs], hfind⟩
  · exact Or.inr ⟨inner, by simp [hs, hmem], hfind⟩

end ScopeStack

/-! ## Later arenas -/

@[simp] lemma Symbol.isStructDef_withParams (symbol : Symbol) (params : List Ty) :
    (symbol.withParams params).isStructDef = symbol.isStructDef := by
  obtain ⟨name, kind⟩ := symbol
  cases kind <;> rfl

namespace Arena

variable {A B C : Arena} {h k : SymbolId} {a b symbol : Symbol} {ty : Ty}

lemma get_eq_ok_iff : A.get h = .ok a ↔ A.symbols[h.index]? = some a := by
  unfold get
  cases A.symbols[h.index]? <;> simp

lemma get_empty_ne_ok : ({} : Arena).get h ≠ .ok a := by
  simp [get]

/-- A handle without a symbol is the only reason why there is none. -/
lemma fault_of_get {fault : Fault} (hg : A.get h = .error fault) : fault = .dangling h := by
  unfold get at hg
  cases hs : A.symbols[h.index]? with
  | none => rw [hs] at hg; exact (Except.error.inj hg).symm
  | some symbol => rw [hs] at hg; cases hg

lemma lt_of_get (hg : A.get h = .ok a) : h.index < A.size := by
  have hs := get_eq_ok_iff.1 hg
  obtain ⟨hlt, -⟩ := Array.getElem?_eq_some_iff.1 hs
  exact hlt

/-- Every position that holds a symbol has a handle. -/
lemma lt_of_getElem? {i : Nat} (hs : A.symbols[i]? = some a) : i < UInt32.size := by
  obtain ⟨hlt, -⟩ := Array.getElem?_eq_some_iff.1 hs
  exact Nat.lt_of_lt_of_le hlt A.numbered

lemma get_ofIndex_eq_ok_iff {i : Nat} (hi : i < UInt32.size) :
    A.get (.ofIndex i) = .ok a ↔ A.symbols[i]? = some a := by
  rw [get_eq_ok_iff, SymbolId.index_ofIndex hi]

lemma alloc_of_room (room : A.size < UInt32.size) (symbol : Symbol) :
    A.alloc symbol = .ok (A.push symbol room, A.nextId) := dif_pos room

lemma symbols_push (A : Arena) (symbol : Symbol) (room : A.size < UInt32.size) :
    (A.push symbol room).symbols = A.symbols.push symbol := rfl

@[simp] lemma size_push (A : Arena) (symbol : Symbol) (room : A.size < UInt32.size) :
    (A.push symbol room).size = A.size + 1 := Array.size_push _

/-- The only reason why a symbol cannot be allocated is that no handle is left. -/
lemma fault_of_alloc {fault : Fault} (halloc : A.alloc symbol = .error fault) :
    A.size = UInt32.size ∧ fault = .overflow UInt32.size := by
  have full : ¬ A.size < UInt32.size := fun room => by
    rw [alloc, dif_pos room] at halloc
    cases halloc
  have hsize : A.size = UInt32.size := Nat.le_antisymm A.numbered (Nat.le_of_not_lt full)
  rw [alloc_of_full hsize] at halloc
  exact ⟨hsize, (Except.error.inj halloc).symm⟩

lemma alloc_eq_ok {r : Arena × SymbolId} (halloc : A.alloc symbol = .ok r) :
    ∃ room : A.size < UInt32.size, r = (A.push symbol room, A.nextId) := by
  unfold alloc at halloc
  split at halloc
  · next room => exact ⟨room, (Except.ok.inj halloc).symm⟩
  · cases halloc

/-- The arena after an allocation has the new symbol and those of before. -/
lemma get_push_eq_ok_iff (room : A.size < UInt32.size) :
    (A.push symbol room).get h = .ok a ↔ A.get h = .ok a ∨ (h = A.nextId ∧ a = symbol) := by
  have hnext : h = A.nextId ↔ h.index = A.symbols.size :=
    ⟨fun heq => heq ▸ index_nextId room, fun heq =>
      SymbolId.index_injective (heq.trans (index_nextId room).symm)⟩
  rw [get_eq_ok_iff, get_eq_ok_iff, hnext, symbols_push, Array.getElem?_push]
  by_cases hi : h.index = A.symbols.size
  · simp [hi, eq_comm]
  · simp [hi]

/-- All symbols are still there, unchanged. -/
def Grows (A B : Arena) : Prop := ∀ h symbol, A.get h = .ok symbol → B.get h = .ok symbol

lemma Grows.refl (A : Arena) : A.Grows A := fun _ _ hg => hg

lemma Grows.trans (hAB : A.Grows B) (hBC : B.Grows C) : A.Grows C :=
  fun h symbol hg => hBC h symbol (hAB h symbol hg)

lemma grows_push (A : Arena) (symbol : Symbol) (room : A.size < UInt32.size) :
    A.Grows (A.push symbol room) :=
  fun _ _ hg => (get_push_eq_ok_iff room).2 (Or.inl hg)

lemma Grows.size_le (hAB : A.Grows B) : A.size ≤ B.size := by
  by_contra hlt
  have hB : B.size < A.symbols.size := Nat.lt_of_not_le hlt
  have hindex : (SymbolId.ofIndex B.size).index = B.size :=
    SymbolId.index_ofIndex (Nat.lt_of_lt_of_le hB A.numbered)
  have hg : A.get (.ofIndex B.size) = .ok A.symbols[B.size] :=
    get_eq_ok_iff.2 (by rw [hindex]; exact Array.getElem?_eq_getElem hB)
  exact Nat.lt_irrefl _ (hindex ▸ lt_of_get (hAB _ _ hg))

/-! ### Types of symbols -/

section

variable {name : String} {defn : SymbolId} {params : List Ty} {ret : Ty} {fields : ScopeStack}

lemma typeOf_var (hg : A.get h = .ok { name, kind := .var ty }) : A.typeOf h = .ok ty := by
  simp only [typeOf, hg]
  rfl

/-- A struct variable is of the type that its definition is called. -/
lemma typeOf_structVar (hg : A.get h = .ok { name, kind := .structVar defn })
    (hd : A.get defn = .ok a) : A.typeOf h = .ok (.struct a.name) := by
  simp only [typeOf, hg, hd, bind, Except.bind]
  rfl

lemma typeOf_structDef (hg : A.get h = .ok { name, kind := .structDef fields }) :
    A.typeOf h = .ok (.structDef name) := by
  simp only [typeOf, hg]
  rfl

lemma typeOf_fn (hg : A.get h = .ok { name, kind := .fn params ret }) :
    A.typeOf h = .ok (.fn params ret) := by
  simp only [typeOf, hg]
  rfl

end

/-- The type that a symbol gives to an expression stays. -/
lemma Grows.typeOf (hAB : A.Grows B) (ht : A.typeOf h = .ok ty) : B.typeOf h = .ok ty := by
  cases hg : A.get h with
  | error fault => simp only [Arena.typeOf, hg] at ht; cases ht
  | ok symbol =>
      obtain ⟨name, kind⟩ := symbol
      simp only [Arena.typeOf, hg, hAB h _ hg] at ht ⊢
      cases kind with
      | structVar defn =>
          cases hd : A.get defn with
          | error fault => simp only [bind, Except.bind, hd] at ht; cases ht
          | ok d => simpa only [bind, Except.bind, hd, hAB defn d hd] using ht
      | _ => exact ht

/-- The fields that can be selected after a symbol stay. -/
lemma Grows.fieldsOf {fields : Option ScopeStack} (hAB : A.Grows B)
    (hf : A.fieldsOf h = .ok fields) : B.fieldsOf h = .ok fields := by
  cases hg : A.get h with
  | error fault => simp only [Arena.fieldsOf, hg] at hf; cases hf
  | ok symbol =>
      obtain ⟨name, kind⟩ := symbol
      simp only [Arena.fieldsOf, hg, hAB h _ hg] at hf ⊢
      cases kind with
      | structVar defn =>
          cases hd : A.get defn with
          | error fault => simp only [bind, Except.bind, hd] at hf; cases hf
          | ok d => simpa only [bind, Except.bind, hd, hAB defn d hd] using hf
      | _ => exact hf

/-! ### Parameter types that come later -/

/-- The arena with parameter types for a function that it has. -/
def withParams (A : Arena) (h : SymbolId) (params : List Ty) : Arena :=
  match A.modify h (·.withParams params) with
  | .ok B => B
  | .error _ => A

lemma modify_withParams (hg : A.get h = .ok a) (params : List Ty) :
    A.modify h (·.withParams params) = .ok (A.withParams h params) := by
  simp only [withParams, modify, hg]
  rfl

lemma symbols_withParams (hg : A.get h = .ok a) (params : List Ty) :
    (A.withParams h params).symbols = A.symbols.setIfInBounds h.index (a.withParams params) := by
  simp only [withParams, modify, hg]
  rfl

lemma size_withParams (hg : A.get h = .ok a) (params : List Ty) :
    (A.withParams h params).size = A.size := by
  rw [size, symbols_withParams hg, Array.size_setIfInBounds, size]

lemma nextId_withParams (hg : A.get h = .ok a) (params : List Ty) :
    (A.withParams h params).nextId = A.nextId :=
  congrArg SymbolId.ofIndex (size_withParams hg params)

/-- Only the function itself changes. -/
lemma get_withParams (hg : A.get h = .ok a) (params : List Ty) (k : SymbolId) :
    (A.withParams h params).get k = if k = h then .ok (a.withParams params) else A.get k := by
  have hlt : h.index < A.symbols.size := lt_of_get hg
  rw [Arena.get, Arena.get, symbols_withParams hg, Array.getElem?_setIfInBounds]
  by_cases hkh : k = h
  · subst hkh
    rw [if_pos rfl, if_pos hlt, if_pos rfl]
  · have hindex : h.index ≠ k.index := fun heq => hkh (SymbolId.index_injective heq.symm)
    rw [if_neg hindex, if_neg hkh]

/-- No symbol becomes a struct definition or stops being one. -/
lemma isStructDef_withParams (hg : A.get h = .ok a) (params : List Ty) (hk : A.get k = .ok b) :
    ∃ c, (A.withParams h params).get k = .ok c ∧ c.isStructDef = b.isStructDef := by
  rw [get_withParams hg]
  by_cases hkh : k = h
  · subst hkh
    obtain rfl := Except.ok.inj (hg.symm.trans hk)
    exact ⟨_, if_pos rfl, Symbol.isStructDef_withParams a params⟩
  · exact ⟨b, by rw [if_neg hkh, hk], rfl⟩

/-- A later allocation does not care whether the parameter types are there already. -/
lemma withParams_push (hg : A.get h = .ok a) (params : List Ty) (symbol : Symbol)
    (room : A.size < UInt32.size) :
    (A.withParams h params).push symbol (size_withParams hg params ▸ room) =
      (A.push symbol room).withParams h params := by
  have hlt : h.index < A.symbols.size := lt_of_get hg
  have hg' : (A.push symbol room).get h = .ok a := grows_push A symbol room h a hg
  refine Arena.ext ?_
  rw [symbols_withParams hg', symbols_push, symbols_push, symbols_withParams hg]
  refine Array.ext_getElem? fun i => ?_
  simp only [Array.getElem?_push, Array.getElem?_setIfInBounds, Array.size_setIfInBounds,
    Array.size_push]
  grind

/-- A function that was declared without parameters is as good as one declared with them. -/
lemma push_withParams (A : Arena) (name : String) (params old : List Ty) (ret : Ty)
    (room : A.size < UInt32.size) :
    (A.push { name, kind := .fn old ret } room).withParams A.nextId params =
      A.push { name, kind := .fn params ret } room := by
  refine Arena.ext ?_
  rw [symbols_withParams (get_nextId_push _ room), symbols_push, symbols_push, index_nextId room]
  refine Array.ext_getElem? fun i => ?_
  simp only [Array.getElem?_push, Array.getElem?_setIfInBounds, size, Array.size_push]
  grind [Symbol.withParams]

end Arena

/-! ## Sound arenas -/

/-- The types that a declaration can write down. -/
def Ty.isWritten : Ty → Bool
  | int | bool | void | struct _ => true
  | _ => false

/-- What a symbol of the kind refers to lies from `base` on and before `limit`, and is of the right
kind. -/
def Symbol.Kind.SoundIn (A : Arena) (base limit : Nat) : Symbol.Kind → Prop
  | var ty => ty = .int ∨ ty = .bool
  | structDef fields =>
    fields.scopes ≠ [] ∧ ∀ name h, fields.Binds name h →
      base ≤ h.index ∧ h.index < limit ∧ ∃ field, A.get h = .ok field ∧ field.name = name
  | structVar defn =>
    base ≤ defn.index ∧ defn.index < limit ∧ ∃ d, A.get defn = .ok d ∧ d.isStructDef = true
  | fn params ret =>
    (∀ ty ∈ params, ty.isWritten = true) ∧ (ret.isWritten = true ∨ ret = .error)

/-- From `base` on, all symbols refer to earlier symbols of the right kind. -/
def Arena.Sound (base : Nat) (A : Arena) : Prop :=
  ∀ h symbol, base ≤ h.index → A.get h = .ok symbol → symbol.kind.SoundIn A base h.index

namespace Arena

variable {A B : Arena} {base : Nat} {h : SymbolId} {symbol : Symbol}

/-- Nothing is asked of the symbols that are there already. -/
lemma sound_size (A : Arena) : A.Sound A.size :=
  fun _ _ hle hg => absurd (lt_of_get hg) (Nat.not_lt_of_le hle)

/-- Kinds stay sound in later arenas. -/
lemma Grows.soundIn (hAB : A.Grows B) {limit : Nat} {kind : Symbol.Kind}
    (hk : kind.SoundIn A base limit) : kind.SoundIn B base limit := by
  cases kind with
  | var ty => exact hk
  | fn params ret => exact hk
  | structVar defn =>
      obtain ⟨hbase, hlt, d, hd, hdef⟩ := hk
      exact ⟨hbase, hlt, d, hAB defn d hd, hdef⟩
  | structDef fields =>
      obtain ⟨hopen, hf⟩ := hk
      refine ⟨hopen, fun name h hb => ?_⟩
      obtain ⟨hbase, hlt, field, hfield, hname⟩ := hf name h hb
      exact ⟨hbase, hlt, field, hAB h field hfield, hname⟩

lemma Sound.push (hA : A.Sound base) {name : String} {kind : Symbol.Kind}
    (room : A.size < UInt32.size) (hk : kind.SoundIn A base A.size) :
    (A.push { name, kind } room).Sound base := by
  have hgrows := A.grows_push { name, kind } room
  intro h symbol hbase hg
  rcases (get_push_eq_ok_iff room).1 hg with hg | ⟨rfl, rfl⟩
  · exact hgrows.soundIn (hA h symbol hbase hg)
  · rw [index_nextId room]
    exact hgrows.soundIn hk

/-- Every symbol gives expressions a type, and no error; only that of a function is the type of a
function. -/
lemma Sound.typed (hA : A.Sound base) (hbase : base ≤ h.index) (hg : A.get h = .ok symbol) :
    ∃ ty, A.typeOf h = .ok ty ∧ ty.isError = false ∧
      ∀ params ret, ty = .fn params ret → symbol.kind = .fn params ret := by
  have hs := hA h symbol hbase hg
  obtain ⟨name, kind⟩ := symbol
  simp only [Arena.typeOf, hg]
  cases kind with
  | var ty => rcases hs with rfl | rfl <;> exact ⟨_, rfl, rfl, nofun⟩
  | structDef fields => exact ⟨_, rfl, rfl, nofun⟩
  | structVar defn =>
      obtain ⟨-, -, d, hd, -⟩ := hs
      exact ⟨.struct d.name, by simp only [bind, Except.bind, hd]; rfl, rfl, nofun⟩
  | fn params ret =>
      refine ⟨_, rfl, rfl, fun params' ret' heq => ?_⟩
      obtain ⟨rfl, rfl⟩ := Ty.fn.inj heq
      rfl

lemma Sound.typeOf (hA : A.Sound base) (hbase : base ≤ h.index) (hg : A.get h = .ok symbol) :
    ∃ ty, A.typeOf h = .ok ty :=
  (hA.typed hbase hg).imp fun _ => And.left

/-- After every symbol it is settled which fields can be selected: none, or those of the definition
that a struct variable refers to. -/
lemma Sound.fieldsOf (hA : A.Sound base) (hbase : base ≤ h.index) (hg : A.get h = .ok symbol) :
    ((∀ defn, symbol.kind ≠ .structVar defn) ∧ A.fieldsOf h = .ok none) ∨
      ∃ defn name fields, symbol.kind = .structVar defn ∧ base ≤ defn.index ∧
        A.get defn = .ok { name, kind := .structDef fields } ∧
        A.fieldsOf h = .ok (some fields) := by
  have hs := hA h symbol hbase hg
  obtain ⟨name, kind⟩ := symbol
  simp only [Arena.fieldsOf, hg]
  cases kind with
  | structVar defn =>
      obtain ⟨hdbase, -, ⟨dname, dkind⟩, hd, hdef⟩ := hs
      cases dkind with
      | structDef fields =>
          refine Or.inr ⟨defn, dname, fields, rfl, hdbase, hd, ?_⟩
          simp only [bind, Except.bind, hd]
          rfl
      | _ => cases hdef
  | _ => exact Or.inl ⟨nofun, rfl⟩

end Arena

/-- The arena is sound, a scope is open, and every name in the open scopes belongs to a symbol of
that name. -/
structure Names.Sound (base : Nat) (w : Names) : Prop where
  arena : w.symbols.Sound base
  base_le : base ≤ w.symbols.size
  opened : w.table.scopes ≠ []
  named : ∀ name h, w.table.Binds name h →
    base ≤ h.index ∧ ∃ symbol, w.symbols.get h = .ok symbol ∧ symbol.name = name

namespace Names

variable {base : Nat} {w : Names}

/-- A new scope inside the others. -/
def enter (w : Names) : Names := { w with table := w.table.push }

@[simp] lemma table_enter (w : Names) : w.enter.table = w.table.push := rfl

@[simp] lemma symbols_enter (w : Names) : w.enter.symbols = w.symbols := rfl

lemma Sound.enter (hw : w.Sound base) : w.enter.Sound base where
  arena := hw.arena
  base_le := hw.base_le
  opened := List.cons_ne_nil _ _
  named name h hb := hw.named name h (ScopeStack.binds_push.1 hb)

/-- Symbols with a table that has one scope, and no name in it. -/
lemma sound_withScope {A : Arena} (hA : A.Sound base) (hle : base ≤ A.size) :
    Names.Sound base ⟨A, .withScope⟩ where
  arena := hA
  base_le := hle
  opened := List.cons_ne_nil _ _
  named _ _ hb := absurd hb ScopeStack.not_binds_withScope

/-- The names with which name resolution starts behind whatever symbols. -/
lemma sound_behind (A : Arena) : Names.Sound A.size ⟨A, .withScope⟩ :=
  sound_withScope A.sound_size (Nat.le_refl _)

/-- A table for fields, to be declared with the symbols of before. -/
lemma Sound.withScope (hw : w.Sound base) : Names.Sound base ⟨w.symbols, .withScope⟩ :=
  sound_withScope hw.arena hw.base_le

/-- The scopes fit later arenas too. -/
lemma Sound.grows (hw : w.Sound base) {B : Arena} (hgrows : w.symbols.Grows B)
    (hB : B.Sound base) : Names.Sound base ⟨B, w.table⟩ where
  arena := hB
  base_le := Nat.le_trans hw.base_le hgrows.size_le
  opened := hw.opened
  named name h hb := by
    obtain ⟨hbase, symbol, hg, hname⟩ := hw.named name h hb
    exact ⟨hbase, symbol, hgrows h symbol hg, hname⟩

/-- A new symbol and its name in the innermost scope. -/
lemma Sound.introduce (hw : w.Sound base) {name : String} {kind : Symbol.Kind}
    {target : ScopeStack} (room : w.symbols.size < UInt32.size)
    (hk : kind.SoundIn w.symbols base w.symbols.size)
    (hd : w.table.declare name w.symbols.nextId = .ok target) :
    Names.Sound base ⟨w.symbols.push { name, kind } room, target⟩ where
  arena := hw.arena.push room hk
  base_le := by
    rw [Arena.size_push]
    exact Nat.le_succ_of_le hw.base_le
  opened := (ScopeStack.open_of_declare hd).2
  named other h hb := by
    rcases ScopeStack.binds_of_declare hd hb with ⟨rfl, rfl⟩ | hb
    · refine ⟨?_, _, Arena.get_nextId_push _ room, rfl⟩
      rw [Arena.index_nextId room]
      exact hw.base_le
    · obtain ⟨hbase, symbol, hg, hname⟩ := hw.named other h hb
      exact ⟨hbase, symbol, Arena.grows_push _ _ room _ _ hg, hname⟩

end Names

end StructLang
