import Mathlib.Data.List.Forall2
import Mathlib.Tactic.Common
import StructLang.Proofs.Resolution
import StructLang.Proofs.Statics

/-!
# Symbols and their meanings

An arena and a table of handles say the same as an environment if every handle in the table has a
symbol that stands for the meaning in the environment.  Both have the same names in the same order,
scope by scope and struct by struct, so a name is found in both or in neither.

Symbols are never changed or taken away, so what a handle stands for stays (`Represents.grows`).
-/

namespace StructLang

mutual

/-- The symbol of the handle stands for the meaning. -/
inductive Represents (A : Arena) : SymbolId → Meaning → Prop
  | int {h : SymbolId} {name : String} (symbol : A.get h = .ok { name, kind := .var .int }) :
      Represents A h .int
  | bool {h : SymbolId} {name : String} (symbol : A.get h = .ok { name, kind := .var .bool }) :
      Represents A h .bool
  | record {h defn : SymbolId} {name struct : String} {fields : List (String × Meaning)}
      (symbol : A.get h = .ok { name, kind := .structVar defn })
      (type : Represents A defn (.struct struct fields)) : Represents A h (.record struct fields)
  | struct {h : SymbolId} {name : String} {scope : Scope} {fields : List (String × Meaning)}
      (symbol : A.get h = .ok { name, kind := .structDef { scopes := [scope] } })
      (all : RepresentsAll A scope.entries fields) : Represents A h (.struct name fields)
  | fn {h : SymbolId} {name : String} {params : List Ty} {ret : Ty}
      (symbol : A.get h = .ok { name, kind := .fn params ret })
      (rightParams : ∀ ty ∈ params, ty.isError = false) (rightRet : ret.isError = false) :
      Represents A h (.fn params ret)

/-- The same names, with handles that stand for the meanings. -/
inductive RepresentsAll (A : Arena) : List (String × SymbolId) → List (String × Meaning) → Prop
  | nil : RepresentsAll A [] []
  | cons {name : String} {h : SymbolId} {m : Meaning} {handles : List (String × SymbolId)}
      {meanings : List (String × Meaning)} (first : Represents A h m)
      (rest : RepresentsAll A handles meanings) :
      RepresentsAll A ((name, h) :: handles) ((name, m) :: meanings)

end

variable {A B : Arena} {h : SymbolId} {m : Meaning}

mutual

theorem Represents.grows (hgrows : A.Grows B) : ∀ {h : SymbolId} {m : Meaning},
    Represents A h m → Represents B h m
  | _, _, .int symbol => .int (hgrows _ _ symbol)
  | _, _, .bool symbol => .bool (hgrows _ _ symbol)
  | _, _, .record symbol type => .record (hgrows _ _ symbol) (type.grows hgrows)
  | _, _, .struct symbol all => .struct (hgrows _ _ symbol) (all.grows hgrows)
  | _, _, .fn symbol rightParams rightRet => .fn (hgrows _ _ symbol) rightParams rightRet

theorem RepresentsAll.grows (hgrows : A.Grows B) : ∀ {handles : List (String × SymbolId)}
    {meanings : List (String × Meaning)}, RepresentsAll A handles meanings →
      RepresentsAll B handles meanings
  | _, _, .nil => .nil
  | _, _, .cons first rest => .cons (first.grows hgrows) (rest.grows hgrows)

end

/-- Expressions have the type of the meaning. -/
lemma Represents.typeOf (hrep : Represents A h m) : A.typeOf h = .ok m.ty := by
  cases hrep with
  | int symbol => simp only [Arena.typeOf, symbol]; rfl
  | bool symbol => simp only [Arena.typeOf, symbol]; rfl
  | record symbol type =>
      cases type with
      | struct symbol' all => simp only [Arena.typeOf, symbol, bind, Except.bind, symbol']; rfl
  | struct symbol all => simp only [Arena.typeOf, symbol]; rfl
  | fn symbol rightParams rightRet => simp only [Arena.typeOf, symbol]; rfl

/-- Where fields can be selected, there is a struct variable. -/
lemma Represents.record_of_fieldsOf {table : ScopeStack} (hrep : Represents A h m)
    (hfields : A.fieldsOf h = .ok (some table)) :
    ∃ name fields, m = .record name fields := by
  cases hrep with
  | record symbol type => exact ⟨_, _, rfl⟩
  | int symbol => simp only [Arena.fieldsOf, symbol] at hfields; cases hfields
  | bool symbol => simp only [Arena.fieldsOf, symbol] at hfields; cases hfields
  | struct symbol all => simp only [Arena.fieldsOf, symbol] at hfields; cases hfields
  | fn symbol rightParams rightRet => simp only [Arena.fieldsOf, symbol] at hfields; cases hfields

lemma Represents.isStructDef_iff {symbol : Symbol} (hrep : Represents A h m)
    (hg : A.get h = .ok symbol) :
    symbol.isStructDef = true ↔ ∃ fields, m = .struct symbol.name fields := by
  cases hrep with
  | struct symbol' all =>
      obtain rfl := Except.ok.inj (hg.symm.trans symbol')
      exact iff_of_true rfl ⟨_, rfl⟩
  | int symbol' | bool symbol' | record symbol' type | fn symbol' rightParams rightRet =>
      obtain rfl := Except.ok.inj (hg.symm.trans symbol')
      exact iff_of_false nofun (by simp)

/-- The type of a meaning is no error, and a call of it yields none. -/
lemma Represents.rightRet {params : List Ty} {ret : Ty} (hrep : Represents A h (.fn params ret)) :
    ret.isError = false := by
  cases hrep with
  | fn symbol rightParams rightRet => exact rightRet

lemma Represents.rightParams {params : List Ty} {ret : Ty}
    (hrep : Represents A h (.fn params ret)) : ∀ ty ∈ params, ty.isError = false := by
  cases hrep with
  | fn symbol rightParams rightRet => exact rightParams

@[simp] lemma Meaning.isError_ty (m : Meaning) : m.ty.isError = false := by
  cases m <;> rfl

/-! ## Scopes -/

lemma RepresentsAll.names_eq {handles : List (String × SymbolId)}
    {meanings : List (String × Meaning)} : RepresentsAll A handles meanings →
      handles.map Prod.fst = meanings.map Prod.fst
  | .nil => rfl
  | .cons first rest => congrArg _ rest.names_eq

/-- A name is found in both or in neither. -/
lemma RepresentsAll.lookup (name : String) : ∀ {handles : List (String × SymbolId)}
    {meanings : List (String × Meaning)}, RepresentsAll A handles meanings →
      Option.Rel (Represents A) (handles.lookup name) (meanings.lookup name)
  | _, _, .nil => .none
  | _, _, @RepresentsAll.cons _ other _ _ _ _ first rest => by
      rw [List.lookup_cons, List.lookup_cons]
      cases name == other with
      | true => exact .some first
      | false => exact rest.lookup name

/-- The environment says of every name what the table says. -/
def Env.Describes (env : Env) (A : Arena) (table : ScopeStack) : Prop :=
  List.Forall₂ (fun (scope : Scope) meanings => RepresentsAll A scope.entries meanings)
    table.scopes env

namespace Env

variable {env env' : Env} {table target : ScopeStack} {name : String}

lemma Describes.grows (hdesc : env.Describes A table) (hgrows : A.Grows B) :
    env.Describes B table :=
  List.Forall₂.imp (fun _ _ hall => hall.grows hgrows) hdesc

lemma Describes.push (hdesc : env.Describes A table) : Describes ([] :: env) A table.push :=
  .cons .nil hdesc

lemma describes_withScope (A : Arena) : Describes [[]] A .withScope := .cons .nil .nil

/-- A name is found in the table if it has a meaning, and the handle stands for the meaning. -/
lemma Describes.find (hdesc : env.Describes A table) (name : String) :
    Option.Rel (Represents A) (table.find? name) (env.meaning? name) := by
  obtain ⟨scopes⟩ := table
  unfold Describes at hdesc
  unfold ScopeStack.find? meaning?
  dsimp only at hdesc ⊢
  induction hdesc with
  | nil => exact .none
  | @cons scope meanings scopes env hscope houter ih =>
      have hlookup := hscope.lookup name
      rw [List.findSome?_cons, List.findSome?_cons, Scope.find?]
      generalize scope.entries.lookup name = found at hlookup
      generalize meanings.lookup name = known at hlookup
      cases hlookup with
      | some hrep => exact .some hrep
      | none => exact ih

lemma Describes.find_some (hdesc : env.Describes A table) (hfind : table.find? name = some h) :
    ∃ m, env.meaning? name = some m ∧ Represents A h m := by
  have hrel := hdesc.find name
  rw [hfind] at hrel
  cases hknown : env.meaning? name with
  | none => rw [hknown] at hrel; cases hrel
  | some m =>
      rw [hknown] at hrel
      cases hrel with
      | some hrep => exact ⟨m, rfl, hrep⟩

lemma Describes.meaning_some (hdesc : env.Describes A table) (hknown : env.meaning? name = some m) :
    ∃ h, table.find? name = some h ∧ Represents A h m := by
  have hrel := hdesc.find name
  rw [hknown] at hrel
  cases hfind : table.find? name with
  | none => rw [hfind] at hrel; cases hrel
  | some h =>
      rw [hfind] at hrel
      cases hrel with
      | some hrep => exact ⟨h, rfl, hrep⟩

/-- What the environment declares, the innermost scope does not have. -/
lemma Describes.local_of_declares (hdesc : env.Describes A table) (hd : env.Declares name m env') :
    table.local? name = none := by
  obtain ⟨scopes⟩ := table
  cases hd with
  | mk new =>
      cases hdesc with
      | cons hscope houter =>
          rw [← hscope.names_eq] at new
          exact (Scope.find?_eq_none_iff _ _).2 new

/-- What the table declares can be declared in the environment. -/
lemma Describes.declares_of_declare (hdesc : env.Describes A table)
    (hd : table.declare name h = .ok target) (m : Meaning) : ∃ env', env.Declares name m env' := by
  obtain ⟨scope, outer, new, hs, -⟩ := ScopeStack.scopes_of_declare hd
  unfold Describes at hdesc
  rw [hs] at hdesc
  cases hdesc with
  | cons hscope houter =>
      rw [Scope.names, hscope.names_eq] at new
      exact ⟨_, .mk new⟩

/-- Declared in both, with a handle that stands for the meaning. -/
lemma Describes.declare (hdesc : env.Describes A table) (henv : env.Declares name m env')
    (htable : table.declare name h = .ok target) (hgrows : A.Grows B) (hrep : Represents B h m) :
    env'.Describes B target := by
  obtain ⟨scope, outer, new, hs, ht⟩ := ScopeStack.scopes_of_declare htable
  have hgrown := hdesc.grows hgrows
  unfold Describes at hgrown ⊢
  rw [hs] at hgrown
  rw [ht]
  cases henv with
  | mk new' =>
      cases hgrown with
      | cons hscope houter => exact .cons (.cons hrep hscope) houter

end Env

/-- A definition stands for the struct with the fields of its table. -/
lemma represents_struct {name : String} {fields : List (String × Meaning)} {table : ScopeStack}
    (symbol : A.get h = .ok { name, kind := .structDef table })
    (hdesc : Env.Describes [fields] A table) : Represents A h (.struct name fields) := by
  obtain ⟨scopes⟩ := table
  cases hdesc with
  | cons hscope houter =>
      cases houter
      exact .struct symbol hscope

/-- Fields can be selected from a struct variable: those of its struct. -/
lemma Represents.fieldsOf {name : String} {fields : List (String × Meaning)}
    (hrep : Represents A h (.record name fields)) :
    ∃ table, A.fieldsOf h = .ok (some table) ∧ Env.Describes [fields] A table := by
  cases hrep with
  | record symbol type =>
      cases type with
      | struct symbol' all =>
          exact ⟨_, by simp only [Arena.fieldsOf, symbol, bind, Except.bind, symbol']; rfl,
            .cons all .nil⟩

end StructLang
