import StructLang.Fault

/-!
# Scopes and stacks of scopes

A scope maps names to handles, each name at most once; that no name occurs twice is part of the
type. A `ScopeStack` is the list of the open scopes, innermost first: names are declared in the
innermost one and looked up from there outwards. Declaring the name of an outer scope again hides
it until the inner scope is closed.

Every operation but opening a scope needs an open one, and a stack without scopes refuses it.

* `ScopeStack.lookup_declare` — a declared name is found with its handle, and all other names are
  found as before.
-/

namespace StructLang

/-- Names with their handles, the latest first, no name twice. -/
structure Scope where
  entries : List (String × SymbolId) := []
  distinct : (entries.map Prod.fst).Nodup := by exact List.nodup_nil
  deriving DecidableEq

namespace Scope

def empty : Scope := {}

instance : Inhabited Scope := ⟨empty⟩

/-- The names of the scope, the latest first. -/
def names (scope : Scope) : List String := scope.entries.map Prod.fst

/-- The handle of a name, if the scope has the name. -/
def find? (scope : Scope) (name : String) : Option SymbolId := scope.entries.lookup name

/-- Adds a name that the scope does not have yet. -/
def insert (scope : Scope) (name : String) (id : SymbolId) (new : name ∉ scope.names) : Scope where
  entries := (name, id) :: scope.entries
  distinct := by
    rw [List.map_cons, List.nodup_cons]
    exact ⟨new, scope.distinct⟩

@[simp] theorem find?_empty (name : String) : empty.find? name = none := rfl

theorem find?_insert (scope : Scope) (name other : String) (id : SymbolId)
    (new : name ∉ scope.names) :
    (scope.insert name id new).find? other = if other = name then some id else scope.find? other := by
  simp only [find?, insert, List.lookup_cons]
  by_cases h : other = name
  · simp [h]
  · simp [h, beq_false_of_ne h]

theorem find?_eq_none_iff (scope : Scope) (name : String) :
    scope.find? name = none ↔ name ∉ scope.names := by
  rw [find?, names, List.lookup_eq_none_iff, List.mem_map]
  constructor
  · rintro h ⟨p, hp, rfl⟩
    simpa using h p hp
  · intro h p hp
    exact bne_iff_ne.2 fun e => h ⟨p, hp, e.symm⟩

end Scope

/-- The open scopes, innermost first. -/
structure ScopeStack where
  scopes : List Scope := []
  deriving DecidableEq

namespace ScopeStack

/-- No open scope. -/
def empty : ScopeStack := {}

instance : Inhabited ScopeStack := ⟨empty⟩

/-- The number of open scopes. -/
def depth (stack : ScopeStack) : Nat := stack.scopes.length

def isEmpty (stack : ScopeStack) : Bool := stack.scopes.isEmpty

/-- Opens an empty scope inside the others. -/
def push (stack : ScopeStack) : ScopeStack := { scopes := .empty :: stack.scopes }

/-- One open scope, with nothing in it. -/
def withScope : ScopeStack := empty.push

/-- Closes the innermost scope. -/
def pop (stack : ScopeStack) : Except ScopeFault ScopeStack :=
  match stack.scopes with
  | [] => .error .noScope
  | _ :: outer => .ok { scopes := outer }

/-- Adds a name to the innermost scope, which must not have it yet. -/
def declare (stack : ScopeStack) (name : String) (id : SymbolId) : Except ScopeFault ScopeStack :=
  match stack.scopes with
  | [] => .error .noScope
  | scope :: outer =>
    if taken : name ∈ scope.names then .error (.duplicateName name)
    else .ok { scopes := scope.insert name id taken :: outer }

/-- The handle of a name in the innermost scope alone. -/
def lookupLocal (stack : ScopeStack) (name : String) : Except ScopeFault (Option SymbolId) :=
  match stack.scopes with
  | [] => .error .noScope
  | scope :: _ => .ok (scope.find? name)

/-- The handle of a name in the innermost of the scopes that have it. -/
def lookup (stack : ScopeStack) (name : String) : Except ScopeFault (Option SymbolId) :=
  match stack.scopes with
  | [] => .error .noScope
  | scopes => .ok (scopes.findSome? (·.find? name))

/-- Those of the given names that the innermost scope has, each with its handle. -/
def bindingsOf (stack : ScopeStack) (names : List String) : List (String × SymbolId) :=
  match stack.scopes with
  | [] => []
  | scope :: _ => names.filterMap fun name => (scope.find? name).map (name, ·)

@[simp] theorem depth_push (stack : ScopeStack) : stack.push.depth = stack.depth + 1 := rfl

@[simp] theorem depth_withScope : withScope.depth = 1 := rfl

@[simp] theorem pop_push (stack : ScopeStack) : stack.push.pop = .ok stack := rfl

/-- After a declaration its name means the new handle, and all other names mean what they meant. -/
theorem lookup_declare {stack stack' : ScopeStack} {name : String} {id : SymbolId}
    (h : stack.declare name id = .ok stack') (other : String) :
    stack'.lookup other = if other = name then .ok (some id) else stack.lookup other := by
  obtain ⟨scopes⟩ := stack
  cases scopes with
  | nil => simp [declare] at h
  | cons scope outer =>
    simp only [declare] at h
    split at h
    · cases h
    · cases h
      simp only [lookup, List.findSome?_cons, Scope.find?_insert]
      by_cases hn : other = name <;> simp [hn]

end ScopeStack

end StructLang
