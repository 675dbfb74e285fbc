import StructLang.Symbol.Scope
import StructLang.Ty

/-!
# Symbols and the arena that owns them

Every declared thing is a symbol, and every symbol lives in an `Arena`, where its position is its
handle. Allocation only ever appends, so a handle keeps denoting the same symbol. It fails when
there is no handle left, so an arena never has symbols without one.

A struct definition owns the table of its fields, as a scope stack of its own. A variable of struct
type refers to the definition it instantiates by handle, and everything that depends on the
definition (its type, its fields) is read through that handle.

* `Arena.alloc` — a new symbol and its handle, unless the arena is full.
* `Arena.typeOf` — the type of an expression that names a symbol.
* `Arena.fieldsOf` — the fields that a dot after a symbol can select.
-/

namespace StructLang

/-- What kind of thing a symbol is. -/
inductive Symbol.Kind where
  /-- A variable or formal of primitive type. -/
  | var (ty : Ty)
  /-- A struct type with the table of its fields. -/
  | structDef (fields : ScopeStack)
  /-- A variable of the struct type that the handle defines. -/
  | structVar (defn : SymbolId)
  | fn (params : List Ty) (ret : Ty)
  deriving Inhabited

/-- A declared thing. -/
structure Symbol where
  name : String
  kind : Symbol.Kind
  deriving Inhabited

namespace Symbol

def isStructDef (symbol : Symbol) : Bool :=
  match symbol.kind with
  | .structDef _ => true
  | _ => false

/-- Gives a function symbol its parameter types; other symbols stay as they are. -/
def withParams (symbol : Symbol) (params : List Ty) : Symbol :=
  match symbol.kind with
  | .fn _ ret => { symbol with kind := .fn params ret }
  | _ => symbol

end Symbol

theorem Symbol.none_numbered : (#[] : Array Symbol).size ≤ UInt32.size := Nat.zero_le _

/-- The owner of all symbols; a symbol's position is its handle. -/
structure Arena where
  symbols : Array Symbol := #[]
  /-- Every symbol has a handle. -/
  numbered : symbols.size ≤ UInt32.size := by exact Symbol.none_numbered

namespace Arena

instance : Inhabited Arena := ⟨{}⟩

def empty : Arena := {}

def size (arena : Arena) : Nat := arena.symbols.size

def isEmpty (arena : Arena) : Bool := arena.symbols.isEmpty

/-- The handle that the next symbol will have. -/
def nextId (arena : Arena) : SymbolId := .ofIndex arena.size

/-- Appends a symbol, for which there must be a handle left. -/
def push (arena : Arena) (symbol : Symbol) (room : arena.size < UInt32.size) : Arena where
  symbols := arena.symbols.push symbol
  numbered := by rw [Array.size_push]; exact room

/-- Appends a symbol and returns its handle. -/
def alloc (arena : Arena) (symbol : Symbol) : Except Fault (Arena × SymbolId) :=
  if room : arena.size < UInt32.size then .ok (arena.push symbol room, arena.nextId)
  else .error (.overflow arena.size)

/-- The symbol of a handle. -/
def get (arena : Arena) (id : SymbolId) : Except Fault Symbol :=
  match arena.symbols[id.index]? with
  | some symbol => .ok symbol
  | none => .error (.dangling id)

/-- Changes the symbol of a handle. -/
def modify (arena : Arena) (id : SymbolId) (f : Symbol → Symbol) : Except Fault Arena := do
  let symbol ← arena.get id
  return {
    symbols := arena.symbols.setIfInBounds id.index (f symbol)
    numbered := by rw [Array.size_setIfInBounds]; exact arena.numbered }

/-- The type that an expression naming the symbol has. A struct variable is of the type that its
definition is called. -/
def typeOf (arena : Arena) (id : SymbolId) : Except Fault Ty := do
  let symbol ← arena.get id
  match symbol.kind with
  | .var ty => return ty
  | .structDef _ => return .structDef symbol.name
  | .structVar defn => return .struct (← arena.get defn).name
  | .fn params ret => return .fn params ret

/-- The fields of the struct that the symbol is a variable of, or nothing if it is not a variable
of struct type. -/
def fieldsOf (arena : Arena) (id : SymbolId) : Except Fault (Option ScopeStack) := do
  match (← arena.get id).kind with
  | .structVar defn =>
    match (← arena.get defn).kind with
    | .structDef fields => return some fields
    | _ =>
      throw (.internal ("struct variable " ++ id.render ++ " points at non-struct symbol " ++
        defn.render))
  | _ => return none

/-- The text of a symbol's type, which also exists when the handle denotes nothing. -/
def describe (arena : Arena) (id : SymbolId) : String :=
  match arena.typeOf id with
  | .ok ty => ty.render
  | .error _ => "<dangling " ++ id.render ++ ">"

/-- The names of all symbols in the order of their code points, each once. -/
def names (arena : Arena) : List String :=
  (arena.symbols.toList.map (·.name)).eraseDups.mergeSort (· ≤ ·)

@[ext] theorem ext {A B : Arena} (h : A.symbols = B.symbols) : A = B := by
  cases A
  cases B
  cases h
  rfl

theorem index_nextId {arena : Arena} (room : arena.size < UInt32.size) :
    arena.nextId.index = arena.size :=
  SymbolId.index_ofIndex room

theorem get_nextId_push {arena : Arena} (symbol : Symbol) (room : arena.size < UInt32.size) :
    (arena.push symbol room).get arena.nextId = .ok symbol := by
  simp [get, push, index_nextId room, size]

/-- An arena in which every handle is taken stays as it is. -/
theorem alloc_of_full {arena : Arena} (full : arena.size = UInt32.size) (symbol : Symbol) :
    arena.alloc symbol = .error (.overflow UInt32.size) := by
  rw [alloc, dif_neg (by omega), full]

end Arena

end StructLang
