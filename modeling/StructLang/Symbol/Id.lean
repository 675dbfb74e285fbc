/-!
# Symbol handles

Trees and scopes refer to a symbol by a handle, the position at which it was allocated in its
arena. A handle can be copied and compared freely; whether it denotes anything is a question to
the arena at hand. It is a word of 32 bits, so there are only so many of them, and positions from
`UInt32.size` on have none.
-/

namespace StructLang

/-- The handle of a symbol: its position in the arena. -/
structure SymbolId where
  word : UInt32
  deriving DecidableEq, Inhabited

namespace SymbolId

/-- The position that the handle stands for. -/
def index (id : SymbolId) : Nat := id.word.toNat

/-- The handle of a position that has one. -/
def ofIndex (index : Nat) : SymbolId := ⟨.ofNat index⟩

/-- Handles are ordered by the time at which their symbols were allocated. -/
instance : LT SymbolId := ⟨fun a b => a.index < b.index⟩

instance (a b : SymbolId) : Decidable (a < b) :=
  inferInstanceAs (Decidable (a.index < b.index))

/-- The text of a handle: a number sign and the position. -/
def render (id : SymbolId) : String := "#" ++ toString id.index

theorem index_ofIndex {index : Nat} (h : index < UInt32.size) : (ofIndex index).index = index :=
  UInt32.toNat_ofNat_of_lt' h

@[simp] theorem ofIndex_index (id : SymbolId) : ofIndex id.index = id :=
  congrArg mk (UInt32.ofNat_toNat)

theorem index_injective {a b : SymbolId} (h : a.index = b.index) : a = b := by
  rw [← ofIndex_index a, h, ofIndex_index]

end SymbolId

end StructLang
