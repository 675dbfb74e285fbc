import StructLang.Run
import StructLang.Symbol.Arena
import StructLang.Tree.Basic

/-!
# Name resolution: the state

Name resolution creates a symbol for every declaration and binds every identifier to the symbol that
it denotes. It works on the arena of symbols and on the stack of the scopes that are open: one for
the program, one for a function's formals and the declarations of its body, and one for each block
inside a statement. A name is visible from its declaration to the end of its scope, and a use means
the innermost declaration that is visible.
-/

namespace StructLang

/-- The working data of name resolution: all symbols, and the open scopes. -/
structure Names where
  symbols : Arena := {}
  table : ScopeStack := {}
  deriving Inhabited

/-- A computation of name resolution. -/
abbrev Naming := Pass Names

namespace Naming

open Pass

/-- The symbols so far. -/
def symbols : Naming Arena := do return (← work).symbols

/-- The open scopes. -/
def table : Naming ScopeStack := do return (← work).table

/-- Makes the given scopes the open ones. -/
def setTable (table : ScopeStack) : Naming Unit := update fun names => { names with table }

/-- Opens a scope inside the others. -/
def openScope : Naming Unit := do
  let inner := (← table).push
  setTable inner
  note (.opened inner.depth)

/-- Closes the innermost scope. -/
def closeScope : Naming Unit := do
  let table ← table
  let outer ← require (liftScope table.pop) table
  setTable outer
  note (.closed outer.depth)

/-- Binds an identifier to a symbol. -/
def bind (id : Ident) (symbol : SymbolId) : Naming Ident := do
  return { id with binding := ← fill id.binding symbol }

end Naming

end StructLang
