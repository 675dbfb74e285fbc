import StructLang.Symbol.Arena

/-!
# Listing the open scopes

The text form of a stack of scopes, for the log: a heading, then a line for each scope from the
innermost to the outermost, and an empty line. A scope shows its names in the order of their code
points, each with the type of its symbol, so that the text does not depend on the order in which
the names were declared.
-/

namespace StructLang

/-- The entries of the scope in the order of their names. -/
def Scope.sorted (scope : Scope) : List (String × SymbolId) :=
  scope.entries.mergeSort fun a b => a.1 ≤ b.1

/-- One scope in braces: each name and the type of its symbol. -/
def Scope.listing (scope : Scope) (arena : Arena) : String :=
  let entries := scope.sorted.map fun (name, id) => name ++ "=" ++ arena.describe id
  "\x7b" ++ ", ".intercalate entries ++ "\x7d"

/-- All scopes as text. -/
def ScopeStack.listing (stack : ScopeStack) (arena : Arena) : String :=
  "\nSym Table\n" ++ String.join (stack.scopes.map (·.listing arena ++ "\n")) ++ "\n"

theorem Scope.sorted_perm (scope : Scope) : scope.sorted.Perm scope.entries :=
  List.mergeSort_perm ..

/-- The names of the listing stand in order. -/
theorem Scope.sorted_pairwise (scope : Scope) :
    scope.sorted.Pairwise fun a b => a.1 ≤ b.1 := by
  let le : String × SymbolId → String × SymbolId → Bool := fun a b => a.1 ≤ b.1
  have trans : ∀ a b c, le a b = true → le b c = true → le a c = true := fun a b c hab hbc =>
    decide_eq_true (String.le_trans (of_decide_eq_true hab) (of_decide_eq_true hbc))
  have total : ∀ a b, (le a b || le b a) = true := fun a b => by
    simpa [le] using String.le_total a.1 b.1
  exact (List.pairwise_mergeSort trans total scope.entries).imp of_decide_eq_true

end StructLang
