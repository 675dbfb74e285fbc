import StructLang.Naming.Basic

/-!
# Name resolution: uses

A plain name and the callee of a call are looked up in the open scopes, from the innermost outwards.
The field after a dot is looked up among the fields of the struct that stands before it, which is
found through the symbol of a plain name or of another field; nothing else can stand there. When
what stands there has failed already, the dot fails in silence, so that a chain of dots is reported
at most once.
-/

namespace StructLang

/-- What an access to a field has to start from. -/
inductive Base where
  /-- The base is wrong, and that has been reported. -/
  | failed
  | symbol (id : SymbolId)
  /-- The base denotes nothing that could have fields. -/
  | nothing
  deriving DecidableEq

/-- What a dot after the expression starts from: the symbol of a plain name or of a field. -/
def Expr.asBase : Expr → Base
  | .name id _ =>
    match id.symbol? with
    | some symbol => .symbol symbol
    | none => .failed
  | .dot _ _ true _ => .failed
  | .dot _ field false _ =>
    match field.symbol? with
    | some symbol => .symbol symbol
    | none => .nothing
  | _ => .nothing

namespace Naming

open Pass

/-- Binds the use of a name to the innermost declaration that is visible. -/
def use (id : Ident) : Naming Ident := do
  match ← require (liftScope ((← table).lookup id.name)) none with
  | some symbol =>
    let id ← bind id symbol
    note (.bound id.name id.loc symbol)
    return id
  | none =>
    report id.loc .undeclared
    return id

/-- Reports that a field cannot be resolved and raises its flag. -/
def rejectField (field : Ident) (failed : Bool) (problem : Problem) : Naming (Ident × Bool) := do
  report field.loc problem
  return (field, ← raise failed)

/-- Binds the field of a dot access whose base has been resolved, or raises its flag. -/
def selectField (base : Expr) (field : Ident) (failed : Bool) : Naming (Ident × Bool) := do
  match base.asBase with
  | .failed => return (field, ← raise failed)
  | .nothing => rejectField field failed .dotOnNonStruct
  | .symbol id =>
    match ← require ((← symbols).fieldsOf id) none with
    | none => rejectField field failed .dotOnNonStruct
    | some fields =>
      match ← require (liftScope (fields.lookup field.name)) none with
      | none => rejectField field failed .invalidField
      | some symbol =>
        let field ← bind field symbol
        note (.boundField field.name field.loc symbol)
        return (field, failed)

end Naming

end StructLang
