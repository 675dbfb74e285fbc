import StructLang.Naming.Basic

/-!
# Name resolution: declarations

A declaration that is accepted gets a symbol, enters the innermost scope and has its identifier
bound. One that is rejected leaves the scope as it was and its identifier unbound.

Variables, formals and fields may not be `void`, and their struct types must be the name of a struct
definition. The type is looked at first; a declaration with a wrong type can be a duplicate all the
same, and is then reported for both. Fields live in a table of their own, but their types are
looked up where the struct is declared, so `declareIn` takes the two apart.
-/

namespace StructLang

namespace Naming

open Pass

/-- The struct definition that a name means in the given scopes. -/
def structNamed (types : ScopeStack) (name : String) : Naming (Option SymbolId) := do
  match ← require (liftScope (types.lookup name)) none with
  | none => return none
  | some id =>
    let isDefinition ← require (((← symbols).get id).map Symbol.isStructDef) false
    return if isDefinition then some id else none

/-- Binds the name of a struct type to the definition that it means, and reports it if it means
none. -/
def useStruct (types : ScopeStack) (name : Ident) : Naming (Ident × Option SymbolId) := do
  match ← structNamed types name.name with
  | some defn => return (← bind name defn, some defn)
  | none =>
    report name.loc .invalidStructName
    return (name, none)

/-- The kind of symbol that a variable of the type is, if there can be one. The struct name in the
type is bound; `owner` is the identifier that a `void` is reported at. -/
def kindOf (types : ScopeStack) (owner : Ident) :
    TypeName → Naming (TypeName × Option Symbol.Kind)
  | .int => return (.int, some (.var .int))
  | .bool => return (.bool, some (.var .bool))
  | .void => do
    report owner.loc .voidVariable
    return (.void, none)
  | .struct name => do
    let (name, defn) ← useStruct types name
    return (.struct name, defn.map .structVar)

/-- Creates a symbol, declares it in the innermost of the given scopes and binds its identifier.
Returns the scopes with the new name in them. The symbol comes first: an arena without a handle for
it ends the run before anything is declared or bound. -/
def introduce (target : ScopeStack) (id : Ident) (kind : Symbol.Kind) :
    Naming (ScopeStack × Ident × SymbolId) := do
  let symbols ← symbols
  let (symbols, symbol) ←
    require (symbols.alloc { name := id.name, kind }) (symbols, symbols.nextId)
  update fun names => { names with symbols }
  let target ← require (liftScope (target.declare id.name symbol)) target
  return (target, ← bind id symbol, symbol)

/-- Declares a variable, formal or field in the innermost of the scopes `target`, with struct types
looked up in the scopes `types`. Returns the scopes after the declaration. -/
def declareIn (types target : ScopeStack) (decl : VarDecl) : Naming (ScopeStack × VarDecl) := do
  let (ty, kind) ← kindOf types decl.id decl.ty
  match ← require (liftScope (target.lookupLocal decl.id.name)) none, kind with
  | some _, _ =>
    report decl.id.loc .duplicateDeclaration
    return (target, { decl with ty })
  | none, none => return (target, { decl with ty })
  | none, some kind =>
    let (target, id, symbol) ← introduce target decl.id kind
    note (.declared id.name symbol)
    return (target, { ty, id })

/-- Declares a variable or formal in the innermost open scope. -/
def declareVar (decl : VarDecl) : Naming VarDecl := do
  let table ← table
  let (table, decl) ← declareIn table table decl
  setTable table
  return decl

/-- Declares the fields of a struct one after the other in their own table, and returns the
table. -/
def declareFields (types : ScopeStack) :
    ScopeStack → List VarDecl → Naming (ScopeStack × List VarDecl)
  | fields, [] => return (fields, [])
  | fields, decl :: decls => do
    let (fields, decl) ← declareIn types fields decl
    let (fields, decls) ← declareFields types fields decls
    return (fields, decl :: decls)

/-- Declares a function or a struct in the innermost open scope. -/
def introduceHere (id : Ident) (kind : Symbol.Kind) : Naming (Ident × SymbolId) := do
  let (table, id, symbol) ← introduce (← table) id kind
  setTable table
  return (id, symbol)

/-- Reports a name that the innermost open scope has already, and says whether it has. -/
def rejectDuplicate (id : Ident) : Naming Bool := do
  match ← require (liftScope ((← table).lookupLocal id.name)) none with
  | some _ =>
    report id.loc .duplicateDeclaration
    return true
  | none => return false

end Naming

end StructLang
