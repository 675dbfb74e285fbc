import StructLang.Naming.Declare
import StructLang.Naming.Use
import StructLang.Symbol.Listing
import StructLang.Tree.Traversal

/-!
# Name resolution: programs

The declarations of a program are resolved in order, in one program scope.

* A function is declared before its formals, so that it may call itself. Its parameter types are
  those that the formals write down, also where a formal is rejected. Its formals and the
  declarations of its body share a scope.
* A struct is declared after its fields, so that it cannot contain itself.
* A function or struct whose name is taken is reported and not declared, but what is inside it is
  resolved like any other.
-/

namespace StructLang

/-- The type that a declaration writes down, whether or not the struct it names exists. -/
def TypeName.written : TypeName → Ty
  | .int => .int
  | .bool => .bool
  | .void => .void
  | .struct name => .struct name.name

namespace Naming

open Pass

/-- What name resolution does inside a function body. -/
def visitor : Visitor Names where
  onName := use
  onCallee := use
  onField := selectField
  onLocal := declareVar
  onEnter := openScope
  onLeave := closeScope

/-- The return type of a function, with its struct name bound; a struct name that means no
definition makes it an error. -/
def returnType : TypeName → Naming (TypeName × Ty)
  | .struct name => do
    let (name, defn) ← useStruct (← table) name
    return (.struct name, if defn.isSome then .struct name.name else .error)
  | ty => return (ty, ty.written)

/-- Declares a function without parameters, unless its name is taken. -/
def declareFn (id : Ident) (ret : Ty) : Naming (Ident × Option SymbolId) := do
  if ← rejectDuplicate id then
    return (id, none)
  else
    let (id, symbol) ← introduceHere id (.fn [] ret)
    return (id, some symbol)

/-- Gives a declared function the types that its formals write down. -/
def setParams (symbol : SymbolId) (formals : List VarDecl) : Naming Unit := do
  let symbols ← symbols
  let params := formals.map (·.ty.written)
  let symbols ← require (symbols.modify symbol (·.withParams params)) symbols
  update fun names => { names with symbols }

/-- Resolves a function: its return type, itself, its formals and its body. -/
def resolveFn (f : FnDecl) : Naming FnDecl := do
  let (ret, retTy) ← returnType f.ret
  let (id, symbol) ← declareFn f.id retTy
  openScope
  let formals ← f.formals.mapM declareVar
  match symbol with
  | some symbol => setParams symbol formals
  | none => pure ()
  let body ← f.body.visit visitor
  closeScope
  return { ret, id, formals, body }

/-- Resolves a struct: its fields, then itself. The table of the fields is opened, which is logged,
and belongs to the struct from then on. -/
def resolveStruct (s : StructDecl) : Naming StructDecl := do
  let duplicate ← rejectDuplicate s.id
  note (.opened ScopeStack.withScope.depth)
  let (table, fields) ← declareFields (← table) .withScope s.fields
  if duplicate then
    return { s with fields }
  else
    let (id, symbol) ← introduceHere s.id (.structDef table)
    note (.declaredStruct id.name symbol)
    return { id, fields }

/-- Resolves a declaration of the program. -/
def resolveDecl : Decl → Naming Decl
  | .var decl => do return .var (← declareVar decl)
  | .fn f => do return .fn (← resolveFn f)
  | .struct s => do return .struct (← resolveStruct s)

/-- Writes the open scopes to the log. -/
def logScopes : Naming Unit := do
  note (.scopes ((← table).listing (← symbols)))

end Naming

open Pass Naming in
/-- Resolves all names of a program in a program scope of its own. Symbols, error count, sink and
log of earlier programs of the same run stay. Before the program scope is closed it is written to
the log, if that is asked for. -/
def resolveProgram (dumpScopes : Bool) (p : Program) : Naming Program := do
  modify fun run => run.restart { run.work with table := .empty }
  note (.namingStarted p.decls.length)
  openScope
  let decls ← p.decls.mapM resolveDecl
  if dumpScopes then
    logScopes
  closeScope
  note (.namingFinished (← symbols).size (← get).errors)
  return { decls }

end StructLang
