import Mathlib.Tactic.Common
import StructLang.Naming.Program

/-!
# Static semantics

Which programs are well formed, said of the source alone: there are no symbols, no handles, no slots
to fill and no error type here, and nothing is carried on after a mistake.

* `Meaning` — what a name means.  A struct type is its name with its fields, and the fields have
  meanings of their own, so no table of structs is needed.
* `Env` — the scopes around a place, each with the names declared in it so far.  A name means what
  the innermost scope that has it says.
* `HasType` — the type of an expression.  `Denotes` says it of names and fields, since a field can
  only be selected from those.
* `StmtOk`, `DeclOk`, `Program.WellFormed` — what is well formed.  A declaration changes the
  environment of what follows it.
-/

namespace StructLang

/-- What a name means. -/
inductive Meaning where
  /-- A variable, formal or field. -/
  | int
  | bool
  /-- A variable, formal or field of the named struct type, which has the given fields. -/
  | record (name : String) (fields : List (String × Meaning))
  /-- A struct type. -/
  | struct (name : String) (fields : List (String × Meaning))
  | fn (params : List Ty) (ret : Ty)

/-- The type of an expression that has the meaning. -/
def Meaning.ty : Meaning → Ty
  | int => .int
  | bool => .bool
  | record name _ => .struct name
  | struct name _ => .structDef name
  | fn params ret => .fn params ret

/-- The scopes around a place, innermost first, with the names declared in them so far. -/
abbrev Env := List (List (String × Meaning))

namespace Env

/-- What the name means: what it means in the innermost scope that has it. -/
def meaning? (env : Env) (name : String) : Option Meaning := env.findSome? (·.lookup name)

@[simp] lemma meaning?_singleton (scope : List (String × Meaning)) (name : String) :
    meaning? [scope] name = scope.lookup name := by
  rw [meaning?, List.findSome?_cons]
  cases scope.lookup name <;> rfl

/-- A declaration adds a name to the innermost scope, which must not have it yet. -/
inductive Declares : Env → String → Meaning → Env → Prop
  | mk {scope : List (String × Meaning)} {outer : Env} {name : String} {m : Meaning}
      (new : name ∉ scope.map Prod.fst) :
      Declares (scope :: outer) name m (((name, m) :: scope) :: outer)

/-- A struct type has the name of a struct definition. -/
def Knows (env : Env) (ty : TypeName) : Prop :=
  ∀ name, ty = .struct name → ∃ defn fields, env.meaning? name.name = some (.struct defn fields)

end Env

/-! ## Declarations -/

/-- What a variable, formal or field of the type means.  It cannot be void. -/
inductive VarOk (env : Env) : TypeName → Meaning → Prop
  | int : VarOk env .int .int
  | bool : VarOk env .bool .bool
  | struct {id : Ident} {name : String} {fields : List (String × Meaning)}
      (known : env.meaning? id.name = some (.struct name fields)) :
      VarOk env (.struct id) (.record name fields)

/-- Declarations one after the other; `types` says where struct types are looked up. -/
inductive VarsOk (types : Env → Env) : Env → List VarDecl → Env → Prop
  | nil {env : Env} : VarsOk types env [] env
  | cons {env env' env'' : Env} {d : VarDecl} {ds : List VarDecl} {m : Meaning}
      (type : VarOk (types env) d.ty m) (declares : env.Declares d.id.name m env')
      (rest : VarsOk types env' ds env'') : VarsOk types env (d :: ds) env''

/-- Declarations leave the outer scopes alone. -/
lemma VarsOk.innermost {types : Env → Env} {scope : List (String × Meaning)} {outer env' : Env}
    {ds : List VarDecl} (h : VarsOk types (scope :: outer) ds env') :
    ∃ scope', env' = scope' :: outer := by
  generalize henv : scope :: outer = env at h
  induction h generalizing scope with
  | nil => exact ⟨scope, henv.symm⟩
  | cons type declares rest ih =>
      cases declares with
      | mk new =>
          obtain ⟨rfl, rfl⟩ := List.cons.inj henv
          exact ih rfl

/-! ## Expressions -/

/-- What an expression means that is a name, or a field selected from what means a struct
variable. -/
inductive Denotes (env : Env) : Expr → Meaning → Prop
  | name {id : Ident} {note : Note} {m : Meaning} (visible : env.meaning? id.name = some m) :
      Denotes env (.name id note) m
  | dot {base : Expr} {field : Ident} {failed : Bool} {note : Note} {name : String}
      {fields : List (String × Meaning)} {m : Meaning}
      (record : Denotes env base (.record name fields))
      (member : fields.lookup field.name = some m) : Denotes env (.dot base field failed note) m

/-- The types of what can be assigned, compared and passed. -/
def Ty.IsScalar (ty : Ty) : Prop := ty = .int ∨ ty = .bool

/-- The type of the operand and of the result. -/
inductive UnaryOp.Takes : UnaryOp → Ty → Ty → Prop
  | neg : Takes .neg .int .int
  | not : Takes .not .bool .bool

/-- The type of both operands and of the result. -/
inductive Family.Takes : Family → Ty → Ty → Prop
  | arithmetic : Takes .arithmetic .int .int
  | logical : Takes .logical .bool .bool
  | relational : Takes .relational .int .bool
  | equality {ty : Ty} (scalar : ty.IsScalar) : Takes .equality ty .bool

mutual

/-- The expression is well typed. -/
inductive HasType (env : Env) : Expr → Ty → Prop
  | int (value : Int32) (note : Note) : HasType env (.lit (.int value) note) .int
  | string (value : String) (note : Note) : HasType env (.lit (.string value) note) .string
  | bool (value : Bool) (note : Note) : HasType env (.lit (.bool value) note) .bool
  | path {e : Expr} {m : Meaning} (denotes : Denotes env e m) : HasType env e m.ty
  | assign {target value : Expr} {note : Note} {ty : Ty} (left : HasType env target ty)
      (right : HasType env value ty) (scalar : ty.IsScalar) :
      HasType env (.assign target value note) ty
  | call {callee : Ident} {args : List Expr} {note : Note} {params : List Ty} {ret : Ty}
      (visible : env.meaning? callee.name = some (.fn params ret))
      (all : HasTypes env args params) : HasType env (.call callee args note) ret
  | unary {op : UnaryOp} {operand : Expr} {note : Note} {ty ty' : Ty}
      (inner : HasType env operand ty) (takes : op.Takes ty ty') :
      HasType env (.unary op operand note) ty'
  | binary {op : BinaryOp} {left right : Expr} {note : Note} {ty ty' : Ty}
      (first : HasType env left ty) (second : HasType env right ty)
      (takes : op.family.Takes ty ty') : HasType env (.binary op left right note) ty'

/-- The arguments have the types of the parameters, as many as there are. -/
inductive HasTypes (env : Env) : List Expr → List Ty → Prop
  | nil : HasTypes env [] []
  | cons {e : Expr} {es : List Expr} {ty : Ty} {tys : List Ty} (first : HasType env e ty)
      (scalar : ty.IsScalar) (rest : HasTypes env es tys) : HasTypes env (e :: es) (ty :: tys)

end

section

variable {env : Env} {note : Note} {ty ty' : Ty}

lemma hasType_lit_iff {value : Literal} : HasType env (.lit value note) ty ↔
    ty = match value with | .int _ => .int | .string _ => .string | .bool _ => .bool := by
  constructor
  · intro h
    cases h with
    | path denotes => cases denotes
    | _ => rfl
  · rintro rfl
    cases value with
    | int value => exact .int value note
    | string value => exact .string value note
    | bool value => exact .bool value note

lemma hasType_name_iff {id : Ident} :
    HasType env (.name id note) ty ↔ ∃ m, Denotes env (.name id note) m ∧ m.ty = ty := by
  constructor
  · rintro (_ | _)
    exact ⟨_, by assumption, rfl⟩
  · rintro ⟨m, denotes, rfl⟩
    exact .path denotes

lemma hasType_dot_iff {base : Expr} {field : Ident} {failed : Bool} :
    HasType env (.dot base field failed note) ty ↔
      ∃ m, Denotes env (.dot base field failed note) m ∧ m.ty = ty := by
  constructor
  · rintro (_ | _)
    exact ⟨_, by assumption, rfl⟩
  · rintro ⟨m, denotes, rfl⟩
    exact .path denotes

lemma hasType_assign_iff {target value : Expr} : HasType env (.assign target value note) ty ↔
    HasType env target ty ∧ HasType env value ty ∧ ty.IsScalar := by
  constructor
  · intro h
    cases h with
    | path denotes => cases denotes
    | assign left right scalar => exact ⟨left, right, scalar⟩
  · rintro ⟨left, right, scalar⟩
    exact .assign left right scalar

lemma hasType_call_iff {callee : Ident} {args : List Expr} :
    HasType env (.call callee args note) ty ↔
      ∃ params, env.meaning? callee.name = some (.fn params ty) ∧ HasTypes env args params := by
  constructor
  · intro h
    cases h with
    | path denotes => cases denotes
    | call visible all => exact ⟨_, visible, all⟩
  · rintro ⟨params, visible, all⟩
    exact .call visible all

lemma hasType_unary_iff {op : UnaryOp} {operand : Expr} :
    HasType env (.unary op operand note) ty' ↔ ∃ ty, HasType env operand ty ∧ op.Takes ty ty' := by
  constructor
  · intro h
    cases h with
    | path denotes => cases denotes
    | unary inner takes => exact ⟨_, inner, takes⟩
  · rintro ⟨ty, inner, takes⟩
    exact .unary inner takes

lemma hasType_binary_iff {op : BinaryOp} {left right : Expr} :
    HasType env (.binary op left right note) ty' ↔
      ∃ ty, HasType env left ty ∧ HasType env right ty ∧ op.family.Takes ty ty' := by
  constructor
  · intro h
    cases h with
    | path denotes => cases denotes
    | binary first second takes => exact ⟨_, first, second, takes⟩
  · rintro ⟨ty, first, second, takes⟩
    exact .binary first second takes

lemma hasTypes_cons_iff {e : Expr} {es : List Expr} {tys : List Ty} :
    HasTypes env (e :: es) (ty :: tys) ↔ HasType env e ty ∧ ty.IsScalar ∧ HasTypes env es tys := by
  constructor
  · rintro ⟨⟩
    exact ⟨by assumption, by assumption, by assumption⟩
  · rintro ⟨first, scalar, rest⟩
    exact .cons first scalar rest

end

/-! ## Statements -/

/-- What a simple statement does to an expression of the type makes sense. -/
inductive Verb.Suits : Verb → Ty → Prop
  | assign (ty : Ty) : Suits .assign ty
  | call (ty : Ty) : Suits .call ty
  | increment : Suits .increment .int
  | decrement : Suits .decrement .int
  | read {ty : Ty} (readable : ty = .int ∨ ty = .bool ∨ ty = .void) : Suits .read ty
  | write {ty : Ty} (writable : ty = .int ∨ ty = .bool ∨ ty = .string) : Suits .write ty

mutual

/-- The block is well formed, in the scope that is open for it, in a function of return type
`ret`. -/
inductive BlockOk (ret : Ty) : Env → Block → Prop
  | mk {env env' : Env} {ds : List VarDecl} {ss : List Stmt} (decls : VarsOk id env ds env')
      (stmts : StmtsOk ret env' ss) : BlockOk ret env (.mk ds ss)

/-- The statement is well formed; each of its blocks has a scope of its own. -/
inductive StmtOk (ret : Ty) : Env → Stmt → Prop
  | simple {env : Env} {verb : Verb} {e : Expr} {ty : Ty} (expr : HasType env e ty)
      (suits : verb.Suits ty) : StmtOk ret env (.simple verb e)
  | guarded {env : Env} {guard : Guard} {cond : Expr} {body : Block}
      (expr : HasType env cond .bool) (branch : BlockOk ret ([] :: env) body) :
      StmtOk ret env (.guarded guard cond body)
  | ifElse {env : Env} {cond : Expr} {yes no : Block} (expr : HasType env cond .bool)
      (first : BlockOk ret ([] :: env) yes) (second : BlockOk ret ([] :: env) no) :
      StmtOk ret env (.ifElse cond yes no)
  | leave {env : Env} {loc : Location} (void : ret = .void) : StmtOk ret env (.ret none loc)
  | ret {env : Env} {e : Expr} {loc : Location} (expr : HasType env e ret) (value : ret ≠ .void) :
      StmtOk ret env (.ret (some e) loc)

/-- All statements are well formed, in the same environment. -/
inductive StmtsOk (ret : Ty) : Env → List Stmt → Prop
  | nil {env : Env} : StmtsOk ret env []
  | cons {env : Env} {s : Stmt} {ss : List Stmt} (first : StmtOk ret env s)
      (rest : StmtsOk ret env ss) : StmtsOk ret env (s :: ss)

end

/-! ## Programs -/

/-- The declaration is well formed.  A function is visible in its own formals and body, which share
a scope.  The fields of a struct have a scope of their own, outside of which their struct types are
looked up, and the struct is visible after them. -/
inductive DeclOk : Env → Decl → Env → Prop
  | var {env env' : Env} {d : VarDecl} {m : Meaning} (type : VarOk env d.ty m)
      (declares : env.Declares d.id.name m env') : DeclOk env (.var d) env'
  | fn {env env' inner : Env} {f : FnDecl} (type : env.Knows f.ret)
      (declares : env.Declares f.id.name (.fn (f.formals.map (·.ty.written)) f.ret.written) env')
      (params : VarsOk id ([] :: env') f.formals inner)
      (body : BlockOk f.ret.written inner f.body) : DeclOk env (.fn f) env'
  | struct {env env' : Env} {s : StructDecl} {fields : List (String × Meaning)}
      (all : VarsOk (fun _ => env) [[]] s.fields [fields])
      (declares : env.Declares s.id.name (.struct s.id.name fields) env') :
      DeclOk env (.struct s) env'

/-- The declarations of a program are well formed, each after those before it. -/
inductive DeclsOk : Env → List Decl → Env → Prop
  | nil {env : Env} : DeclsOk env [] env
  | cons {env env' env'' : Env} {d : Decl} {ds : List Decl} (first : DeclOk env d env')
      (rest : DeclsOk env' ds env'') : DeclsOk env (d :: ds) env''

/-- The program is well formed. -/
def Program.WellFormed (p : Program) : Prop := ∃ env, DeclsOk [[]] p.decls env

end StructLang
