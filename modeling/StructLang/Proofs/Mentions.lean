import Mathlib.Tactic.Common
import StructLang.Proofs.Scopes

/-!
# What name resolution reports

Name resolution reports what it cannot bind, and nothing else.  So its reports can be read off from
the tree that it leaves, as a flat list: the points at which a name is mentioned, in the order in
which name resolution comes by, and what it says at each of them.  A point says at most one thing,
and what it says depends on the point alone: on the slots and flags around it, and for a declaration
on the declarations before it in its scope.

* `Program.mentions` — the points: the type of a declaration before the declaration itself, a struct
  before its fields, a base before the field after the dot, a callee before the arguments.
* `Mention.findings` — what is said at a point.
* `resolveProgram_reports` — all that is reported of a program are the findings of its points, in
  order.
* `Program.mentions_infix` — the points of an expression stand together among those of the program.
* `Program.placed_perm` — every declaration of every scope has exactly one point of its own.
-/

namespace StructLang

/-! ## Points -/

/-- A point of a program at which name resolution may report something. -/
inductive Mention where
  /-- A plain name or a callee. -/
  | use (id : Ident)
  /-- A field, and what stands before the dot. -/
  | field (base : Expr) (id : Ident)
  /-- The name of a struct type. -/
  | type (name : Ident)
  /-- The name of a variable that is declared `void`. -/
  | void (owner : Ident)
  /-- A declaration, and the declarations before it in its scope. -/
  | declared (before : List Decl) (d : Decl)

/-- What is said about a field.  After something that has failed it is nothing. -/
def Arena.fieldFindings (A : Arena) (base : Expr) (id : Ident) : List Finding :=
  match base.asBase with
  | .failed => []
  | .nothing => [{ loc := id.loc, problem := .dotOnNonStruct }]
  | .symbol h =>
    match A.fieldsOf h with
    | .ok (some _) =>
      if id.symbol?.isSome then [] else [{ loc := id.loc, problem := .invalidField }]
    | .ok none => [{ loc := id.loc, problem := .dotOnNonStruct }]
    | .error _ => []

/-- What is said at the point. -/
def Mention.findings (A : Arena) : Mention → List Finding
  | use id => if id.symbol?.isSome then [] else [{ loc := id.loc, problem := .undeclared }]
  | field base id => A.fieldFindings base id
  | type name =>
    if name.symbol?.isSome then [] else [{ loc := name.loc, problem := .invalidStructName }]
  | void owner => [{ loc := owner.loc, problem := .voidVariable }]
  | declared before d =>
    if d.Taken before then [{ loc := d.id.loc, problem := .duplicateDeclaration }] else []

mutual

/-- The points of an expression, those of its parts first. -/
def Expr.mentions : Expr → List Mention
  | .lit _ _ => []
  | .name id _ => [.use id]
  | .dot base field _ _ => base.mentions ++ [.field base field]
  | .assign target value _ => target.mentions ++ value.mentions
  | .call callee args _ => .use callee :: Expr.mentionsOfAll args
  | .unary _ operand _ => operand.mentions
  | .binary _ left right _ => left.mentions ++ right.mentions

/-- The points of a list of expressions. -/
def Expr.mentionsOfAll : List Expr → List Mention
  | [] => []
  | e :: es => e.mentions ++ Expr.mentionsOfAll es

end

/-- The point of the type of a variable. -/
def TypeName.mentions (owner : Ident) : TypeName → List Mention
  | .int | .bool => []
  | .void => [.void owner]
  | .struct name => [.type name]

/-- The points of a variable that is declared after others. -/
def VarDecl.mentions (before : List Decl) (d : VarDecl) : List Mention :=
  d.ty.mentions d.id ++ [.declared before (.var d)]

/-- The points of variables that are declared one after the other. -/
def VarDecl.mentionsOfAll : List Decl → List VarDecl → List Mention
  | _, [] => []
  | before, d :: ds => d.mentions before ++ VarDecl.mentionsOfAll (before ++ [.var d]) ds

mutual

/-- The points of a block, whose scope has the formals in it already. -/
def Block.mentions (formals : List VarDecl) : Block → List Mention
  | .mk decls stmts => VarDecl.mentionsOfAll (formals.map .var) decls ++ Stmt.mentionsOfAll stmts

/-- The points of a statement. -/
def Stmt.mentions : Stmt → List Mention
  | .simple _ e => e.mentions
  | .guarded _ cond body => cond.mentions ++ body.mentions []
  | .ifElse cond yes no => cond.mentions ++ yes.mentions [] ++ no.mentions []
  | .ret none _ => []
  | .ret (some value) _ => value.mentions

/-- The points of a list of statements. -/
def Stmt.mentionsOfAll : List Stmt → List Mention
  | [] => []
  | s :: ss => s.mentions ++ Stmt.mentionsOfAll ss

end

/-- The points of a declaration of the program that comes after others. -/
def Decl.mentions (before : List Decl) : Decl → List Mention
  | .var d => d.mentions before
  | .fn f =>
    f.ret.idents.map .type ++ .declared before (.fn f) ::
      (VarDecl.mentionsOfAll [] f.formals ++ f.body.mentions f.formals)
  | .struct s => .declared before (.struct s) :: VarDecl.mentionsOfAll [] s.fields

/-- The points of declarations of the program one after the other. -/
def Decl.mentionsOfAll : List Decl → List Decl → List Mention
  | _, [] => []
  | before, d :: ds => d.mentions before ++ Decl.mentionsOfAll (before ++ [d]) ds

/-- The points of a program, in the order in which name resolution comes by. -/
def Program.mentions (p : Program) : List Mention := Decl.mentionsOfAll [] p.decls

/-! ## Reports are the findings of the points -/

/-- All that is said at the points, in order. -/
def remarksOf (A : Arena) (ms : List Mention) : List Finding := ms.flatMap (·.findings A)

section

variable (A : Arena)

@[simp] lemma remarksOf_append (ms ns : List Mention) :
    remarksOf A (ms ++ ns) = remarksOf A ms ++ remarksOf A ns := List.flatMap_append

lemma remarksOf_cons (m : Mention) (ms : List Mention) :
    remarksOf A (m :: ms) = m.findings A ++ remarksOf A ms := List.flatMap_cons

lemma remarksOf_singleton (m : Mention) : remarksOf A [m] = m.findings A := List.append_nil _

end

namespace Naming

variable {base : Nat} {B : Arena} {w w' : Names} {es : List Event} {before : List Decl}

lemma UseRule.remarks {id id' : Ident} (rule : UseRule w id id' es) (free : id.symbol? = none) :
    reports es = (Mention.use id').findings B := by
  cases rule with
  | bound found => rfl
  | undeclared missing =>
      rw [Mention.findings, free]
      rfl

lemma FieldRule.remarks {A : Arena} {e : Expr} {field field' : Ident} {failed failed' : Bool}
    (rule : FieldRule A e field failed field' failed' es) (hgrows : A.Grows B)
    (free : field.symbol? = none) : reports es = (Mention.field e field').findings B := by
  rw [Mention.findings, Arena.fieldFindings]
  cases rule with
  | skipped wrong =>
      rw [wrong]
      rfl
  | noStruct wrong =>
      rcases wrong with wrong | ⟨h, wrong, hnone⟩
      · rw [wrong]
        rfl
      · rw [wrong]
        dsimp only
        rw [hgrows.fieldsOf hnone]
        rfl
  | unknown symbol struct missing =>
      rw [symbol]
      dsimp only
      rw [hgrows.fieldsOf struct, free]
      rfl
  | selected symbol struct found =>
      rw [symbol]
      dsimp only
      rw [hgrows.fieldsOf struct]
      rfl

mutual

theorem ExprRule.remarks (hgrows : w.symbols.Grows B) : ∀ {e e' : Expr} {es : List Event},
    ExprRule w e e' es → NoneBound e.idents → reports es = remarksOf B e'.mentions
  | _, _, _, .lit _ _, _ => rfl
  | _, _, _, .name _ use, free => by
      rw [Expr.mentions, remarksOf_singleton]
      exact use.remarks (free _ (by simp))
  | _, _, _, .dot _ first second, free => by
      rw [Expr.mentions, remarksOf_append, remarksOf_singleton, reports_append,
        first.remarks hgrows (free.mono fun _ hmem => by simp [hmem]),
        second.remarks hgrows (free _ (by simp))]
  | _, _, _, .assign _ left right, free => by
      rw [Expr.mentions, remarksOf_append, reports_append,
        left.remarks hgrows (free.mono fun _ hmem => by simp [hmem]),
        right.remarks hgrows (free.mono fun _ hmem => by simp [hmem])]
  | _, _, _, .call _ use all, free => by
      rw [Expr.mentions, remarksOf_cons, reports_append, use.remarks (free _ (by simp)),
        all.remarks hgrows (free.mono fun _ hmem => by simp [hmem])]
  | _, _, _, .unary _ _ inner, free => by
      rw [Expr.mentions]
      exact inner.remarks hgrows (free.mono fun _ hmem => by simp [hmem])
  | _, _, _, .binary _ _ first second, free => by
      rw [Expr.mentions, remarksOf_append, reports_append,
        first.remarks hgrows (free.mono fun _ hmem => by simp [hmem]),
        second.remarks hgrows (free.mono fun _ hmem => by simp [hmem])]

theorem ArgsRule.remarks (hgrows : w.symbols.Grows B) : ∀ {args args' : List Expr}
    {es : List Event}, ArgsRule w args args' es → NoneBound (Expr.identsOfAll args) →
      reports es = remarksOf B (Expr.mentionsOfAll args')
  | _, _, _, .nil, _ => rfl
  | _, _, _, .cons first rest, free => by
      rw [Expr.mentionsOfAll, remarksOf_append, reports_append,
        first.remarks hgrows (free.mono fun _ hmem => by simp [hmem]),
        rest.remarks hgrows (free.mono fun _ hmem => by simp [hmem])]

end

/-! ### Declarations -/

lemma StructNameRule.remarks {A : Arena} {types : ScopeStack} {name name' : Ident}
    {defn : Option SymbolId} (rule : StructNameRule A types name name' defn es)
    (free : name.symbol? = none) : reports es = (Mention.type name').findings B := by
  cases rule with
  | means found symbol struct => rfl
  | invalid wrong =>
      rw [Mention.findings, free]
      rfl

lemma KindRule.remarks {A : Arena} {types : ScopeStack} {owner owner' : Ident}
    {ty ty' : TypeName} {kind : Option Symbol.Kind} (rule : KindRule A types owner ty ty' kind es)
    (free : NoneBound ty.idents) (hloc : owner'.loc = owner.loc) :
    reports es = remarksOf B (ty'.mentions owner') := by
  cases rule with
  | int => rfl
  | bool => rfl
  | void =>
      rw [TypeName.mentions, remarksOf_singleton, Mention.findings, hloc]
      rfl
  | struct type =>
      rw [TypeName.mentions, remarksOf_singleton]
      exact type.remarks (free _ List.mem_cons_self)

lemma findings_of_taken {d : Decl} (h : d.Taken before) : (Mention.declared before d).findings B =
    [{ loc := d.id.loc, problem := .duplicateDeclaration }] := if_pos h

lemma findings_of_not_taken {d : Decl} (h : ¬ d.Taken before) :
    (Mention.declared before d).findings B = [] := if_neg h

lemma DeclareRule.remarks {types : ScopeStack → ScopeStack} {d d' : VarDecl}
    (rule : DeclareRule types w d d' w' es) (free : NoneBound d.idents)
    (holds : w.table.Holds before) : reports es = remarksOf B (d'.mentions before) := by
  obtain ⟨hty, -⟩ := VarDecl.free free
  rw [VarDecl.mentions, remarksOf_append, remarksOf_singleton]
  cases rule with
  | @taken ty _ _ _ type known =>
      rw [reports_append, type.remarks hty rfl,
        findings_of_taken (d := .var { d with ty }) (holds.taken known)]
      rfl
  | @rejected ty _ type available =>
      rw [type.remarks hty rfl,
        findings_of_not_taken (d := .var { d with ty }) (holds.not_taken available),
        List.append_nil]
  | @declared ty _ _ _ type room scope =>
      have hfree := holds.not_taken (d := .var { ty, id := d.id.bindTo w.symbols.nextId })
        (ScopeStack.local?_of_declare scope)
      rw [reports_append, type.remarks hty (d.id.loc_bindTo _), findings_of_not_taken hfree]
      rfl

lemma DeclaresRule.remarks {types : ScopeStack → ScopeStack} {ds ds' : List VarDecl}
    (rule : DeclaresRule types w ds ds' w' es) (free : NoneBound (ds.flatMap VarDecl.idents))
    (holds : w.table.Holds before) :
    reports es = remarksOf B (VarDecl.mentionsOfAll before ds') := by
  induction rule generalizing before with
  | nil => rfl
  | cons first rest ih =>
      rw [List.flatMap_cons, noneBound_append] at free
      rw [VarDecl.mentionsOfAll, remarksOf_append, reports_append, first.remarks free.1 holds,
        ih free.2 (first.holds (VarDecl.free free.1).2 holds)]

/-! ### Blocks and statements -/

mutual

theorem BlockRule.remarks : ∀ {w w' : Names} {b b' : Block} {es : List Event}
    {formals : List VarDecl}, BlockRule w b b' w' es → w.Sound base → w'.symbols.Grows B →
      NoneBound b.idents → w.table.Holds (formals.map .var) →
        reports es = remarksOf B (b'.mentions formals)
  | _, _, _, _, _, _, .mk decls stmts, hw, hgrows, free, holds => by
      have hdecls := decls.extends_here hw
      rw [Block.mentions, remarksOf_append, reports_append,
        decls.remarks (free.mono fun _ => Block.mem_idents_decls) holds,
        stmts.remarks hdecls.sound hgrows (free.mono fun _ => Block.mem_idents_stmts)]

theorem BranchRule.remarks : ∀ {w : Names} {A : Arena} {b b' : Block} {es : List Event},
    BranchRule w b b' A es → w.Sound base → A.Grows B → NoneBound b.idents →
      reports es = remarksOf B (b'.mentions [])
  | _, _, _, _, _, .mk inside, hw, hgrows, free => by
      rw [reports_inside]
      exact inside.remarks hw.enter hgrows free (.push _)

theorem StmtRule.remarks : ∀ {w : Names} {A : Arena} {s s' : Stmt} {es : List Event},
    StmtRule w s s' A es → w.Sound base → A.Grows B → NoneBound s.idents →
      reports es = remarksOf B s'.mentions
  | _, _, _, _, _, .simple _ expr, hw, hgrows, free =>
      expr.remarks hgrows (free.mono fun _ hmem => by simp [hmem])
  | _, _, _, _, _, .guarded _ expr branch, hw, hgrows, free => by
      rw [Stmt.mentions, remarksOf_append, reports_append,
        expr.remarks ((branch.extends hw).grows.trans hgrows)
          (free.mono fun _ hmem => by simp [hmem]),
        branch.remarks hw hgrows (free.mono fun _ hmem => by simp [hmem])]
  | _, _, _, _, _, .ifElse expr first second, hw, hgrows, free => by
      have hfirst := first.extends hw
      have hsecond := (second.extends hfirst.sound).grows.trans hgrows
      rw [Stmt.mentions, remarksOf_append, remarksOf_append, reports_append, reports_append,
        expr.remarks (hfirst.grows.trans hsecond) (free.mono fun _ hmem => by simp [hmem]),
        first.remarks hw hsecond (free.mono fun _ hmem => by simp [hmem]),
        second.remarks hfirst.sound hgrows (free.mono fun _ hmem => by simp [hmem])]
  | _, _, _, _, _, .leave _, _, _, _ => rfl
  | _, _, _, _, _, .ret _ expr, hw, hgrows, free =>
      expr.remarks hgrows (free.mono fun _ hmem => by simp [hmem])

theorem StmtsRule.remarks : ∀ {w : Names} {A : Arena} {ss ss' : List Stmt} {es : List Event},
    StmtsRule w ss ss' A es → w.Sound base → A.Grows B → NoneBound (Stmt.identsOfAll ss) →
      reports es = remarksOf B (Stmt.mentionsOfAll ss')
  | _, _, _, _, _, .nil, _, _, _ => rfl
  | _, _, _, _, _, .cons first rest, hw, hgrows, free => by
      have hfirst := first.extends hw
      have hrest := (rest.extends hfirst.sound).grows.trans hgrows
      rw [Stmt.mentionsOfAll, remarksOf_append, reports_append,
        first.remarks hw hrest (free.mono fun _ hmem => by simp [hmem]),
        rest.remarks hfirst.sound hgrows (free.mono fun _ hmem => by simp [hmem])]

end

/-! ### Functions, structs and programs -/

lemma ReturnRule.remarks {ret ret' : TypeName} {ty : Ty} (rule : ReturnRule w ret ret' ty es)
    (free : NoneBound ret.idents) : reports es = remarksOf B (ret'.idents.map .type) := by
  cases rule with
  | plain type =>
      cases ret with
      | struct name => exact absurd rfl (type name)
      | _ => rfl
  | struct type =>
      rw [TypeName.idents, List.map_singleton, remarksOf_singleton]
      exact type.remarks (free _ List.mem_cons_self)

lemma HeadRule.remarks {id id' : Ident} {params : List Ty} {ret : Ty}
    (rule : HeadRule w id params ret id' w' es) (holds : w.table.Holds before) {d : Decl}
    (hd : d.id = id') : reports es = (Mention.declared before d).findings B := by
  cases rule with
  | taken known => rw [findings_of_taken (holds.taken (hd ▸ known)), hd]; rfl
  | declared room scope =>
      rw [findings_of_not_taken (holds.not_taken (hd ▸ ScopeStack.local?_of_declare scope))]
      rfl

lemma FnRule.remarks {f f' : FnDecl} (rule : FnRule w f f' w' es) (hw : w.Sound base)
    (hgrows : w'.symbols.Grows B) (free : NoneBound (Decl.fn f).idents)
    (holds : w.table.Holds before) : reports es = remarksOf B ((Decl.fn f').mentions before) := by
  cases rule with
  | @mk ret ty id' formals body w₁ w₂ w₃ es₁ es₂ es₃ es₄ type head params inside =>
      have hhead := head.extends_of_type type hw
      have hparams := params.extends_here hhead.sound.enter
      have hnames : NoneBound (f.formals.map (·.id)) := fun id hid =>
        free id (Decl.mem_idents_formals (VarDecl.mem_idents_of_mem hid))
      have hformals : w₂.table.Holds (formals.map .var) := params.holds hnames (.push _)
      rw [Decl.mentions, remarksOf_append, remarksOf_cons, remarksOf_append, reports_append,
        reports_append, type.remarks (free.mono fun _ => Decl.mem_idents_ret),
        head.remarks (d := .fn { ret, id := id', formals, body }) holds rfl, List.append_assoc]
      show _ ++ (_ ++ reports (.opened _ :: (es₃ ++ es₄) ++ [.closed _])) = _
      rw [reports_inside, reports_append,
        params.remarks (free.mono fun _ => Decl.mem_idents_formals) (.push _),
        inside.remarks hparams.sound hgrows (free.mono fun _ => Decl.mem_idents_body) hformals]

lemma StructRule.remarks {s s' : StructDecl} (rule : StructRule w s s' w' es)
    (free : NoneBound (Decl.struct s).idents) (holds : w.table.Holds before) :
    reports es = remarksOf B ((Decl.struct s').mentions before) := by
  have hfields : NoneBound (s.fields.flatMap VarDecl.idents) :=
    free.mono fun _ => Decl.mem_idents_fields
  rw [Decl.mentions, remarksOf_cons]
  cases rule with
  | @taken _ fields _ _ known all =>
      rw [findings_of_taken (d := .struct { s with fields }) (holds.taken known),
        ← all.remarks hfields .withScope]
      rfl
  | @declared fields w₁ _ _ all room scope =>
      have hfree := holds.not_taken (d := .struct { id := s.id.bindTo w₁.symbols.nextId, fields })
        (ScopeStack.local?_of_declare scope)
      rw [findings_of_not_taken hfree, ← all.remarks hfields .withScope, reports_append,
        reports_cons_of_none rfl, reports_cons_of_none rfl, reports_nil, List.append_nil]
      rfl

lemma DeclRule.remarks {d d' : Decl} (rule : DeclRule w d d' w' es) (hw : w.Sound base)
    (hgrows : w'.symbols.Grows B) (free : NoneBound d.idents) (holds : w.table.Holds before) :
    reports es = remarksOf B (d'.mentions before) := by
  cases rule with
  | var rule => exact rule.remarks (free.mono fun _ => Decl.mem_idents_var_iff.2) holds
  | fn rule => exact rule.remarks hw hgrows free holds
  | struct rule => exact rule.remarks free holds

/-- **What name resolution reports** of declarations in which nothing is bound are the findings of
their points, in order. -/
theorem DeclsRule.remarks {ds ds' : List Decl} (rule : DeclsRule w ds ds' w' es) (hw : w.Sound base)
    (hgrows : w'.symbols.Grows B) (free : NoneBound (ds.flatMap Decl.idents))
    (holds : w.table.Holds before) : reports es = remarksOf B (Decl.mentionsOfAll before ds') := by
  induction rule generalizing before with
  | nil => rfl
  | @cons _ _ _ d d' _ _ _ _ first rest ih =>
      rw [List.flatMap_cons, noneBound_append] at free
      have hfirst := first.extends hw
      have hrest := (rest.extends hfirst.sound).grows.trans hgrows
      have hid : d.id.symbol? = none := free.1 _ d.mem_idents_id
      rw [Decl.mentionsOfAll, remarksOf_append, reports_append,
        first.remarks hw hrest free.1 holds, ih hfirst.sound hgrows free.2 (first.holds hid holds)]

end Naming

/-- All that a run of name resolution reports of a program in which nothing is bound are the
findings of the points of the tree that it leaves. -/
theorem resolveProgram_reports (dumpScopes : Bool) {p : Program} (free : NoneBound p.idents)
    (s : Run Names) (room : s.work.symbols.size + p.declCount ≤ UInt32.size) :
    let done := (resolveProgram dumpScopes p).run s
    s.Reported done.2 (remarksOf done.2.work.symbols done.1.mentions) := by
  intro done
  obtain ⟨base, w, es, hw, rule, -, symbols, reported⟩ :=
    resolveProgram_explained dumpScopes free s room
  have hA : w.symbols.Grows done.2.work.symbols := symbols ▸ .refl _
  rw [rule.remarks hw hA (Program.noneBound_decls free) .withScope] at reported
  exact reported

/-! ## The points of an expression -/

section

variable {x : Expr}

lemma infix_append_left {α : Type} {as bs : List α} (h : as <:+: bs) (cs : List α) :
    as <:+: bs ++ cs := h.trans (List.prefix_append bs cs).isInfix

lemma infix_append_right {α : Type} {as bs : List α} (h : as <:+: bs) (cs : List α) :
    as <:+: cs ++ bs := h.trans (List.suffix_append cs bs).isInfix

mutual

theorem Expr.mentions_infix : ∀ {e : Expr}, x ∈ e.exprs → x.mentions <:+: e.mentions
  | .lit _ _, hx | .name _ _, hx => by
      obtain rfl := List.mem_singleton.1 hx
      exact List.infix_rfl
  | .dot base _ _ _, hx => by
      rcases List.mem_cons.1 hx with rfl | hx
      · exact List.infix_rfl
      · exact infix_append_left (base.mentions_infix hx) _
  | .assign target value _, hx => by
      rcases List.mem_cons.1 hx with rfl | hx
      · exact List.infix_rfl
      rcases List.mem_append.1 hx with hx | hx
      · exact infix_append_left (target.mentions_infix hx) _
      · exact infix_append_right (value.mentions_infix hx) _
  | .call callee args _, hx => by
      rcases List.mem_cons.1 hx with rfl | hx
      · exact List.infix_rfl
      · exact infix_append_right (Expr.mentionsOfAll_infix hx) [.use callee]
  | .unary _ operand _, hx => by
      rcases List.mem_cons.1 hx with rfl | hx
      · exact List.infix_rfl
      · exact operand.mentions_infix hx
  | .binary _ left right _, hx => by
      rcases List.mem_cons.1 hx with rfl | hx
      · exact List.infix_rfl
      rcases List.mem_append.1 hx with hx | hx
      · exact infix_append_left (left.mentions_infix hx) _
      · exact infix_append_right (right.mentions_infix hx) _

theorem Expr.mentionsOfAll_infix : ∀ {es : List Expr}, x ∈ Expr.exprsOfAll es →
    x.mentions <:+: Expr.mentionsOfAll es
  | e :: _, hx => by
      rcases List.mem_append.1 hx with hx | hx
      · exact infix_append_left (e.mentions_infix hx) _
      · exact infix_append_right (Expr.mentionsOfAll_infix hx) _

end

mutual

theorem Block.mentions_infix (formals : List VarDecl) : ∀ {b : Block}, x ∈ b.exprs →
    x.mentions <:+: b.mentions formals
  | .mk _ _, hx => infix_append_right (Stmt.mentionsOfAll_infix hx) _

theorem Stmt.mentions_infix : ∀ {s : Stmt}, x ∈ s.exprs → x.mentions <:+: s.mentions
  | .simple _ _, hx => Expr.mentions_infix hx
  | .guarded _ _ body, hx => by
      rcases List.mem_append.1 hx with hx | hx
      · exact infix_append_left (Expr.mentions_infix hx) _
      · exact infix_append_right (body.mentions_infix [] hx) _
  | .ifElse _ yes no, hx => by
      rcases List.mem_append.1 hx with hx | hx
      · rcases List.mem_append.1 hx with hx | hx
        · exact infix_append_left (infix_append_left (Expr.mentions_infix hx) _) _
        · exact infix_append_left (infix_append_right (yes.mentions_infix [] hx) _) _
      · exact infix_append_right (no.mentions_infix [] hx) _
  | .ret (some _) _, hx => Expr.mentions_infix hx

theorem Stmt.mentionsOfAll_infix : ∀ {ss : List Stmt}, x ∈ Stmt.exprsOfAll ss →
    x.mentions <:+: Stmt.mentionsOfAll ss
  | s :: _, hx => by
      rcases List.mem_append.1 hx with hx | hx
      · exact infix_append_left (s.mentions_infix hx) _
      · exact infix_append_right (Stmt.mentionsOfAll_infix hx) _

end

lemma Decl.mentions_infix {d : Decl} (before : List Decl) (hx : x ∈ d.exprs) :
    x.mentions <:+: d.mentions before := by
  cases d with
  | fn f =>
      have hbody := infix_append_right (f.body.mentions_infix f.formals hx)
        (VarDecl.mentionsOfAll [] f.formals)
      exact infix_append_right (infix_append_right hbody [.declared before (.fn f)]) _
  | _ => cases hx

lemma Decl.mentionsOfAll_infix {ds : List Decl} (before : List Decl)
    (hx : x ∈ ds.flatMap Decl.exprs) : x.mentions <:+: Decl.mentionsOfAll before ds := by
  induction ds generalizing before with
  | nil => cases hx
  | cons d ds ih =>
      rcases List.mem_append.1 hx with hx | hx
      · exact infix_append_left (Decl.mentions_infix before hx) _
      · exact infix_append_right (ih _ hx) _

/-- The points of an expression stand together among those of the program. -/
theorem Program.mentions_infix {p : Program} (hx : x ∈ p.exprs) : x.mentions <:+: p.mentions :=
  Decl.mentionsOfAll_infix [] hx

end

/-! ## The points of declarations -/

/-- The declaration at the point, with those before it. -/
def Mention.placed? : Mention → Option (List Decl × Decl)
  | declared before d => some (before, d)
  | _ => none

/-- The declarations at the points, in order. -/
def placedAt (ms : List Mention) : List (List Decl × Decl) := ms.filterMap Mention.placed?

@[simp] lemma placedAt_append (ms ns : List Mention) :
    placedAt (ms ++ ns) = placedAt ms ++ placedAt ns := List.filterMap_append

mutual

theorem Expr.placedAt_mentions : ∀ e : Expr, placedAt e.mentions = []
  | .lit _ _ | .name _ _ => rfl
  | .dot base _ _ _ => by rw [mentions, placedAt_append, base.placedAt_mentions]; rfl
  | .assign target value _ => by
      rw [mentions, placedAt_append, target.placedAt_mentions, value.placedAt_mentions]
      rfl
  | .call _ args _ => Expr.placedAt_mentionsOfAll args
  | .unary _ operand _ => operand.placedAt_mentions
  | .binary _ left right _ => by
      rw [mentions, placedAt_append, left.placedAt_mentions, right.placedAt_mentions]
      rfl

theorem Expr.placedAt_mentionsOfAll : ∀ es : List Expr, placedAt (Expr.mentionsOfAll es) = []
  | [] => rfl
  | e :: es => by
      rw [Expr.mentionsOfAll, placedAt_append, e.placedAt_mentions,
        Expr.placedAt_mentionsOfAll es]
      rfl

end

lemma VarDecl.placedAt_mentions (before : List Decl) (d : VarDecl) :
    placedAt (d.mentions before) = [(before, .var d)] := by
  rw [mentions, placedAt_append]
  cases d.ty <;> rfl

lemma VarDecl.placedAt_mentionsOfAll (before : List Decl) (ds : List VarDecl) :
    placedAt (VarDecl.mentionsOfAll before ds) = placedAfter before (ds.map .var) := by
  induction ds generalizing before with
  | nil => rfl
  | cons d ds ih =>
      rw [VarDecl.mentionsOfAll, placedAt_append, d.placedAt_mentions, ih]
      rfl

/-- The declarations of all scopes, each with those before it. -/
def placedIn (scopes : List (List VarDecl)) : List (List Decl × Decl) :=
  scopes.flatMap fun scope => placedAfter [] (scope.map .var)

@[simp] lemma placedIn_append (ss ts : List (List VarDecl)) :
    placedIn (ss ++ ts) = placedIn ss ++ placedIn ts := List.flatMap_append

lemma placedIn_cons (ds : List VarDecl) (ss : List (List VarDecl)) :
    placedIn (ds :: ss) = placedAfter [] (ds.map .var) ++ placedIn ss := List.flatMap_cons

mutual

/-- A block leaves out the formals, which have been there before. -/
theorem Block.placedAt_mentions (formals : List VarDecl) : ∀ b : Block,
    placedAfter [] (formals.map .var) ++ placedAt (b.mentions formals) =
      placedIn (b.scopes formals)
  | .mk decls stmts => by
      rw [Block.mentions, Block.scopes, placedAt_append, VarDecl.placedAt_mentionsOfAll,
        Stmt.placedAt_mentionsOfAll stmts, ← List.append_assoc, placedIn_cons, List.map_append,
        placedAfter_append]
      rfl

theorem Stmt.placedAt_mentions : ∀ s : Stmt, placedAt s.mentions = placedIn s.scopes
  | .simple _ e | .ret (some e) _ => e.placedAt_mentions
  | .guarded _ cond body => by
      rw [Stmt.mentions, placedAt_append, cond.placedAt_mentions]
      exact body.placedAt_mentions []
  | .ifElse cond yes no => by
      have hyes := yes.placedAt_mentions []
      have hno := no.placedAt_mentions []
      rw [Stmt.mentions, placedAt_append, placedAt_append, cond.placedAt_mentions, Stmt.scopes,
        placedIn_append]
      exact congrArg₂ (· ++ ·) hyes hno
  | .ret none _ => rfl

theorem Stmt.placedAt_mentionsOfAll : ∀ ss : List Stmt,
    placedAt (Stmt.mentionsOfAll ss) = placedIn (Stmt.scopesOfAll ss)
  | [] => rfl
  | s :: ss => by
      rw [Stmt.mentionsOfAll, Stmt.scopesOfAll, placedAt_append, s.placedAt_mentions,
        Stmt.placedAt_mentionsOfAll ss, placedIn_append]

end

lemma Decl.placedAt_mentions (before : List Decl) (d : Decl) :
    placedAt (d.mentions before) = (before, d) :: placedIn d.scopes := by
  cases d with
  | var d => exact d.placedAt_mentions before
  | struct s =>
      refine congrArg (List.cons _) ((VarDecl.placedAt_mentionsOfAll [] s.fields).trans ?_)
      exact (List.append_nil _).symm
  | fn f =>
      have hret : placedAt (f.ret.idents.map .type) = [] := by cases f.ret <;> rfl
      rw [mentions, placedAt_append, hret, scopes, ← f.body.placedAt_mentions,
        ← VarDecl.placedAt_mentionsOfAll, ← placedAt_append]
      rfl

/-- **Every declaration has one point.**  The declarations at the points of a program are those of
its scopes, each of them with the declarations before it in its scope. -/
theorem Program.placed_perm (p : Program) :
    (placedAt p.mentions).Perm (p.scopes.flatMap (placedAfter [])) := by
  have hinner : ∀ scopes : List (List VarDecl),
      (scopes.map (List.map Decl.var)).flatMap (placedAfter []) = placedIn scopes :=
    fun scopes => List.flatMap_map ..
  have hdecls : ∀ before ds, (placedAt (Decl.mentionsOfAll before ds)).Perm
      (placedAfter before ds ++ placedIn (ds.flatMap Decl.scopes)) := by
    intro before ds
    induction ds generalizing before with
    | nil => exact .refl _
    | cons d ds ih =>
        rw [Decl.mentionsOfAll, placedAt_append, d.placedAt_mentions, List.flatMap_cons,
          placedIn_append]
        refine ((ih _).append_left _).trans ?_
        exact (List.perm_append_comm_assoc _ _ _).cons _
  rw [scopes, List.flatMap_cons, hinner]
  exact hdecls [] p.decls

end StructLang
