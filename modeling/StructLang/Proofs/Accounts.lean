import Mathlib.Data.List.Perm.Basic
import Mathlib.Tactic.Common
import StructLang.Proofs.Scopes

/-!
# Accounts of events

Name resolution logs what it does, from many places, and each mistake takes a branch that leaves an
event out.  What is logged nevertheless comes out even with the tree that is left, and this is kept
as accounts are kept: in columns that are added up from part to part.

* `Accounts` — some events, the expressions and declarations that they are about, and the number of
  tables of fields that are opened among them.  There is an event for each use and each declaration
  that is bound, and from the depth at which the events begin the logged depths lead back to it.
* `Accounts.append`, `Accounts.bracket` — how accounts are added up, and how a scope goes around
  them.
* `ExprRule.accounts`, `StmtRule.accounts`, …, `DeclsRule.accounts` — the rules of name resolution.

A table of fields has a stack of its own, so the depth that is logged when it is opened does not go
with the others; nor is it ever closed.
-/

namespace StructLang

/-! ## What events are about -/

namespace Event

/-- The use of an identifier was bound. -/
def isBinding : Event → Bool
  | bound _ _ _ | boundField _ _ _ => true
  | _ => false

/-- Something was declared. -/
def isDeclaration : Event → Bool
  | declared _ _ | declaredStruct _ _ => true
  | _ => false

def isOpening : Event → Bool
  | opened _ => true
  | _ => false

def isClosing : Event → Bool
  | closed _ => true
  | _ => false

def isListing : Event → Bool
  | scopes _ => true
  | _ => false

/-- The depth after a scope was opened or closed. -/
def depth? : Event → Option Nat
  | opened depth | closed depth => some depth
  | _ => none

/-- The event is a report or the beginning or the end of a pass. -/
def isAside : Event → Bool
  | reported _ _ | namingStarted _ | namingFinished _ _ | checkingSkipped _ | checkingStarted
  | checkingFinished _ => true
  | _ => false

end Event

/-- The event by which the use in the expression was bound. -/
def Expr.binding? : Expr → Option Event
  | .name id _ | .call id _ _ => id.symbol?.map (.bound id.name id.loc)
  | .dot _ field _ _ => field.symbol?.map (.boundField field.name field.loc)
  | _ => none

/-- The event by which the name was declared.  Functions are declared without one. -/
def Decl.declaration? : Decl → Option Event
  | .var d => d.id.symbol?.map (.declared d.id.name)
  | .fn _ => none
  | .struct s => s.id.symbol?.map (.declaredStruct s.id.name)

def Decl.isStruct : Decl → Bool
  | .struct _ => true
  | _ => false

/-- The declarations of scopes inside declarations. -/
def within (scopes : List (List VarDecl)) : List Decl := scopes.flatten.map .var

/-! ## Depths -/

/-- The logged depths, without those of the tables of fields. -/
def depthsOf (es : List Event) : List Nat := (es.filter (· ≠ .opened 1)).filterMap Event.depth?

/-- From the first depth to the last, each one more or one less than the one before and at least
one. -/
inductive Walk : Nat → List Nat → Nat → Prop
  | nil (n : Nat) : Walk n [] n
  | up {m n : Nat} {ds : List Nat} (rest : Walk (m + 1) ds n) : Walk m ((m + 1) :: ds) n
  | down {m n : Nat} {ds : List Nat} (pos : 1 ≤ m) (rest : Walk m ds n) : Walk (m + 1) (m :: ds) n

namespace Walk

variable {k m n : Nat} {cs ds : List Nat}

lemma append (h : Walk k cs m) (h' : Walk m ds n) : Walk k (cs ++ ds) n := by
  induction h with
  | nil => exact h'
  | up rest ih => exact .up (ih h')
  | down pos rest ih => exact .down pos (ih h')

lemma one_le (h : Walk m ds n) : ∀ d ∈ ds, 1 ≤ d := by
  induction h with
  | nil => nofun
  | up rest ih => exact List.forall_mem_cons.2 ⟨Nat.le_add_left _ _, ih⟩
  | down pos rest ih => exact List.forall_mem_cons.2 ⟨pos, ih⟩

/-- A walk that leads to one can be gone on with: the last scope is closed. -/
lemma isChain (h : Walk m ds n) (hn : n = 1) :
    (m :: ds ++ [0]).IsChain fun a b => b = a + 1 ∨ a = b + 1 := by
  induction h with
  | nil => simp [hn]
  | up rest ih => exact List.isChain_cons_cons.2 ⟨Or.inl rfl, ih hn⟩
  | down pos rest ih => exact List.isChain_cons_cons.2 ⟨Or.inr rfl, ih hn⟩

end Walk

/-! ## Books -/

/-- The events, logged from the depth on, are about the uses in the expressions and the
declarations, and about as many tables of fields. -/
structure Accounts (depth : Nat) (es : List Event) (xs : List Expr) (ds : List Decl)
    (tables : Nat) : Prop where
  bound : (es.filter Event.isBinding).Perm (xs.filterMap Expr.binding?)
  declared : (es.filter Event.isDeclaration).Perm (ds.filterMap Decl.declaration?)
  balanced : es.countP Event.isOpening = es.countP Event.isClosing + tables
  tables : es.count (.opened 1) = tables
  depths : Walk depth (depthsOf es) depth
  unlisted : ∀ e ∈ es, e.isListing = false

namespace Accounts

variable {n t u : Nat} {es fs : List Event} {xs ys : List Expr} {ds cs : List Decl}

lemma append (h : Accounts n es xs ds t) (h' : Accounts n fs ys cs u) :
    Accounts n (es ++ fs) (xs ++ ys) (ds ++ cs) (t + u) where
  bound := by
    rw [List.filter_append, List.filterMap_append]
    exact h.bound.append h'.bound
  declared := by
    rw [List.filter_append, List.filterMap_append]
    exact h.declared.append h'.declared
  balanced := by
    have hes := h.balanced
    have hfs := h'.balanced
    rw [List.countP_append, List.countP_append]
    omega
  tables := by rw [List.count_append, h.tables, h'.tables]
  depths := by
    rw [depthsOf, List.filter_append, List.filterMap_append]
    exact h.depths.append h'.depths
  unlisted := List.forall_mem_append.2 ⟨h.unlisted, h'.unlisted⟩

/-- It does not matter in which order a tree shows its parts. -/
lemma of_perm (h : Accounts n es xs ds t) (hxs : xs.Perm ys) (hds : ds.Perm cs) :
    Accounts n es ys cs t where
  bound := h.bound.trans (hxs.filterMap _)
  declared := h.declared.trans (hds.filterMap _)
  balanced := h.balanced
  tables := h.tables
  depths := h.depths
  unlisted := h.unlisted

lemma nil : Accounts n [] [] [] 0 := ⟨.nil, .nil, rfl, rfl, .nil n, nofun⟩

lemma aside {e : Event} (h : e.isAside = true) : Accounts n [e] [] [] 0 := by
  cases e with
  | reported | namingStarted | namingFinished | checkingSkipped | checkingStarted
  | checkingFinished =>
    exact ⟨.nil, .nil, rfl, rfl, .nil n, List.forall_mem_singleton.2 rfl⟩
  | _ => cases h

lemma asides (h : ∀ e ∈ es, e.isAside = true) : Accounts n es [] [] 0 := by
  induction es with
  | nil => exact nil
  | cons e es ih =>
    obtain ⟨he, hes⟩ := List.forall_mem_cons.1 h
    exact (aside he).append (ih hes)

/-- The use in the expression was bound. -/
lemma use {x : Expr} {e : Event} (h : x.binding? = some e) : Accounts n [e] [x] [] 0 := by
  have hbinding : e.isBinding = true := by
    cases x <;> simp only [Expr.binding?, Option.map_eq_some_iff, reduceCtorEq] at h
    all_goals
      obtain ⟨k, -, rfl⟩ := h
      rfl
  cases e with
  | bound | boundField =>
    exact ⟨by simp [h, Event.isBinding], .nil, rfl, rfl, .nil n, List.forall_mem_singleton.2 rfl⟩
  | _ => cases hbinding

/-- The expression uses nothing, or something that was not bound. -/
lemma unbound {x : Expr} (h : x.binding? = none) : Accounts n [] [x] [] 0 :=
  ⟨by simp [h], .nil, rfl, rfl, .nil n, nofun⟩

lemma declare {d : Decl} {e : Event} (h : d.declaration? = some e) : Accounts n [e] [] [d] 0 := by
  have hdeclaration : e.isDeclaration = true := by
    cases d <;> simp only [Decl.declaration?, Option.map_eq_some_iff, reduceCtorEq] at h
    all_goals
      obtain ⟨k, -, rfl⟩ := h
      rfl
  cases e with
  | declared | declaredStruct =>
    exact ⟨.nil, by simp [h, Event.isDeclaration], rfl, rfl, .nil n,
      List.forall_mem_singleton.2 rfl⟩
  | _ => cases hdeclaration

/-- The declaration was rejected, or is one that is not logged. -/
lemma undeclared {d : Decl} (h : d.declaration? = none) : Accounts n [] [] [d] 0 :=
  ⟨.nil, by simp [h], rfl, rfl, .nil n, nofun⟩

/-- A table of fields is opened. -/
lemma table : Accounts n [.opened 1] [] [] 1 :=
  ⟨.nil, .nil, rfl, rfl, .nil n, List.forall_mem_singleton.2 rfl⟩

/-- Around the events a scope is opened and closed. -/
lemma bracket (pos : 1 ≤ n) (h : Accounts (n + 1) es xs ds t) :
    Accounts n (.opened (n + 1) :: es ++ [.closed n]) xs ds t where
  bound := by simpa [List.filter_cons, Event.isBinding] using h.bound
  declared := by simpa [List.filter_cons, Event.isDeclaration] using h.declared
  balanced := by
    have hes := h.balanced
    simp only [List.countP_append, List.countP_cons, List.countP_nil, Event.isOpening,
      Event.isClosing, Bool.false_eq_true, ↓reduceIte]
    omega
  tables := by
    have hne : n ≠ 0 := by omega
    simpa [List.count_cons, hne] using h.tables
  depths := by
    have hne : n ≠ 0 := by omega
    have hdepths : depthsOf (.opened (n + 1) :: es ++ [.closed n]) =
        (n + 1) :: depthsOf es ++ [n] := by
      simp [depthsOf, Event.depth?, hne]
    rw [hdepths]
    exact .up (h.depths.append (.down pos (.nil n)))
  unlisted := by
    rw [List.forall_mem_append, List.forall_mem_cons, List.forall_mem_singleton]
    exact ⟨⟨rfl, h.unlisted⟩, rfl⟩

end Accounts

/-! ## Every rule keeps books -/

lemma within_append (ss ts : List (List VarDecl)) : within (ss ++ ts) = within ss ++ within ts := by
  rw [within, List.flatten_append, List.map_append]
  rfl

lemma within_cons (ds : List VarDecl) (ss : List (List VarDecl)) :
    within (ds :: ss) = ds.map .var ++ within ss := by
  rw [within, List.flatten_cons, List.map_append]
  rfl

lemma Block.within_scopes (formals : List VarDecl) (b : Block) :
    within (b.scopes formals) = formals.map .var ++ within (b.scopes []) := by
  obtain ⟨ds, ss⟩ := b
  rw [scopes, scopes, within_cons, within_cons, List.map_append, List.append_assoc,
    List.nil_append]

namespace Naming

variable {w w' : Names} {es : List Event} {n : Nat}

/-! ### Depths of the scopes at hand -/

lemma DeclareRule.depth_eq {types : ScopeStack → ScopeStack} {d d' : VarDecl}
    (rule : DeclareRule types w d d' w' es) : w'.table.depth = w.table.depth := by
  cases rule with
  | taken type known => rfl
  | rejected type free => rfl
  | declared type room scope => exact ScopeStack.depth_of_declare scope

lemma DeclaresRule.depth_eq {types : ScopeStack → ScopeStack} {ds ds' : List VarDecl}
    (rule : DeclaresRule types w ds ds' w' es) : w'.table.depth = w.table.depth := by
  induction rule with
  | nil => rfl
  | cons first rest ih => rw [ih, first.depth_eq]

lemma HeadRule.depth_eq {id id' : Ident} {params : List Ty} {ret : Ty}
    (rule : HeadRule w id params ret id' w' es) : w'.table.depth = w.table.depth := by
  cases rule with
  | taken known => rfl
  | declared room scope => exact ScopeStack.depth_of_declare scope

lemma DeclRule.depth_eq {d d' : Decl} (rule : DeclRule w d d' w' es) :
    w'.table.depth = w.table.depth := by
  cases rule with
  | var rule => exact rule.depth_eq
  | fn rule =>
    cases rule with
    | mk type head params inside => exact head.depth_eq
  | struct rule =>
    cases rule with
    | taken known all => rfl
    | declared all room scope => exact ScopeStack.depth_of_declare scope

/-! ### Expressions -/

lemma UseRule.accounts {id id' : Ident} (rule : UseRule w id id' es) (free : id.symbol? = none)
    {x : Expr} (hx : x.binding? = id'.symbol?.map (.bound id'.name id'.loc)) :
    Accounts n es [x] [] 0 := by
  cases rule with
  | bound found => exact .use hx
  | undeclared missing =>
    rw [free] at hx
    exact (Accounts.unbound hx).append (.aside rfl)

lemma FieldRule.accounts {A : Arena} {base : Expr} {field field' : Ident} {failed failed' : Bool}
    (rule : FieldRule A base field failed field' failed' es) (free : field.symbol? = none)
    (note : Note) : Accounts n es [.dot base field' failed' note] [] 0 := by
  have hnone (flag : Bool) : (Expr.dot base field flag note).binding? = none := by
    rw [Expr.binding?, free, Option.map_none]
  cases rule with
  | skipped wrong => exact .unbound (hnone _)
  | noStruct wrong => exact (Accounts.unbound (hnone _)).append (.aside rfl)
  | unknown symbol struct missing => exact (Accounts.unbound (hnone _)).append (.aside rfl)
  | selected symbol struct found => exact .use rfl

mutual

theorem ExprRule.accounts : ∀ {e e' : Expr} {es : List Event}, ExprRule w e e' es →
    NoneBound e.idents → Accounts n es e'.exprs [] 0
  | _, _, _, .lit _ _, _ => .unbound rfl
  | _, _, _, .name _ use, free => use.accounts (free _ (by simp)) rfl
  | _, _, _, .dot note first second, free => by
    have hbase := first.accounts (free.mono fun _ hmem => by simp [hmem])
    exact (hbase.append (second.accounts (free _ (by simp)) note)).of_perm
      (List.perm_append_singleton _ _) .nil
  | _, _, _, .assign _ left right, free =>
    ((Accounts.unbound rfl).append (left.accounts (free.mono fun _ hmem => by simp [hmem]))).append
      (right.accounts (free.mono fun _ hmem => by simp [hmem]))
  | _, _, _, .call _ use all, free =>
    (use.accounts (free _ (by simp)) rfl).append
      (all.accounts (free.mono fun _ hmem => by simp [hmem]))
  | _, _, _, .unary _ _ inner, free =>
    (Accounts.unbound rfl).append (inner.accounts (free.mono fun _ hmem => by simp [hmem]))
  | _, _, _, .binary _ _ first second, free =>
    ((Accounts.unbound rfl).append (first.accounts (free.mono fun _ hmem => by simp [hmem]))).append
      (second.accounts (free.mono fun _ hmem => by simp [hmem]))

theorem ArgsRule.accounts : ∀ {args args' : List Expr} {es : List Event},
    ArgsRule w args args' es → NoneBound (Expr.identsOfAll args) →
      Accounts n es (Expr.exprsOfAll args') [] 0
  | _, _, _, .nil, _ => .nil
  | _, _, _, .cons first rest, free =>
    (first.accounts (free.mono fun _ hmem => by simp [hmem])).append
      (rest.accounts (free.mono fun _ hmem => by simp [hmem]))

end

/-! ### Declarations -/

/-- A struct name in a type is bound without an event. -/
lemma StructNameRule.accounts {A : Arena} {types : ScopeStack} {name name' : Ident}
    {defn : Option SymbolId} (rule : StructNameRule A types name name' defn es) :
    Accounts n es [] [] 0 := by
  cases rule with
  | means found symbol struct => exact .nil
  | invalid wrong => exact .aside rfl

lemma KindRule.accounts {A : Arena} {types : ScopeStack} {owner : Ident} {ty ty' : TypeName}
    {kind : Option Symbol.Kind} (rule : KindRule A types owner ty ty' kind es) :
    Accounts n es [] [] 0 := by
  cases rule with
  | int => exact .nil
  | bool => exact .nil
  | void => exact .aside rfl
  | struct type => exact type.accounts

lemma DeclareRule.accounts {types : ScopeStack → ScopeStack} {d d' : VarDecl}
    (rule : DeclareRule types w d d' w' es) (free : d.id.symbol? = none) :
    Accounts n es [] [.var d'] 0 := by
  have hnone (ty : TypeName) : (Decl.var { d with ty }).declaration? = none := by
    rw [Decl.declaration?, free, Option.map_none]
  cases rule with
  | taken type known =>
    exact ((Accounts.undeclared (hnone _)).append type.accounts).append (.aside rfl)
  | rejected type available => exact (Accounts.undeclared (hnone _)).append type.accounts
  | declared type room scope => exact type.accounts.append (.declare rfl)

lemma DeclaresRule.accounts {types : ScopeStack → ScopeStack} {ds ds' : List VarDecl}
    (rule : DeclaresRule types w ds ds' w' es) (free : NoneBound (ds.flatMap VarDecl.idents)) :
    Accounts n es [] (ds'.map .var) 0 := by
  induction rule with
  | nil => exact .nil
  | cons first rest ih =>
    rw [List.flatMap_cons, noneBound_append] at free
    exact (first.accounts (VarDecl.free free.1).2).append (ih free.2)

/-! ### Blocks and statements -/

mutual

theorem BlockRule.accounts : ∀ {w w' : Names} {b b' : Block} {es : List Event},
    BlockRule w b b' w' es → 1 ≤ w.table.depth → NoneBound b.idents →
      Accounts w.table.depth es b'.exprs (within (b'.scopes [])) 0
  | w, _, _, _, _, .mk decls stmts, pos, free => by
    have hdepth := decls.depth_eq
    have hdecls := decls.accounts (n := w.table.depth) (free.mono fun _ => Block.mem_idents_decls)
    have hstmts := stmts.accounts (hdepth ▸ pos) (free.mono fun _ => Block.mem_idents_stmts)
    rw [hdepth] at hstmts
    rw [Block.scopes, within_cons]
    exact hdecls.append hstmts

theorem BranchRule.accounts : ∀ {w : Names} {A : Arena} {b b' : Block} {es : List Event},
    BranchRule w b b' A es → 1 ≤ w.table.depth → NoneBound b.idents →
      Accounts w.table.depth es b'.exprs (within (b'.scopes [])) 0
  | _, _, _, _, _, .mk inside, pos, free =>
    (inside.accounts (Nat.le_add_left _ _) free).bracket pos

theorem StmtRule.accounts : ∀ {w : Names} {A : Arena} {s s' : Stmt} {es : List Event},
    StmtRule w s s' A es → 1 ≤ w.table.depth → NoneBound s.idents →
      Accounts w.table.depth es s'.exprs (within s'.scopes) 0
  | _, _, _, _, _, .simple _ expr, _, free => expr.accounts (free.mono fun _ hmem => by simp [hmem])
  | _, _, _, _, _, .guarded _ expr branch, pos, free =>
    (expr.accounts (free.mono fun _ hmem => by simp [hmem])).append
      (branch.accounts pos (free.mono fun _ hmem => by simp [hmem]))
  | w, _, _, _, _, .ifElse expr first second, pos, free => by
    have hcond := expr.accounts (n := w.table.depth) (free.mono fun _ hmem => by simp [hmem])
    have hyes := first.accounts pos (free.mono fun _ hmem => by simp [hmem])
    have hno := second.accounts pos (free.mono fun _ hmem => by simp [hmem])
    rw [Stmt.scopes, within_append]
    exact (hcond.append hyes).append hno
  | _, _, _, _, _, .leave _, _, _ => .nil
  | _, _, _, _, _, .ret _ expr, _, free => expr.accounts (free.mono fun _ hmem => by simp [hmem])

theorem StmtsRule.accounts : ∀ {w : Names} {A : Arena} {ss ss' : List Stmt} {es : List Event},
    StmtsRule w ss ss' A es → 1 ≤ w.table.depth → NoneBound (Stmt.identsOfAll ss) →
      Accounts w.table.depth es (Stmt.exprsOfAll ss') (within (Stmt.scopesOfAll ss')) 0
  | _, _, _, _, _, .nil, _, _ => .nil
  | _, _, _, _, _, .cons first rest, pos, free => by
    have hfirst := first.accounts pos (free.mono fun _ hmem => by simp [hmem])
    have hrest := rest.accounts pos (free.mono fun _ hmem => by simp [hmem])
    rw [Stmt.scopesOfAll, within_append]
    exact hfirst.append hrest

end

/-! ### Functions, structs and programs -/

lemma ReturnRule.accounts {ret ret' : TypeName} {ty : Ty} (rule : ReturnRule w ret ret' ty es) :
    Accounts n es [] [] 0 := by
  cases rule with
  | plain type => exact .nil
  | struct type => exact type.accounts

lemma HeadRule.accounts {id id' : Ident} {params : List Ty} {ret : Ty}
    (rule : HeadRule w id params ret id' w' es) : Accounts n es [] [] 0 := by
  cases rule with
  | taken known => exact .aside rfl
  | declared room scope => exact .nil

lemma FnRule.accounts {f f' : FnDecl} (rule : FnRule w f f' w' es) (pos : 1 ≤ w.table.depth)
    (free : NoneBound (Decl.fn f).idents) :
    Accounts w.table.depth es f'.body.exprs (.fn f' :: within (f'.body.scopes f'.formals)) 0 := by
  cases rule with
  | @mk ret ty id' formals body w₁ w₂ w₃ es₁ es₂ es₃ es₄ type head params inside =>
    rw [← head.depth_eq] at pos ⊢
    have hdepth : w₂.table.depth = w₁.table.depth + 1 := params.depth_eq
    have hparams := params.accounts (n := w₁.table.depth + 1)
      (free.mono fun _ => Decl.mem_idents_formals)
    have hinside := inside.accounts (hdepth ▸ Nat.le_add_left _ _)
      (free.mono fun _ => Decl.mem_idents_body)
    rw [hdepth] at hinside
    have hhead : Accounts w₁.table.depth (es₁ ++ es₂) [] [.fn ⟨ret, id', formals, body⟩] 0 :=
      ((Accounts.undeclared rfl).append type.accounts).append head.accounts
    rw [body.within_scopes formals]
    exact hhead.append ((hparams.append hinside).bracket pos)

lemma StructRule.accounts {s s' : StructDecl} (rule : StructRule w s s' w' es)
    (free : NoneBound (Decl.struct s).idents) :
    Accounts n es [] (.struct s' :: within [s'.fields]) 1 := by
  have hfields : NoneBound (s.fields.flatMap VarDecl.idents) :=
    free.mono fun _ => Decl.mem_idents_fields
  have hwithin (ds : List VarDecl) : within [ds] = ds.map .var := by
    rw [within_cons]
    exact List.append_nil _
  rw [hwithin]
  cases rule with
  | @taken h fields w'' es known all =>
    have hnone : (Decl.struct { s with fields }).declaration? = none := by
      rw [Decl.declaration?, free _ Decl.mem_idents_struct, Option.map_none]
    exact (((Accounts.undeclared hnone).append (.aside rfl)).append .table).append
      (all.accounts hfields)
  | declared all room scope =>
    -- a struct is declared after its fields
    exact ((Accounts.table.append (all.accounts hfields)).append (.declare rfl)).of_perm .nil
      (List.perm_append_singleton _ _)

lemma DeclRule.accounts {d d' : Decl} (rule : DeclRule w d d' w' es) (pos : 1 ≤ w.table.depth)
    (free : NoneBound d.idents) :
    Accounts w.table.depth es d'.exprs (d' :: within d'.scopes) (if d.isStruct then 1 else 0) := by
  cases rule with
  | var rule => exact rule.accounts (free _ (Decl.mem_idents_id (.var _)))
  | fn rule => exact rule.accounts pos free
  | struct rule => exact rule.accounts free

theorem DeclsRule.accounts {ds ds' : List Decl} (rule : DeclsRule w ds ds' w' es)
    (pos : 1 ≤ w.table.depth) (free : NoneBound (ds.flatMap Decl.idents)) :
    Accounts w.table.depth es (ds'.flatMap Decl.exprs) (ds' ++ within (ds'.flatMap Decl.scopes))
      (ds.countP Decl.isStruct) := by
  induction rule with
  | nil => exact .nil
  | @cons w w' w'' d d' ds ds' es fs first rest ih =>
    rw [List.flatMap_cons, noneBound_append] at free
    have hdepth := first.depth_eq
    have hrest := ih (hdepth ▸ pos) free.2
    rw [hdepth] at hrest
    rw [List.flatMap_cons, List.flatMap_cons, within_append, List.countP_cons, Nat.add_comm]
    refine ((first.accounts pos free.1).append hrest).of_perm (.refl _) ?_
    -- what is inside the first declaration moves over the other declarations
    exact (List.perm_append_comm_assoc _ _ _).cons _

/-- Each declaration has its part of the events, in which one table is opened if it is a struct, and
none otherwise. -/
lemma DeclsRule.parts {ds ds' : List Decl} (rule : DeclsRule w ds ds' w' es)
    (pos : 1 ≤ w.table.depth) (free : NoneBound (ds.flatMap Decl.idents)) :
    ∃ parts, es = parts.flatten ∧
      List.Forall₂ (fun d part => part.count (.opened 1) = if d.isStruct then 1 else 0)
        ds parts := by
  induction rule with
  | nil => exact ⟨[], rfl, .nil⟩
  | cons first rest ih =>
    rw [List.flatMap_cons, noneBound_append] at free
    obtain ⟨parts, rfl, hparts⟩ := ih (first.depth_eq ▸ pos) free.2
    exact ⟨_ :: parts, rfl, .cons (first.accounts pos free.1).tables hparts⟩

end Naming

end StructLang
