import Mathlib.Tactic.Common
import StructLang.Proofs.Outcome
import StructLang.Naming.Program

/-!
# Name resolution after a fault

A run that has halted does nothing any more, whatever comes after in the pass.  Every computation
of name resolution is stable, so each of them can stand behind one that may meet a fault
(`Ends.bind`).

Most of the pass changes neither the symbols nor the open scopes.  What that part is made of is
worked out once, for all relations between runs that do not care about the rest (`Naming.Still`).
What changes only one of the two comes on top: the scopes in `Naming.Frame`, which leaves the symbols
alone, and the symbols in `Naming.TableFrame`, which leaves the scopes alone.
-/

namespace StructLang

namespace Naming

open Pass

/-! ## Steps that leave the working data alone -/

/-- The relation holds of all that leaves the working data alone. -/
structure Still (R : Run Names → Run Names → Prop) : Prop where
  refl : ∀ s, R s s
  trans : ∀ s t u, R s t → R t u → R s u
  act : ∀ f : Run Names → Run Names, (∀ s, (f s).work = s.work) → (act f).Moves R

namespace Still

variable {α : Type} {R : Run Names → Run Names → Prop} (h : Still R)

include h

lemma pure (a : α) : (Pure.pure a : Naming α).Moves R := Moves.pure h.refl a

lemma note (event : Event) : (note event : Naming Unit).Moves R := h.act _ fun _ => rfl

lemma report (loc : Location) (problem : Problem) : (report loc problem : Naming Unit).Moves R :=
  h.act _ fun _ => rfl

lemma require (answer : Except Fault α) (substitute : α) :
    (require answer substitute : Naming α).Moves R := by
  cases answer with
  | ok a => exact h.pure a
  | error fault =>
      have hhalt : (halt fault : Naming Unit).Moves R := h.act _ fun _ => rfl
      exact hhalt.bind h.trans fun _ => h.pure substitute

lemma fill {purpose : String} (slot : Slot purpose α) (value : α) :
    (fill slot value : Naming (Slot purpose α)).Moves R := by
  refine Moves.bind h.trans h.refl fun run => ?_
  cases run.halted with
  | none => exact h.require _ _
  | some fault => exact h.pure slot

lemma raise (flag : Bool) : (raise flag : Naming Bool).Moves R := h.refl

lemma symbols : symbols.Moves R := h.refl

lemma table : table.Moves R := h.refl

lemma bind (id : Ident) (k : SymbolId) : (bind id k).Moves R :=
  (h.fill _ _).bind h.trans fun _ => h.pure _

lemma use (id : Ident) : (use id).Moves R :=
  h.table.bind h.trans fun _ => (h.require _ _).bind h.trans fun found => by
    cases found with
    | none => exact (h.report _ _).bind h.trans fun _ => h.pure _
    | some k =>
        exact (h.bind id k).bind h.trans fun _ => (h.note _).bind h.trans fun _ => h.pure _

lemma rejectField (field : Ident) (failed : Bool) (problem : Problem) :
    (rejectField field failed problem).Moves R :=
  (h.report _ _).bind h.trans fun _ => (h.raise _).bind h.trans fun _ => h.pure _

lemma selectField (base : Expr) (field : Ident) (failed : Bool) :
    (selectField base field failed).Moves R := by
  unfold Naming.selectField
  cases base.asBase with
  | failed => exact (h.raise _).bind h.trans fun _ => h.pure _
  | nothing => exact h.rejectField _ _ _
  | symbol k =>
      refine h.symbols.bind h.trans fun _ => (h.require _ _).bind h.trans fun fields => ?_
      cases fields with
      | none => exact h.rejectField _ _ _
      | some fields =>
          refine (h.require _ _).bind h.trans fun found => ?_
          cases found with
          | none => exact h.rejectField _ _ _
          | some k =>
              exact (h.bind _ _).bind h.trans fun _ => (h.note _).bind h.trans fun _ => h.pure _

lemma structNamed (types : ScopeStack) (name : String) : (structNamed types name).Moves R :=
  (h.require _ _).bind h.trans fun found => by
    cases found with
    | none => exact h.pure _
    | some k =>
        exact h.symbols.bind h.trans fun _ => (h.require _ _).bind h.trans fun _ => h.pure _

lemma useStruct (types : ScopeStack) (name : Ident) : (useStruct types name).Moves R :=
  (h.structNamed _ _).bind h.trans fun defn => by
    cases defn with
    | none => exact (h.report _ _).bind h.trans fun _ => h.pure _
    | some k => exact (h.bind _ _).bind h.trans fun _ => h.pure _

lemma kindOf (types : ScopeStack) (owner : Ident) (ty : TypeName) :
    (kindOf types owner ty).Moves R := by
  cases ty with
  | int => exact h.pure _
  | bool => exact h.pure _
  | void => exact (h.report _ _).bind h.trans fun _ => h.pure _
  | struct name => exact (h.useStruct _ _).bind h.trans fun _ => h.pure _

lemma rejectDuplicate (id : Ident) : (rejectDuplicate id).Moves R :=
  h.table.bind h.trans fun _ => (h.require _ _).bind h.trans fun known => by
    cases known with
    | none => exact h.pure _
    | some k => exact (h.report _ _).bind h.trans fun _ => h.pure _

lemma returnType (ret : TypeName) : (returnType ret).Moves R := by
  cases ret with
  | struct name =>
      exact h.table.bind h.trans fun _ => (h.useStruct _ _).bind h.trans fun _ => h.pure _
  | _ => exact h.pure _

lemma logScopes : logScopes.Moves R :=
  h.table.bind h.trans fun _ => h.symbols.bind h.trans fun _ => h.note _

end Still

/-! ## Steps that leave the symbols alone -/

/-- The relation holds of all that leaves the symbols alone. -/
structure Frame (R : Run Names → Run Names → Prop) : Prop where
  refl : ∀ s, R s s
  trans : ∀ s t u, R s t → R t u → R s u
  act : ∀ f : Run Names → Run Names, (∀ s, (f s).work.symbols = s.work.symbols) →
    (act f).Moves R

namespace Frame

variable {R : Run Names → Run Names → Prop} (h : Frame R)

include h

lemma still : Still R where
  refl := h.refl
  trans := h.trans
  act f hf := h.act f fun s => congrArg Names.symbols (hf s)

lemma setTable (stack : ScopeStack) : (setTable stack).Moves R := h.act _ fun _ => rfl

lemma openScope : openScope.Moves R :=
  h.still.table.bind h.trans fun _ => (h.setTable _).bind h.trans fun _ => h.still.note _

lemma closeScope : closeScope.Moves R :=
  h.still.table.bind h.trans fun _ => (h.still.require _ _).bind h.trans fun _ =>
    (h.setTable _).bind h.trans fun _ => h.still.note _

end Frame

/-! ## Steps that leave the open scopes alone -/

/-- The relation holds of all that leaves the open scopes alone. -/
structure TableFrame (R : Run Names → Run Names → Prop) : Prop where
  refl : ∀ s, R s s
  trans : ∀ s t u, R s t → R t u → R s u
  act : ∀ f : Run Names → Run Names, (∀ s, (f s).work.table = s.work.table) → (act f).Moves R

namespace TableFrame

variable {R : Run Names → Run Names → Prop} (h : TableFrame R)

include h

lemma still : Still R where
  refl := h.refl
  trans := h.trans
  act f hf := h.act f fun s => congrArg Names.table (hf s)

lemma setSymbols (f : Names → Arena) :
    (update fun names => { names with symbols := f names } : Naming Unit).Moves R :=
  h.act _ fun _ => rfl

/-- What is left of a declaration once its symbol is there. -/
lemma afterAlloc (target : ScopeStack) (id : Ident) (r : Arena × SymbolId) : (do
      update fun names => { names with symbols := r.1 }
      let target ← require (liftScope (target.declare id.name r.2)) target
      return (target, ← Naming.bind id r.2, r.2) : Naming (ScopeStack × Ident × SymbolId)).Moves R :=
  (h.setSymbols _).bind h.trans fun _ => (h.still.require _ _).bind h.trans fun _ =>
    (h.still.bind _ _).bind h.trans fun _ => h.still.pure _

lemma introduce (target : ScopeStack) (id : Ident) (kind : Symbol.Kind) :
    (introduce target id kind).Moves R :=
  h.still.symbols.bind h.trans fun _ => (h.still.require _ _).bind h.trans fun r =>
    h.afterAlloc target id r

/-- What is left of a declaration once its type is known and its name has been looked up. -/
lemma afterLookup (target : ScopeStack) (d : VarDecl) (ty : TypeName) (kind : Option Symbol.Kind)
    (known : Option SymbolId) : (do
      match known, kind with
      | some _, _ =>
        report d.id.loc .duplicateDeclaration
        return (target, { d with ty })
      | none, none => return (target, { d with ty })
      | none, some kind =>
        let (target, id, symbol) ← Naming.introduce target d.id kind
        note (.declared id.name symbol)
        return (target, { ty, id }) : Naming (ScopeStack × VarDecl)).Moves R := by
  cases known with
  | some k => exact (h.still.report _ _).bind h.trans fun _ => h.still.pure _
  | none =>
      cases kind with
      | none => exact h.still.pure _
      | some kind =>
          exact (h.introduce _ _ _).bind h.trans fun _ => (h.still.note _).bind h.trans fun _ =>
            h.still.pure _

lemma declareIn (types target : ScopeStack) (d : VarDecl) : (declareIn types target d).Moves R :=
  (h.still.kindOf _ _ _).bind h.trans fun _ => (h.still.require _ _).bind h.trans fun known =>
    h.afterLookup _ _ _ _ known

lemma declareFields (types : ScopeStack) (ds : List VarDecl) :
    ∀ fields : ScopeStack, (declareFields types fields ds).Moves R := by
  induction ds with
  | nil => exact fun _ => h.still.pure _
  | cons d ds ih =>
      exact fun _ => (h.declareIn _ _ _).bind h.trans fun _ => (ih _).bind h.trans fun _ =>
        h.still.pure _

lemma setParams (k : SymbolId) (formals : List VarDecl) : (setParams k formals).Moves R :=
  h.still.symbols.bind h.trans fun _ => (h.still.require _ _).bind h.trans fun _ =>
    h.setSymbols _

end TableFrame

/-! ## Halted runs -/

lemma frame_stable : Frame fun s t => s.halted.isSome = true → t = s where
  refl _ _ := rfl
  trans _ _ _ hst htu hs := by
    obtain rfl := hst hs
    exact htu hs
  act f _ := Stable.act f

lemma still_stable : Still fun s t => s.halted.isSome = true → t = s := frame_stable.still

lemma tableFrame_stable : TableFrame fun s t => s.halted.isSome = true → t = s :=
  ⟨still_stable.refl, still_stable.trans, fun f _ => Stable.act f⟩

lemma stable_symbols : symbols.Stable := still_stable.symbols

lemma stable_table : table.Stable := still_stable.table

lemma stable_setTable (stack : ScopeStack) : (setTable stack).Stable := frame_stable.setTable _

lemma stable_openScope : openScope.Stable := frame_stable.openScope

lemma stable_closeScope : closeScope.Stable := frame_stable.closeScope

lemma stable_bind (id : Ident) (h : SymbolId) : (bind id h).Stable := still_stable.bind _ _

lemma stable_rejectField (field : Ident) (failed : Bool) (problem : Problem) :
    (rejectField field failed problem).Stable := still_stable.rejectField _ _ _

lemma stable_selectField (base : Expr) (field : Ident) (failed : Bool) :
    (selectField base field failed).Stable := still_stable.selectField _ _ _

lemma stable_kindOf (types : ScopeStack) (owner : Ident) (ty : TypeName) :
    (kindOf types owner ty).Stable := still_stable.kindOf _ _ _

lemma stable_rejectDuplicate (id : Ident) : (rejectDuplicate id).Stable :=
  still_stable.rejectDuplicate _

lemma stable_afterAlloc (target : ScopeStack) (id : Ident) (r : Arena × SymbolId) : (do
      update fun names => { names with symbols := r.1 }
      let target ← require (liftScope (target.declare id.name r.2)) target
      return (target, ← bind id r.2, r.2) : Naming (ScopeStack × Ident × SymbolId)).Stable :=
  tableFrame_stable.afterAlloc _ _ _

lemma stable_introduce (target : ScopeStack) (id : Ident) (kind : Symbol.Kind) :
    (introduce target id kind).Stable := tableFrame_stable.introduce _ _ _

lemma stable_declareIn (types target : ScopeStack) (d : VarDecl) :
    (declareIn types target d).Stable := tableFrame_stable.declareIn _ _ _

lemma stable_declareVar (d : VarDecl) : (declareVar d).Stable :=
  stable_table.bind fun _ => (stable_declareIn _ _ _).bind fun _ =>
    (stable_setTable _).bind fun _ => .pure _

lemma stable_declareFields (types : ScopeStack) (ds : List VarDecl) (fields : ScopeStack) :
    (declareFields types fields ds).Stable := tableFrame_stable.declareFields _ _ _

lemma stable_introduceHere (id : Ident) (kind : Symbol.Kind) : (introduceHere id kind).Stable :=
  stable_table.bind fun _ => (stable_introduce _ _ _).bind fun _ =>
    (stable_setTable _).bind fun _ => .pure _

lemma stable_visitor : visitor.Stable where
  name := still_stable.use
  callee := still_stable.use
  field := stable_selectField
  expr _ := .pure _
  decl := stable_declareVar
  enter := stable_openScope
  leave := stable_closeScope
  simple _ _ := .pure _
  condition _ _ := .pure _
  ret _ _ := .pure _

lemma stable_returnType (ret : TypeName) : (returnType ret).Stable := still_stable.returnType _

lemma stable_declareFn (id : Ident) (ret : Ty) : (declareFn id ret).Stable :=
  (stable_rejectDuplicate id).bind fun duplicate => by
    cases duplicate with
    | true => exact .pure _
    | false => exact (stable_introduceHere _ _).bind fun _ => .pure _

lemma stable_setParams (h : SymbolId) (formals : List VarDecl) : (setParams h formals).Stable :=
  tableFrame_stable.setParams _ _

/-- What is left of a function once its formals are declared. -/
lemma stable_afterFormals (f : FnDecl) (ret : TypeName) (id : Ident) (h : Option SymbolId)
    (formals : List VarDecl) : (do
      match h with
      | some h => setParams h formals
      | none => pure ()
      let body ← f.body.visit visitor
      closeScope
      return { ret, id, formals, body } : Naming FnDecl).Stable := by
  have hbody : (do
      let body ← f.body.visit visitor
      closeScope
      return { ret, id, formals, body } : Naming FnDecl).Stable :=
    (stable_visitor.blockVisit _).bind fun _ => stable_closeScope.bind fun _ => .pure _
  cases h with
  | none => exact hbody
  | some h => exact (stable_setParams _ _).bind fun _ => hbody

/-- What is left of a function once its head is declared. -/
lemma stable_afterHead (f : FnDecl) (ret : TypeName) (r : Ident × Option SymbolId) : (do
      openScope
      let formals ← f.formals.mapM declareVar
      match r.2 with
      | some h => setParams h formals
      | none => pure ()
      let body ← f.body.visit visitor
      closeScope
      return { ret, id := r.1, formals, body } : Naming FnDecl).Stable :=
  stable_openScope.bind fun _ => (Stable.mapM stable_declareVar _).bind fun _ =>
    stable_afterFormals _ _ _ _ _

lemma stable_resolveFn (f : FnDecl) : (resolveFn f).Stable :=
  (stable_returnType _).bind fun _ => (stable_declareFn _ _).bind fun _ => stable_afterHead _ _ _

/-- What is left of a struct once its fields are declared. -/
lemma stable_afterFields (s : StructDecl) (duplicate : Bool) (r : ScopeStack × List VarDecl) : (do
      if duplicate then
        return { s with fields := r.2 }
      else
        let (id, symbol) ← introduceHere s.id (.structDef r.1)
        note (.declaredStruct id.name symbol)
        return { id, fields := r.2 } : Naming StructDecl).Stable := by
  cases duplicate with
  | true => exact .pure _
  | false => exact (stable_introduceHere _ _).bind fun _ => (Stable.note _).bind fun _ => .pure _

lemma stable_resolveStruct (s : StructDecl) : (resolveStruct s).Stable :=
  (stable_rejectDuplicate _).bind fun duplicate => (Stable.note _).bind fun _ =>
    stable_table.bind fun _ => (stable_declareFields _ _ _).bind fun r =>
      stable_afterFields s duplicate r

lemma stable_resolveDecl (d : Decl) : (resolveDecl d).Stable := by
  cases d with
  | var d => exact (stable_declareVar _).bind fun _ => .pure _
  | fn f => exact (stable_resolveFn _).bind fun _ => .pure _
  | struct s => exact (stable_resolveStruct _).bind fun _ => .pure _

lemma stable_logScopes : logScopes.Stable := still_stable.logScopes

end Naming

end StructLang
