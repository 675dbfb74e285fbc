import Mathlib.Tactic.Common
import StructLang.Proofs.Correspondence
import StructLang.Tree.Build

/-!
# The types of declared names

What a declaration writes down turns into a type in four places.  A formal gives its function a
parameter type, and its own symbol a kind, from which the type of the formal is read again where it
is used; for a struct type that goes through the handle of the definition and the name of that.  The
return type is worked out once for the symbol of the function, and once more when the body is
checked, from what name resolution has left in the tree.

All of them come to the same, which is what the declaration says: `Decl.declaredTy`.  A formal that
is `void`, a duplicate, or of a struct type that does not exist, gets no symbol, but its function has
the parameter all the same.

* `Naming.places_typed` — every declaration that is bound, in whatever scope, is bound to a symbol of
  its declared type.
* `signatures_agree_with_declarations` — what that means for functions and their formals.
-/

namespace StructLang

/-- The type that the declaration says its name has.  The return type of a function is the one that
its body is checked against, so it is an error if the name of a struct type is not bound. -/
def Decl.declaredTy : Decl → Ty
  | .var d => d.ty.written
  | .fn f => .fn (Naming.writtenTypes f.formals) f.ret.returned
  | .struct s => .structDef s.id.name

/-- Only the name of a struct type that is not bound makes an error of a return type. -/
lemma TypeName.returned_eq_error_iff (ret : TypeName) :
    ret.returned = .error ↔ ∃ name, ret = .struct name ∧ name.symbol? = none := by
  cases ret with
  | struct name => cases hname : name.symbol? <;> simp_all [returned, Slot.isFilled, Ident.symbol?]
  | _ => simp [returned]

namespace Naming

variable {base : Nat} {B : Arena} {w w' : Names} {es : List Event} {h : SymbolId}

/-! ## Types that are written and types that are read -/

/-- A struct name is bound to the definition of a struct of that name. -/
lemma StructNameRule.named {A : Arena} {types : ScopeStack} {name name' : Ident}
    (rule : StructNameRule A types name name' (some h) es) (hw : Names.Sound base ⟨A, types⟩) :
    ∃ fields, A.get h = .ok { name := name'.name, kind := .structDef fields } := by
  cases rule with
  | means found symbol struct =>
      obtain ⟨-, ⟨other, kind⟩, hd, hname⟩ := hw.named _ _ (ScopeStack.binds_of_find? found)
      obtain rfl := Except.ok.inj (symbol.symm.trans hd)
      obtain rfl : other = name.name := hname
      cases kind with
      | structDef fields => exact ⟨fields, hd⟩
      | _ => cases struct

/-- The type of a variable that is read from its symbol is the one that was written. -/
lemma KindRule.typeOf {A : Arena} {types : ScopeStack} {owner : Ident} {ty ty' : TypeName}
    {kind : Symbol.Kind} (rule : KindRule A types owner ty ty' (some kind) es)
    (hw : Names.Sound base ⟨A, types⟩) (name : String) (room : A.size < UInt32.size) :
    (A.push { name, kind } room).typeOf A.nextId = .ok ty'.written := by
  have hg := Arena.get_nextId_push { name, kind } room
  generalize hkind : some kind = kind? at rule
  cases rule with
  | void => cases hkind
  | @struct _ name' defn _ type =>
      cases defn with
      | none => cases hkind
      | some h =>
          obtain rfl := Option.some.inj hkind
          obtain ⟨fields, hd⟩ := type.named hw
          exact Arena.typeOf_structVar hg (A.grows_push _ room h _ hd)
  | _ =>
      obtain rfl := Option.some.inj hkind
      exact Arena.typeOf_var hg

/-- The type that calls of a function have is the one that its body is checked against. -/
lemma ReturnRule.eq_returned {ret ret' : TypeName} {ty : Ty} (rule : ReturnRule w ret ret' ty es)
    (free : NoneBound ret.idents) : ty = ret'.returned := by
  cases rule with
  | plain type =>
      cases ret with
      | struct name => exact absurd rfl (type name)
      | _ => rfl
  | struct type =>
      cases type with
      | means found symbol struct => rfl
      | invalid wrong =>
          have hnone := free _ List.mem_cons_self
          exact ((TypeName.returned_eq_error_iff _).2 ⟨_, rfl, hnone⟩).symm

/-! ## Declarations -/

lemma DeclareRule.typeOf {types : ScopeStack → ScopeStack} {d d' : VarDecl}
    (rule : DeclareRule types w d d' w' es) (hw : Names.Sound base ⟨w.symbols, types w.table⟩)
    (free : NoneBound d.idents) (hh : d'.id.symbol? = some h) :
    w'.symbols.typeOf h = .ok (Decl.var d').declaredTy := by
  cases rule with
  | declared type room scope =>
      obtain rfl := Option.some.inj hh
      exact type.typeOf hw _ room
  | _ => cases (VarDecl.free free).2.symm.trans hh

lemma FnRule.typeOf {f f' : FnDecl} (rule : FnRule w f f' w' es) (hw : w.Sound base)
    (free : NoneBound (Decl.fn f).idents) (hh : f'.id.symbol? = some h) :
    w'.symbols.typeOf h = .ok (Decl.fn f').declaredTy := by
  have hid : f.id.symbol? = none := free _ Decl.mem_idents_fn
  obtain ⟨ret, _, type, hg⟩ := rule.signature hw hid hh
  rw [Arena.typeOf_fn hg, type.eq_returned (free.mono fun _ => Decl.mem_idents_ret)]
  rfl

/-- **A bound declaration has a symbol of its declared type.** -/
lemma places_typed :
    Places base B fun _ d => ∀ h, d.id.symbol? = some h → B.typeOf h = .ok d.declaredTy where
  var rule lookup hw hgrows free _ _ hh :=
    hgrows.typeOf (rule.typeOf (lookup _ (.refl _) hw) free hh)
  fn rule hw hgrows free _ _ hh := hgrows.typeOf (rule.typeOf hw free hh)
  struct rule _ hgrows free _ _ hh := by
    refine hgrows.typeOf ?_
    cases rule with
    | taken known all => cases (free _ Decl.mem_idents_struct).symm.trans hh
    | declared all room scope =>
        obtain rfl := Option.some.inj hh
        exact Arena.typeOf_structDef (Arena.get_nextId_push _ room)

end Naming

/-! ## Functions and their formals -/

lemma Program.mem_scopes_top {p : Program} {d : Decl} (hd : d ∈ p.decls) :
    d ∈ p.scopes.flatten := List.mem_flatten.2 ⟨p.decls, List.mem_cons_self, hd⟩

/-- The formals of a function are declared in a scope of the program. -/
lemma Program.mem_scopes_formal {p : Program} {f : FnDecl} {formal : VarDecl}
    (hf : .fn f ∈ p.decls) (hformal : formal ∈ f.formals) : .var formal ∈ p.scopes.flatten := by
  obtain ⟨ret, id, formals, ⟨decls, stmts⟩⟩ := f
  have hscope : formals ++ decls ∈ p.decls.flatMap Decl.scopes :=
    List.mem_flatMap.2 ⟨_, hf, List.mem_cons_self⟩
  exact List.mem_flatten.2 ⟨_, List.mem_cons_of_mem _ (List.mem_map_of_mem hscope),
    List.mem_map_of_mem (List.mem_append_left _ hformal)⟩

open Naming

/-- **Signatures agree with declarations and with the checks of bodies.**  Name resolution of a
program in which nothing is bound goes on to its end, from any run that has a handle left for each
of its declarations.  A function that is bound then has a symbol with one parameter for each formal,
of the type that the formal writes down, and that is the type of the formal's own symbol, if it has
one.  Its return type is the one that the `return`s of its body are checked against, and an error if
and only if it is a struct name that is not bound. -/
theorem signatures_agree_with_declarations (dumpScopes : Bool) {p : Program}
    (free : NoneBound p.idents) (s : Run Names)
    (room : s.work.symbols.size + p.declCount ≤ UInt32.size) :
    let done := (resolveProgram dumpScopes p).run s
    let A := done.2.work.symbols
    done.2.outcome = .ok () ∧
      ∀ f, .fn f ∈ done.1.decls → ∀ h, f.id.symbol? = some h →
        ∃ params ret, A.get h = .ok { name := f.id.name, kind := .fn params ret } ∧
          params.length = f.formals.length ∧
          (∀ (i : Nat) (formal : VarDecl), f.formals[i]? = some formal →
            params[i]? = some formal.ty.written ∧
              ∀ k, formal.id.symbol? = some k → A.typeOf k = .ok formal.ty.written) ∧
          ret = f.ret.returned ∧
          (Checking.checkDecl A (.fn f) = do
            let body ← f.body.visit (Checking.visitor A ret)
            return .fn { f with body }) ∧
          (ret = .error ↔ ∃ name, f.ret = .struct name ∧ name.symbol? = none) := by
  intro done A
  obtain ⟨base, w, es, hw, rule, outcome, symbols, -⟩ :=
    resolveProgram_explained dumpScopes free s room
  have hA : w.symbols.Grows A := symbols ▸ .refl _
  have hids := Program.noneBound_decls free
  have hmatches := rule.everywhere places_matches hw hA hids .withScope
  have htyped := rule.everywhere places_typed hw hA hids .withScope
  refine ⟨outcome, fun f hf h hh => ?_⟩
  have htop : .fn f ∈ done.1.scopes.flatten := Program.mem_scopes_top hf
  obtain ⟨ret, hg⟩ := hmatches _ htop h hh
  have hty := htyped _ htop h hh
  rw [Arena.typeOf_fn hg, Except.ok.injEq] at hty
  obtain ⟨-, hret⟩ := Ty.fn.inj hty
  refine ⟨writtenTypes f.formals, ret, hg, List.length_map _, ?_, hret, ?_, ?_⟩
  · intro i formal hi
    refine ⟨by simp [writtenTypes, hi], fun k hk => ?_⟩
    exact htyped _ (Program.mem_scopes_formal hf (List.mem_of_getElem? hi)) k hk
  · rw [hret]
    rfl
  · rw [hret, f.ret.returned_eq_error_iff]

/-- A function that returns a struct of a type that does not exist.  Of its formals the second one is
`void`, the third one repeats the first, and the last one is of a type that the formal before it
hides. -/
def crookedFormals : Program where
  decls := [
    .struct
      { id := .unbound "Point" .nowhere
        fields := [{ ty := .int, id := .unbound "x" .nowhere }] },
    .fn
      { ret := .struct (.unbound "Missing" .nowhere)
        id := .unbound "f" .nowhere
        formals := [
          { ty := .struct (.unbound "Point" .nowhere), id := .unbound "p" .nowhere },
          { ty := .void, id := .unbound "v" .nowhere },
          { ty := .bool, id := .unbound "p" .nowhere },
          { ty := .int, id := .unbound "Point" .nowhere },
          { ty := .struct (.unbound "Point" .nowhere), id := .unbound "q" .nowhere }]
        body := .mk [] [.ret (some (.use (.unbound "p" .nowhere))) .nowhere] }]

/-- Two of the formals are bound, but the function has all five parameters. -/
theorem crookedFormals_agree :
    let done := (resolveProgram false crookedFormals).run { work := {}, sink := {} }
    let A := done.2.work.symbols
    crookedFormals.Fresh ∧
      handlesOf (done.1.scopes.flatten.map Decl.id) = [1, 2, 0, 3, 4].map SymbolId.ofIndex ∧
      A.describe ⟨2⟩ = "Point,void,bool,int,Point->error" ∧
      ∀ f, .fn f ∈ done.1.decls → ∀ h, f.id.symbol? = some h → ∃ params ret,
        A.get h = .ok { name := f.id.name, kind := .fn params ret } ∧
          params.length = f.formals.length ∧
          ∀ (i : Nat) (formal : VarDecl), f.formals[i]? = some formal →
            params[i]? = some formal.ty.written ∧
              ∀ k, formal.id.symbol? = some k → A.typeOf k = .ok formal.ty.written := by
  have hfresh : crookedFormals.Fresh := ⟨⟨by decide, by decide, by decide⟩, by decide⟩
  obtain ⟨-, hagree⟩ :=
    signatures_agree_with_declarations false hfresh.unbound { work := {}, sink := {} } hfresh.fits
  refine ⟨hfresh, by decide +kernel, by decide +kernel, fun f hf h hh => ?_⟩
  obtain ⟨params, ret, hg, hlength, hformals, -⟩ := hagree f hf h hh
  exact ⟨params, ret, hg, hlength, hformals⟩

end StructLang
