import Mathlib.Tactic.Common
import StructLang.Proofs.Scopes
import StructLang.Proofs.Signatures
import StructLang.Tree.Build

/-!
# Declarations and symbols correspond

Symbols are not allocated in the order of the source.  The fields of a struct come before the struct
and a function comes before its formals; what is declared twice or cannot be declared gets none, but
the fields of a struct that is declared twice still do.  All the same no symbol is lost or shared:
the handles on the declared names of all scopes are the positions in the arena, each of them once,
and what is found there is what was declared.

* `Decl.Matches` — the symbol of a declaration has its name, and a kind that says what was declared.
* `Naming.places_matches` — name resolution gives every declaration such a symbol, or none.
* `declarations_correspond_to_symbols` — the two together, for a program and a resolver that start
  with nothing.
-/

namespace StructLang

/-! ## Symbols of declarations -/

/-- The handle has a symbol with the name of the declaration.  For a variable its kind is that of
the type, which for a struct type is a handle of the definition that the name of the type is bound
to.  For a function it has the types of the formals.  For a struct it has the table of the fields:
one scope, with those of the fields that are bound and nothing else. -/
def Decl.Matches (A : Arena) (h : SymbolId) : Decl → Prop
  | .var d => ∃ kind, d.ty.kind? = some kind ∧ A.get h = .ok { name := d.id.name, kind }
  | .fn f =>
    ∃ ret, A.get h = .ok { name := f.id.name, kind := .fn (Naming.writtenTypes f.formals) ret }
  | .struct s =>
    ∃ fields, A.get h = .ok { name := s.id.name, kind := .structDef fields } ∧
      fields.depth = 1 ∧ fields.Holds (s.fields.map .var)

lemma Decl.Matches.grows {A B : Arena} {h : SymbolId} {d : Decl} (hd : d.Matches A h)
    (hAB : A.Grows B) : d.Matches B h := by
  cases d with
  | var d =>
      obtain ⟨kind, hkind, hg⟩ := hd
      exact ⟨kind, hkind, hAB _ _ hg⟩
  | fn f =>
      obtain ⟨ret, hg⟩ := hd
      exact ⟨ret, hAB _ _ hg⟩
  | struct s =>
      obtain ⟨fields, hg, hfields⟩ := hd
      exact ⟨fields, hAB _ _ hg, hfields⟩

namespace Naming

variable {base : Nat} {B : Arena} {w w' : Names} {es : List Event} {h : SymbolId}

lemma DeclareRule.matches {types : ScopeStack → ScopeStack} {d d' : VarDecl}
    (rule : DeclareRule types w d d' w' es) (free : NoneBound d.idents)
    (hh : d'.id.symbol? = some h) : (Decl.var d').Matches w'.symbols h := by
  obtain ⟨hty, hid⟩ := VarDecl.free free
  cases rule with
  | declared type room scope =>
      obtain rfl := Option.some.inj hh
      exact ⟨_, type.kind_eq hty, Arena.get_nextId_push _ room⟩
  | _ => cases hid.symm.trans hh

lemma FnRule.matches {f f' : FnDecl} (rule : FnRule w f f' w' es) (hw : w.Sound base)
    (free : f.id.symbol? = none) (hh : f'.id.symbol? = some h) :
    (Decl.fn f').Matches w'.symbols h := by
  obtain ⟨ret, -, -, hg⟩ := rule.signature hw free hh
  cases rule with
  | mk type head params inside =>
      cases head with
      | taken known => cases free.symm.trans hh
      | declared room scope => exact ⟨ret, hg⟩

lemma StructRule.matches {s s' : StructDecl} (rule : StructRule w s s' w' es) (hw : w.Sound base)
    (free : NoneBound (Decl.struct s).idents) (hh : s'.id.symbol? = some h) :
    (Decl.struct s').Matches w'.symbols h := by
  cases rule with
  | taken known all => cases (free _ Decl.mem_idents_struct).symm.trans hh
  | @declared _ inner _ _ all room scope =>
      obtain rfl := Option.some.inj hh
      have hnames : NoneBound (s.fields.map (·.id)) := fun id hid =>
        free id (Decl.mem_idents_fields (VarDecl.mem_idents_of_mem hid))
      have hfields := all.extends (soundTypes_const hw) hw.withScope
      refine ⟨inner.table, Arena.get_nextId_push _ room, ?_, all.holds hnames .withScope⟩
      -- the table began with one scope, and there are no outer ones
      have houter : inner.table.scopes.tail = [] := hfields.outer
      obtain ⟨scope, rest, hscopes⟩ := List.exists_cons_of_ne_nil hfields.sound.opened
      rw [hscopes, List.tail_cons] at houter
      rw [ScopeStack.depth, hscopes, houter]
      rfl

/-- **Name resolution gives every declaration a symbol that matches, or none.** -/
lemma places_matches :
    Places base B fun _ d => ∀ h, d.id.symbol? = some h → d.Matches B h where
  var rule _ _ hgrows free _ _ hh := (rule.matches free hh).grows hgrows
  fn rule hw hgrows free _ _ hh := (rule.matches hw (free _ Decl.mem_idents_fn) hh).grows hgrows
  struct rule hw hgrows free _ _ hh := (rule.matches hw free hh).grows hgrows

end Naming

/-! ## Runs -/

open Naming

/-- **Declarations and symbols correspond one to one.**  Name resolution of a program in which
nothing is bound, and which has no more declarations than there are handles, goes on to its end if
there are no symbols before.  The handles on the names that the program declares, at every level,
are those of the symbols, and each of them occurs once.  A declaration that has a handle matches the
symbol of that handle. -/
theorem declarations_correspond_to_symbols (dumpScopes : Bool) {p : Program}
    (free : NoneBound p.idents) (few : p.declCount ≤ UInt32.size) (sink : Diagnostics) :
    let done := (resolveProgram dumpScopes p).run { work := {}, sink }
    let A := done.2.work.symbols
    done.2.outcome = .ok () ∧
      (handlesOf (done.1.scopes.flatten.map Decl.id)).Perm
        ((List.range A.size).map SymbolId.ofIndex) ∧
      ∀ d ∈ done.1.scopes.flatten, ∀ h, d.id.symbol? = some h → d.Matches A h := by
  intro done A
  obtain ⟨base, w, es, hw, rule, outcome, symbols, -⟩ :=
    resolveProgram_explained dumpScopes free { work := {}, sink }
      (Nat.le_trans (Nat.le_of_eq (Nat.zero_add _)) few)
  have hA : w.symbols.Grows A := symbols ▸ .refl _
  have hids := Program.noneBound_decls free
  refine ⟨outcome, ?_, fun d hd => ?_⟩
  · have hnumbers := rule.numbers fun id hid => by
      obtain ⟨d, hd, hid⟩ := List.mem_flatMap.1 hid
      exact hids id (List.mem_flatMap.2 ⟨d, hd, Decl.idents_of_declaredNames hid⟩)
    have hsize : A.size = boundCount (done.1.decls.flatMap Decl.declaredNames) :=
      (congrArg Arena.size symbols).trans (hnumbers.size.trans (Nat.zero_add _))
    have hrange : handlesOf (done.1.decls.flatMap Decl.declaredNames) =
        (List.range A.size).map SymbolId.ofIndex := by
      rw [hnumbers.handles, hsize, List.range_eq_range']
      rfl
    exact hrange ▸ done.1.declared_perm.filterMap Ident.symbol?
  · obtain ⟨scope, hscope, hd⟩ := List.mem_flatten.1 hd
    obtain ⟨before, after, rfl⟩ := List.append_of_mem hd
    exact rule.places places_matches hw hA hids .withScope _ hscope _
      (mem_placedAfter_iff.2 ⟨before, after, rfl, rfl⟩)

/-- A struct with a field that is declared twice, the same struct again, a variable that cannot be
declared, one of the struct type, and a function. -/
def doubledStruct : Program where
  decls := [
    .struct
      { id := .unbound "Point" .nowhere
        fields := [
          { ty := .int, id := .unbound "x" .nowhere },
          { ty := .bool, id := .unbound "x" .nowhere }] },
    .struct
      { id := .unbound "Point" .nowhere
        fields := [{ ty := .int, id := .unbound "y" .nowhere }] },
    .var { ty := .void, id := .unbound "v" .nowhere },
    .var { ty := .struct (.unbound "Point" .nowhere), id := .unbound "p" .nowhere },
    .fn
      { ret := .int
        id := .unbound "f" .nowhere
        formals := [{ ty := .bool, id := .unbound "a" .nowhere }]
        body := .mk [{ ty := .int, id := .unbound "b" .nowhere }] [] }]

/-- The scope of the program has the handles 1, 3 and 4.  The field `y` has the handle 2, although
its struct has none. -/
theorem doubledStruct_corresponds :
    let done := (resolveProgram false doubledStruct).run { work := {}, sink := {} }
    let A := done.2.work.symbols
    doubledStruct.Fresh ∧
      handlesOf (done.1.scopes.flatten.map Decl.id) = [1, 3, 4, 0, 2, 5, 6].map SymbolId.ofIndex ∧
      (handlesOf (done.1.scopes.flatten.map Decl.id)).Perm
        ((List.range A.size).map SymbolId.ofIndex) ∧
      ∀ d ∈ done.1.scopes.flatten, ∀ h, d.id.symbol? = some h → d.Matches A h := by
  have hfresh : doubledStruct.Fresh := ⟨⟨by decide, by decide, by decide⟩, by decide⟩
  obtain ⟨-, hperm, hmatches⟩ :=
    declarations_correspond_to_symbols false hfresh.unbound hfresh.few {}
  exact ⟨hfresh, by decide +kernel, hperm, hmatches⟩

end StructLang
