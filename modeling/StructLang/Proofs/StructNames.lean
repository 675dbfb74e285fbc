import Mathlib.Tactic.Common
import StructLang.Proofs.DeclaredTypes
import StructLang.Proofs.Selections
import StructLang.Tree.Build

/-!
# Struct types and their names

Name resolution follows handles, and type checking compares names: two struct types are the same if
their structs are called the same.  That this is the same struct is not a matter of course, since
names can be hidden, and the fields of a struct that is declared twice are symbols too.

It holds because a struct can only be declared in the scope of the program, where a name is bound at
most once.  So of all symbols that are definitions of structs no two have the same name, and the name
stands for the definition.

* `Naming.DeclsRule.structDef_unique` — the names of definitions are different.
* `Arena.Sound.typeOf_structVar` — the type of a struct variable is the name of its definition.
* `Naming.places_returned` — the name of a return type is the name of the definition that it is bound
  to.
* `struct_types_compare_definitions` — the comparison of types as a comparison of handles, for two
  variables and for what a function returns.
-/

namespace StructLang

/-! ## Definitions -/

/-- No variable is the definition of a struct. -/
lemma TypeName.kind?_ne_structDef (ty : TypeName) (fields : ScopeStack) :
    ty.kind? ≠ some (.structDef fields) := by
  cases ty with
  | struct name => cases hname : name.symbol? <;> simp [kind?, hname]
  | _ => simp [kind?]

/-- Functions and structs are declared in the scope of the program only. -/
lemma Program.mem_scopes_iff {p : Program} {d : Decl} :
    d ∈ p.scopes.flatten ↔
      d ∈ p.decls ∨ ∃ v, d = .var v ∧ v ∈ (p.decls.flatMap Decl.scopes).flatten := by
  rw [scopes, List.flatten_cons, List.mem_append, ← List.map_flatten, List.mem_map]
  exact or_congr_right (exists_congr fun v => and_comm.trans (and_congr_left' eq_comm))

namespace Naming

variable {base : Nat} {B : Arena} {w : Names} {es : List Event} {ds ds' : List Decl}
  {h k : SymbolId} {name : String} {fields fields' : ScopeStack}

/-- Where there were no symbols before, every symbol is that of a declaration. -/
lemma DeclsRule.exists_decl {a : Symbol} (rule : DeclsRule ⟨{}, .withScope⟩ ds ds' w es)
    (free : NoneBound (ds.flatMap Decl.idents)) (hg : w.symbols.get h = .ok a) :
    ∃ d ∈ (Program.scopes ⟨ds'⟩).flatten, d.id.symbol? = some h := by
  have hnumbers := rule.numbers (free.mono fun id hid => by
    obtain ⟨d, hd, hid⟩ := List.mem_flatMap.1 hid
    exact List.mem_flatMap.2 ⟨d, hd, Decl.idents_of_declaredNames hid⟩)
  have hmem : h ∈ handlesOf (ds'.flatMap Decl.declaredNames) :=
    hnumbers.mem_handles (Nat.zero_le _) (Arena.lt_of_get hg)
  obtain ⟨id, hid, hh⟩ := List.mem_filterMap.1 hmem
  obtain ⟨d, hd, rfl⟩ := List.mem_map.1 ((Program.mk ds').declared_perm.mem_iff.2 hid)
  exact ⟨d, hd, hh⟩

/-- Where there were no symbols before, every definition is that of a struct of the program. -/
lemma DeclsRule.exists_structDecl (rule : DeclsRule ⟨{}, .withScope⟩ ds ds' w es)
    (free : NoneBound (ds.flatMap Decl.idents))
    (hg : w.symbols.get h = .ok { name, kind := .structDef fields }) :
    ∃ s, .struct s ∈ ds' ∧ s.id.name = name ∧ s.id.symbol? = some h := by
  obtain ⟨d, hd, hh⟩ := rule.exists_decl free hg
  have hmatches := rule.everywhere places_matches sound_start (.refl _) free .withScope d hd h hh
  -- the kind of the symbol tells what kind of declaration it was made for
  cases d with
  | var v =>
      obtain ⟨kind, hkind, hv⟩ := hmatches
      obtain ⟨-, rfl⟩ := Symbol.mk.inj (Except.ok.inj (hv.symm.trans hg))
      exact absurd hkind (v.ty.kind?_ne_structDef fields)
  | fn f =>
      obtain ⟨ret, hf⟩ := hmatches
      cases hf.symm.trans hg
  | struct s =>
      obtain ⟨_, hs, -⟩ := hmatches
      obtain ⟨hname, -⟩ := Symbol.mk.inj (Except.ok.inj (hs.symm.trans hg))
      rcases Program.mem_scopes_iff.1 hd with htop | ⟨v, heq, -⟩
      · exact ⟨s, htop, hname, hh⟩
      · cases heq

/-- **No two definitions have the same name.** -/
theorem DeclsRule.structDef_unique (rule : DeclsRule ⟨{}, .withScope⟩ ds ds' w es)
    (free : NoneBound (ds.flatMap Decl.idents))
    (hh : w.symbols.get h = .ok { name, kind := .structDef fields })
    (hk : w.symbols.get k = .ok { name, kind := .structDef fields' }) : h = k := by
  have holds : w.table.Holds ds' := rule.holds free .withScope
  obtain ⟨s, hs, hname, hbound⟩ := rule.exists_structDecl free hh
  obtain ⟨t, ht, hname', hbound'⟩ := rule.exists_structDecl free hk
  have hfirst : w.table.local? name = some h := (holds name h).2 ⟨_, hs, hname, hbound⟩
  have hsecond : w.table.local? name = some k := (holds name k).2 ⟨_, ht, hname', hbound'⟩
  exact Option.some.inj (hfirst.symm.trans hsecond)

lemma StructNameRule.denotes {A : Arena} {types : ScopeStack} {id id' : Ident}
    {defn : Option SymbolId} (rule : StructNameRule A types id id' defn es)
    (hw : Names.Sound base ⟨A, types⟩) (free : id.symbol? = none) (hh : id'.symbol? = some h) :
    ∃ fields, A.get h = .ok { name := id'.name, kind := .structDef fields } := by
  cases rule with
  | means found symbol struct =>
      obtain rfl := Option.some.inj hh
      exact (StructNameRule.means found symbol struct).named hw
  | invalid wrong => cases free.symm.trans hh

/-- The name of a return type is bound to the definition of the struct of that name. -/
lemma places_returned :
    Places base B fun _ d => ∀ f, d = .fn f → ∀ id h, f.ret = .struct id → id.symbol? = some h →
      ∃ fields, B.get h = .ok { name := id.name, kind := .structDef fields } where
  var _ _ _ _ _ _ _ heq := by cases heq
  struct _ _ _ _ _ _ heq := by cases heq
  fn rule hw hgrows free _ f heq id h hret hh := by
    obtain rfl := Decl.fn.inj heq
    have hlater := (rule.extends hw).grows.trans hgrows
    cases rule with
    | mk type head params inside =>
        obtain rfl := hret
        have hfree : NoneBound _ := free.mono fun _ => Decl.mem_idents_ret
        generalize FnDecl.ret _ = written at type hfree
        cases type with
        | plain type => exact absurd rfl (type id)
        | struct type =>
            obtain ⟨fields, hg⟩ := type.denotes hw (hfree _ List.mem_cons_self) hh
            exact ⟨fields, hlater _ _ hg⟩

end Naming

/-! ## Variables -/

lemma Ty.agrees_struct_iff {a b : String} : (Ty.struct a).agrees (.struct b) = true ↔ a = b := by
  simp [agrees]

/-- A struct variable has the type that its definition is called. -/
lemma Arena.Sound.typeOf_structVar {A : Arena} (hA : A.Sound 0) {h defn : SymbolId} {name : String}
    (hg : A.get h = .ok { name, kind := .structVar defn }) :
    ∃ struct fields, A.get defn = .ok { name := struct, kind := .structDef fields } ∧
      A.typeOf h = .ok (.struct struct) := by
  obtain ⟨-, -, ⟨struct, kind⟩, hd, hdef⟩ := hA h _ (Nat.zero_le _) hg
  cases kind with
  | structDef fields => exact ⟨struct, fields, hd, Arena.typeOf_structVar hg hd⟩
  | _ => cases hdef

/-- The definition of the struct variable that the expression denotes. -/
def Expr.definition? (A : Arena) (e : Expr) : Option SymbolId := do
  let id ← e.designator?
  let k ← id.symbol?
  match A.get k with
  | .ok { kind := .structVar defn, .. } => some defn
  | _ => none

lemma Expr.exists_of_definition {A : Arena} {e : Expr} {d : SymbolId}
    (h : e.definition? A = some d) : ∃ id k name, e.designator? = some id ∧
      id.symbol? = some k ∧ A.get k = .ok { name, kind := .structVar d } := by
  obtain ⟨id, hid, h⟩ := Option.bind_eq_some_iff.1 h
  obtain ⟨k, hk, h⟩ := Option.bind_eq_some_iff.1 h
  split at h
  · next name defn hg =>
      obtain rfl := Option.some.inj h
      exact ⟨id, k, name, hid, hk, hg⟩
  · cases h

/-! ## Returned values -/

section

variable {A : Arena}

/-- In a function that returns a struct, the value that is returned is objected to if it is another
struct. -/
lemma Site.findings_ret_struct {value : Expr} {struct returned : String} (loc : Location)
    (hty : value.ty = .struct struct) :
    (Site.ret (.struct returned) (some value) loc).findings A =
      if struct = returned then [] else [{ loc := value.loc, problem := .badValue }] := by
  by_cases hname : struct = returned <;>
    simp [findings, inspections, Inspection.finding?, hty, Ty.returnObjection, Ty.agrees, hname]

/-- What a decorated body returns is a decorated expression. -/
lemma Block.decorated_of_ret {b : Block} {ret ty : Ty} {value : Expr} {loc : Location}
    (hsite : .ret ty (some value) loc ∈ (b.decorate A).sites ret) :
    ∃ e : Expr, value = e.decorate A := by
  have hvalue : value ∈ operandsOf ((b.decorate A).sites ret) :=
    List.mem_flatMap.2 ⟨_, hsite, List.mem_singleton_self value⟩
  rw [((b.decorate A).operands_perm ret).mem_iff, b.exprs_decorate] at hvalue
  obtain ⟨e, -, heq⟩ := List.mem_map.1 hvalue
  exact ⟨e, heq.symm⟩

end

lemma TypeName.returned_of_bound {id : Ident} {h : SymbolId} (hid : id.symbol? = some h) :
    (TypeName.struct id).returned = .struct id.name := by
  have hfilled : id.binding.isFilled = true := congrArg Option.isSome hid
  rw [returned, if_pos hfilled]

namespace Naming

variable {w : Names} {es : List Event} {ds ds' : List Decl} {h k d d' : SymbolId} {name : String}

/-- The names of definitions are the same if the definitions are. -/
lemma DeclsRule.structDef_name_iff (rule : DeclsRule ⟨{}, .withScope⟩ ds ds' w es)
    (free : NoneBound (ds.flatMap Decl.idents)) {name' : String} {fields fields' : ScopeStack}
    (hh : w.symbols.get h = .ok { name, kind := .structDef fields })
    (hk : w.symbols.get k = .ok { name := name', kind := .structDef fields' }) :
    name = name' ↔ h = k := by
  constructor
  · rintro rfl
    exact rule.structDef_unique free hh hk
  · rintro rfl
    exact congrArg Symbol.name (Except.ok.inj (hh.symm.trans hk))

/-- The types of struct variables agree if the variables have the same definition. -/
lemma DeclsRule.agrees_structVar (rule : DeclsRule ⟨{}, .withScope⟩ ds ds' w es)
    (free : NoneBound (ds.flatMap Decl.idents)) {name' : String}
    (hh : w.symbols.get h = .ok { name, kind := .structVar d })
    (hk : w.symbols.get k = .ok { name := name', kind := .structVar d' }) :
    ∃ ty ty', w.symbols.typeOf h = .ok ty ∧ w.symbols.typeOf k = .ok ty' ∧
      (ty.agrees ty' = true ↔ d = d') := by
  have hsound := (rule.extends sound_start).sound.arena
  obtain ⟨struct, fields, hd, hty⟩ := hsound.typeOf_structVar hh
  obtain ⟨struct', fields', hd', hty'⟩ := hsound.typeOf_structVar hk
  exact ⟨_, _, hty, hty', Ty.agrees_struct_iff.trans (rule.structDef_name_iff free hd hd')⟩

/-- What is found at a `return` of a struct variable where a struct is to be returned. -/
lemma DeclsRule.findings_of_return (rule : DeclsRule ⟨{}, .withScope⟩ ds ds' w es)
    (free : NoneBound (ds.flatMap Decl.idents)) {f : FnDecl} (hf : .fn f ∈ ds') {ret : Ident}
    (hret : f.ret = .struct ret) (hr : ret.symbol? = some d') {e : Expr} (loc : Location)
    (he : (e.decorate w.symbols).definition? w.symbols = some d) :
    (Site.ret f.ret.returned (some (e.decorate w.symbols)) loc).findings w.symbols =
      if d = d' then [] else [{ loc := (e.decorate w.symbols).loc, problem := .badValue }] := by
  have hsound := (rule.extends sound_start).sound.arena
  obtain ⟨id, k, name, hid, hk, hg⟩ := Expr.exists_of_definition he
  rw [Expr.designator?_decorate] at hid
  obtain ⟨struct, fields, hd, hty⟩ := hsound.typeOf_structVar hg
  obtain ⟨fields', hd'⟩ := rule.everywhere places_returned sound_start (.refl _) free .withScope _
    (Program.mem_scopes_top hf) f rfl ret d' hret hr
  have htype : (e.decorate w.symbols).ty = .struct struct := by
    rw [Expr.ty, Expr.ty?_decorate_of_designator hid, Ident.typeIn_eq hk hty]
    rfl
  rw [hret, TypeName.returned_of_bound hr, Site.findings_ret_struct loc htype]
  exact if_congr (rule.structDef_name_iff free hd hd') rfl rfl

end Naming

/-! ## Runs -/

open Naming

/-- **Struct types are compared by definition.**  After name resolution of a program in which nothing
was filled, with no symbols before, no two definitions have the same name; so the types of two struct
variables agree if and only if the variables have the same definition.  When the types of the program
are checked, from any run, everything that is found at its points is reported; and a `return` of a
name or a dot that denotes a struct variable, in a function whose return type is bound to a struct,
finds a bad value if the definitions differ, and nothing if they do not. -/
theorem struct_types_compare_definitions (dumpScopes : Bool) {p : Program} (unfilled : p.Unfilled)
    (sink : Diagnostics) :
    let named := (resolveProgram dumpScopes p).run { work := {}, sink }
    let A := named.2.work.symbols
    named.2.outcome = .ok () ∧
    (∀ h k name fields fields', A.get h = .ok { name, kind := .structDef fields } →
      A.get k = .ok { name, kind := .structDef fields' } → h = k) ∧
    (∀ h k name name' d d', A.get h = .ok { name, kind := .structVar d } →
      A.get k = .ok { name := name', kind := .structVar d' } →
        ∃ ty ty', A.typeOf h = .ok ty ∧ A.typeOf k = .ok ty' ∧
          (ty.agrees ty' = true ↔ d = d')) ∧
    ∀ s : Run Bool,
      let checked := (checkProgram A named.1).run s
      checked.2.outcome = .ok () ∧
      s.Reported checked.2 (checked.1.sites.flatMap (Site.findings A)) ∧
      ∀ f, .fn f ∈ checked.1.decls → ∀ ret r, f.ret = .struct ret → ret.symbol? = some r →
        ∀ e loc d, .ret f.ret.returned (some e) loc ∈ (Decl.fn f).sites →
          e.definition? A = some d →
            (Site.ret f.ret.returned (some e) loc).findings A =
              if d = r then [] else [{ loc := e.loc, problem := .badValue }] := by
  intro named A
  obtain ⟨-, w, es, -, rule, outcome, symbols, -⟩ :=
    resolveProgram_explained dumpScopes unfilled.unbound { work := {}, sink } unfilled.fits
  have hA : w.symbols = A := symbols.symm
  have hids := Program.noneBound_decls unfilled.unbound
  have hready := rule.ready sound_start unfilled.blank
  rw [← hA]
  refine ⟨outcome, ?_, ?_, fun s => ?_⟩
  · exact fun h k name fields fields' hh hk => rule.structDef_unique hids hh hk
  · exact fun h k name name' d d' hh hk => rule.agrees_structVar hids hh hk
  · obtain ⟨htree, hreported, -, live⟩ := checkProgram_reported hready s
    refine ⟨by rw [Run.outcome, live], ?_, ?_⟩
    · rw [Program.complaints_findings, ← htree] at hreported
      exact hreported
    · intro f hf ret r hret hr e loc d hsite hd
      rw [htree] at hf
      obtain ⟨d₀, hd₀, heq⟩ := List.mem_map.1 hf
      cases d₀ with
      | fn f₀ =>
          obtain rfl := Decl.fn.inj heq
          obtain ⟨e, rfl⟩ := Block.decorated_of_ret hsite
          exact rule.findings_of_return hids hd₀ hret hr loc hd
      | _ => cases heq

/-- At the point a variable of the definition is returned where the struct of the name is to be. -/
def Site.returns (A : Arena) (struct : String) (d : SymbolId) : Site → Bool
  | .ret (.struct name) (some e) _ => name = struct && e.definition? A = some d
  | _ => false

lemma exists_of_returns {A : Arena} {struct : String} {d : SymbolId} {sites : List Site}
    (h : sites.any (·.returns A struct d) = true) :
    ∃ e loc, .ret (.struct struct) (some e) loc ∈ sites ∧ e.definition? A = some d := by
  obtain ⟨site, hmem, h⟩ := List.any_eq_true.1 h
  unfold Site.returns at h
  split at h
  · next name e loc =>
      rw [Bool.and_eq_true, decide_eq_true_eq, decide_eq_true_eq] at h
      obtain ⟨rfl, hdefinition⟩ := h
      exact ⟨e, loc, hmem, hdefinition⟩
  · cases h

/-- A struct `A`, which is declared again with a field of its own type, and a struct `B` around it.
The function returns first the `A` in a `B` and then the `B`, where a local hides the name `A`. -/
def hiddenStruct : Program where
  decls := [
    .struct
      { id := .unbound "A" .nowhere
        fields := [{ ty := .int, id := .unbound "x" .nowhere }] },
    .struct
      { id := .unbound "A" .nowhere
        fields := [{ ty := .struct (.unbound "A" .nowhere), id := .unbound "a" .nowhere }] },
    .struct
      { id := .unbound "B" .nowhere
        fields := [{ ty := .struct (.unbound "A" .nowhere), id := .unbound "a" .nowhere }] },
    .fn
      { ret := .struct (.unbound "A" .nowhere)
        id := .unbound "f" .nowhere
        formals := [{ ty := .struct (.unbound "B" .nowhere), id := .unbound "b" .nowhere }]
        body := .mk [{ ty := .int, id := .unbound "A" .nowhere }] [
          .ret (some (.select (.use (.unbound "b" .nowhere)) (.unbound "a" .nowhere))) .nowhere,
          .ret (some (.use (.unbound "b" .nowhere))) .nowhere] }]

/-- The field is an `A` and may be returned, although it does not mean that here.  The `B` may not. -/
theorem hiddenStruct_is_told_apart :
    let named := (resolveProgram false hiddenStruct).run { work := {}, sink := {} }
    let A := named.2.work.symbols
    let checked := (checkProgram A named.1).run { work := true, sink := {} }
    hiddenStruct.Fresh ∧
      A.symbols.toList.map (fun s => (s.name, s.isStructDef)) =
        [("x", false), ("A", true), ("a", false), ("a", false), ("B", true), ("f", false),
          ("b", false), ("A", false)] ∧
      ∃ f e e' loc loc', .fn f ∈ checked.1.decls ∧
        .ret f.ret.returned (some e) loc ∈ (Decl.fn f).sites ∧
        (Site.ret f.ret.returned (some e) loc).findings A = [] ∧
        .ret f.ret.returned (some e') loc' ∈ (Decl.fn f).sites ∧
        (Site.ret f.ret.returned (some e') loc').findings A =
          [{ loc := e'.loc, problem := .badValue }] := by
  have hfresh : hiddenStruct.Fresh := ⟨⟨by decide, by decide, by decide⟩, by decide⟩
  have hmain := struct_types_compare_definitions false hfresh.toUnfilled {}
  have hsymbols : ((resolveProgram false hiddenStruct).run
      { work := {}, sink := {} }).2.work.symbols.symbols.toList.map
        (fun s => (s.name, s.isStructDef)) =
      [("x", false), ("A", true), ("a", false), ("a", false), ("B", true), ("f", false),
        ("b", false), ("A", false)] := by
    decide +kernel
  have hfn :
      let named := (resolveProgram false hiddenStruct).run { work := {}, sink := {} }
      let A := named.2.work.symbols
      let checked := (checkProgram A named.1).run { work := true, sink := {} }
      checked.1.decls.any (fun d => d.fn?.any fun f =>
        decide (f.ret = .struct { name := "A", loc := .nowhere, binding := ⟨some ⟨1⟩⟩ }) &&
          ((Decl.fn f).sites.any (·.returns A "A" ⟨1⟩) &&
            (Decl.fn f).sites.any (·.returns A "A" ⟨4⟩))) = true := by
    decide +kernel
  -- From here on neither pass is to be run again.
  dsimp only at hmain hfn ⊢
  generalize (resolveProgram false hiddenStruct).run { work := {}, sink := {} } = named at *
  obtain ⟨-, -, -, hchecked⟩ := hmain
  obtain ⟨-, -, hreturns⟩ := hchecked { work := true, sink := {} }
  generalize (checkProgram named.2.work.symbols named.1).run { work := true, sink := {} } = checked
    at *
  obtain ⟨d, hd, hfn⟩ := List.any_eq_true.1 hfn
  cases d with
  | fn f =>
      simp only [Decl.fn?, Option.any_some, Bool.and_eq_true, decide_eq_true_eq] at hfn
      obtain ⟨hret, hgood, hbad⟩ := hfn
      obtain ⟨e, loc, hsite, hdefinition⟩ := exists_of_returns hgood
      obtain ⟨e', loc', hsite', hdefinition'⟩ := exists_of_returns hbad
      have hreturned : f.ret.returned = .struct "A" := congrArg TypeName.returned hret
      rw [← hreturned] at hsite hsite'
      exact ⟨hfresh, hsymbols, f, e, e', loc, loc', hd, hsite,
        hreturns f hd _ _ hret rfl e loc _ hsite hdefinition, hsite',
        hreturns f hd _ _ hret rfl e' loc' _ hsite' hdefinition'⟩
  | _ => cases hfn

end StructLang
