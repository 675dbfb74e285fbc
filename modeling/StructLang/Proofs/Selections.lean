import Mathlib.Tactic.Common
import StructLang.Proofs.Analysis
import StructLang.Tree.Build

/-!
# The two passes agree on dots

Type checking never asks whether the left side of a dot is a struct.  The type of the dot is the
type of the symbol that its field is bound to, and name resolution has bound the field only if there
is a struct that has it.  So what type checking stores on the two sides of the dot fits together,
although it looks at neither the struct nor its fields.

* `Arena.Selects` — what stands before the dot is a variable of a struct type, and its table of
  fields has the name.
* `Naming.FieldRule.selects` — name resolution binds a field that is selected like this, and no
  other.
* `passes_agree_on_dots` — a dot has a type if and only if its field is bound, and then it is the
  type of that field in the struct that is the type of the left side.
-/

namespace StructLang

/-! ## Selected fields -/

/-- The identifier that the expression denotes something by: a plain name, or the field after a
dot. -/
def Expr.designator? : Expr → Option Ident
  | .name id _ => some id
  | .dot _ field _ _ => some field
  | _ => none

/-- What stands before the dot is bound to a variable of the struct type of the given name, and the
definition of that struct has the field, under the handle. -/
inductive Arena.Selects (A : Arena) (base : Expr) (field struct : String) (k : SymbolId) : Prop
  | mk {id : Ident} {h defn : SymbolId} {name : String} {fields : ScopeStack}
      (designates : base.designator? = some id) (bound : id.symbol? = some h)
      (isVariable : A.get h = .ok { name, kind := .structVar defn })
      (isDefinition : A.get defn = .ok { name := struct, kind := .structDef fields })
      (isField : fields.lookup field = .ok (some k)) : A.Selects base field struct k

variable {A B : Arena} {base : Expr} {field struct : String} {k : SymbolId}

lemma Expr.designates_of_asBase {h : SymbolId} (hbase : base.asBase = .symbol h) :
    ∃ id, base.designator? = some id ∧ id.symbol? = some h := by
  cases base with
  | name id note =>
      cases hid : id.symbol? with
      | none => simp only [asBase, hid, reduceCtorEq] at hbase
      | some k =>
          simp only [asBase, hid, Base.symbol.injEq] at hbase
          exact ⟨id, rfl, hid.trans (congrArg some hbase)⟩
  | dot inner field failed note =>
      cases failed with
      | true => cases hbase
      | false =>
          cases hfield : field.symbol? with
          | none => simp only [asBase, hfield, reduceCtorEq] at hbase
          | some k =>
              simp only [asBase, hfield, Base.symbol.injEq] at hbase
              exact ⟨field, rfl, hfield.trans (congrArg some hbase)⟩
  | _ => cases hbase

@[simp] lemma Expr.designator?_decorate (e : Expr) :
    (e.decorate A).designator? = e.designator? := by
  cases e <;> rfl

/-- Type checking gives a name or a dot the type of the symbol that it denotes. -/
lemma Expr.ty?_decorate_of_designator {e : Expr} {id : Ident} (hid : e.designator? = some id) :
    (e.decorate A).ty? = some (id.typeIn A) := by
  cases e with
  | name other note =>
      obtain rfl := Option.some.inj hid
      exact congrArg (fun r => some r.1) (judged_name A other note)
  | dot inner other failed note =>
      obtain rfl := Option.some.inj hid
      exact congrArg (fun r => some r.1) (judged_dot A (inner.decorate A) other failed note)
  | _ => cases hid

namespace Arena.Selects

lemma grows (hs : A.Selects base field struct k) (hAB : A.Grows B) :
    B.Selects base field struct k := by
  cases hs with
  | mk designates bound isVariable isDefinition isField =>
      exact .mk designates bound (hAB _ _ isVariable) (hAB _ _ isDefinition) isField

/-- A field that is selected has a type. -/
lemma typed (hs : A.Selects base field struct k) (hA : A.Sound 0) :
    ∃ ty, A.typeOf k = .ok ty ∧ ty.isError = false := by
  cases hs with
  | mk designates bound isVariable isDefinition isField =>
      obtain ⟨hopen, hfields⟩ := hA _ _ (Nat.zero_le _) isDefinition
      rw [ScopeStack.lookup_of_open hopen, Except.ok.injEq] at isField
      obtain ⟨-, -, symbol, hg, -⟩ := hfields _ _ (ScopeStack.binds_of_find? isField)
      obtain ⟨ty, hty, herror, -⟩ := hA.typed (Nat.zero_le _) hg
      exact ⟨ty, hty, herror⟩

/-- What stands before the dot gets the struct type. -/
lemma decorate (hs : A.Selects base field struct k) :
    A.Selects (base.decorate A) field struct k ∧
      (base.decorate A).ty? = some (.struct struct) := by
  cases hs with
  | mk designates bound isVariable isDefinition isField =>
      have htype := Ident.typeIn_eq bound (typeOf_structVar isVariable isDefinition)
      rw [Expr.ty?_decorate_of_designator designates, htype]
      exact ⟨.mk (base.designator?_decorate.trans designates) bound isVariable isDefinition isField,
        rfl⟩

end Arena.Selects

/-! ## What name resolution selects -/

namespace Naming

/-- A field that was not bound before is bound to what is selected. -/
lemma FieldRule.selects {field field' : Ident} {failed failed' : Bool} {es : List Event}
    (rule : FieldRule A base field failed field' failed' es) (hA : A.Sound 0)
    (hbase : ∀ h, base.asBase = .symbol h → Has 0 A h) (hfree : field.symbol? = none)
    (hk : field'.symbol? = some k) : ∃ struct, A.Selects base field'.name struct k := by
  cases rule with
  | @selected h _ fields symbol isStruct found =>
      obtain rfl := Option.some.inj hk
      obtain ⟨-, var, hg⟩ := hbase h symbol
      obtain ⟨id, designates, bound⟩ := Expr.designates_of_asBase symbol
      rcases hA.fieldsOf (Nat.zero_le _) hg with
        ⟨-, hnone⟩ | ⟨defn, struct, fields', hkind, -, hdefn, hsome⟩
      · cases hnone.symm.trans isStruct
      · obtain rfl := Option.some.inj (Except.ok.inj (hsome.symm.trans isStruct))
        obtain ⟨hopen, -⟩ := hA _ _ (Nat.zero_le _) hdefn
        obtain ⟨name, kind⟩ := var
        obtain rfl : kind = .structVar defn := hkind
        refine ⟨struct, .mk designates bound hg hdefn ?_⟩
        rw [ScopeStack.lookup_of_open hopen]
        exact congrArg Except.ok found
  | _ =>
      rw [hfree] at hk
      cases hk

/-- The expression is a dot only if its field is not bound or selected in the symbols `B`. -/
def SelectedIn (B : Arena) (e : Expr) : Prop :=
  ∀ base field failed note, e = .dot base field failed note → ∀ k, field.symbol? = some k →
    ∃ struct, B.Selects base field.name struct k

/-- In a program in which nothing was filled, every bound field is selected. -/
lemma DeclsRule.selected {w : Names} {ds ds' : List Decl} {es : List Event}
    (rule : DeclsRule ⟨{}, .withScope⟩ ds ds' w es) (h : AllBlank (ds.flatMap Decl.exprs)) :
    ∀ e ∈ ds'.flatMap Decl.exprs, SelectedIn w.symbols e := by
  have hcarries : Carries 0 w.symbols (fun _ => True)
      (fun e => e.ty? = none ∧ ∀ id, e.ident? = some id → id.symbol? = none)
      (SelectedIn w.symbols) := by
    rintro v hv hgrows e _ es' rule hblank - base field failed note rfl k hk
    have hfree : AllBlank e.exprs := hblank
    cases rule with
    | dot _ first second =>
        have hbase : AllBlank _ := hfree.mono fun _ => List.mem_cons_of_mem _
        obtain ⟨struct, hs⟩ := second.selects hv.arena (first.has hv fun _ => hbase.unbound)
          ((hfree _ List.mem_cons_self).2 _ rfl) hk
        exact ⟨struct, hs.grows hgrows⟩
  exact rule.carries hcarries sound_start (.refl _) h fun _ _ => trivial

end Naming

/-! ## Analyses -/

open Naming

/-- **The two passes agree on dots.**  After an analysis that checks types, of a program in which
nothing was filled, a type is stored on every dot, and it is not an error if and only if the field
is bound.  If it is, what stands before the dot is bound to a variable of some struct type, has that
type stored, and the field is bound to what the table of the struct gives for its name; the type on
the dot is the type of that symbol. -/
theorem passes_agree_on_dots (config : Config) {p : Program} (h : p.Unfilled)
    (sink : Diagnostics) :
    let R := analyze config p sink
    ∃ a, R.result = .ok a ∧ (a.typeChecked = true →
      ∀ base field failed note, .dot base field failed note ∈ R.program.exprs →
        ∃ ty, note.ty.content = some ty ∧ (ty.isError = false ↔ field.symbol?.isSome = true) ∧
          ∀ k, field.symbol? = some k → a.symbols.typeOf k = .ok ty ∧
            ∃ struct, a.symbols.Selects base field.name struct k ∧
              base.ty? = some (.struct struct)) := by
  intro R
  cases analyze_explained config h sink with
  | skipped rule wrong skips program told result logged =>
      exact ⟨_, result, fun hchecked => absurd hchecked Bool.false_ne_true⟩
  | @checked named w es rule checks program told result logged =>
      refine ⟨_, result, fun _ base field failed note hdot => ?_⟩
      rw [program, Program.exprs_decorate] at hdot
      obtain ⟨e, he, heq⟩ := List.mem_map.1 hdot
      cases e with
      | dot base₀ field₀ failed₀ note₀ =>
          obtain ⟨rfl, rfl, rfl, rfl⟩ := Expr.dot.inj heq
          have htype : ((Expr.dot (base₀.decorate w.symbols) field₀ failed₀ note₀).judged
              w.symbols).1 = field₀.typeIn w.symbols :=
            congrArg Prod.fst (Expr.judged_dot _ _ _ _ _)
          refine ⟨field₀.typeIn w.symbols, congrArg some htype, ?_⟩
          cases hfield : field₀.symbol? with
          | none =>
              refine ⟨?_, fun k hk => absurd hk.symm (Option.some_ne_none k)⟩
              simp only [Ident.typeIn, Ident.tyIn, hfield]
              exact iff_of_false Bool.false_ne_true.symm Bool.false_ne_true
          | some k =>
              obtain ⟨struct, hs⟩ := rule.selected h.blank _ he _ _ _ _ rfl k hfield
              obtain ⟨ty, hty, herror⟩ := hs.typed (rule.extends sound_start).sound.arena
              have htypeIn : field₀.typeIn w.symbols = ty := by
                simp only [Ident.typeIn, Ident.tyIn, hfield, hty]
              rw [htypeIn]
              refine ⟨⟨fun _ => rfl, fun _ => herror⟩, fun k' hk' => ?_⟩
              obtain rfl := Option.some.inj hk'
              obtain ⟨hselects, hbase⟩ := hs.decorate
              exact ⟨hty, struct, hselects, hbase⟩
      | _ => cases heq

/-- A chain of dots through a struct in a struct, which ends in a number. -/
def nestedSelection : Program where
  decls := [
    .struct
      { id := .unbound "Inner" .nowhere
        fields := [{ ty := .int, id := .unbound "x" .nowhere }] },
    .struct
      { id := .unbound "Outer" .nowhere
        fields := [{ ty := .struct (.unbound "Inner" .nowhere), id := .unbound "in" .nowhere }] },
    .fn
      { ret := .void
        id := .unbound "f" .nowhere
        formals := [{ ty := .struct (.unbound "Outer" .nowhere), id := .unbound "o" .nowhere }]
        body := .mk [] [.simple .write (.select
          (.select (.use (.unbound "o" .nowhere)) (.unbound "in" .nowhere))
          (.unbound "x" .nowhere))] }]

/-- Each dot of the chain has the type of a field of the struct that is the type before it. -/
theorem nestedSelection_agrees :
    let R := analyze .standard nestedSelection {}
    nestedSelection.Unfilled ∧
      R.program.exprs.map (fun e => e.ty?.map Ty.render) =
        [some "int", some "Inner", some "Outer"] ∧
      ∃ a, R.result = .ok a ∧ a.typeChecked = true ∧ ∀ base field failed note,
        .dot base field failed note ∈ R.program.exprs → ∃ ty, note.ty.content = some ty ∧
          ∀ k, field.symbol? = some k → a.symbols.typeOf k = .ok ty ∧
            ∃ struct, a.symbols.Selects base field.name struct k ∧
              base.ty? = some (.struct struct) := by
  have hunfilled : nestedSelection.Unfilled := ⟨by decide, by decide, by decide⟩
  obtain ⟨a, result, hagree⟩ := passes_agree_on_dots .standard hunfilled {}
  have hchecks : (analyze .standard nestedSelection {}).result.toOption.any (·.typeChecked) =
      true := by
    decide +kernel
  obtain ⟨b, result', hchecked⟩ := exists_of_any hchecks
  obtain rfl := Except.ok.inj (result.symm.trans result')
  refine ⟨hunfilled, by decide +kernel, a, result, hchecked, fun base field failed note hdot => ?_⟩
  obtain ⟨ty, hty, -, hselects⟩ := hagree hchecked base field failed note hdot
  exact ⟨ty, hty, hselects⟩

end StructLang
