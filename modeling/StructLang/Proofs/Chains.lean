import Mathlib.Tactic.Common
import StructLang.Proofs.Mentions
import StructLang.Proofs.Unbound
import StructLang.Tree.Build

/-!
# Chains of dots

A chain is a name with fields after it, `x.f.g.h`.  Name resolution goes from the name outwards,
and each field after something that failed is skipped in silence.  So a mistake in a chain costs one
report, where it was made, and fails all that comes after it.

* `Expr.chain?` — an expression as a chain.
* `Arena.Follows` — fields that are bound one after the other, each to a member of the struct that
  the one before it is a variable of.
* `ChainOutcome` — the three ways in which a chain can come out: the name is undeclared, all goes
  well, or a field is the first that cannot be resolved.
* `chains_report_once` — every chain of a resolved program comes out in one of them.
-/

namespace StructLang

/-! ## Chains -/

/-- A field of a chain with the flag of its dot. -/
structure Link where
  field : Ident
  failed : Bool
  deriving DecidableEq

/-- The field is not bound, and its flag says so. -/
structure Link.Failed (l : Link) : Prop where
  unbound : l.field.symbol? = none
  flagged : l.failed = true

/-- The name and the fields of a chain, in the order of the source. -/
def Expr.chain? : Expr → Option (Ident × List Link)
  | .name x _ => some (x, [])
  | .dot base field failed _ => base.chain?.map fun c => (c.1, c.2 ++ [⟨field, failed⟩])
  | _ => none

lemma Expr.chain?_dot {base : Expr} {field x : Ident} {failed : Bool} {note : Note}
    {links : List Link} (h : (Expr.dot base field failed note).chain? = some (x, links)) :
    ∃ before, base.chain? = some (x, before) ∧ links = before ++ [⟨field, failed⟩] := by
  obtain ⟨⟨y, before⟩, hbase, heq⟩ := Option.map_eq_some_iff.1 h
  obtain ⟨rfl, rfl⟩ := Prod.mk.inj heq
  exact ⟨before, hbase, rfl⟩

/-! ## Fields that are bound -/

/-- The handle is that of a variable of the struct with these fields. -/
inductive Arena.Members (A : Arena) (h : SymbolId) (fields : ScopeStack) : Prop
  | mk {defn : SymbolId} {name struct : String}
      (isVariable : A.get h = .ok { name, kind := .structVar defn })
      (isDefinition : A.get defn = .ok { name := struct, kind := .structDef fields })

/-- From the handle `h` on, the links lead to a handle: each of them is bound, and to what the
struct that the one before it is a variable of has under its name. -/
inductive Arena.Follows (A : Arena) (h : SymbolId) : List Link → SymbolId → Prop
  | nil : A.Follows h [] h
  | snoc {before : List Link} {l : Link} {k m : SymbolId} {fields : ScopeStack}
      (path : A.Follows h before k) (members : A.Members k fields)
      (found : fields.find? l.field.name = some m) (bound : l.field.symbol? = some m)
      (unflagged : l.failed = false) : A.Follows h (before ++ [l]) m

/-- Why a name cannot be selected after something that is bound to the handle. -/
inductive Arena.Rejects (A : Arena) (h : SymbolId) (name : String) : Problem → Prop
  | noStruct {symbol : Symbol} (here : A.get h = .ok symbol)
      (other : ∀ defn, symbol.kind ≠ .structVar defn) : A.Rejects h name .dotOnNonStruct
  | noField {fields : ScopeStack} (members : A.Members h fields)
      (missing : fields.find? name = none) : A.Rejects h name .invalidField

namespace Arena

variable {A B : Arena} {h k : SymbolId} {fields : ScopeStack}

lemma Members.grows (hm : A.Members h fields) (hAB : A.Grows B) : B.Members h fields := by
  cases hm with
  | mk isVariable isDefinition => exact .mk (hAB _ _ isVariable) (hAB _ _ isDefinition)

lemma Follows.grows {links : List Link} (path : A.Follows h links k) (hAB : A.Grows B) :
    B.Follows h links k := by
  induction path with
  | nil => exact .nil
  | snoc path members found bound unflagged ih =>
      exact .snoc ih (members.grows hAB) found bound unflagged

lemma Rejects.grows {name : String} {problem : Problem} (wrong : A.Rejects h name problem)
    (hAB : A.Grows B) : B.Rejects h name problem := by
  cases wrong with
  | noStruct here other => exact .noStruct (hAB _ _ here) other
  | noField members missing => exact .noField (members.grows hAB) missing

/-- What has fields is a variable of a struct. -/
lemma members_of_fieldsOf (hf : A.fieldsOf h = .ok (some fields)) : A.Members h fields := by
  cases hg : A.get h with
  | error fault => simp only [fieldsOf, hg] at hf; cases hf
  | ok symbol =>
      obtain ⟨name, kind⟩ := symbol
      cases kind with
      | structVar defn =>
          cases hd : A.get defn with
          | error fault => simp only [fieldsOf, hg, hd, bind, Except.bind] at hf; cases hf
          | ok definition =>
              obtain ⟨struct, kind⟩ := definition
              cases kind with
              | structDef table =>
                  simp only [fieldsOf, hg, hd, bind, Except.bind] at hf
                  obtain rfl := Option.some.inj (Except.ok.inj hf)
                  exact .mk hg hd
              | _ => simp only [fieldsOf, hg, hd, bind, Except.bind] at hf; cases hf
      | _ => simp only [fieldsOf, hg, bind, Except.bind] at hf; cases hf

/-- What has no fields is something else. -/
lemma rejects_of_fieldsOf {name : String} (hf : A.fieldsOf h = .ok none) :
    A.Rejects h name .dotOnNonStruct := by
  cases hg : A.get h with
  | error fault => simp only [fieldsOf, hg] at hf; cases hf
  | ok symbol =>
      refine .noStruct hg fun defn hkind => ?_
      cases hd : A.get defn with
      | error fault => simp only [fieldsOf, hg, hkind, hd, bind, Except.bind] at hf; cases hf
      | ok definition =>
          obtain ⟨struct, kind⟩ := definition
          cases kind <;> simp only [fieldsOf, hg, hkind, hd, bind, Except.bind] at hf <;> cases hf

end Arena

/-! ## How a chain comes out -/

/-- What is said about the chain of the name and the links, in the symbols that there are, and what
a dot after the chain starts from. -/
inductive ChainOutcome (A : Arena) (x : Ident) : List Link → Base → List Finding → Prop
  /-- The name is undeclared, and no field is looked up. -/
  | undeclared {links : List Link} (unbound : x.symbol? = none) (failed : ∀ l ∈ links, l.Failed) :
      ChainOutcome A x links .failed [{ loc := x.loc, problem := .undeclared }]
  /-- The name and all fields are bound. -/
  | resolved {links : List Link} {h k : SymbolId} (bound : x.symbol? = some h)
      (path : A.Follows h links k) : ChainOutcome A x links (.symbol k) []
  /-- One field is the first that cannot be resolved. -/
  | stopped {before after : List Link} {l : Link} {h k : SymbolId} {problem : Problem}
      (bound : x.symbol? = some h) (path : A.Follows h before k)
      (wrong : A.Rejects k l.field.name problem) (failed : ∀ m ∈ l :: after, m.Failed) :
      ChainOutcome A x (before ++ l :: after) .failed [{ loc := l.field.loc, problem }]

namespace ChainOutcome

variable {A B : Arena} {x : Ident} {links : List Link} {base : Base} {findings : List Finding}

lemma grows (outcome : ChainOutcome A x links base findings) (hAB : A.Grows B) :
    ChainOutcome B x links base findings := by
  cases outcome with
  | undeclared unbound failed => exact .undeclared unbound failed
  | resolved bound path => exact .resolved bound (path.grows hAB)
  | stopped bound path wrong failed =>
      exact .stopped bound (path.grows hAB) (wrong.grows hAB) failed

/-- There is at most one report. -/
lemma length_le_one (outcome : ChainOutcome A x links base findings) : findings.length ≤ 1 := by
  cases outcome with
  | resolved bound path => exact Nat.zero_le 1
  | _ => exact Nat.le_refl 1

/-- After a chain that has failed a field fails in silence. -/
lemma skip (outcome : ChainOutcome A x links .failed findings) {l : Link} (hl : l.Failed) :
    ChainOutcome A x (links ++ [l]) .failed findings := by
  cases outcome with
  | undeclared unbound failed =>
      exact .undeclared unbound (List.forall_mem_append.2 ⟨failed, List.forall_mem_singleton.2 hl⟩)
  | @stopped before after first h k problem bound path wrong failed =>
      rw [List.append_assoc]
      have hlinks : ∀ m ∈ (first :: after) ++ [l], m.Failed :=
        List.forall_mem_append.2 ⟨failed, List.forall_mem_singleton.2 hl⟩
      exact .stopped bound path wrong hlinks

/-- After a chain that is bound a field is the first that can go wrong. -/
lemma stop {k : SymbolId} (outcome : ChainOutcome A x links (.symbol k) findings) {l : Link}
    (hl : l.Failed) {problem : Problem} (wrong : A.Rejects k l.field.name problem) :
    ChainOutcome A x (links ++ [l]) .failed (findings ++ [{ loc := l.field.loc, problem }]) := by
  cases outcome with
  | resolved bound path => exact .stopped bound path wrong (List.forall_mem_singleton.2 hl)

/-- After a chain that is bound a field may be bound as well. -/
lemma step {k m : SymbolId} (outcome : ChainOutcome A x links (.symbol k) findings) {l : Link}
    {fields : ScopeStack} (members : A.Members k fields)
    (found : fields.find? l.field.name = some m) (bound : l.field.symbol? = some m)
    (unflagged : l.failed = false) : ChainOutcome A x (links ++ [l]) (.symbol m) findings := by
  cases outcome with
  | resolved first path => exact .resolved first (path.snoc members found bound unflagged)

end ChainOutcome

namespace Naming

variable {w : Names} {x : Ident} {links : List Link}

lemma UseRule.chain {id id' : Ident} {es : List Event} (rule : UseRule w id id' es)
    (free : id.symbol? = none) (note : Note) :
    ChainOutcome w.symbols id' [] (Expr.name id' note).asBase (reports es) := by
  cases rule with
  | bound found => exact .resolved rfl .nil
  | undeclared missing =>
      rw [Expr.asBase_name_eq_failed_iff.2 free]
      exact .undeclared free nofun

/-- One more field, which was not bound or flagged before. -/
lemma FieldRule.chain {A : Arena} {e : Expr} {field field' : Ident} {failed failed' : Bool}
    {es fs : List Event} (rule : FieldRule A e field failed field' failed' fs)
    (free : field.symbol? = none) (unflagged : failed = false)
    (outcome : ChainOutcome A x links e.asBase (reports es)) (note : Note) :
    ChainOutcome A x (links ++ [⟨field', failed'⟩])
      (Expr.dot e field' failed' note).asBase (reports (es ++ fs)) := by
  rw [reports_append]
  have hfailed : Link.Failed ⟨field, true⟩ := ⟨free, rfl⟩
  cases rule with
  | skipped wrong =>
      rw [wrong] at outcome
      exact (List.append_nil (reports es)).symm ▸ outcome.skip hfailed
  | noStruct wrong =>
      rcases wrong with wrong | ⟨h, wrong, hnone⟩
      · rw [wrong] at outcome
        nomatch outcome
      · rw [wrong] at outcome
        exact outcome.stop hfailed (Arena.rejects_of_fieldsOf hnone)
  | unknown symbol struct missing =>
      rw [symbol] at outcome
      exact outcome.stop hfailed (.noField (Arena.members_of_fieldsOf struct) missing)
  | selected symbol struct found =>
      rw [symbol] at outcome
      subst unflagged
      exact (List.append_nil (reports es)).symm ▸
        outcome.step (Arena.members_of_fieldsOf struct) found rfl rfl

/-- A chain in which nothing was filled comes out in one of the three ways. -/
theorem ExprRule.chain : ∀ {e e' : Expr} {es : List Event} {links : List Link},
    ExprRule w e e' es → (∀ y ∈ e.exprs, y.Fresh) → e'.chain? = some (x, links) →
      ChainOutcome w.symbols x links e'.asBase (reports es)
  | _, _, _, _, .name note use, fresh, hchain => by
      obtain ⟨rfl, rfl⟩ := Prod.mk.inj (Option.some.inj hchain)
      exact use.chain ((fresh _ List.mem_cons_self).blank.2 _ rfl) note
  | _, _, _, _, .dot note first second, fresh, hchain => by
      obtain ⟨before, hbefore, rfl⟩ := Expr.chain?_dot hchain
      have hdot := fresh _ List.mem_cons_self
      exact second.chain (hdot.blank.2 _ rfl) hdot.unflagged
        (first.chain (fun y hy => fresh y (List.mem_cons_of_mem _ hy)) hbefore) note
  | _, _, _, _, .lit _ _, _, hchain => by cases hchain
  | _, _, _, _, .assign _ _ _, _, hchain => by cases hchain
  | _, _, _, _, .call _ _ _, _, hchain => by cases hchain
  | _, _, _, _, .unary _ _ _, _, hchain => by cases hchain
  | _, _, _, _, .binary _ _ _ _, _, hchain => by cases hchain

/-- A field is flagged if and only if it is not bound. -/
lemma FieldRule.failed_iff {A : Arena} {e : Expr} {field field' : Ident} {failed failed' : Bool}
    {es : List Event} (rule : FieldRule A e field failed field' failed' es)
    (free : field.symbol? = none) (unflagged : failed = false) :
    failed' = true ↔ field'.symbol? = none := by
  cases rule with
  | selected symbol struct found => exact iff_of_false (by simp [unflagged]) nofun
  | _ => exact iff_of_true rfl free

/-- What is true of the dots and the chains of a resolved program: the expression is a dot that is
flagged or bound, and if it is a chain it comes out in one of the three ways. -/
structure ChainLaws (B : Arena) (e : Expr) : Prop where
  flag : ∀ base field failed note, e = .dot base field failed note →
    (failed = true ↔ field.symbol? = none)
  outcome : ∀ x links, e.chain? = some (x, links) →
    ChainOutcome B x links e.asBase (remarksOf B e.mentions)

lemma carries_chainLaws {base : Nat} {B : Arena} :
    Carries base B (fun _ => True) Expr.Fresh (ChainLaws B) := by
  intro w hw hgrows e e' es rule fresh _
  refine ⟨?_, fun x links hchain => ?_⟩
  · rintro base field failed note rfl
    cases rule with
    | dot _ first second =>
        have hdot := fresh _ List.mem_cons_self
        exact second.failed_iff (hdot.blank.2 _ rfl) hdot.unflagged
  · have free : NoneBound e.idents := fun id hid =>
      AllBlank.unbound (fun y hy => (fresh y hy).blank) hid
    rw [← rule.remarks hgrows free]
    exact (rule.chain fresh hchain).grows hgrows

end Naming

/-! ## Runs -/

open Naming

/-- **A chain reports at most once, and fails upwards.**  From any run that has a handle left for
each of its declarations, name resolution of a fresh program goes on to its end and reports the
findings of the points of the program, among which those of an expression stand together.  A dot is
flagged if and only if its field is not bound.  Of a chain of dots at most one thing is said: that
its name is undeclared, and then all fields have failed; or what is wrong with the first field that
cannot be resolved, and then those before it are bound and those from it on have failed. -/
theorem chains_report_once (dumpScopes : Bool) {p : Program} (h : p.Fresh) (s : Run Names)
    (room : s.work.symbols.size + p.declCount ≤ UInt32.size) :
    let done := (resolveProgram dumpScopes p).run s
    let A := done.2.work.symbols
    done.2.outcome = .ok () ∧ s.Reported done.2 (remarksOf A done.1.mentions) ∧
      ∀ e ∈ done.1.exprs, e.mentions <:+: done.1.mentions ∧
        (∀ base field failed note, e = .dot base field failed note →
          (failed = true ↔ field.symbol? = none)) ∧
        ∀ x links, e.chain? = some (x, links) → (remarksOf A e.mentions).length ≤ 1 ∧
          ChainOutcome A x links e.asBase (remarksOf A e.mentions) := by
  intro done A
  have free : NoneBound p.idents := h.unbound
  obtain ⟨base, w, es, hw, rule, outcome, symbols, -⟩ :=
    resolveProgram_explained dumpScopes free s room
  have hA : w.symbols.Grows A := symbols ▸ .refl _
  refine ⟨outcome, resolveProgram_reports dumpScopes free s room,
    fun e he => ⟨Program.mentions_infix he, ?_⟩⟩
  have laws := rule.carries carries_chainLaws hw hA h.exprs (fun _ _ => trivial) e he
  exact ⟨laws.flag, fun x links hchain =>
    ⟨(laws.outcome x links hchain).length_le_one, laws.outcome x links hchain⟩⟩

/-- A chain that is bound up to a number and goes on from there. -/
def brokenChain : Program where
  decls := [
    .struct
      { id := .unbound "Inner" .nowhere
        fields := [{ ty := .int, id := .unbound "x" .nowhere }] },
    .struct
      { id := .unbound "Outer" .nowhere
        fields := [{ ty := .struct (.unbound "Inner" .nowhere), id := .unbound "in" .nowhere }] },
    .fn
      { ret := .void
        id := .unbound "f" .nowhere
        formals := [{ ty := .struct (.unbound "Outer" .nowhere), id := .unbound "o" .nowhere }]
        body := .mk [] [.simple .write (.select (.select (.select (.select
          (.use (.unbound "o" .nowhere)) (.unbound "in" .nowhere)) (.unbound "x" .nowhere))
          (.unbound "y" { line := 3, column := 14 })) (.unbound "z" .nowhere))] }]

/-- The field after the number is reported, and the one after that is not. -/
theorem brokenChain_reports_once :
    let done := (resolveProgram false brokenChain).run { work := {}, sink := {} }
    let A := done.2.work.symbols
    brokenChain.Fresh ∧ ∃ e ∈ done.1.exprs, ∃ x links, e.chain? = some (x, links) ∧
      links.map (fun l => (l.field.symbol?.isSome, l.failed)) =
        [(true, false), (true, false), (false, true), (false, true)] ∧
      ChainOutcome A x links e.asBase
        [{ loc := { line := 3, column := 14 }, problem := .dotOnNonStruct }] := by
  have hfresh : brokenChain.Fresh := ⟨⟨by decide, by decide, by decide⟩, by decide⟩
  have hany : ((resolveProgram false brokenChain).run { work := {}, sink := {} }).1.exprs.any
      (fun e => e.chain?.any (fun c => c.2.map (fun l => (l.field.symbol?.isSome, l.failed)) =
        [(true, false), (true, false), (false, true), (false, true)]) &&
      remarksOf ((resolveProgram false brokenChain).run { work := {}, sink := {} }).2.work.symbols
        e.mentions = [{ loc := { line := 3, column := 14 }, problem := .dotOnNonStruct }]) =
        true := by
    decide +kernel
  obtain ⟨-, -, hlaws⟩ := chains_report_once false hfresh { work := {}, sink := {} } hfresh.fits
  obtain ⟨e, he, hboth⟩ := List.any_eq_true.1 hany
  obtain ⟨hchain, hremarks⟩ := Bool.and_eq_true_iff.1 hboth
  obtain ⟨⟨x, links⟩, hsome, hlinks⟩ := (Option.any_eq_true _ _).1 hchain
  obtain ⟨-, -, houtcome⟩ := hlaws e he
  have houtcome := (houtcome x links hsome).2
  rw [of_decide_eq_true hremarks] at houtcome
  exact ⟨hfresh, e, he, x, links, hsome, of_decide_eq_true hlinks, houtcome⟩

end StructLang
