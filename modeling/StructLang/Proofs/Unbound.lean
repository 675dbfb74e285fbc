import Mathlib.Tactic.Common
import StructLang.Proofs.Analysis

/-!
# What is not bound was reported

Name resolution leaves an identifier unbound for one reason: something is wrong with it, or with
what stands before it in a chain of dots.  It says so once.  A field after something that failed is
skipped in silence, so for a field the report may be further left in its chain
(`ExprRule.failed_reported`).

* `Expr.Accounted` — what is owed for the identifier of an expression if it is not bound.
* `ExprRule.accounted` — name resolution gives it.
* `Expr.Sourced` — that, and a type for what is bound.
-/

namespace StructLang

/-- One of the findings is at the place of one of the identifiers. -/
def ReportedAt (fs : List Finding) (ids : List Ident) : Prop := ∃ f ∈ fs, ∃ id ∈ ids, f.loc = id.loc

instance (fs : List Finding) (ids : List Ident) : Decidable (ReportedAt fs ids) :=
  inferInstanceAs (Decidable (∃ f ∈ fs, ∃ id ∈ ids, f.loc = id.loc))

/-- If the identifier that the expression uses is not bound, there is a finding: that a name or a
callee is undeclared, or one at a field or at an identifier left of it in its chain. -/
def Expr.Accounted (fs : List Finding) : Expr → Prop
  | .name id _ | .call id _ _ => id.symbol? = none → { loc := id.loc, problem := .undeclared } ∈ fs
  | .dot base field _ _ => field.symbol? = none → ReportedAt fs (field :: base.idents)
  | _ => True

/-- A name has failed if it is not bound. -/
lemma Expr.asBase_name_eq_failed_iff {id : Ident} {note : Note} :
    (Expr.name id note).asBase = .failed ↔ id.symbol? = none := by
  cases hid : id.symbol? <;> simp [asBase, hid]

/-- A field has failed if it is flagged. -/
lemma Expr.asBase_dot_eq_failed_iff {base : Expr} {field : Ident} {failed : Bool} {note : Note} :
    (Expr.dot base field failed note).asBase = .failed ↔ failed = true := by
  cases failed <;> cases hfield : field.symbol? <;> simp [asBase, hfield]

lemma ReportedAt.mono {fs gs : List Finding} {ids jds : List Ident} (h : ReportedAt fs ids)
    (hfs : ∀ f ∈ fs, f ∈ gs) (hids : ∀ id ∈ ids, id ∈ jds) : ReportedAt gs jds := by
  obtain ⟨f, hf, id, hid, hloc⟩ := h
  exact ⟨f, hfs f hf, id, hids id hid, hloc⟩

lemma Expr.Accounted.mono {fs gs : List Finding} {e : Expr} (h : e.Accounted fs)
    (hfs : ∀ f ∈ fs, f ∈ gs) : e.Accounted gs := by
  cases e with
  | name id note => exact fun hnone => hfs _ (h hnone)
  | call callee args note => exact fun hnone => hfs _ (h hnone)
  | dot base field failed note => exact fun hnone => (h hnone).mono hfs fun _ => id
  | _ => trivial

/-- If nothing is found, nothing is owed. -/
lemma Expr.Accounted.bound {e : Expr} (h : e.Accounted []) {id : Ident}
    (hid : e.ident? = some id) : id.symbol?.isSome = true := by
  rw [Option.isSome_iff_ne_none]
  intro hnone
  cases e with
  | name id' note =>
      obtain rfl := Option.some.inj hid
      cases h hnone
  | call callee args note =>
      obtain rfl := Option.some.inj hid
      cases h hnone
  | dot base field failed note =>
      obtain rfl := Option.some.inj hid
      obtain ⟨f, hf, -⟩ := h hnone
      cases hf
  | _ => cases hid

/-- What type checking can rely on: an identifier that is not bound is accounted for; one that is
bound has a type, which is no error, and that of a function only if it is bound to one. -/
structure Expr.Sourced (A : Arena) (fs : List Finding) (e : Expr) : Prop where
  accounted : e.Accounted fs
  typed : ∀ id, e.ident? = some id → ∀ k, id.symbol? = some k → (id.typeIn A).isError = false ∧
    ∀ params ret, id.typeIn A = .fn params ret →
      ∃ name, A.get k = .ok { name, kind := .fn params ret }

lemma Expr.Sourced.unbound_of_isError {A : Arena} {fs : List Finding} {e : Expr}
    (h : e.Sourced A fs) {id : Ident} (hid : e.ident? = some id)
    (herror : (id.typeIn A).isError = true) : id.symbol? = none := by
  cases hk : id.symbol? with
  | none => rfl
  | some k =>
      rw [(h.typed id hid k hk).1] at herror
      cases herror

namespace Naming

variable {w : Names}

lemma UseRule.accounted {id id' : Ident} {es : List Event} (rule : UseRule w id id' es)
    (hnone : id'.symbol? = none) : { loc := id'.loc, problem := .undeclared } ∈ reports es := by
  cases rule with
  | bound found => cases hnone
  | undeclared missing => exact List.mem_singleton_self _

/-- A field that is flagged or not bound was reported, unless it comes after something that failed,
and that was reported. -/
lemma FieldRule.accounted {A : Arena} {base : Expr} {field field' : Ident} {failed failed' : Bool}
    {es fs : List Event} (rule : FieldRule A base field failed field' failed' fs)
    (hflag : failed = false)
    (hbase : base.asBase = .failed → ReportedAt (reports es) base.idents)
    (hwrong : failed' = true ∨ field'.symbol? = none) :
    ReportedAt (reports (es ++ fs)) (field' :: base.idents) := by
  rw [reports_append]
  cases rule with
  | skipped wrong =>
      exact (hbase wrong).mono (fun _ => List.mem_append_left _) fun _ => List.mem_cons_of_mem _
  | noStruct wrong =>
      exact ⟨_, List.mem_append_right _ (List.mem_singleton_self _), _, List.mem_cons_self, rfl⟩
  | unknown symbol struct missing =>
      exact ⟨_, List.mem_append_right _ (List.mem_singleton_self _), _, List.mem_cons_self, rfl⟩
  | selected symbol struct found =>
      subst hflag
      exact hwrong.elim nofun nofun

/-- The report may be anywhere in a chain of dots, since what comes after it is skipped. -/
theorem ExprRule.failed_reported : ∀ {e e' : Expr} {es : List Event}, ExprRule w e e' es →
    (∀ x ∈ e.exprs, x.isFlagged = false) → e'.asBase = .failed → ReportedAt (reports es) e'.idents
  | _, _, _, .name note use, _, hfailed =>
      ⟨_, use.accounted (Expr.asBase_name_eq_failed_iff.1 hfailed), _,
        Expr.mem_idents_name.2 rfl, rfl⟩
  | _, _, _, .dot note first second, hflag, hfailed => by
      have hbase := first.failed_reported fun x hx => hflag x (List.mem_cons_of_mem _ hx)
      have hraised := Expr.asBase_dot_eq_failed_iff.1 hfailed
      exact (second.accounted (hflag _ List.mem_cons_self) hbase (Or.inl hraised)).mono
        (fun _ => id) (by simp)
  | _, _, _, .lit _ _, _, hfailed => by cases hfailed
  | _, _, _, .assign _ _ _, _, hfailed => by cases hfailed
  | _, _, _, .call _ _ _, _, hfailed => by cases hfailed
  | _, _, _, .unary _ _ _, _, hfailed => by cases hfailed
  | _, _, _, .binary _ _ _ _, _, hfailed => by cases hfailed

/-- **What is not bound was reported**, by name resolution of the expression that uses it. -/
theorem ExprRule.accounted {e e' : Expr} {es : List Event} (rule : ExprRule w e e' es)
    (hflag : ∀ x ∈ e.exprs, x.isFlagged = false) : e'.Accounted (reports es) := by
  cases rule with
  | name note use => exact use.accounted
  | call note use all =>
      exact fun hnone => reports_append _ _ ▸ List.mem_append_left _ (use.accounted hnone)
  | dot note first second =>
      exact fun hnone => second.accounted (hflag _ List.mem_cons_self)
        (first.failed_reported fun x hx => hflag x (List.mem_cons_of_mem _ hx)) (Or.inr hnone)
  | _ => trivial

/-- Where nothing is reported and nothing was flagged before, no part of a chain of dots failed. -/
lemma ExprRule.asBase_ne_failed {e e' : Expr} {es : List Event} (rule : ExprRule w e e' es)
    (hflag : ∀ x ∈ e.exprs, x.isFlagged = false) (hquiet : reports es = []) :
    e'.asBase ≠ .failed := by
  intro hfailed
  obtain ⟨f, hf, -⟩ := rule.failed_reported hflag hfailed
  rw [hquiet] at hf
  cases hf

/-- That is what name resolution provides, when all that it reports is among the findings. -/
lemma carries_sourced {base : Nat} {B : Arena} {fs : List Finding} :
    Carries base B (· ∈ fs) Expr.Fresh (Expr.Sourced B fs) := by
  intro w hw hgrows e e' es rule hfresh honly
  refine ⟨(rule.accounted fun x hx => (hfresh x hx).unflagged).mono honly, fun id hid k hk => ?_⟩
  obtain ⟨hbase, ⟨name, kind⟩, hg⟩ := rule.has_ident hw (fun x hx => (hfresh x hx).blank) hid hk
  obtain ⟨ty, hty, hnotError, hfn⟩ := hw.arena.typed hbase hg
  rw [Ident.typeIn_eq hk (hgrows.typeOf hty)]
  refine ⟨hnotError, fun params ret heq => ⟨name, hgrows k _ ?_⟩⟩
  obtain rfl : kind = .fn params ret := hfn params ret heq
  exact hg

end Naming

end StructLang
