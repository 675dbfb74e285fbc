import Mathlib.Tactic.Common
import StructLang.Proofs.Declared
import StructLang.Proofs.Handles
import StructLang.Proofs.Passes
import StructLang.Tree.Build

/-!
# Bodies are isolated

What is in the body of a function does not matter to the other declarations.  The scopes of a body
are closed at its end, and all that stays of it are its symbols.  These take up room among the
handles: what is declared after the body gets handles that lie further on, by as many as the body
declares symbols.

* `FnRule.mirrors` — after a function and after the same function without its body the names mirror
  each other, with the later handles moved on (`SymbolId.shifted`).
* `body_is_isolated` — so all that an analysis makes of the other declarations is the same, up to
  these handles (`SameOutside`).
* `bodies_are_isolated` — the same for two bodies, since both compare with none.
-/

namespace StructLang

/-! ## Moved handles -/

/-- The handle after `before` symbols from the `m`-th on have given way to `after` others. -/
def SymbolId.shifted (m before after : Nat) (h : SymbolId) : SymbolId :=
  if h.index < m then h else .ofIndex (h.index + after - before)

namespace SymbolId

variable {m k l : Nat} {h : SymbolId}

lemma shifted_of_lt (before after : Nat) (hlt : h.index < m) : h.shifted m before after = h :=
  if_pos hlt

lemma shifted_of_le (before after : Nat) (hle : m ≤ h.index) :
    h.shifted m before after = .ofIndex (h.index + after - before) :=
  if_neg (Nat.not_lt_of_le hle)

lemma index_shifted_of_le (hk : h.index + k < UInt32.size) (hle : m ≤ h.index) :
    (h.shifted m 0 k).index = h.index + k := by
  rw [shifted_of_le 0 k hle]
  exact index_ofIndex hk

@[simp] lemma shifted_zero (h : SymbolId) (m : Nat) : h.shifted m 0 0 = h := by
  rcases Nat.lt_or_ge h.index m with hlt | hle
  · exact shifted_of_lt 0 0 hlt
  · rw [shifted_of_le 0 0 hle]
    exact ofIndex_index h

/-- Room is made for symbols, and then they give way to others. -/
lemma shifted_shifted (hk : h.index + k < UInt32.size) (m l : Nat) :
    (h.shifted m 0 k).shifted m k l = h.shifted m 0 l := by
  rcases Nat.lt_or_ge h.index m with hlt | hle
  · rw [shifted_of_lt 0 k hlt, shifted_of_lt k l hlt, shifted_of_lt 0 l hlt]
  · have hindex := index_shifted_of_le hk hle
    have hle' : m ≤ (h.shifted m 0 k).index := hindex ▸ Nat.le_add_right_of_le hle
    rw [shifted_of_le k l hle', shifted_of_le 0 l hle, hindex]
    exact congrArg ofIndex (by omega)

end SymbolId

/-- All handles on the declaration are among the first `n`. -/
def Decl.Below (n : Nat) (d : Decl) : Prop :=
  ∀ id ∈ d.idents, ∀ h, id.symbol? = some h → h.index < n

lemma Decl.Below.decorate {n : Nat} {d : Decl} (hd : d.Below n) (A : Arena) :
    (d.decorate A).Below n := by
  rw [Below, Decl.idents_decorate]
  exact hd

/-- The same for a declaration, as long as all its handles are still handles after each of the
moves. -/
lemma Decl.Below.relabel_shifted {n m k l : Nat} {d : Decl} (hd : d.Below n)
    (hk : n + k ≤ UInt32.size) (hl : n + l ≤ UInt32.size) :
    (d.relabel (.ofHandles (.shifted m 0 k))).relabel (.ofHandles (.shifted m k l)) =
      d.relabel (.ofHandles (.shifted m 0 l)) := by
  refine d.relabel_relabel.trans ?_
  refine Decl.relabel_congr (.shifted m l 0) (fun id hid h hh => ?_) fun id hid h hh => ?_
  · have hlt := hd id hid h hh
    exact (SymbolId.shifted_shifted (by omega) m 0).trans (h.shifted_zero m)
  · have hlt := hd id hid h hh
    exact SymbolId.shifted_shifted (by omega) m l

/-- No handle on the declaration is one of the `k` from the `m`-th on. -/
def Decl.Avoids (m k : Nat) (d : Decl) : Prop :=
  ∀ id ∈ d.idents, ∀ h, id.symbol? = some h → h.index < m ∨ m + k ≤ h.index

lemma Decl.Below.avoids_shifted {n m k : Nat} {d : Decl} (hd : d.Below n)
    (hk : n + k ≤ UInt32.size) : (d.relabel (.ofHandles (.shifted m 0 k))).Avoids m k := by
  intro id hid h hh
  rw [Decl.idents_relabel] at hid
  obtain ⟨id', hid', rfl⟩ := List.mem_map.1 hid
  obtain ⟨h', hh', rfl⟩ := Option.map_eq_some_iff.1 hh
  have hlt := hd id' hid' h' hh'
  show (h'.shifted m 0 k).index < m ∨ m + k ≤ (h'.shifted m 0 k).index
  rcases Nat.lt_or_ge h'.index m with hlt | hle
  · exact Or.inl (by rwa [SymbolId.shifted_of_lt 0 k hlt])
  · exact Or.inr (by rw [SymbolId.index_shifted_of_le (by omega) hle]; omega)

/-! ## A function without its body -/

/-- The function with an empty body. -/
def FnDecl.bodiless (f : FnDecl) : FnDecl := { f with body := .mk [] [] }

/-- How many symbols there are for the declarations and the head of the function after them. -/
def symbolsUpTo (ds : List Decl) (f : FnDecl) : Nat :=
  boundCount (ds.flatMap Decl.declaredNames ++ f.id :: f.formals.map (·.id))

/-- How many symbols there are for the body of the function. -/
def FnDecl.symbolsInside (f : FnDecl) : Nat := boundCount f.body.declaredNames

/-- The body does not count. -/
lemma symbolsUpTo_congr (ds : List Decl) {f g : FnDecl} (h : f.bodiless = g.bodiless) :
    symbolsUpTo ds f = symbolsUpTo ds g := by
  show symbolsUpTo ds f.bodiless = symbolsUpTo ds g.bodiless
  rw [h]

lemma symbolsInside_decorate (A : Arena) (f : FnDecl) :
    FnDecl.symbolsInside { f with body := f.body.decorate A } = f.symbolsInside :=
  congrArg boundCount (f.body.declaredNames_decorate A)

lemma symbolsUpTo_decorate (A : Arena) (ds : List Decl) (n : Nat) (f : FnDecl) (body : Block) :
    symbolsUpTo ((ds.map (·.decorate A)).take n) { f with body } = symbolsUpTo (ds.take n) f := by
  simp only [symbolsUpTo, ← List.map_take, List.flatMap_map, Decl.declaredNames_decorate]

lemma declaredNames_bodiless (f : FnDecl) :
    (Decl.fn f.bodiless).declaredNames = f.id :: f.formals.map (·.id) := List.append_nil _

lemma declCount_bodiless (pre post : List Decl) (f : FnDecl) :
    Program.declCount ⟨pre ++ .fn f.bodiless :: post⟩ + f.body.declCount =
      Program.declCount ⟨pre ++ .fn f :: post⟩ := by
  have hnobody : f.bodiless.body.declCount = 0 := rfl
  have hformals : f.bodiless.formals = f.formals := rfl
  simp only [Program.declCount, Decl.declCountOfAll_append, Decl.declCountOfAll, Decl.declCount,
    hnobody, hformals]
  omega

namespace Naming

variable {w w₀ w' : Names} {f f₀ f' : FnDecl} {es fs : List Event}

/-- A body has no more symbols than declarations. -/
lemma FnRule.symbolsInside_le (rule : FnRule w f f' w' es) (free : NoneBound f.body.declaredNames) :
    f'.symbolsInside ≤ f.body.declCount := by
  cases rule with
  | mk type head params inside =>
      have hbound := inside.growsBy.bound
      rw [(inside.numbers free).size] at hbound
      exact Nat.le_of_add_le_add_left hbound

/-- The names after a function without its body and those after the whole function. -/
lemma FnRule.mirrors (bare : FnRule w f.bodiless f₀ w₀ es) (whole : FnRule w f f' w' fs)
    (hw : w.Sound 0) (free : NoneBound f.body.declaredNames) :
    f₀ = f'.bodiless ∧
      Names.Mirrors (.ofHandles (.shifted w₀.symbols.size 0 f'.symbolsInside)) f'.symbolsInside
        w₀ w' := by
  cases bare with
  | mk type₀ head₀ params₀ inside₀ =>
      cases whole with
      | @mk _ _ _ _ body w₁ w₂ w₃ _ _ _ _ type head params inside =>
          obtain ⟨rfl, rfl, rfl⟩ := type.unique type₀
          obtain ⟨rfl, rfl, rfl⟩ := head.unique head₀
          obtain ⟨rfl, rfl, rfl⟩ := params.unique params₀
          cases inside₀ with
          | mk decls stmts =>
              cases decls
              cases stmts
              have hhead := head.extends_of_type type hw
              have hparams := params.extends_here hhead.sound.enter
              have hsize : w₃.symbols.size = w₂.symbols.size + boundCount body.declaredNames :=
                (inside.numbers free).size
              refine ⟨rfl, ⟨?_, hsize, fun i hi hlt => ?_⟩, ?_⟩
              · exact (inside.extends hparams.sound).grows.maps hparams.sound.arena
                  fun k hk => SymbolId.shifted_of_lt _ _ hk
              · have hindex : (SymbolId.ofIndex i).index = i :=
                  SymbolId.index_ofIndex (Nat.lt_of_le_of_lt (Nat.le_add_right _ _) hlt)
                refine (SymbolId.shifted_of_le 0 _ (by rwa [hindex])).trans ?_
                rw [hindex]
                rfl
              · exact (hhead.sound.relabel_table fun k hk => SymbolId.shifted_of_lt _ _
                  (Nat.lt_of_lt_of_le hk hparams.grows.size_le)).symm

end Naming

/-! ## Declarations around it -/

section

open Naming

variable {p q tree tree' : Program} {sink sink' : Diagnostics} {w v : Names} {es fs : List Event}
  {g : SymbolId → SymbolId}

lemma Decl.Unfilled.relabel_eq_self {d : Decl} (h : d.Unfilled) : d.relabel (.ofHandles g) = d :=
  Decl.relabel_eq_self fun id hid k hk => by
    rw [h.unbound id hid] at hk
    cases hk

lemma Decl.Unfilled.noneBound {d : Decl} (h : d.Unfilled) : NoneBound d.declaredNames :=
  fun id hid => h.unbound id (Decl.idents_of_declaredNames hid)

lemma Program.noneBound {ds : List Decl} (h : ∀ d ∈ ds, d.Unfilled) :
    NoneBound (ds.flatMap Decl.declaredNames) := fun id hid => by
  obtain ⟨d, hd, hid⟩ := List.mem_flatMap.1 hid
  exact (h d hd).noneBound id hid

lemma Decl.map_relabel_of_unfilled {ds : List Decl} (h : ∀ d ∈ ds, d.Unfilled) :
    ds.map (·.relabel (.ofHandles g)) = ds := by
  rw [List.map_congr_left fun d hd => (h d hd).relabel_eq_self, List.map_id']

namespace Program.Passes

variable (P : p.Passes sink tree w es) (Q : q.Passes sink' tree' v fs)

include P Q

/-- Declarations in names that mirror each other: the same is reported of each of them. -/
lemma namesToldAt_eq {ps qs ps' qs' ds rest rest' : List Decl} {w₁ v₁ : Names}
    {es₁ fs₁ : List Event} (hp : p.decls = ps ++ (ds ++ rest)) (hq : q.decls = qs ++ (ds ++ rest'))
    (before : DeclsRule ⟨{}, .withScope⟩ ps ps' w₁ es₁)
    (before' : DeclsRule ⟨{}, .withScope⟩ qs qs' v₁ fs₁)
    {n : Nat} (hm : Names.Mirrors (.ofHandles g) n w₁ v₁) (fits : w.symbols.size + n ≤ UInt32.size)
    {i : Nat} (hi : i < ds.length) :
    p.namesToldAt sink (ps.length + i) = q.namesToldAt sink' (qs.length + i) := by
  have hunfilled : ∀ d ∈ ds, d.Unfilled := fun d hd =>
    P.unfilled.decls d (by simp [hp, hd])
  obtain ⟨as, d, bs, rfl, rfl⟩ : ∃ as d bs, ds = as ++ d :: bs ∧ as.length = i :=
    ⟨_, _, _, eq_take_cons_drop (List.getElem?_eq_getElem hi)⟩
  rw [List.forall_mem_append, List.forall_mem_cons] at hunfilled
  have hp' : p.decls = (ps ++ as) ++ d :: (bs ++ rest) := by simp [hp]
  have hq' : q.decls = (qs ++ as) ++ d :: (bs ++ rest') := by simp [hq]
  obtain ⟨_, d', _, w₂, w₃, _, gs, _, firsts, mid, later, -⟩ := (hp' ▸ P.rule).middle_inv
  obtain ⟨_, as', w₁', _, hs, first, second, rfl, rfl⟩ := firsts.append_inv
  obtain ⟨rfl, rfl, rfl⟩ := first.unique before
  have fits₃ := later.growsBy.fits fits
  obtain ⟨v₂, second', hm₂⟩ := second.relabel hm (mid.growsBy.fits fits₃)
  obtain ⟨v₃, mid', -⟩ := mid.relabel hm₂ fits₃
  rw [Decl.map_relabel_of_unfilled hunfilled.1] at second'
  rw [hunfilled.2.1.relabel_eq_self] at mid'
  rw [← List.length_append, ← List.length_append, P.namesToldAt hp' firsts mid,
    Q.namesToldAt hq' (before'.append second') mid', reports_relabel_ofHandles]

/-- A resolved declaration with handles exchanged, in symbols that are there under the new ones: the
same is reported, and the same types are stored. -/
lemma typesToldAt_eq (hm : (Relabeling.ofHandles g).Maps w.symbols v.symbols) {i : Nat} {d : Decl}
    (hd : tree.decls[i]? = some d) (hd' : tree'.decls[i]? = some (d.relabel (.ofHandles g))) :
    p.typesToldAt sink i = q.typesToldAt sink' i ∧
      (d.relabel (.ofHandles g)).decorate v.symbols =
        (d.decorate w.symbols).relabel (.ofHandles g) := by
  obtain ⟨htree, hlength⟩ := eq_take_cons_drop hd
  obtain ⟨htree', hlength'⟩ := eq_take_cons_drop hd'
  have hready : AllReady w.symbols d.exprs := P.ready.mono fun e he =>
    List.mem_flatMap.2 ⟨d, List.mem_of_getElem? hd, he⟩
  obtain ⟨hdecorate, hcomplaints⟩ := d.checked_relabel hm hready
  have htold := P.typesToldAt htree
  have htold' := Q.typesToldAt htree'
  rw [hlength] at htold
  rw [hlength', hdecorate, hcomplaints] at htold'
  refine ⟨htold.trans (Eq.trans ?_ htold'.symm), hdecorate⟩
  exact congrArg (fun cs => (cs.map Complaint.finding).map Finding.diagnostic)
    (List.map_id' ((d.decorate w.symbols).complaints w.symbols)).symm

end Program.Passes

/-- What is reported of a declaration does not depend on those after it. -/
lemma Program.Passes.namesToldAt_before {ds rest rest' : List Decl}
    (P : Program.Passes ⟨ds ++ rest⟩ sink tree w es)
    (Q : Program.Passes ⟨ds ++ rest'⟩ sink' tree' v fs) {i : Nat} (hi : i < ds.length) :
    Program.namesToldAt ⟨ds ++ rest⟩ sink i = Program.namesToldAt ⟨ds ++ rest'⟩ sink' i := by
  have hstart : Names.Mirrors (.ofHandles id) 0 ⟨{}, .withScope⟩ ⟨{}, .withScope⟩ :=
    ⟨Relabeling.mirrors_empty rfl, rfl⟩
  have hp : (Program.mk (ds ++ rest)).decls = [] ++ (ds ++ rest) := rfl
  have hq : (Program.mk (ds ++ rest')).decls = [] ++ (ds ++ rest') := rfl
  have hnames := P.namesToldAt_eq Q hp hq .nil .nil hstart w.symbols.numbered hi
  rwa [List.length_nil, Nat.zero_add] at hnames

/-- A list that is mapped except in one place. -/
lemma getElem?_map_around {α β : Type} {g : α → β} {xs ys : List α} {x : α} {y : β} {i : Nat}
    (hi : i ≠ xs.length) :
    (xs.map g ++ y :: ys.map g)[i]? = (xs ++ x :: ys)[i]?.map g := by
  have hset : xs.map g ++ y :: ys.map g = ((xs ++ x :: ys).map g).set xs.length y := by
    simp
  rw [hset, List.getElem?_set_ne hi.symm, List.getElem?_map]

/-- Declarations that are resolved have handles of symbols. -/
lemma Naming.DeclsRule.handles_below {ds ds' : List Decl}
    (rule : DeclsRule ⟨{}, .withScope⟩ ds ds' w es) (h : Program.Unfilled ⟨ds⟩) :
    ∀ d ∈ ds', d.Below w.symbols.size := by
  intro d hd id hid k hk
  obtain ⟨-, symbol, hsymbol⟩ := rule.allHave sound_start
    (fun id hid => h.unbound id (List.mem_append_left _ hid)) h.blank id
    (List.mem_flatMap.2 ⟨d, hd, hid⟩) k hk
  exact Arena.lt_of_get hsymbol

/-- Handles on declarations that are resolved already stay where they are. -/
lemma Naming.DeclsRule.map_relabel_eq_self {ds ds' : List Decl}
    (rule : DeclsRule ⟨{}, .withScope⟩ ds ds' w es) (h : Program.Unfilled ⟨ds⟩)
    (hg : ∀ k, k.index < w.symbols.size → g k = k) : ds'.map (·.relabel (.ofHandles g)) = ds' := by
  have hself : ∀ d ∈ ds', d.relabel (.ofHandles g) = d := fun d hd =>
    Decl.relabel_eq_self fun id hid k hk => hg k (rule.handles_below h d hd id hid k hk)
  rw [List.map_congr_left hself, List.map_id']

variable {pre post : List Decl} {f : FnDecl}

/-- Declarations with a function at their end, once without its body. -/
lemma Naming.DeclsRule.mirrors {ds ds' : List Decl}
    (bare : DeclsRule ⟨{}, .withScope⟩ (pre ++ [.fn f.bodiless]) ds w es)
    (whole : DeclsRule ⟨{}, .withScope⟩ (pre ++ [.fn f]) ds' v fs)
    (h : Program.Unfilled ⟨pre ++ [.fn f]⟩) :
    ∃ pre' f', pre'.length = pre.length ∧
      w.symbols.size = symbolsUpTo pre' f' ∧
      let T := Relabeling.ofHandles (.shifted (symbolsUpTo pre' f') 0 f'.symbolsInside)
      ds = pre' ++ [.fn f'.bodiless] ∧ ds' = pre' ++ [.fn f'] ∧
        pre'.map (·.relabel T) = pre' ∧ f'.symbolsInside ≤ f.body.declCount ∧
          Names.Mirrors T f'.symbolsInside w v := by
  obtain ⟨hpre, hf⟩ := h.append
  have hnone := (hf.decls _ List.mem_cons_self).noneBound
  obtain ⟨pre', _, _, w₁, _, _, _, _, first, last, rest, rfl⟩ := bare.middle_inv
  obtain ⟨_, _, _, _, _, _, _, _, first', last', rest', rfl⟩ := whole.middle_inv
  obtain ⟨rfl, rfl, rfl⟩ := first.unique first'
  cases rest
  cases rest'
  cases last with
  | fn last =>
      cases last' with
      | @fn _ f' _ _ last' =>
          have hbody : NoneBound f.body.declaredNames := hnone.mono fun _ => List.mem_append_right _
          obtain ⟨rfl, hm⟩ := last.mirrors last' (first.extends sound_start).sound hbody
          have hnumbers := first.numbers (Program.noneBound hpre.decls)
          have hnumbers' := DeclRule.numbers (.fn last)
            (by rw [declaredNames_bodiless]; exact hnone.mono fun _ => List.mem_append_left _)
          have hsize : w.symbols.size = symbolsUpTo pre' f' := by
            rw [(hnumbers.trans hnumbers').size, declaredNames_bodiless]
            exact Nat.zero_add _
          have hself := first.map_relabel_eq_self hpre fun k hk =>
            SymbolId.shifted_of_lt 0 f'.symbolsInside
              (Nat.lt_of_lt_of_le hk (hnumbers'.size ▸ Nat.le_add_right _ _))
          have hinside := last'.symbolsInside_le hbody
          rw [hsize] at hm hself
          exact ⟨pre', f', first.length_eq, hsize, rfl, rfl, hself, hinside, hm⟩

/-- What name resolution leaves and reports around a function without its body and with it. -/
lemma Program.Passes.around (P : Program.Passes ⟨pre ++ .fn f.bodiless :: post⟩ sink tree w es)
    (Q : Program.Passes ⟨pre ++ .fn f :: post⟩ sink' tree' v fs) :
    ∃ f', tree.decls[pre.length]? = some (.fn f'.bodiless) ∧
      tree'.decls[pre.length]? = some (.fn f') ∧
      let before := tree'.decls.take pre.length
      let T := Relabeling.ofHandles (.shifted (symbolsUpTo before f') 0 f'.symbolsInside)
      before = tree.decls.take pre.length ∧
      (∀ i ≠ pre.length, tree'.decls[i]? = tree.decls[i]?.map (·.relabel T)) ∧
      T.Maps w.symbols v.symbols ∧ v.symbols.size = w.symbols.size + f'.symbolsInside ∧
      (∀ i < post.length,
        Program.namesToldAt ⟨pre ++ .fn f.bodiless :: post⟩ sink (pre.length + 1 + i) =
          Program.namesToldAt ⟨pre ++ .fn f :: post⟩ sink' (pre.length + 1 + i)) := by
  have hp : pre ++ .fn f.bodiless :: post = (pre ++ [.fn f.bodiless]) ++ (post ++ []) := by simp
  have hq : pre ++ .fn f :: post = (pre ++ [.fn f]) ++ (post ++ []) := by simp
  obtain ⟨hhead, hpost⟩ := (hq ▸ Q.unfilled).append
  obtain ⟨_, post', w₁, _, _, bare, later, htree, -⟩ := (hp ▸ P.rule).append_inv
  obtain ⟨_, _, v₁, _, _, whole, later', htree', -⟩ := (hq ▸ Q.rule).append_inv
  obtain ⟨pre', f', hlength, hsize, rfl, rfl, hself, hinside, hm⟩ := bare.mirrors whole hhead
  have fits : w.symbols.size + f'.symbolsInside ≤ UInt32.size := by
    have hbound : w.symbols.size ≤ 0 + Program.declCount ⟨pre ++ .fn f.bodiless :: post⟩ :=
      P.rule.growsBy.bound
    have hcount := declCount_bodiless pre post f
    have hfew := Q.unfilled.few
    omega
  obtain ⟨v', later'', hm'⟩ := later.relabel hm fits
  rw [Decl.map_relabel_of_unfilled hpost.decls] at later''
  obtain ⟨rfl, rfl, rfl⟩ := later'.unique later''
  have htake : tree'.decls.take pre.length = pre' := by simp [htree', ← hlength]
  refine ⟨f', by simp [htree, ← hlength], by simp [htree', ← hlength], ?_⟩
  rw [htake]
  refine ⟨by simp [htree, ← hlength], fun i hi => ?_, hm'.symbols.maps, hm'.symbols.size,
    fun i hi => ?_⟩
  · rw [htree, htree', List.append_assoc, List.append_assoc, List.singleton_append,
      List.singleton_append, ← getElem?_map_around (hlength ▸ hi), hself]
  · have hnames := P.namesToldAt_eq Q hp hq bare whole hm fits hi
    simpa using hnames

end

/-! ## Analyses that differ in one declaration -/

/-- Outside the `n`-th declaration two analyses with the standard configuration come to the same:
both passes report the same of each declaration, and leave the same on it up to handles.  Of these,
`k` from the `m`-th on have given way to `l` others. -/
structure SameOutside (n m k l : Nat) (p q : Program) (sink sink' : Diagnostics) : Prop where
  names : ∀ i < p.decls.length, i ≠ n → p.namesToldAt sink i = q.namesToldAt sink' i
  types : ∀ i < p.decls.length, i ≠ n → p.typesToldAt sink i = q.typesToldAt sink' i
  decls : ∀ i ≠ n, (analyze .standard q sink').program.decls[i]? =
    (analyze .standard p sink).program.decls[i]?.map (·.relabel (.ofHandles (.shifted m k l)))

namespace SameOutside

variable {n m k l : Nat} {p q r : Program} {sink sink' sink'' : Diagnostics}

/-- Two analyses which compare with one in which there are no symbols in between. -/
lemma exchange (h : SameOutside n m 0 k p q sink sink') (h' : SameOutside n m 0 l p r sink sink'')
    (hlength : q.decls.length = p.decls.length) {i : Nat}
    (below : ∀ d ∈ (analyze .standard p sink).program.decls, d.Below i)
    (hk : i + k ≤ UInt32.size) (hl : i + l ≤ UInt32.size) :
    SameOutside n m k l q r sink' sink'' where
  names i hi hne := by
    rw [hlength] at hi
    rw [← h.names i hi hne, h'.names i hi hne]
  types i hi hne := by
    rw [hlength] at hi
    rw [← h.types i hi hne, h'.types i hi hne]
  decls j hne := by
    rw [h.decls j hne, h'.decls j hne, Option.map_map]
    refine Option.map_congr fun d hd => ?_
    exact ((below d (List.mem_of_getElem? hd)).relabel_shifted hk hl).symm

/-- The symbols in between do not matter to the other declarations. -/
lemma avoids (h : SameOutside n m 0 k p q sink sink') {i : Nat}
    (below : ∀ d ∈ (analyze .standard p sink).program.decls, d.Below i) (hk : i + k ≤ UInt32.size)
    {j : Nat} (hne : j ≠ n) {d : Decl}
    (hd : (analyze .standard q sink').program.decls[j]? = some d) : d.Avoids m k := by
  rw [h.decls j hne] at hd
  obtain ⟨d', hd', rfl⟩ := Option.map_eq_some_iff.1 hd
  exact (below d' (List.mem_of_getElem? hd')).avoids_shifted hk

end SameOutside

section

variable {pre post : List Decl} {f : FnDecl}

lemma Program.unfilled_bodiless (h : Program.Unfilled ⟨pre ++ .fn f :: post⟩) :
    Program.Unfilled ⟨pre ++ .fn f.bodiless :: post⟩ := by
  have hcount := declCount_bodiless pre post f
  have hfew := h.few
  rw [Program.unfilled_iff, List.forall_mem_append, List.forall_mem_cons] at h ⊢
  obtain ⟨⟨hpre, hf, hpost⟩, -⟩ := h
  refine ⟨⟨hpre, ⟨fun id hid => hf.unbound id ?_, nofun⟩, hpost⟩, by omega⟩
  have hnobody : f.bodiless.body.idents = [] := rfl
  rw [Decl.mem_idents_fn_iff, hnobody, List.append_nil] at hid
  rw [Decl.mem_idents_fn_iff, ← List.cons_append, ← List.append_assoc]
  exact List.mem_append_left _ hid

/-- **A body and none.**  An analysis of a program without the body of one function, and one of the
whole program: outside the function they come to the same, with room made for the symbols of the
body. -/
theorem body_is_isolated (h : Program.Unfilled ⟨pre ++ .fn f :: post⟩) (sink sink' : Diagnostics) :
    let p : Program := ⟨pre ++ .fn f.bodiless :: post⟩
    let q : Program := ⟨pre ++ .fn f :: post⟩
    let R := analyze .standard p sink
    let R' := analyze .standard q sink'
    ∃ a b f', R.result = .ok a ∧ R'.result = .ok b ∧
      R.program.decls[pre.length]? = some (.fn f'.bodiless) ∧
      R'.program.decls[pre.length]? = some (.fn f') ∧
      b.symbols.size = a.symbols.size + f'.symbolsInside ∧
      (∀ d ∈ R.program.decls, d.Below a.symbols.size) ∧
      let m := symbolsUpTo (R.program.decls.take pre.length) f'
      symbolsUpTo (R'.program.decls.take pre.length) f' = m ∧
        SameOutside pre.length m 0 f'.symbolsInside p q sink sink' := by
  obtain ⟨tree, w, es, P⟩ := Program.exists_passes (Program.unfilled_bodiless h) sink
  obtain ⟨tree', v, fs, Q⟩ := Program.exists_passes h sink'
  obtain ⟨a, ha, hsymbols⟩ := P.result
  obtain ⟨b, hb, hsymbols'⟩ := Q.result
  obtain ⟨f', hf, hf', htake, hdecls, hmaps, hsize, hnames⟩ := P.around Q
  have hprogram : (analyze .standard ⟨pre ++ .fn f.bodiless :: post⟩ sink).program.decls =
      tree.decls.map (·.decorate w.symbols) := congrArg Program.decls P.program
  have hprogram' : (analyze .standard ⟨pre ++ .fn f :: post⟩ sink').program.decls =
      tree'.decls.map (·.decorate v.symbols) := congrArg Program.decls Q.program
  have hbefore : symbolsUpTo (tree'.decls.take pre.length) f' =
      symbolsUpTo (tree.decls.take pre.length) f' := by rw [htake]
  rw [hbefore] at hdecls hmaps
  refine ⟨a, b, { f' with body := f'.body.decorate v.symbols }, ha, hb, ?_, ?_, ?_, ?_, ?_, ?_⟩
  · rw [hprogram, List.getElem?_map, hf]
    rfl
  · rw [hprogram', List.getElem?_map, hf']
    rfl
  · rw [symbolsInside_decorate, hsymbols, hsymbols', hsize]
  · rw [hprogram, hsymbols]
    intro d hd
    obtain ⟨d', hd', rfl⟩ := List.mem_map.1 hd
    exact (P.rule.handles_below P.unfilled d' hd').decorate _
  · rw [hprogram, hprogram', symbolsUpTo_decorate, symbolsUpTo_decorate, hbefore]
  · rw [hprogram, symbolsUpTo_decorate, symbolsInside_decorate]
    have hat : ∀ i < (pre ++ .fn f.bodiless :: post).length, ∃ d, tree.decls[i]? = some d :=
      fun i hi => ⟨_, List.getElem?_eq_getElem (Nat.lt_of_lt_of_eq hi P.rule.length_eq.symm)⟩
    have hat' : ∀ i ≠ pre.length, ∀ d, tree.decls[i]? = some d → tree'.decls[i]? = some _ :=
      fun i hne d hd => (hdecls i hne).trans (congrArg _ hd)
    refine ⟨fun i hi hne => ?_, fun i hi hne => ?_, fun i hne => ?_⟩
    · rcases Nat.lt_or_gt_of_ne hne with hlt | hgt
      · exact P.namesToldAt_before Q hlt
      · obtain ⟨j, rfl⟩ := Nat.exists_eq_add_of_le hgt
        rw [List.length_append, List.length_cons] at hi
        exact hnames j (by omega)
    · obtain ⟨d, hd⟩ := hat i hi
      exact (P.typesToldAt_eq Q hmaps hd (hat' i hne d hd)).1
    · rw [hprogram, hprogram', List.getElem?_map, List.getElem?_map, hdecls i hne]
      cases hd : tree.decls[i]? with
      | none => rfl
      | some d => exact congrArg some (P.typesToldAt_eq Q hmaps hd (hat' i hne d hd)).2

end

/-- **Bodies are isolated.**  For two programs in which nothing is filled and which differ in
nothing but the body of one function: both analyses have a result, and of every other declaration
each pass reports the same.  It ends up with the same flags and types.  It has no handle of a symbol
in the body.  Its handles are the same up to the head of the function, and those that come later
have moved by the difference between the numbers of symbols that the two bodies declare.  By the
same number one analysis has more symbols than the other. -/
theorem bodies_are_isolated {pre post : List Decl} {f : FnDecl} {body : Block}
    (h : Program.Unfilled ⟨pre ++ .fn f :: post⟩)
    (h' : Program.Unfilled ⟨pre ++ .fn { f with body } :: post⟩) (sink sink' : Diagnostics) :
    let p : Program := ⟨pre ++ .fn f :: post⟩
    let q : Program := ⟨pre ++ .fn { f with body } :: post⟩
    let R := analyze .standard p sink
    let R' := analyze .standard q sink'
    ∃ a b f₁ f₂, R.result = .ok a ∧ R'.result = .ok b ∧
      R.program.decls[pre.length]? = some (.fn f₁) ∧
      R'.program.decls[pre.length]? = some (.fn f₂) ∧
      b.symbols.size + f₁.symbolsInside = a.symbols.size + f₂.symbolsInside ∧
      let m := symbolsUpTo (R.program.decls.take pre.length) f₁
      (∀ i ≠ pre.length, ∀ d, R.program.decls[i]? = some d → d.Avoids m f₁.symbolsInside) ∧
        SameOutside pre.length m f₁.symbolsInside f₂.symbolsInside p q sink sink' := by
  obtain ⟨a₀, a, f₁, ha₀, ha, hf₁, hf, hsize, below, hm, hsame⟩ := body_is_isolated h {} sink
  obtain ⟨b₀, b, f₂, hb₀, hb, hf₂, hf', hsize', -, hm', hsame'⟩ :=
    body_is_isolated (f := { f with body }) h' {} sink'
  obtain rfl : a₀ = b₀ := Except.ok.inj (ha₀.symm.trans hb₀)
  have hbodiless : f₁.bodiless = f₂.bodiless :=
    Decl.fn.inj (Option.some.inj (hf₁.symm.trans hf₂))
  have hk : a₀.symbols.size + f₁.symbolsInside ≤ UInt32.size := hsize ▸ a.symbols.numbered
  have hl : a₀.symbols.size + f₂.symbolsInside ≤ UInt32.size := hsize' ▸ b.symbols.numbered
  refine ⟨a, b, f₁, f₂, ha, hb, hf, hf', ?_, ?_⟩
  · rw [hsize, hsize']
    exact Nat.add_right_comm _ _ _
  · rw [symbolsUpTo_congr _ hbodiless.symm] at hsame'
    have hboth := hsame.exchange hsame' (by simp) below hk hl
    rw [← hm] at hsame hboth
    exact ⟨fun i hne d hd => hsame.avoids below hk hne hd, hboth⟩

/-- A function that declares a variable in its body. -/
def declaring : FnDecl where
  ret := .void
  id := .unbound "f" .nowhere
  formals := []
  body := .mk [{ ty := .int, id := .unbound "x" .nowhere }] []

/-- A function that writes a variable which it does not declare. -/
def writing : Decl := .fn
  { ret := .void
    id := .unbound "main" .nowhere
    formals := []
    body := .mk [] [.simple .write (.use (.unbound "x" .nowhere))] }

/-- The variable of the first function is unknown in the second, as it is without a variable. -/
theorem variable_stays_inside :
    Program.Unfilled ⟨[] ++ .fn declaring :: [writing]⟩ ∧
      Program.Unfilled ⟨[] ++ .fn { declaring with body := .mk [] [] } :: [writing]⟩ ∧
      (Program.namesToldAt ⟨[] ++ .fn declaring :: [writing]⟩ {} 1).map (·.message) =
        ["Undeclared identifier"] ∧
      (Program.namesToldAt ⟨[] ++ .fn { declaring with body := .mk [] [] } :: [writing]⟩ {} 1).map
        (·.message) = ["Undeclared identifier"] := by
  have hfirst : Program.Unfilled ⟨[] ++ .fn declaring :: [writing]⟩ :=
    ⟨by decide, by decide, by decide⟩
  have hsecond : Program.Unfilled ⟨[] ++ .fn { declaring with body := .mk [] [] } :: [writing]⟩ :=
    ⟨by decide, by decide, by decide⟩
  have htold : (Program.namesToldAt ⟨[] ++ .fn declaring :: [writing]⟩ {} 1).map (·.message) =
      ["Undeclared identifier"] := by decide +kernel
  obtain ⟨_, _, _, _, -, -, -, -, -, -, hsame⟩ := bodies_are_isolated hfirst hsecond {} {}
  have hnames := hsame.names 1 (by decide) (by decide)
  exact ⟨hfirst, hsecond, htold, hnames ▸ htold⟩

end StructLang
