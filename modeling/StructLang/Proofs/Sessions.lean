import Mathlib.Logic.Relation
import Mathlib.Tactic.Common
import StructLang.Naming.Program
import StructLang.Proofs.Halting
import StructLang.Proofs.Resolution

/-!
# One arena for several programs

Name resolution can go over one program after the other, and their symbols share an arena.  The
trees may be anything: slots may be filled with whatever handles, and a run may halt in the middle
of a declaration.  The arena stays in order all the same (`symbols_stay_wellFormed`), because only
two steps of the pass change it: `introduce`, which allocates a symbol of a kind that was put
together from the arena itself, and `setParams`, which completes a function of the same program.

* `Arena.WellFormed` — every symbol refers to earlier symbols, of the right kind and name.
* `Naming.Reads` — what leaves the symbols as they are, which is nearly everything.
* `Naming.Safe` — what keeps the arena in order from a given run on, and what is known of the result
  if the run goes on.  What a halted run returns is junk, but it is not put into the arena any more.
-/

namespace StructLang

/-! ## Well-formed arenas -/

/-- A symbol of the kind can be a field: it is a variable, of primitive or of struct type. -/
def Symbol.Kind.isField : Symbol.Kind → Bool
  | var _ | structVar _ => true
  | structDef _ | fn _ _ => false

/-- What a symbol of the kind refers to lies before `limit`, and is of the right kind and name. -/
def Symbol.Kind.WellFormedIn (A : Arena) (limit : Nat) : Symbol.Kind → Prop
  | var ty => ty = .int ∨ ty = .bool
  | structDef fields =>
    fields.depth = 1 ∧ ∀ name k, fields.Binds name k → k.index < limit ∧
      ∃ field, A.get k = .ok field ∧ field.name = name ∧ field.kind.isField = true
  | structVar defn => defn.index < limit ∧ ∃ d, A.get defn = .ok d ∧ d.isStructDef = true
  | fn params ret =>
    (∀ ty ∈ params, ty.isWritten = true) ∧ (ret.isWritten = true ∨ ret = .error)

/-- All symbols refer to earlier symbols, of the right kind and name. -/
def Arena.WellFormed (A : Arena) : Prop :=
  ∀ h symbol, A.get h = .ok symbol → symbol.kind.WellFormedIn A h.index

/-- The struct has a field of the struct type. -/
def Arena.Nests (A : Arena) (outer inner : SymbolId) : Prop :=
  ∃ name fields fieldName k field, A.get outer = .ok { name, kind := .structDef fields } ∧
    fields.Binds fieldName k ∧ A.get k = .ok { name := field, kind := .structVar inner }

section

variable {A B : Arena} {h k : SymbolId} {a b : Symbol} {kind : Symbol.Kind} {limit limit' : Nat}

lemma Symbol.Kind.WellFormedIn.grows (hk : kind.WellFormedIn A limit) (hAB : A.Grows B)
    (hle : limit ≤ limit') : kind.WellFormedIn B limit' := by
  cases kind with
  | var ty => exact hk
  | fn params ret => exact hk
  | structVar defn =>
      obtain ⟨hlt, d, hd, hdef⟩ := hk
      exact ⟨Nat.lt_of_lt_of_le hlt hle, d, hAB defn d hd, hdef⟩
  | structDef fields =>
      obtain ⟨hdepth, hfields⟩ := hk
      refine ⟨hdepth, fun name k hb => ?_⟩
      obtain ⟨hlt, field, hg, hfield⟩ := hfields name k hb
      exact ⟨Nat.lt_of_lt_of_le hlt hle, field, hAB k field hg, hfield⟩

lemma Symbol.Kind.WellFormedIn.soundIn (hk : kind.WellFormedIn A limit) :
    kind.SoundIn A 0 limit := by
  cases kind with
  | var ty => exact hk
  | fn params ret => exact hk
  | structVar defn => exact ⟨Nat.zero_le _, hk⟩
  | structDef fields =>
      obtain ⟨hdepth, hfields⟩ := hk
      refine ⟨fun hnil => ?_, fun name k hb => ?_⟩
      · rw [ScopeStack.depth, hnil] at hdepth
        cases hdepth
      · obtain ⟨hlt, field, hg, hname, -⟩ := hfields name k hb
        exact ⟨Nat.zero_le _, hlt, field, hg, hname⟩

namespace Arena.WellFormed

lemma sound (hA : A.WellFormed) : A.Sound 0 := fun h symbol _ hg => (hA h symbol hg).soundIn

lemma empty : WellFormed {} := by
  intro h symbol hg
  cases get_empty_ne_ok hg

lemma push (hA : A.WellFormed) (hk : kind.WellFormedIn A A.size) (name : String)
    (room : A.size < UInt32.size) : (A.push { name, kind } room).WellFormed := by
  have hgrows := A.grows_push { name, kind } room
  intro h symbol hg
  rcases (get_push_eq_ok_iff room).1 hg with hg | ⟨rfl, rfl⟩
  · exact (hA h symbol hg).grows hgrows (Nat.le_refl _)
  · exact hk.grows hgrows (Nat.le_of_eq (index_nextId room).symm)

end Arena.WellFormed

@[simp] lemma Symbol.name_withParams (a : Symbol) (params : List Ty) :
    (a.withParams params).name = a.name := by
  obtain ⟨name, kind⟩ := a
  cases kind <;> rfl

@[simp] lemma Symbol.isField_withParams (a : Symbol) (params : List Ty) :
    (a.withParams params).kind.isField = a.kind.isField := by
  obtain ⟨name, kind⟩ := a
  cases kind <;> rfl

/-- Giving a function its parameter types changes nothing that others refer to it for. -/
lemma Symbol.Kind.WellFormedIn.withParams (hk : kind.WellFormedIn A limit) (hg : A.get h = .ok a)
    (params : List Ty) : kind.WellFormedIn (A.withParams h params) limit := by
  cases kind with
  | var ty => exact hk
  | fn params ret => exact hk
  | structVar defn =>
      obtain ⟨hlt, d, hd, hdef⟩ := hk
      obtain ⟨c, hc, hsame⟩ := Arena.isStructDef_withParams hg params hd
      exact ⟨hlt, c, hc, hsame.trans hdef⟩
  | structDef fields =>
      obtain ⟨hdepth, hfields⟩ := hk
      refine ⟨hdepth, fun name k hb => ?_⟩
      obtain ⟨hlt, field, hfield, hname, hkind⟩ := hfields name k hb
      refine ⟨hlt, ?_⟩
      rw [Arena.get_withParams hg]
      by_cases hkh : k = h
      · subst hkh
        obtain rfl := Except.ok.inj (hg.symm.trans hfield)
        exact ⟨_, if_pos rfl, by simpa using hname, by simpa using hkind⟩
      · exact ⟨field, by rw [if_neg hkh, hfield], hname, hkind⟩

lemma Arena.WellFormed.withParams (hA : A.WellFormed) (hg : A.get h = .ok a) {params : List Ty}
    (hparams : ∀ ty ∈ params, ty.isWritten = true) : (A.withParams h params).WellFormed := by
  intro k symbol hk
  rw [Arena.get_withParams hg] at hk
  split at hk
  · next hkh =>
      subst hkh
      obtain rfl := Except.ok.inj hk
      have hkind := hA k a hg
      obtain ⟨name, kind⟩ := a
      cases kind with
      | fn old ret => exact ⟨hparams, hkind.2⟩
      | _ => exact Symbol.Kind.WellFormedIn.withParams hkind hg params
  · exact (hA k symbol hk).withParams hg params

/-- A function that came after them changes nothing of the symbols of `B`. -/
lemma Arena.Grows.withParams (hBA : B.Grows A) (hg : A.get h = .ok a) (hle : B.size ≤ h.index)
    (params : List Ty) : B.Grows (A.withParams h params) := by
  intro k symbol hk
  have hlt := Arena.lt_of_get hk
  have hkh : k ≠ h := by
    rintro rfl
    omega
  rw [Arena.get_withParams hg, if_neg hkh]
  exact hBA k symbol hk

/-! ### Tables of fields -/

lemma wellFormedIn_withScope : (Symbol.Kind.structDef .withScope).WellFormedIn A limit :=
  ⟨rfl, fun _ _ hb => absurd hb ScopeStack.not_binds_withScope⟩

/-- A new variable and its name in a table of fields. -/
lemma Symbol.Kind.WellFormedIn.declare {fields target : ScopeStack} {name : String}
    (hfields : (Symbol.Kind.structDef fields).WellFormedIn A A.size) (hkind : kind.isField = true)
    (room : A.size < UInt32.size) (hd : fields.declare name A.nextId = .ok target) :
    (Symbol.Kind.structDef target).WellFormedIn (A.push { name, kind } room)
      (A.push { name, kind } room).size := by
  have hgrows := A.grows_push { name, kind } room
  obtain ⟨hdepth, hold⟩ := hfields.grows hgrows hgrows.size_le
  obtain ⟨scope, outer, new, hs, ht⟩ := ScopeStack.scopes_of_declare hd
  refine ⟨?_, fun other k hb => ?_⟩
  · rw [ScopeStack.depth, hs, List.length_cons] at hdepth
    rw [ScopeStack.depth, ht, List.length_cons]
    exact hdepth
  · rcases ScopeStack.binds_of_declare hd hb with ⟨rfl, rfl⟩ | hb
    · have hnew := A.get_nextId_push { name := other, kind } room
      exact ⟨Arena.lt_of_get hnew, _, hnew, rfl, hkind⟩
    · exact hold other k hb

/-- Struct types are nested in one direction only: a struct comes after the types of its fields. -/
lemma Arena.WellFormed.nests_lt (hA : A.WellFormed) {outer inner : SymbolId}
    (hnests : A.Nests outer inner) : inner.index < outer.index := by
  obtain ⟨name, fields, fieldName, k, field, houter, hb, hk⟩ := hnests
  obtain ⟨-, hfields⟩ := hA outer _ houter
  obtain ⟨hlt, -⟩ := hfields fieldName k hb
  obtain ⟨hlt', -⟩ := hA k _ hk
  exact Nat.lt_trans hlt' hlt

end

namespace Naming

open Pass

variable {α β : Type} {B : Arena} {s : Run Names}

/-! ## What leaves the symbols alone -/

/-- The symbols stay as they are. -/
def Reads (x : Naming α) : Prop := x.Moves fun s t => t.work.symbols = s.work.symbols

lemma frame_reads : Frame fun s t => t.work.symbols = s.work.symbols where
  refl _ := rfl
  trans _ _ _ hst htu := htu.trans hst
  act f hf := by
    intro s
    show (s.act f).work.symbols = s.work.symbols
    unfold Run.act
    split
    · exact hf s
    · rfl

lemma Reads.pure (a : α) : Reads (Pure.pure a) := frame_reads.still.pure a

lemma Reads.note (event : Event) : Reads (note event) := frame_reads.still.note event

lemma Reads.require (answer : Except Fault α) (substitute : α) :
    Reads (require answer substitute) := frame_reads.still.require _ _

lemma reads_symbols : Reads symbols := frame_reads.still.symbols

lemma reads_table : Reads table := frame_reads.still.table

lemma reads_setTable (stack : ScopeStack) : Reads (setTable stack) := frame_reads.setTable _

lemma reads_openScope : Reads openScope := frame_reads.openScope

lemma reads_closeScope : Reads closeScope := frame_reads.closeScope

/-! ## What is put into the arena -/

/-- A struct definition is found in the arena, or none is. -/
lemma get_structNamed {types : ScopeStack} {name : String} {h : SymbolId}
    (hh : ((structNamed types name).run s).1 = some h) :
    ∃ d, s.work.symbols.get h = .ok d ∧ d.isStructDef = true := by
  unfold structNamed at hh
  cases hlookup : liftScope (types.lookup name) with
  | error fault =>
      rw [hlookup] at hh
      cases hh
  | ok found =>
      rw [hlookup, run_bind (run_require_ok _ _)] at hh
      cases found with
      | none => cases hh
      | some k =>
          have hsymbols : symbols.run s = (s.work.symbols, s) := rfl
          dsimp only at hh
          rw [run_bind hsymbols] at hh
          cases hg : s.work.symbols.get k with
          | error fault =>
              rw [hg] at hh
              cases hh
          | ok d =>
              have hok : (Except.ok d : Except Fault Symbol).map Symbol.isStructDef =
                .ok d.isStructDef := rfl
              rw [hg, hok, run_bind (run_require_ok _ _), run_return] at hh
              split at hh
              · next hdef =>
                  obtain rfl := Option.some.inj hh
                  exact ⟨d, hg, hdef⟩
              · cases hh

/-- The kind of a variable refers to what is in the arena, and a variable can be a field. -/
lemma wellFormedIn_kindOf {types : ScopeStack} {owner : Ident} {ty : TypeName} {kind : Symbol.Kind}
    (hk : ((kindOf types owner ty).run s).1.2 = some kind) :
    kind.isField = true ∧ kind.WellFormedIn s.work.symbols s.work.symbols.size := by
  cases ty with
  | int =>
      obtain rfl := Option.some.inj hk
      exact ⟨rfl, Or.inl rfl⟩
  | bool =>
      obtain rfl := Option.some.inj hk
      exact ⟨rfl, Or.inr rfl⟩
  | void => cases hk
  | struct name =>
      have hdefn : ((useStruct types name).run s).1.2.map Symbol.Kind.structVar = some kind := hk
      obtain ⟨h, hh, rfl⟩ := Option.map_eq_some_iff.1 hdefn
      have hnamed : ((structNamed types name.name).run s).1 = some h := by
        unfold useStruct at hh
        rcases hrun : (structNamed types name.name).run s with ⟨found, t⟩
        rw [run_bind hrun] at hh
        cases found with
        | none => cases hh
        | some k => exact hh
      obtain ⟨d, hg, hdef⟩ := get_structNamed hnamed
      exact ⟨rfl, Arena.lt_of_get hg, d, hg, hdef⟩

lemma isWritten_returnType (ret : TypeName) :
    ((returnType ret).run s).1.2.isWritten = true ∨ ((returnType ret).run s).1.2 = .error := by
  cases ret with
  | struct name =>
      rcases hrun : (useStruct s.work.table name).run s with ⟨⟨name', defn⟩, t⟩
      have hty : ((returnType (.struct name)).run s).1.2 =
          if ((useStruct s.work.table name).run s).1.2.isSome
            then .struct ((useStruct s.work.table name).run s).1.1.name else .error := rfl
      rw [hty, hrun]
      cases defn with
      | none => exact Or.inr rfl
      | some h => exact Or.inl rfl
  | _ => exact Or.inl rfl

/-! ## What keeps the arena in order -/

/-- The arena is well-formed, and the symbols of `B` are among its symbols, unchanged. -/
structure Kept (B A : Arena) : Prop where
  wellFormed : A.WellFormed
  grows : B.Grows A

/-- Whatever happens from the run on, the arena is kept in order; and if the run goes on, `Q` holds
of the result. -/
def Safe (B : Arena) (s : Run Names) (x : Naming α) (Q : α → Run Names → Prop) : Prop :=
  Kept B s.work.symbols → Kept B (x.run s).2.work.symbols ∧
    ((x.run s).2.halted = none → Q (x.run s).1 (x.run s).2)

/-- Whatever run it starts from, the computation keeps the arena in order. -/
def Keeps (B : Arena) (x : Naming α) : Prop :=
  x.Moves fun s t => Kept B s.work.symbols → Kept B t.work.symbols

lemma Keeps.bind {x : Naming α} {f : α → Naming β} (hx : Keeps B x) (hf : ∀ a, Keeps B (f a)) :
    Keeps B (x >>= f) :=
  Moves.bind (fun _ _ _ hst htu hs => htu (hst hs)) hx hf

lemma Reads.keeps {x : Naming α} (hx : Reads x) : Keeps B x := fun s hs => (hx s).symm ▸ hs

lemma Keeps.mapM {f : α → Naming β} (hf : ∀ a, Keeps B (f a)) (l : List α) :
    Keeps B (l.mapM f) :=
  Moves.mapM (fun _ hs => hs) (fun _ _ _ hst htu hs => htu (hst hs)) hf l

variable {P Q : α → Run Names → Prop} {R : β → Run Names → Prop}

lemma Safe.pure {a : α} (h : Q a s) : Safe B s (Pure.pure a) Q := fun hs => ⟨hs, fun _ => h⟩

/-- What comes after a computation that leaves the symbols alone. -/
lemma Safe.after {x : Naming α} {f : α → Naming β} (hx : Reads x)
    (h : ∀ t, t.work.symbols = s.work.symbols → Safe B t (f (x.run s).1) R) :
    Safe B s (x >>= f) R := by
  intro hs
  have hsame := hx s
  exact h (x.run s).2 hsame (hsame.symm ▸ hs)

/-- What comes after a computation may rely on what the computation ends with: if the run has
halted, it stays as it is. -/
lemma Safe.bind {x : Naming α} {f : α → Naming β} (hx : Safe B s x P) (stable : ∀ a, Stable (f a))
    (h : ∀ a t, P a t → Safe B t (f a) R) : Safe B s (x >>= f) R := by
  intro hs
  obtain ⟨ht, hp⟩ := hx hs
  cases hlive : (x.run s).2.halted with
  | none => exact h _ _ (hp hlive) ht
  | some fault =>
      have hstay : ((f (x.run s).1).run (x.run s).2).2 = (x.run s).2 :=
        stable _ _ (by rw [hlive]; rfl)
      show Kept B ((f (x.run s).1).run (x.run s).2).2.work.symbols ∧
        (((f (x.run s).1).run (x.run s).2).2.halted = none → _)
      rw [hstay, hlive]
      exact ⟨ht, nofun⟩

lemma Safe.require {answer : Except Fault α} {substitute : α} :
    Safe B s (require answer substitute) fun a t => answer = .ok a ∧ t = s := by
  cases answer with
  | ok a => exact .pure ⟨rfl, rfl⟩
  | error fault =>
      intro hs
      refine ⟨(Reads.require _ _).keeps s hs, fun live => ?_⟩
      obtain ⟨a, ha⟩ := needs_require _ _ s live
      cases ha

/-- A change of the working data, which happens only if the run has not halted. -/
lemma Safe.update {f : Names → Names} (h : Kept B s.work.symbols → Kept B (f s.work).symbols) :
    Safe B s (update f) fun _ t => t.work = f s.work := by
  intro hs
  have hrun : ((Pass.update f).run s).2 = s.act fun run => { run with work := f run.work } := rfl
  rw [hrun, Run.act]
  cases hlive : s.halted with
  | none => exact ⟨h hs, fun _ => rfl⟩
  | some fault =>
      refine ⟨hs, fun live => ?_⟩
      dsimp only at live
      rw [hlive] at live
      cases live

lemma Safe.keeps {x : Naming α} {Q : Run Names → α → Run Names → Prop}
    (hx : ∀ s, Safe B s x (Q s)) : Keeps B x := fun s hs => (hx s hs).1

/-! ### Declarations -/

/-- Unless the run halts, there is a handle left for the symbol, which is allocated, and its name is
in the scopes. -/
lemma introduce_safe {target : ScopeStack} {id : Ident} {kind : Symbol.Kind}
    (hkind : kind.WellFormedIn s.work.symbols s.work.symbols.size) :
    Safe B s (introduce target id kind) fun r t => ∃ room : s.work.symbols.size < UInt32.size,
      t.work.symbols = s.work.symbols.push { name := id.name, kind } room ∧
        target.declare id.name s.work.symbols.nextId = .ok r.1 ∧
          r.2.2 = s.work.symbols.nextId := by
  refine Safe.after reads_symbols fun t ht => ?_
  refine Safe.bind Safe.require (fun _ => stable_afterAlloc _ _ _) ?_
  rintro r t' ⟨halloc, rfl⟩
  obtain ⟨room, rfl⟩ := Arena.alloc_eq_ok halloc
  refine Safe.bind (Safe.update fun hkept => ?_) (fun _ => (Stable.require _ _).bind fun _ =>
    (stable_bind _ _).bind fun _ => .pure _) ?_
  · rw [ht] at hkept
    exact ⟨hkept.wellFormed.push hkind id.name room, hkept.grows.trans (Arena.grows_push _ _ room)⟩
  · rintro - u hu
    refine Safe.bind Safe.require (fun _ => (stable_bind _ _).bind fun _ => .pure _) ?_
    rintro target' v ⟨hd, rfl⟩
    refine Safe.after (frame_reads.still.bind _ _) fun w hw => .pure ⟨room, ?_, ?_, rfl⟩
    · rw [hw, hu]
      rfl
    · exact ok_of_liftScope hd

/-- The table can become the table of a struct that is declared now. -/
def TableFits (A : Arena) (table : ScopeStack) : Prop :=
  (Symbol.Kind.structDef table).WellFormedIn A A.size

/-- No symbol changes, and a table of fields stays one. -/
lemma declareIn_safe {types target : ScopeStack} {d : VarDecl} :
    Safe B s (declareIn types target d) fun r t => TableFits s.work.symbols target →
      TableFits t.work.symbols r.1 := by
  have hkind : ∀ kind, ((kindOf types d.id d.ty).run s).1.2 = some kind →
      kind.isField = true ∧ kind.WellFormedIn s.work.symbols s.work.symbols.size :=
    fun _ => wellFormedIn_kindOf
  refine Safe.after (frame_reads.still.kindOf _ _ _) fun t ht => ?_
  generalize ((kindOf types d.id d.ty).run s).1 = r at hkind
  obtain ⟨ty, kind⟩ := r
  refine Safe.after (.require _ _) fun u hu => ?_
  have husame : u.work.symbols = s.work.symbols := hu.trans ht
  generalize ((Pass.require _ _ : Naming (Option SymbolId)).run t).1 = known
  cases known with
  | some h =>
      exact Safe.after (frame_reads.still.report _ _) fun v hv => .pure fun hfits => by
        rw [hv, husame]
        exact hfits
  | none =>
      cases kind with
      | none => exact .pure fun hfits => by rwa [husame]
      | some kind =>
          obtain ⟨hfield, hk⟩ := hkind kind rfl
          rw [← husame] at hk
          refine (introduce_safe hk).bind (fun _ => (Stable.note _).bind fun _ => .pure _) ?_
          rintro ⟨target', id, h⟩ v ⟨room, hv, hd, -⟩
          refine Safe.after (.note _) fun w hw => .pure fun hfits => ?_
          rw [← husame] at hfits
          rw [hw, hv]
          exact hfits.declare hfield room hd

lemma keeps_declareVar (d : VarDecl) : Keeps B (declareVar d) :=
  reads_table.keeps.bind fun _ => (Safe.keeps fun _ => declareIn_safe).bind fun _ =>
    (reads_setTable _).keeps.bind fun _ => (Reads.pure _).keeps

lemma declareFields_safe {types : ScopeStack} {ds : List VarDecl} :
    ∀ {s : Run Names} {fields : ScopeStack}, Safe B s (declareFields types fields ds) fun r t =>
      TableFits s.work.symbols fields → TableFits t.work.symbols r.1 := by
  induction ds with
  | nil => exact .pure fun hfits => hfits
  | cons d ds ih =>
      intro s fields
      refine declareIn_safe.bind
        (fun _ => (stable_declareFields _ _ _).bind fun _ => .pure _) fun r t hfirst => ?_
      exact ih.bind (fun _ => .pure _) fun r' u hrest => .pure fun hfits => hrest (hfirst hfits)

lemma introduceHere_safe {id : Ident} {kind : Symbol.Kind}
    (hkind : kind.WellFormedIn s.work.symbols s.work.symbols.size) :
    Safe B s (introduceHere id kind) fun r _ =>
      s.work.symbols.size < UInt32.size ∧ r.2 = s.work.symbols.nextId := by
  refine Safe.after reads_table fun t ht => ?_
  rw [← ht] at hkind
  refine (introduce_safe hkind).bind (fun _ => (stable_setTable _).bind fun _ => .pure _) ?_
  rintro ⟨target, id', h⟩ u ⟨room, -, -, rfl⟩
  rw [ht] at room
  exact Safe.after (reads_setTable _) fun v hv => .pure ⟨room, congrArg Arena.nextId ht⟩

/-! ### Functions -/

/-- A function that is declared is a new symbol. -/
lemma declareFn_safe {id : Ident} {ret : Ty} (hret : ret.isWritten = true ∨ ret = .error) :
    Safe B s (declareFn id ret) fun r _ =>
      ∀ h, r.2 = some h → s.work.symbols.size ≤ h.index := by
  refine Safe.after (frame_reads.still.rejectDuplicate id) fun t ht => ?_
  cases ((rejectDuplicate id).run s).1 with
  | true => exact .pure nofun
  | false =>
      have hkind : (Symbol.Kind.fn [] ret).WellFormedIn t.work.symbols t.work.symbols.size :=
        ⟨nofun, hret⟩
      refine (introduceHere_safe hkind).bind (fun _ => .pure _) ?_
      rintro ⟨id', h⟩ u ⟨room, rfl⟩
      refine .pure fun k hk => ?_
      obtain rfl := Option.some.inj hk
      exact Nat.le_of_eq (by rw [Arena.index_nextId room, ht])

lemma setParams_safe {h : SymbolId} {formals : List VarDecl} (hle : B.size ≤ h.index) :
    Safe B s (setParams h formals) fun _ _ => True := by
  refine Safe.after reads_symbols fun t ht => ?_
  refine Safe.bind Safe.require (fun _ => .update _) ?_
  rintro A u ⟨hA, rfl⟩
  have hmodify : s.work.symbols.modify h (·.withParams (formals.map (·.ty.written))) = .ok A := hA
  refine fun hs => ⟨(Safe.update (fun hkept => ?_) hs).1, fun _ => trivial⟩
  rw [ht] at hkept
  cases hg : s.work.symbols.get h with
  | error fault =>
      simp only [Arena.modify, hg] at hmodify
      cases hmodify
  | ok a =>
      rw [Arena.modify_withParams hg] at hmodify
      obtain rfl := Except.ok.inj hmodify
      exact ⟨hkept.wellFormed.withParams hg fun _ => isWritten_of_mem_writtenTypes,
        hkept.grows.withParams hg hle _⟩

lemma respects_visitor : visitor.Respects
    (fun s t => Kept B s.work.symbols → Kept B t.work.symbols)
    (fun s t => Kept B s.work.symbols → Kept B t.work.symbols) where
  refl _ hs := hs
  trans _ _ _ hst htu hs := htu (hst hs)
  innerTrans _ _ _ hst htu hs := htu (hst hs)
  innerOfOuter := fun hst => hst
  name id := Reads.keeps (frame_reads.still.use id)
  callee id := Reads.keeps (frame_reads.still.use id)
  field base field failed := Reads.keeps (frame_reads.still.selectField base field failed)
  expr _ := (Reads.pure _).keeps
  decl := keeps_declareVar
  bracket := fun {s t} hinner hs =>
    reads_closeScope.keeps t (hinner (reads_openScope.keeps s hs))
  simple _ _ := (Reads.pure _).keeps
  condition _ _ := (Reads.pure _).keeps
  ret _ _ := (Reads.pure _).keeps

lemma keeps_body (f : FnDecl) (ret : TypeName) (id : Ident) (formals : List VarDecl) : Keeps B (do
    let body ← f.body.visit visitor
    closeScope
    return { ret, id, formals, body } : Naming FnDecl) :=
  Keeps.bind (f.body.visit_moves respects_visitor) fun _ =>
    reads_closeScope.keeps.bind fun _ => (Reads.pure _).keeps

lemma Keeps.safe {x : Naming α} (hx : Keeps B x) : Safe B s x fun _ _ => True :=
  fun hs => ⟨hx s hs, fun _ => trivial⟩

lemma keeps_resolveFn (f : FnDecl) : Keeps B (resolveFn f) := by
  intro s hs
  have hsafe : Safe B s (resolveFn f) fun _ _ => True := by
    have hret := isWritten_returnType f.ret (s := s)
    refine Safe.after (frame_reads.still.returnType f.ret) fun t ht => ?_
    generalize ((returnType f.ret).run s).1 = r at hret
    refine (declareFn_safe hret).bind (fun _ => stable_afterHead _ _ _) ?_
    rintro ⟨id, symbol⟩ u hsymbol
    refine Keeps.safe ?_
    refine reads_openScope.keeps.bind fun _ =>
      (Keeps.mapM keeps_declareVar _).bind fun formals => ?_
    cases symbol with
    | none => exact keeps_body f r.1 id formals
    | some h =>
        refine Keeps.bind (Safe.keeps fun _ => setParams_safe ?_) fun _ =>
          keeps_body f r.1 id formals
        exact Nat.le_trans (ht ▸ hs.grows.size_le) (hsymbol h rfl)
  exact (hsafe hs).1

lemma keeps_resolveStruct (st : StructDecl) : Keeps B (resolveStruct st) := by
  intro s hs
  have hsafe : Safe B s (resolveStruct st) fun _ _ => True := by
    refine Safe.after (frame_reads.still.rejectDuplicate _) fun t _ => Safe.after (.note _) fun u _ =>
      Safe.after reads_table fun v _ => ?_
    cases ((rejectDuplicate st.id).run s).1 with
    | true => exact declareFields_safe.bind (fun _ => .pure _) fun _ _ _ => .pure trivial
    | false =>
        refine declareFields_safe.bind
          (fun _ => (stable_introduceHere _ _).bind fun _ =>
            (Stable.note _).bind fun _ => .pure _) ?_
        rintro ⟨table, fields⟩ w hfits
        exact (introduceHere_safe (hfits wellFormedIn_withScope)).bind
          (fun _ => (Stable.note _).bind fun _ => .pure _)
          fun _ _ _ => Keeps.safe ((Reads.note _).keeps.bind fun _ => (Reads.pure _).keeps)
  exact (hsafe hs).1

lemma keeps_resolveDecl (d : Decl) : Keeps B (resolveDecl d) := by
  cases d with
  | var d => exact (keeps_declareVar d).bind fun _ => (Reads.pure _).keeps
  | fn f => exact (keeps_resolveFn f).bind fun _ => (Reads.pure _).keeps
  | struct st => exact (keeps_resolveStruct st).bind fun _ => (Reads.pure _).keeps

end Naming

open Naming in
/-- A whole program keeps the arena in order, however its run ends. -/
lemma keeps_resolveProgram {B : Arena} (dumpScopes : Bool) (p : Program) :
    Keeps B (resolveProgram dumpScopes p) := by
  have hend : ∀ decls : List Decl, Keeps B (do
      closeScope
      Pass.note (.namingFinished (← symbols).size (← get).errors)
      return { decls } : Naming Program) := fun decls =>
    reads_closeScope.keeps.bind fun _ => reads_symbols.keeps.bind fun _ =>
      Keeps.bind (fun _ hs => hs) fun _ => (Reads.note _).keeps.bind fun _ => (Reads.pure _).keeps
  refine Keeps.bind (fun _ hs => hs) fun _ => (Reads.note _).keeps.bind fun _ =>
    reads_openScope.keeps.bind fun _ => (Keeps.mapM keeps_resolveDecl p.decls).bind fun decls => ?_
  cases dumpScopes with
  | false => exact hend decls
  | true => exact (Reads.keeps frame_reads.still.logScopes).bind fun _ => hend decls

/-! ## Sessions -/

/-- Name resolution over one program after the other, each with or without writing the scopes to the
log, from no symbols on. -/
def session (sink : Diagnostics) (calls : List (Bool × Program)) : Run Names :=
  calls.foldl (fun s call => ((resolveProgram call.1 call.2).run s).2) { work := {}, sink }

lemma wellFormed_session (sink : Diagnostics) (calls : List (Bool × Program)) :
    (session sink calls).work.symbols.WellFormed := by
  have hcalls : ∀ s : Run Names, s.work.symbols.WellFormed →
      (calls.foldl (fun s call => ((resolveProgram call.1 call.2).run s).2)
        s).work.symbols.WellFormed := by
    induction calls with
    | nil => exact fun _ hs => hs
    | cons call calls ih =>
        exact fun s hs =>
          ih _ (keeps_resolveProgram call.1 call.2 s ⟨hs, .refl _⟩).wellFormed
  exact hcalls _ .empty

/-- In a well-formed arena every symbol has a type, which is what its text says. -/
lemma Arena.WellFormed.describe {A : Arena} (hA : A.WellFormed) {h : SymbolId} {symbol : Symbol}
    (hg : A.get h = .ok symbol) : ∃ ty, A.typeOf h = .ok ty ∧ A.describe h = ty.render := by
  obtain ⟨ty, hty⟩ := hA.sound.typeOf (Nat.zero_le _) hg
  refine ⟨ty, hty, ?_⟩
  simp only [Arena.describe, hty]

lemma Arena.WellFormed.fieldsOf {A : Arena} (hA : A.WellFormed) {h : SymbolId} {symbol : Symbol}
    (hg : A.get h = .ok symbol) : ∃ fields, A.fieldsOf h = .ok fields := by
  rcases hA.sound.fieldsOf (Nat.zero_le _) hg with ⟨-, hnone⟩ | ⟨_, _, fields, -, -, -, hsome⟩
  · exact ⟨none, hnone⟩
  · exact ⟨some fields, hsome⟩

/-- No struct type contains itself, however indirectly. -/
lemma Arena.WellFormed.acyclic {A : Arena} (hA : A.WellFormed) (h : SymbolId) :
    ¬ Relation.TransGen A.Nests h h := by
  have hlt : ∀ k, Relation.TransGen A.Nests h k → k.index < h.index := by
    intro k hk
    induction hk with
    | single hnests => exact hA.nests_lt hnests
    | tail _ hnests ih => exact Nat.lt_trans (hA.nests_lt hnests) ih
  exact fun hcycle => Nat.lt_irrefl _ (hlt h hcycle)

/-- **The arena stays well-formed.**  After whatever sequence of programs, each of whatever tree and
resolved to its end or not, all symbols refer to earlier symbols of the right kind and name, struct
types are not nested in circles, and every handle that was allocated has a type, a text that says
it, and an answer to which fields it has.  One more program leaves all these symbols as they are. -/
theorem symbols_stay_wellFormed (sink : Diagnostics) (calls : List (Bool × Program)) :
    let A := (session sink calls).work.symbols
    A.WellFormed ∧ (∀ h, ¬ Relation.TransGen A.Nests h h) ∧
      (∀ h, h.index < A.size → (∃ ty, A.typeOf h = .ok ty ∧ A.describe h = ty.render) ∧
        ∃ fields, A.fieldsOf h = .ok fields) ∧
      ∀ call, A.Grows (session sink (calls ++ [call])).work.symbols := by
  intro A
  have hA : A.WellFormed := wellFormed_session sink calls
  refine ⟨hA, hA.acyclic, fun h hlt => ?_, fun call => ?_⟩
  · have hg : A.get h = .ok A.symbols[h.index] :=
      Arena.get_eq_ok_iff.2 (Array.getElem?_eq_getElem hlt)
    exact ⟨hA.describe hg, hA.fieldsOf hg⟩
  · rw [session, List.foldl_append]
    exact (keeps_resolveProgram call.1 call.2 (session sink calls) ⟨hA, .refl _⟩).grows

/-- A struct and a variable of its type. -/
def pointAndVariable : Program where
  decls := [
    .struct
      { id := { name := "Point", loc := .nowhere }
        fields := [{ ty := .int, id := { name := "x", loc := .nowhere } }] },
    .var
      { ty := .struct { name := "Point", loc := .nowhere }
        id := { name := "p", loc := .nowhere } }]

/-- A struct whose second field is bound to a handle of somewhere else. -/
def boundField : Program where
  decls := [.struct
    { id := { name := "Line", loc := .nowhere }
      fields := [
        { ty := .int, id := { name := "from", loc := .nowhere } },
        { ty := .int
          id := { name := "to", loc := .nowhere, binding := { content := some ⟨7⟩ } } }] }]

/-- A session that ends in the middle of a struct: its fields stay behind without it. -/
theorem session_boundField :
    let s := session {} [(false, pointAndVariable), (true, boundField)]
    s.halted = some (.slotFilled "binding") ∧
      s.work.symbols.symbols.toList.map Symbol.name = ["x", "Point", "p", "from", "to"] ∧
      s.work.symbols.WellFormed ∧
      ∃ ty, s.work.symbols.typeOf ⟨4⟩ = .ok ty ∧ s.work.symbols.describe ⟨4⟩ = ty.render :=
  have wellFormed := symbols_stay_wellFormed {} [(false, pointAndVariable), (true, boundField)]
  ⟨rfl, rfl, wellFormed.1, (wellFormed.2.2.1 ⟨4⟩ (by decide +kernel)).1⟩

end StructLang
