import Mathlib.Tactic.Common
import StructLang.Proofs.Halting
import StructLang.Proofs.Idents
import StructLang.Proofs.Sizes

/-!
# The pass follows the rules

Every part of name resolution, run on a tree, ends as the rule for that tree says or with a fault
that is allowed: `Ends`.  What the pass relies on comes in through three assumptions on the tree.

* `Free` — the binding slots are empty, or a fault may say that they are not.
* `Lenient` — handles that came with the tree may lead to symbols that do not exist.
* `Room` — there are handles for all declarations, or a fault may say that there are not.

So the same lemmas serve trees from the source, where no fault is allowed, and trees whose slots
hold anything.

The main result is `resolveProgram_ends`; `resolveProgram_logs` says in addition what is logged
before and after the declarations.
-/

namespace StructLang

namespace Naming

open Pass

/-! ## Uses -/

/-- A tree may be at fault: what its slots hold is not known, the symbols are sound from the first
on, and the faults that come from such a tree may occur. -/
structure Lenient (base : Nat) (may : Fault → Prop) : Prop where
  base_eq : base = 0
  allowed : ∀ fault : Fault, fault.OfTree → may fault

/-- No identifier is bound yet, or the tree may be at fault. -/
def Free (base : Nat) (may : Fault → Prop) (ids : List Ident) : Prop :=
  (∀ id ∈ ids, id.symbol? = none) ∨ Lenient base may

variable {base : Nat} {may : Fault → Prop} {s : Run Names}

lemma Free.mono {ids ids' : List Ident} (h : Free base may ids) (hsub : ∀ id ∈ ids', id ∈ ids) :
    Free base may ids' :=
  h.imp_left fun hids id hmem => hids id (hsub id hmem)

lemma Free.of_mem {ids : List Ident} (h : Free base may ids) {id : Ident} (hmem : id ∈ ids) :
    id.symbol? = none ∨ Lenient base may := h.imp_left fun hids => hids id hmem

lemma run_symbols : symbols.run s = (s.work.symbols, s) := rfl

lemma run_table : table.run s = (s.work.table, s) := rfl

lemma bind_ends {id : Ident} {h : SymbolId} (live : s.halted = none)
    (hid : id.symbol? = none ∨ Lenient base may) :
    Ends may s (bind id h) fun id' t => id' = id.bindTo h ∧ t = s := by
  have hslot : id.binding.content = none ∨ may (.slotFilled "binding") :=
    hid.imp_right fun hlenient => hlenient.allowed _ trivial
  refine (Ends.fill live hslot).bind (fun _ => .pure _) ?_
  rintro filled t live' ⟨rfl, rfl⟩
  exact .pure live' ⟨rfl, rfl⟩

lemma use_ends {id : Ident} (live : s.halted = none) (hw : s.work.Sound base)
    (hid : id.symbol? = none ∨ Lenient base may) :
    Ends may s (use id) fun id' t => ∃ es, UseRule s.work id id' es ∧ t = s.after es := by
  unfold use
  refine .run_bind run_table ?_
  rw [ScopeStack.lookup_of_open hw.opened]
  refine .run_bind (run_require_ok _ _) ?_
  cases hfind : s.work.table.find? id.name with
  | none => exact .run_bind (run_report live _ _) (.pure (by simpa) ⟨_, .undeclared hfind, rfl⟩)
  | some h =>
      refine (bind_ends live hid).bind (fun _ => (Stable.note _).bind fun _ => .pure _) ?_
      rintro id' t live' ⟨rfl, rfl⟩
      exact .run_bind (run_note live' rfl) (.pure (by simpa) ⟨_, .bound hfind, rfl⟩)

/-- From `base` on, the handle has a symbol. -/
def Has (base : Nat) (A : Arena) (h : SymbolId) : Prop :=
  base ≤ h.index ∧ ∃ symbol, A.get h = .ok symbol

lemma rejectField_ends {base' : Expr} {field : Ident} {failed : Bool} {problem : Problem}
    (live : s.halted = none)
    (rule : FieldRule s.work.symbols base' field failed field true [.reported field.loc problem]) :
    Ends may s (rejectField field failed problem) fun r t =>
      ∃ es, FieldRule s.work.symbols base' field failed r.1 r.2 es ∧ t = s.after es := by
  have live' : (s.after [.reported field.loc problem]).halted = none := by simpa
  exact .run_bind (run_report live _ _)
    (.run_bind (run_raise live' failed) (.pure live' ⟨_, rule, rfl⟩))

lemma fault_of_fieldsOf {A : Arena} (hA : A.Sound 0) {h : SymbolId} {fault : Fault}
    (hf : A.fieldsOf h = .error fault) : fault.OfTree := by
  cases hg : A.get h with
  | error fault' =>
      obtain rfl := Arena.fault_of_get hg
      simp only [Arena.fieldsOf, hg] at hf
      obtain rfl : Fault.dangling h = fault := Except.error.inj hf
      trivial
  | ok symbol =>
      rcases hA.fieldsOf (Nat.zero_le _) hg with ⟨-, hok⟩ | ⟨_, _, _, _, _, _, hok⟩
      · rw [hok] at hf; cases hf
      · rw [hok] at hf; cases hf

/-- The tables of fields that can be reached have a scope. -/
lemma opened_of_fieldsOf {A : Arena} (hA : A.Sound base) {h : SymbolId} (hbase : base ≤ h.index)
    {fields : ScopeStack} (hf : A.fieldsOf h = .ok (some fields)) : fields.scopes ≠ [] := by
  cases hg : A.get h with
  | error fault => simp only [Arena.fieldsOf, hg] at hf; cases hf
  | ok symbol =>
      rcases hA.fieldsOf hbase hg with ⟨-, hok⟩ | ⟨defn, name, fields', -, hdbase, hd, hok⟩
      · rw [hok] at hf; cases hf
      · obtain rfl : fields' = fields := Option.some.inj (Except.ok.inj (hok.symm.trans hf))
        exact (hA defn _ hdbase hd).1

lemma selectField_ends {base' : Expr} {field : Ident} {failed : Bool} (live : s.halted = none)
    (hw : s.work.Sound base)
    (hbase : (∀ h, base'.asBase = .symbol h → Has base s.work.symbols h) ∨ Lenient base may)
    (hfield : field.symbol? = none ∨ Lenient base may) :
    Ends may s (selectField base' field failed) fun r t =>
      ∃ es, FieldRule s.work.symbols base' field failed r.1 r.2 es ∧ t = s.after es := by
  unfold selectField
  cases hsymbol : base'.asBase with
  | failed =>
      exact .run_bind (run_raise live failed) (.pure live ⟨[], .skipped hsymbol, rfl⟩)
  | nothing => exact rejectField_ends live (.noStruct (Or.inl hsymbol))
  | symbol h =>
      have hmay : ∀ fault, s.work.symbols.fieldsOf h = .error fault → may fault := by
        intro fault hfault
        rcases hbase with hhas | hlenient
        · obtain ⟨hbase, symbol, hg⟩ := hhas h hsymbol
          rcases hw.arena.fieldsOf hbase hg with ⟨-, hok⟩ | ⟨_, _, _, _, _, _, hok⟩
          · rw [hok] at hfault; cases hfault
          · rw [hok] at hfault; cases hfault
        · obtain rfl := hlenient.base_eq
          exact hlenient.allowed _ (fault_of_fieldsOf hw.arena hfault)
      have hle : base ≤ h.index := by
        rcases hbase with hhas | hlenient
        · exact (hhas h hsymbol).1
        · rw [hlenient.base_eq]; exact Nat.zero_le _
      refine .run_bind run_symbols ((Ends.require live hmay).bind (fun fields => ?_) ?_)
      · cases fields with
        | none => exact stable_rejectField _ _ _
        | some fields =>
            refine (Stable.require _ _).bind fun found => ?_
            cases found with
            | none => exact stable_rejectField _ _ _
            | some k => exact (stable_bind _ _).bind fun _ => (Stable.note _).bind fun _ => .pure _
      · rintro fields t live' ⟨hfields, rfl⟩
        cases fields with
        | none => exact rejectField_ends live (.noStruct (Or.inr ⟨h, hsymbol, hfields⟩))
        | some fields =>
            dsimp only
            rw [ScopeStack.lookup_of_open (opened_of_fieldsOf hw.arena hle hfields)]
            refine .run_bind (run_require_ok _ _) ?_
            cases hfind : fields.find? field.name with
            | none => exact rejectField_ends live (.unknown hsymbol hfields hfind)
            | some k =>
                refine (bind_ends live hfield).bind
                  (fun _ => (Stable.note _).bind fun _ => .pure _) ?_
                rintro field' t live' ⟨rfl, rfl⟩
                exact .run_bind (run_note live' rfl)
                  (.pure (by simpa) ⟨_, .selected hsymbol hfields hfind, rfl⟩)

/-! ## Declarations -/

lemma structNamed_ends {types : ScopeStack} (name : String) (live : s.halted = none)
    (hw : Names.Sound base ⟨s.work.symbols, types⟩) :
    Ends may s (structNamed types name) fun defn t => t = s ∧
      match defn with
      | some h => types.find? name = some h ∧
          ∃ d, s.work.symbols.get h = .ok d ∧ d.isStructDef = true
      | none => ∀ h, types.find? name = some h →
          ∃ d, s.work.symbols.get h = .ok d ∧ d.isStructDef = false := by
  unfold structNamed
  rw [ScopeStack.lookup_of_open hw.opened]
  refine .run_bind (run_require_ok _ _) ?_
  cases hfind : types.find? name with
  | none => exact .pure live ⟨rfl, nofun⟩
  | some h =>
      obtain ⟨-, d, hd, -⟩ := hw.named _ _ (ScopeStack.binds_of_find? hfind)
      refine .run_bind run_symbols ?_
      rw [hd]
      refine .run_bind (run_require_ok _ _) ?_
      cases hdef : d.isStructDef with
      | true => exact .pure live ⟨rfl, rfl, d, hd, hdef⟩
      | false =>
          refine .pure live ⟨rfl, fun k hk => ?_⟩
          obtain rfl := Option.some.inj hk
          exact ⟨d, hd, hdef⟩

lemma useStruct_ends {types : ScopeStack} {name : Ident} (live : s.halted = none)
    (hw : Names.Sound base ⟨s.work.symbols, types⟩)
    (hname : name.symbol? = none ∨ Lenient base may) :
    Ends may s (useStruct types name) fun r t =>
      ∃ es, StructNameRule s.work.symbols types name r.1 r.2 es ∧ t = s.after es := by
  refine (structNamed_ends name.name live hw).bind (fun defn => ?_) ?_
  · cases defn with
    | none => exact (Stable.report _ _).bind fun _ => .pure _
    | some h => exact (stable_bind _ _).bind fun _ => .pure _
  · rintro defn t live' ⟨rfl, hdefn⟩
    cases defn with
    | none => exact .run_bind (run_report live _ _) (.pure (by simpa) ⟨_, .invalid hdefn, rfl⟩)
    | some h =>
        obtain ⟨hfind, d, hd, hdef⟩ := hdefn
        refine (bind_ends live hname).bind (fun _ => .pure _) ?_
        rintro name' t live' ⟨rfl, rfl⟩
        exact .pure live' ⟨_, .means hfind hd hdef, rfl⟩

lemma kindOf_ends {types : ScopeStack} {owner : Ident} {ty : TypeName} (live : s.halted = none)
    (hw : Names.Sound base ⟨s.work.symbols, types⟩) (hty : Free base may ty.idents) :
    Ends may s (kindOf types owner ty) fun r t =>
      ∃ es, KindRule s.work.symbols types owner ty r.1 r.2 es ∧ t = s.after es := by
  cases ty with
  | int => exact .pure live ⟨_, .int, rfl⟩
  | bool => exact .pure live ⟨_, .bool, rfl⟩
  | void => exact .run_bind (run_report live _ _) (.pure (by simpa) ⟨_, .void, rfl⟩)
  | struct name =>
      refine (useStruct_ends live hw (hty.of_mem List.mem_cons_self)).bind (fun _ => .pure _) ?_
      rintro ⟨name', defn⟩ t live' ⟨es, rule, rfl⟩
      exact .pure live' ⟨_, .struct rule, rfl⟩

lemma introduce_ends {target target' : ScopeStack} {id : Ident} {kind : Symbol.Kind}
    (live : s.halted = none) (room : Room may s.work.symbols 1)
    (hid : id.symbol? = none ∨ Lenient base may)
    (hd : target.declare id.name s.work.symbols.nextId = .ok target') :
    Ends may s (introduce target id kind) fun r t =>
      ∃ room : s.work.symbols.size < UInt32.size,
        r = (target', id.bindTo s.work.symbols.nextId, s.work.symbols.nextId) ∧
          t = s.withWork ⟨s.work.symbols.push { name := id.name, kind } room, s.work.table⟩ := by
  refine .run_bind run_symbols ((Ends.require live fun _ => room.fault_of_alloc).bind
    (fun _ => stable_afterAlloc _ _ _) ?_)
  rintro r t live' ⟨halloc, rfl⟩
  obtain ⟨hlt, rfl⟩ := Arena.alloc_eq_ok halloc
  refine .run_bind (run_update live' _) ?_
  rw [hd]
  refine .run_bind (run_require_ok _ _) ?_
  refine (bind_ends (by simpa) hid).bind (fun _ => .pure _) ?_
  rintro id' t live' ⟨rfl, rfl⟩
  exact .pure live' ⟨hlt, rfl, rfl⟩

lemma declareIn_ends {types target : ScopeStack} {d : VarDecl} (live : s.halted = none)
    (room : Room may s.work.symbols 1) (ht : Names.Sound base ⟨s.work.symbols, types⟩)
    (hw : Names.Sound base ⟨s.work.symbols, target⟩) (hd : Free base may d.idents) :
    Ends may s (declareIn types target d) fun r t => ∃ A es,
      DeclareRule (fun _ => types) ⟨s.work.symbols, target⟩ d r.2 ⟨A, r.1⟩ es ∧
        t = (s.after es).withWork ⟨A, s.work.table⟩ := by
  have hty : Free base may d.ty.idents := hd.mono fun _ hmem => List.mem_append_left _ hmem
  have hid : d.id.symbol? = none ∨ Lenient base may :=
    hd.of_mem (List.mem_append_right _ List.mem_cons_self)
  refine (kindOf_ends live ht hty).bind
    (fun _ => (Stable.require _ _).bind fun known =>
      tableFrame_stable.afterLookup _ _ _ _ known) ?_
  rintro ⟨ty, kind⟩ t live' ⟨es, rule, rfl⟩
  dsimp only
  rw [ScopeStack.lookupLocal_of_open hw.opened]
  refine .run_bind (run_require_ok _ _) ?_
  cases hlocal : target.local? d.id.name with
  | some h =>
      refine .run_bind (run_report live' _ _) (.pure (by simpa) ?_)
      exact ⟨_, _, .taken rule hlocal, by rw [Run.after_after, ← Run.after_eq_withWork]⟩
  | none =>
      cases kind with
      | none => exact .pure live' ⟨_, _, .rejected rule hlocal, Run.after_eq_withWork _ _⟩
      | some kind =>
          obtain ⟨target', hdeclare⟩ :=
            ScopeStack.declare_of_free hw.opened hlocal s.work.symbols.nextId
          rw [← Run.work_after s es] at hdeclare
          refine (introduce_ends live' (by rwa [Run.work_after]) hid hdeclare).bind
            (fun _ => (Stable.note _).bind fun _ => .pure _) ?_
          rintro _ t live'' ⟨hlt, rfl, rfl⟩
          refine .run_bind (run_note live'' rfl) (.pure (by simpa) ?_)
          simp only [Run.work_after] at hdeclare ⊢
          exact ⟨_, _, .declared rule (by rwa [Run.work_after] at hlt) hdeclare, by simp⟩

lemma DeclareRule.congr {types types' : ScopeStack → ScopeStack} {w w' : Names} {d d' : VarDecl}
    {es : List Event} (rule : DeclareRule types w d d' w' es) (h : types w.table = types' w.table) :
    DeclareRule types' w d d' w' es := by
  cases rule with
  | taken type known => rw [h] at type; exact .taken type known
  | rejected type free => rw [h] at type; exact .rejected type free
  | declared type room scope => rw [h] at type; exact .declared type room scope

lemma run_setTable (live : s.halted = none) (stack : ScopeStack) :
    (setTable stack).run s = ((), s.withWork ⟨s.work.symbols, stack⟩) := run_update live _

lemma declareVar_ends {d : VarDecl} (live : s.halted = none)
    (room : Room may s.work.symbols 1) (hw : s.work.Sound base)
    (hd : Free base may d.idents) :
    Ends may s (declareVar d) fun d' t =>
      ∃ w es, DeclareRule id s.work d d' w es ∧ t = (s.after es).withWork w := by
  refine .run_bind run_table ((declareIn_ends live room hw hw hd).bind
    (fun _ => (stable_setTable _).bind fun _ => .pure _) ?_)
  rintro ⟨stack, d'⟩ t live' ⟨A, es, rule, rfl⟩
  exact .run_bind (run_setTable live' _) (.pure live' ⟨_, _, rule.congr rfl, rfl⟩)

lemma declareVars_ends {ds : List VarDecl} (live : s.halted = none)
    (room : Room may s.work.symbols ds.length) (hw : s.work.Sound base)
    (hds : Free base may (ds.flatMap VarDecl.idents)) :
    Ends may s (ds.mapM declareVar) fun ds' t =>
      ∃ w es, DeclaresRule id s.work ds ds' w es ∧ t = (s.after es).withWork w := by
  induction ds generalizing s with
  | nil =>
      rw [List.mapM_nil]
      exact .pure live ⟨_, _, .nil, rfl⟩
  | cons d ds ih =>
      rw [List.flatMap_cons] at hds
      rw [List.length_cons, Nat.add_comm] at room
      rw [List.mapM_cons]
      refine (declareVar_ends live (room.mono (Nat.le_add_right _ _)) hw
        (hds.mono fun _ => List.mem_append_left _)).bind
        (fun _ => (Stable.mapM stable_declareVar _).bind fun _ => .pure _) ?_
      rintro d' t live' ⟨w, es, first, rfl⟩
      have hsound := (first.extends (soundTypes_id _) hw).sound
      refine (ih live' (room.after first.growsBy) hsound
        (hds.mono fun _ => List.mem_append_right _)).bind
        (fun _ => .pure _) ?_
      rintro ds' t live'' ⟨w', fs, rest, rfl⟩
      exact .pure live'' ⟨_, _, .cons first rest, by simp⟩

lemma declareFields_ends {types : ScopeStack} {ds : List VarDecl} {fields : ScopeStack}
    (live : s.halted = none) (room : Room may s.work.symbols ds.length)
    (ht : Names.Sound base ⟨s.work.symbols, types⟩)
    (hw : Names.Sound base ⟨s.work.symbols, fields⟩)
    (hds : Free base may (ds.flatMap VarDecl.idents)) :
    Ends may s (declareFields types fields ds) fun r t => ∃ A es,
      DeclaresRule (fun _ => types) ⟨s.work.symbols, fields⟩ ds r.2 ⟨A, r.1⟩ es ∧
        t = (s.after es).withWork ⟨A, s.work.table⟩ := by
  induction ds generalizing s fields with
  | nil => exact .pure live ⟨_, _, .nil, rfl⟩
  | cons d ds ih =>
      rw [List.flatMap_cons] at hds
      rw [List.length_cons, Nat.add_comm] at room
      refine (declareIn_ends live (room.mono (Nat.le_add_right _ _)) ht hw
        (hds.mono fun _ => List.mem_append_left _)).bind
        (fun _ => (stable_declareFields _ _ _).bind fun _ => .pure _) ?_
      rintro ⟨fields', d'⟩ t live' ⟨A, es, first, rfl⟩
      have hfirst := first.extends (soundTypes_const ht) hw
      refine (ih live' (room.after first.growsBy) (ht.grows hfirst.grows hfirst.sound.arena)
        hfirst.sound
        (hds.mono fun _ => List.mem_append_right _)).bind (fun _ => .pure _) ?_
      rintro ⟨fields'', ds'⟩ t live'' ⟨B, fs, rest, rfl⟩
      exact .pure live'' ⟨_, _, .cons first rest, by simp⟩

lemma StructNameRule.name_eq {A : Arena} {types : ScopeStack} {name name' : Ident}
    {defn : Option SymbolId} {es : List Event} (rule : StructNameRule A types name name' defn es) :
    name'.name = name.name := by
  cases rule <;> rfl

/-! ## Expressions -/

lemma UseRule.has {w : Names} {id id' : Ident} {es : List Event} (rule : UseRule w id id' es)
    (hw : w.Sound base) (hfree : id.symbol? = none) {h : SymbolId} (hid : id'.symbol? = some h) :
    Has base w.symbols h := by
  cases rule with
  | undeclared missing => rw [hfree] at hid; cases hid
  | bound found =>
      obtain rfl := Option.some.inj hid
      obtain ⟨hle, symbol, hg, -⟩ := hw.named _ _ (ScopeStack.binds_of_find? found)
      exact ⟨hle, symbol, hg⟩

lemma FieldRule.has {A : Arena} {base' : Expr} {field field' : Ident} {failed failed' : Bool}
    {es : List Event} (rule : FieldRule A base' field failed field' failed' es)
    (hA : A.Sound base) (hbase : ∀ h, base'.asBase = .symbol h → Has base A h)
    (hfree : field.symbol? = none) {k : SymbolId} (hfield : field'.symbol? = some k) :
    Has base A k := by
  cases rule with
  | @selected h _ fields symbol struct found =>
      obtain rfl := Option.some.inj hfield
      obtain ⟨hle, symbol', hg⟩ := hbase h symbol
      rcases hA.fieldsOf hle hg with ⟨-, hok⟩ | ⟨d, _, fields', -, hdle, hd, hok⟩
      · rw [hok] at struct; cases struct
      · obtain rfl : fields' = fields := Option.some.inj (Except.ok.inj (hok.symm.trans struct))
        obtain ⟨hkle, -, f, hf, -⟩ := (hA d _ hdle hd).2 _ _ (ScopeStack.binds_of_find? found)
        exact ⟨hkle, f, hf⟩
  | _ => rw [hfree] at hfield; cases hfield

/-- Handles of a tree that the rules have bound have a symbol. -/
lemma ExprRule.has {w : Names} (hw : w.Sound base) : ∀ {e e' : Expr} {es : List Event},
    ExprRule w e e' es → (∀ id ∈ e.idents, id.symbol? = none) →
      ∀ h, e'.asBase = .symbol h → Has base w.symbols h
  | _, _, _, .name _ use, hfree, h, hbase => by
      simp only [Expr.asBase] at hbase
      split at hbase
      · next heq =>
          obtain rfl := Base.symbol.inj hbase
          exact use.has hw (hfree _ (by simp)) heq
      · cases hbase
  | _, .dot _ _ failed' _, _, .dot _ first second, hfree, h, hbase => by
      have hinner := first.has hw fun id hmem => hfree id (by simp [hmem])
      cases failed' with
      | true => cases hbase
      | false =>
          simp only [Expr.asBase] at hbase
          split at hbase
          · next heq =>
              obtain rfl := Base.symbol.inj hbase
              exact second.has hw.arena hinner (hfree _ (by simp)) heq
          · cases hbase
  | _, _, _, .lit _ _, _, _, hbase => nomatch hbase
  | _, _, _, .assign _ _ _, _, _, hbase => nomatch hbase
  | _, _, _, .call _ _ _, _, _, hbase => nomatch hbase
  | _, _, _, .unary _ _ _, _, _, hbase => nomatch hbase
  | _, _, _, .binary _ _ _ _, _, _, hbase => nomatch hbase

/-- Name resolution leaves what an expression carries beside its identifiers. -/
lemma run_finish (e : Expr) : (visitor.finish e).run s = (e, s) := by
  show (e.withNote e.note, s) = (e, s)
  rw [Expr.withNote_note]

lemma finish_ends {e e' : Expr} {es : List Event} {t : Run Names} (live : t.halted = none)
    (rule : ExprRule s.work e e' es) (ht : t = s.after es) :
    Ends may t (visitor.finish e') fun e' t => ∃ es, ExprRule s.work e e' es ∧ t = s.after es :=
  .of_run (run_finish e') live ⟨es, rule, ht⟩

lemma stable_finish (e : Expr) : (visitor.finish e).Stable :=
  (Stable.pure _).bind fun _ => .pure _

mutual

theorem visitExpr_ends : ∀ {e : Expr} {s : Run Names}, s.halted = none → s.work.Sound base →
    Free base may e.idents →
      Ends may s (e.visit visitor) fun e' t => ∃ es, ExprRule s.work e e' es ∧ t = s.after es
  | .lit value note, s, live, hw, hfree => finish_ends live (.lit value note) rfl
  | .name id note, s, live, hw, hfree => by
      refine (use_ends live hw (hfree.of_mem (by simp))).bind (fun _ => stable_finish _) ?_
      rintro id' t live' ⟨es, use, rfl⟩
      exact finish_ends live' (.name note use) rfl
  | .dot base' field failed note, s, live, hw, hfree => by
      have hinner : Free base may base'.idents := hfree.mono fun _ hmem => by simp [hmem]
      refine (visitExpr_ends live hw hinner).bind
        (fun _ => (stable_selectField _ _ _).bind fun _ => stable_finish _) ?_
      rintro base'' t live' ⟨es, first, rfl⟩
      have hw' : (s.after es).work.Sound base := by rwa [Run.work_after]
      have hbase : (∀ h, base''.asBase = .symbol h → Has base (s.after es).work.symbols h) ∨
          Lenient base may := by
        rw [Run.work_after]
        exact hinner.imp_left fun hids => first.has hw hids
      refine (selectField_ends live' hw' hbase (hfree.of_mem (by simp))).bind
        (fun _ => stable_finish _) ?_
      rintro ⟨field', failed'⟩ t live'' ⟨fs, second, rfl⟩
      rw [Run.work_after] at second
      exact finish_ends live'' (.dot note first second) (Run.after_after s es fs)
  | .assign target value note, s, live, hw, hfree => by
      refine (visitExpr_ends live hw (hfree.mono fun _ hmem => by simp [hmem])).bind
        (fun _ => (stable_visitor.exprVisit _).bind fun _ => stable_finish _) ?_
      rintro target' t live' ⟨es, left, rfl⟩
      refine (visitExpr_ends live' (by rwa [Run.work_after])
        (hfree.mono fun _ hmem => by simp [hmem])).bind (fun _ => stable_finish _) ?_
      rintro value' t live'' ⟨fs, right, rfl⟩
      rw [Run.work_after] at right
      exact finish_ends live'' (.assign note left right) (Run.after_after s es fs)
  | .call callee args note, s, live, hw, hfree => by
      refine (use_ends live hw (hfree.of_mem (by simp))).bind
        (fun _ => (stable_visitor.exprVisitAll _).bind fun _ => stable_finish _) ?_
      rintro callee' t live' ⟨es, use, rfl⟩
      refine (visitArgs_ends live' (by rwa [Run.work_after])
        (hfree.mono fun _ hmem => by simp [hmem])).bind (fun _ => stable_finish _) ?_
      rintro args' t live'' ⟨fs, all, rfl⟩
      rw [Run.work_after] at all
      exact finish_ends live'' (.call note use all) (Run.after_after s es fs)
  | .unary op operand note, s, live, hw, hfree => by
      refine (visitExpr_ends live hw (hfree.mono fun _ hmem => by simp [hmem])).bind
        (fun _ => stable_finish _) ?_
      rintro operand' t live' ⟨es, inner, rfl⟩
      exact finish_ends live' (.unary op note inner) rfl
  | .binary op left right note, s, live, hw, hfree => by
      refine (visitExpr_ends live hw (hfree.mono fun _ hmem => by simp [hmem])).bind
        (fun _ => (stable_visitor.exprVisit _).bind fun _ => stable_finish _) ?_
      rintro left' t live' ⟨es, first, rfl⟩
      refine (visitExpr_ends live' (by rwa [Run.work_after])
        (hfree.mono fun _ hmem => by simp [hmem])).bind (fun _ => stable_finish _) ?_
      rintro right' t live'' ⟨fs, second, rfl⟩
      rw [Run.work_after] at second
      exact finish_ends live'' (.binary op note first second) (Run.after_after s es fs)

theorem visitArgs_ends : ∀ {args : List Expr} {s : Run Names}, s.halted = none →
    s.work.Sound base → Free base may (Expr.identsOfAll args) →
      Ends may s (Expr.visitAll visitor args) fun args' t =>
        ∃ es, ArgsRule s.work args args' es ∧ t = s.after es
  | [], s, live, hw, hfree => .pure live ⟨_, .nil, rfl⟩
  | e :: args, s, live, hw, hfree => by
      refine (visitExpr_ends live hw (hfree.mono fun _ hmem => by simp [hmem])).bind
        (fun _ => (stable_visitor.exprVisitAll _).bind fun _ => .pure _) ?_
      rintro e' t live' ⟨es, first, rfl⟩
      refine (visitArgs_ends live' (by rwa [Run.work_after])
        (hfree.mono fun _ hmem => by simp [hmem])).bind (fun _ => .pure _) ?_
      rintro args' t live'' ⟨fs, rest, rfl⟩
      rw [Run.work_after] at rest
      exact .pure live'' ⟨_, .cons first rest, Run.after_after s es fs⟩

end

/-! ## Blocks and statements -/

lemma run_openScope (live : s.halted = none) :
    openScope.run s = ((), (s.after [.opened s.work.enter.table.depth]).withWork s.work.enter) := by
  refine (run_bind run_table).trans ((run_bind (run_setTable live _)).trans ?_)
  rw [run_note (by simpa) rfl, Run.after_withWork]
  rfl

/-- A scope that is closed leaves the scopes in which it was opened. -/
lemma run_closeScope (live : s.halted = none) {outer : ScopeStack}
    (hopen : s.work.table.scopes ≠ []) (houter : s.work.table.scopes.tail = outer.scopes) :
    closeScope.run s =
      ((), (s.after [.closed outer.depth]).withWork ⟨s.work.symbols, outer⟩) := by
  have hpop : s.work.table.pop = .ok outer := by
    unfold ScopeStack.pop
    split
    · contradiction
    · next heq =>
        rw [heq, List.tail_cons] at houter
        rw [houter]
  refine (run_bind run_table).trans ?_
  rw [hpop]
  refine (run_bind (run_require_ok _ _)).trans ((run_bind (run_setTable live _)).trans ?_)
  rw [run_note (by simpa) rfl, Run.after_withWork]

/-- A block between opening and closing a scope, and what comes after it. -/
lemma branch_ends {β : Type} {b : Block} {k : Block → Naming β} {Q : β → Run Names → Prop}
    (live : s.halted = none) (hw : s.work.Sound base)
    (inside : ∀ t : Run Names, t.halted = none → t.work = s.work.enter →
      Ends may t (b.visit visitor) fun b' u =>
        ∃ w es, BlockRule t.work b b' w es ∧ u = (t.after es).withWork w)
    (hstable : ∀ b', (k b').Stable)
    (hk : ∀ b' A es, BranchRule s.work b b' A es →
      Ends may ((s.after es).withWork ⟨A, s.work.table⟩) (k b') Q) :
    Ends may s (do openScope; let b' ← b.visit visitor; closeScope; k b') Q := by
  refine .run_bind (run_openScope live) ((inside _ (by simpa) rfl).bind
    (fun _ => stable_closeScope.bind fun _ => hstable _) ?_)
  rintro b' t live' ⟨w, es, rule, rfl⟩
  rw [Run.work_withWork] at rule
  have hext := rule.extends hw.enter
  have houter : w.table.scopes.tail = s.work.table.scopes := hext.outer
  refine .run_bind (run_closeScope live' hext.sound.opened houter) ?_
  simpa using hk b' _ _ (.mk rule)

lemma stable_visitBranch {β : Type} (b : Block) {k : Block → Naming β}
    (hstable : ∀ b', (k b').Stable) :
    (do openScope; let b' ← b.visit visitor; closeScope; k b').Stable :=
  stable_openScope.bind fun _ => (stable_visitor.blockVisit b).bind fun _ =>
    stable_closeScope.bind fun _ => hstable _

lemma visit_guarded (guard : Guard) (cond : Expr) (body : Block) :
    (Stmt.guarded guard cond body).visit visitor = (do
      let cond ← cond.visit visitor
      openScope
      let body ← body.visit visitor
      closeScope
      return .guarded guard cond body) := by
  rw [Stmt.visit]
  exact bind_congr fun _ => pure_bind () _

lemma visit_ifElse (cond : Expr) (yes no : Block) :
    (Stmt.ifElse cond yes no).visit visitor = (do
      let cond ← cond.visit visitor
      openScope
      let yes ← yes.visit visitor
      closeScope
      openScope
      let no ← no.visit visitor
      closeScope
      return .ifElse cond yes no) := by
  rw [Stmt.visit]
  exact bind_congr fun _ => pure_bind () _

mutual

theorem visitBlock_ends : ∀ {b : Block} {s : Run Names}, s.halted = none →
    Room may s.work.symbols b.declCount → s.work.Sound base → Free base may b.idents →
      Ends may s (b.visit visitor) fun b' t =>
        ∃ w es, BlockRule s.work b b' w es ∧ t = (s.after es).withWork w
  | .mk ds ss, s, live, room, hw, hfree => by
      refine (declareVars_ends live (room.mono (Nat.le_add_right _ _)) hw
        (hfree.mono fun _ => Block.mem_idents_decls)).bind
        (fun _ => (stable_visitor.stmtVisitAll _).bind fun _ => .pure _) ?_
      rintro ds' t live' ⟨w, es, decls, rfl⟩
      have hsound := (decls.extends_here hw).sound
      refine (visitStmts_ends live' (room.after decls.growsBy) hsound
        (hfree.mono fun _ => Block.mem_idents_stmts)).bind
        (fun _ => .pure _) ?_
      rintro ss' t live'' ⟨A, fs, stmts, rfl⟩
      exact .pure live'' ⟨_, _, .mk decls stmts, by simp⟩

theorem visitStmt_ends : ∀ {st : Stmt} {s : Run Names}, s.halted = none →
    Room may s.work.symbols st.declCount → s.work.Sound base → Free base may st.idents →
      Ends may s (st.visit visitor) fun st' t =>
        ∃ A es, StmtRule s.work st st' A es ∧ t = (s.after es).withWork ⟨A, s.work.table⟩
  | .simple verb e, s, live, _, hw, hfree => by
      refine (visitExpr_ends live hw (hfree.mono fun _ hmem => by simp [hmem])).bind
        (fun _ => (Stable.pure ()).bind fun _ => .pure _) ?_
      rintro e' t live' ⟨es, expr, rfl⟩
      exact .pure live' ⟨_, _, .simple verb expr, Run.after_eq_withWork _ _⟩
  | .guarded guard cond body, s, live, room, hw, hfree => by
      rw [visit_guarded]
      refine (visitExpr_ends live hw (hfree.mono fun _ hmem => by simp [hmem])).bind
        (fun _ => stable_visitBranch body fun _ => .pure _) ?_
      rintro cond' t live' ⟨es, expr, rfl⟩
      have hw' : (s.after es).work.Sound base := by rwa [Run.work_after]
      refine branch_ends (s := s.after es) live' hw' (fun t livet ht => ?_) (fun _ => .pure _) ?_
      · exact visitBlock_ends livet (by rw [ht, Run.work_after]; exact room)
          (by rw [ht]; exact hw'.enter) (hfree.mono fun _ hmem => by simp [hmem])
      · intro body' A fs branch
        rw [Run.work_after] at branch ⊢
        exact .pure (by simpa) ⟨_, _, .guarded guard expr branch, by simp⟩
  | .ifElse cond yes no, s, live, room, hw, hfree => by
      rw [visit_ifElse]
      refine (visitExpr_ends live hw (hfree.mono fun _ hmem => by simp [hmem])).bind
        (fun _ => stable_visitBranch yes fun _ => stable_visitBranch no fun _ => .pure _) ?_
      rintro cond' t live' ⟨es, expr, rfl⟩
      have hw' : (s.after es).work.Sound base := by rwa [Run.work_after]
      refine branch_ends (s := s.after es) live' hw' (fun t livet ht => ?_)
        (fun _ => stable_visitBranch no fun _ => .pure _) ?_
      · exact visitBlock_ends livet
          (by rw [ht, Run.work_after]; exact room.mono (Nat.le_add_right _ _))
          (by rw [ht]; exact hw'.enter) (hfree.mono fun _ hmem => by simp [hmem])
      · intro yes' A fs first
        rw [Run.work_after] at first ⊢
        have hsound := (first.extends hw).sound
        refine branch_ends (by simpa) hsound (fun t livet ht => ?_) (fun _ => .pure _) ?_
        · exact visitBlock_ends livet (by rw [ht]; exact room.after first.growsBy)
            (by rw [ht]; exact hsound.enter) (hfree.mono fun _ hmem => by simp [hmem])
        · intro no' B gs second
          exact .pure (by simpa) ⟨_, _, .ifElse expr first second, by simp⟩
  | .ret none loc, s, live, _, hw, hfree => .pure live ⟨_, _, .leave loc, rfl⟩
  | .ret (some value) loc, s, live, _, hw, hfree => by
      refine (visitExpr_ends live hw (hfree.mono fun _ hmem => by simp [hmem])).bind
        (fun _ => (Stable.pure ()).bind fun _ => .pure _) ?_
      rintro value' t live' ⟨es, expr, rfl⟩
      exact .pure live' ⟨_, _, .ret loc expr, Run.after_eq_withWork _ _⟩

theorem visitStmts_ends : ∀ {ss : List Stmt} {s : Run Names}, s.halted = none →
    Room may s.work.symbols (Stmt.declCountOfAll ss) → s.work.Sound base →
    Free base may (Stmt.identsOfAll ss) →
      Ends may s (Stmt.visitAll visitor ss) fun ss' t =>
        ∃ A es, StmtsRule s.work ss ss' A es ∧ t = (s.after es).withWork ⟨A, s.work.table⟩
  | [], s, live, _, hw, hfree => .pure live ⟨_, _, .nil, rfl⟩
  | st :: ss, s, live, room, hw, hfree => by
      refine (visitStmt_ends live (room.mono (Nat.le_add_right _ _)) hw
        (hfree.mono fun _ hmem => by simp [hmem])).bind
        (fun _ => (stable_visitor.stmtVisitAll _).bind fun _ => .pure _) ?_
      rintro st' t live' ⟨A, es, first, rfl⟩
      have hsound := (first.extends hw).sound
      refine (visitStmts_ends live' (room.after first.growsBy) hsound
        (hfree.mono fun _ hmem => by simp [hmem])).bind
        (fun _ => .pure _) ?_
      rintro ss' t live'' ⟨B, fs, rest, rfl⟩
      exact .pure live'' ⟨_, _, .cons first rest, by simp⟩

end

/-! ## Functions -/

lemma run_rejectDuplicate_taken {id : Ident} {h : SymbolId} (live : s.halted = none)
    (hopen : s.work.table.scopes ≠ []) (known : s.work.table.local? id.name = some h) :
    (rejectDuplicate id).run s = (true, s.after [.reported id.loc .duplicateDeclaration]) := by
  refine (run_bind run_table).trans ?_
  rw [ScopeStack.lookupLocal_of_open hopen]
  refine (run_bind (run_require_ok _ _)).trans ?_
  rw [known]
  exact run_bind (run_report live _ _)

lemma run_rejectDuplicate_free {id : Ident} (hopen : s.work.table.scopes ≠ [])
    (free : s.work.table.local? id.name = none) : (rejectDuplicate id).run s = (false, s) := by
  refine (run_bind run_table).trans ?_
  rw [ScopeStack.lookupLocal_of_open hopen]
  refine (run_bind (run_require_ok _ _)).trans ?_
  rw [free]
  rfl

lemma introduceHere_ends {target : ScopeStack} {id : Ident} {kind : Symbol.Kind}
    (live : s.halted = none) (room : Room may s.work.symbols 1)
    (hid : id.symbol? = none ∨ Lenient base may)
    (hd : s.work.table.declare id.name s.work.symbols.nextId = .ok target) :
    Ends may s (introduceHere id kind) fun r t =>
      ∃ room : s.work.symbols.size < UInt32.size,
        r = (id.bindTo s.work.symbols.nextId, s.work.symbols.nextId) ∧
          t = s.withWork ⟨s.work.symbols.push { name := id.name, kind } room, target⟩ := by
  refine .run_bind run_table ((introduce_ends live room hid hd).bind
    (fun _ => (stable_setTable _).bind fun _ => .pure _) ?_)
  rintro _ t live' ⟨hlt, rfl, rfl⟩
  exact .run_bind (run_setTable live' _) (.pure (by simpa) ⟨hlt, rfl, rfl⟩)

/-- Names with parameter types for a function, if one was declared. -/
def laterParams (w : Names) (params : List Ty) : Option SymbolId → Names
  | none => w
  | some h => w.withParams h params

@[simp] lemma table_laterParams (w : Names) (params : List Ty) (h : Option SymbolId) :
    (laterParams w params h).table = w.table := by
  cases h <;> rfl

/-- The function is declared without parameters, and nothing would be different had it been
declared with those that it gets later. -/
lemma declareFn_ends {id : Ident} {ret : Ty} (live : s.halted = none)
    (room : Room may s.work.symbols 1) (hw : s.work.Sound base)
    (hid : id.symbol? = none ∨ Lenient base may) (hret : ret.isWritten = true ∨ ret = .error) :
    Ends may s (declareFn id ret) fun r t => ∃ w es,
      t = (s.after es).withWork w ∧ w.Sound base ∧ s.work.symbols.GrowsBy 1 w.symbols ∧
      (∀ h, r.2 = some h → ∃ f, w.symbols.get h = .ok f) ∧
      ∀ params, HeadRule s.work id params ret r.1 (laterParams w params r.2) es := by
  unfold declareFn
  cases hlocal : s.work.table.local? id.name with
  | some h =>
      refine .run_bind (run_rejectDuplicate_taken live hw.opened hlocal) (.pure (by simpa) ?_)
      exact ⟨s.work, _, Run.after_eq_withWork _ _, hw, .refl 1 _, nofun, fun _ => .taken hlocal⟩
  | none =>
      obtain ⟨target, hd⟩ := ScopeStack.declare_of_free hw.opened hlocal s.work.symbols.nextId
      refine .run_bind (run_rejectDuplicate_free hw.opened hlocal)
        ((introduceHere_ends live room hid hd).bind (fun _ => .pure _) ?_)
      rintro _ t live' ⟨hlt, rfl, rfl⟩
      refine .pure live'
        ⟨_, [], rfl, hw.introduce hlt ⟨nofun, hret⟩ hd, .push _ hlt, ?_, fun params => ?_⟩
      · rintro h hh
        obtain rfl := Option.some.inj hh
        exact ⟨_, Arena.get_nextId_push _ hlt⟩
      · show HeadRule s.work id params ret _ ⟨Arena.withParams _ _ params, target⟩ []
        rw [Arena.push_withParams]
        exact .declared hlt hd

lemma returnType_ends {ret : TypeName} (live : s.halted = none) (hw : s.work.Sound base)
    (hret : Free base may ret.idents) :
    Ends may s (returnType ret) fun r t =>
      ∃ es, ReturnRule s.work ret r.1 r.2 es ∧ t = s.after es := by
  cases ret with
  | struct name =>
      refine .run_bind run_table ((useStruct_ends live hw
        (hret.of_mem List.mem_cons_self)).bind (fun _ => .pure _) ?_)
      rintro ⟨name', defn⟩ t live' ⟨es, type, rfl⟩
      refine .pure live' ⟨es, ?_, rfl⟩
      show ReturnRule s.work _ (.struct name')
        (if defn.isSome then .struct name'.name else .error) es
      rw [type.name_eq]
      exact .struct type
  | _ => exact .pure live ⟨_, .plain nofun, rfl⟩

lemma run_setParams {h : SymbolId} {f : Symbol} (live : s.halted = none)
    (hg : s.work.symbols.get h = .ok f) (formals : List VarDecl) :
    (setParams h formals).run s =
      ((), s.withWork (s.work.withParams h (writtenTypes formals))) := by
  refine (run_bind run_symbols).trans ?_
  dsimp only
  rw [Arena.modify_withParams hg]
  exact (run_bind (run_require_ok _ _)).trans (run_update live _)

/-- The body of a function in the scope of its formals, up to the end of the function. -/
lemma body_ends {f : FnDecl} {outer : Names} {ret : TypeName} {id : Ident} {formals : List VarDecl}
    (live : s.halted = none) (room : Room may s.work.symbols f.body.declCount)
    (hw : s.work.Sound base) (hbody : Free base may f.body.idents)
    (houter : s.work.table.scopes.tail = outer.table.scopes) :
    Ends may s (do
        let body ← f.body.visit visitor
        closeScope
        return { ret, id, formals, body } : Naming FnDecl)
      fun f' t => ∃ body w es, BlockRule s.work f.body body w es ∧
        f' = { ret, id, formals, body } ∧
        t = (s.after (es ++ [.closed outer.table.depth])).withWork ⟨w.symbols, outer.table⟩ := by
  refine (visitBlock_ends live room hw hbody).bind
    (fun _ => stable_closeScope.bind fun _ => .pure _) ?_
  rintro body t live' ⟨w, es, rule, rfl⟩
  have hext := rule.extends hw
  refine .run_bind (run_closeScope live' hext.sound.opened (hext.outer.trans houter)) ?_
  exact .pure (by simpa) ⟨_, _, _, rule, rfl, by simp⟩

lemma resolveFn_ends {f : FnDecl} (live : s.halted = none)
    (room : Room may s.work.symbols (Decl.fn f).declCount) (hw : s.work.Sound base)
    (hfree : Free base may (Decl.fn f).idents) :
    Ends may s (resolveFn f) fun f' t =>
      ∃ w es, FnRule s.work f f' w es ∧ t = (s.after es).withWork w := by
  refine (returnType_ends live hw (hfree.mono fun _ => Decl.mem_idents_ret)).bind
    (fun _ => (stable_declareFn _ _).bind fun _ => stable_afterHead _ _ _) ?_
  rintro ⟨ret, ty⟩ t live₁ ⟨es₁, type, rfl⟩
  have hw₁ : (s.after es₁).work.Sound base := by rwa [Run.work_after]
  rw [Decl.declCount, Nat.add_assoc] at room
  have room₁ : Room may (s.after es₁).work.symbols 1 := by
    rw [Run.work_after]
    exact room.mono (Nat.le_add_right _ _)
  refine (declareFn_ends live₁ room₁ hw₁ (hfree.of_mem Decl.mem_idents_fn) type.isWritten).bind
    (fun r => stable_afterHead f ret r) ?_
  rintro ⟨id', h⟩ t live₂ ⟨w, es₂, rfl, hsound, hgrown, hhas, head⟩
  rw [Run.work_after] at hgrown head
  have room₂ : Room may w.symbols f.formals.length :=
    (room.after hgrown).mono (Nat.le_add_right _ _)
  refine .run_bind (run_openScope live₂) ((declareVars_ends (by simpa) room₂ hsound.enter
    (hfree.mono fun _ => Decl.mem_idents_formals)).bind
      (fun formals => stable_afterFormals f ret id' h formals) ?_)
  rintro formals t live₃ ⟨w', es₃, params, rfl⟩
  -- The rules give the function its parameter types before the formals; the pass does it here.
  have head := head (writtenTypes f.formals)
  have hsound' := (head.extends_of_type type hw).sound
  have params' : DeclaresRule id (laterParams w (writtenTypes f.formals) h).enter f.formals
      formals (laterParams w' (writtenTypes f.formals) h) es₃ := by
    cases h with
    | none => exact params
    | some h =>
        obtain ⟨g, hg⟩ := hhas h rfl
        exact params.withParams hg _
  have hext := params'.extends_here hsound'.enter
  have room₃ := (room.after head.growsBy).after params'.growsBy
  have hbody : ∀ t : Run Names, t.halted = none →
      t = (s.after (es₁ ++ es₂ ++ .opened w.enter.table.depth :: es₃)).withWork
        (laterParams w' (writtenTypes f.formals) h) →
      Ends may t (do
        let body ← f.body.visit visitor
        closeScope
        return { ret, id := id', formals, body } : Naming FnDecl) fun f' t =>
          ∃ w es, FnRule s.work f f' w es ∧ t = (s.after es).withWork w := by
    rintro t live₄ rfl
    have hbody : Free base may f.body.idents := hfree.mono fun _ => Decl.mem_idents_body
    refine (body_ends live₄ room₃ hext.sound hbody hext.outer).mono ?_
    rintro f' t ⟨body, w'', es₄, inside, rfl, rfl⟩
    refine ⟨_, _, .mk type head params' inside, ?_⟩
    simp
  cases h with
  | none => exact hbody _ live₃ (by simp [laterParams])
  | some h =>
      obtain ⟨g, hg⟩ := hhas h rfl
      have hg' : w'.symbols.get h = .ok g :=
        (params.extends_here hsound.enter).grows h g hg
      refine .run_bind (run_setParams live₃ hg' formals) (hbody _ (by simpa using live₃) ?_)
      rw [params.writtenTypes]
      simp [laterParams]

/-! ## Structs and programs -/

lemma resolveStruct_ends {st : StructDecl} (live : s.halted = none)
    (room : Room may s.work.symbols (Decl.struct st).declCount) (hw : s.work.Sound base)
    (hfree : Free base may (Decl.struct st).idents) :
    Ends may s (resolveStruct st) fun st' t =>
      ∃ w es, StructRule s.work st st' w es ∧ t = (s.after es).withWork w := by
  have hfields := hfree.mono fun _ => Decl.mem_idents_fields
  have hid := hfree.of_mem Decl.mem_idents_struct
  have hafter : ∀ {es : List Event} {t : Run Names}, t.halted = none → t = s.after es →
      Ends may t (declareFields s.work.table .withScope st.fields) fun r u => ∃ A fs,
        DeclaresRule (fun _ => s.work.table) ⟨s.work.symbols, .withScope⟩ st.fields r.2
          ⟨A, r.1⟩ fs ∧ u = (s.after (es ++ fs)).withWork ⟨A, s.work.table⟩ := by
    rintro es t live' rfl
    have hw' : (s.after es).work.Sound base := by rwa [Run.work_after]
    have room' : Room may (s.after es).work.symbols st.fields.length := by
      rw [Run.work_after]
      exact room.mono (Nat.le_add_left _ _)
    refine (declareFields_ends live' room' (by simpa using hw) hw'.withScope hfields).mono ?_
    rintro r u ⟨A, fs, all, rfl⟩
    rw [Run.work_after] at all ⊢
    exact ⟨A, fs, all, by simp⟩
  unfold resolveStruct
  cases hlocal : s.work.table.local? st.id.name with
  | some h =>
      have live' : (s.after [.reported st.id.loc .duplicateDeclaration]).halted = none := by simpa
      refine .run_bind (run_rejectDuplicate_taken live hw.opened hlocal)
        (.run_bind (run_note live' rfl) (.run_bind run_table ?_))
      rw [Run.after_after, Run.work_after]
      refine (hafter (by simpa) rfl).bind (fun _ => .pure _) ?_
      rintro ⟨stack, fields⟩ t live'' ⟨A, es, all, rfl⟩
      exact .pure live'' ⟨_, _, .taken hlocal all, rfl⟩
  | none =>
      refine .run_bind (run_rejectDuplicate_free hw.opened hlocal)
        (.run_bind (run_note live rfl) (.run_bind run_table ?_))
      rw [Run.work_after]
      refine (hafter (by simpa) rfl).bind
        (fun _ => (stable_introduceHere _ _).bind fun _ => (Stable.note _).bind fun _ => .pure _) ?_
      rintro ⟨stack, fields⟩ t live'' ⟨A, es, all, rfl⟩
      obtain ⟨target, hd⟩ := ScopeStack.declare_of_free hw.opened hlocal A.nextId
      rw [Decl.declCount, Nat.add_comm] at room
      refine (introduceHere_ends live'' (room.after all.growsBy) hid hd).bind
        (fun _ => (Stable.note _).bind fun _ => .pure _) ?_
      rintro _ t live₃ ⟨hlt, rfl, rfl⟩
      have rule := StructRule.declared all hlt hd
      exact .run_bind (run_note live₃ rfl) (.pure (by simpa) ⟨_, _, rule, by simp⟩)

lemma resolveDecl_ends {d : Decl} (live : s.halted = none)
    (room : Room may s.work.symbols d.declCount) (hw : s.work.Sound base)
    (hfree : Free base may d.idents) :
    Ends may s (resolveDecl d) fun d' t =>
      ∃ w es, DeclRule s.work d d' w es ∧ t = (s.after es).withWork w := by
  cases d with
  | var d =>
      refine (declareVar_ends live room hw (hfree.mono fun _ => List.mem_append_left _)).bind
        (fun _ => .pure _) ?_
      rintro d' t live' ⟨w, es, rule, rfl⟩
      exact .pure live' ⟨_, _, .var rule, rfl⟩
  | fn f =>
      refine (resolveFn_ends live room hw hfree).bind (fun _ => .pure _) ?_
      rintro f' t live' ⟨w, es, rule, rfl⟩
      exact .pure live' ⟨_, _, .fn rule, rfl⟩
  | struct st =>
      refine (resolveStruct_ends live room hw hfree).bind (fun _ => .pure _) ?_
      rintro st' t live' ⟨w, es, rule, rfl⟩
      exact .pure live' ⟨_, _, .struct rule, rfl⟩

lemma resolveDecls_ends {ds : List Decl} (live : s.halted = none)
    (room : Room may s.work.symbols (Decl.declCountOfAll ds)) (hw : s.work.Sound base)
    (hfree : Free base may (ds.flatMap Decl.idents)) :
    Ends may s (ds.mapM resolveDecl) fun ds' t =>
      ∃ w es, DeclsRule s.work ds ds' w es ∧ t = (s.after es).withWork w := by
  induction ds generalizing s with
  | nil =>
      rw [List.mapM_nil]
      exact .pure live ⟨_, _, .nil, rfl⟩
  | cons d ds ih =>
      rw [List.flatMap_cons] at hfree
      rw [List.mapM_cons]
      refine (resolveDecl_ends live (room.mono (Nat.le_add_right _ _)) hw
        (hfree.mono fun _ => List.mem_append_left _)).bind
        (fun _ => (Stable.mapM stable_resolveDecl _).bind fun _ => .pure _) ?_
      rintro d' t live' ⟨w, es, first, rfl⟩
      refine (ih live' (room.after first.growsBy) (first.extends hw).sound
        (hfree.mono fun _ => List.mem_append_right _)).bind (fun _ => .pure _) ?_
      rintro ds' t live'' ⟨w', fs, rest, rfl⟩
      exact .pure live'' ⟨_, _, .cons first rest, by simp⟩

/-- The last events of name resolution: the scopes are written out if asked for, and the program
scope is closed. -/
def lastEvents (dumpScopes : Bool) (w : Names) (errors : Nat) : List Event :=
  (if dumpScopes then [.scopes (w.table.listing w.symbols)] else []) ++
    [.closed 0, .namingFinished w.symbols.size errors]

lemma reports_lastEvents (dumpScopes : Bool) (w : Names) (errors : Nat) :
    reports (lastEvents dumpScopes w errors) = [] := by
  cases dumpScopes <;> rfl

/-- The end of name resolution. -/
lemma finish_program (dumpScopes : Bool) (decls : List Decl) (live : s.halted = none)
    (hopen : s.work.table.scopes ≠ []) (houter : s.work.table.scopes.tail = []) :
    (do
      if dumpScopes then
        logScopes
      closeScope
      note (.namingFinished (← symbols).size (← get).errors)
      return { decls } : Naming Program).run s =
        ({ decls }, (s.after (lastEvents dumpScopes s.work s.errors)).withWork
          ⟨s.work.symbols, .empty⟩) := by
  have hclose : ∀ t : Run Names, t.halted = none → t.work = s.work →
      (do
        closeScope
        note (.namingFinished (← symbols).size (← get).errors)
        return { decls } : Naming Program).run t =
          ({ decls }, (t.after [.closed 0, .namingFinished s.work.symbols.size t.errors]).withWork
            ⟨s.work.symbols, .empty⟩) := by
    intro t live' hwork
    have hrun : closeScope.run t = _ := run_closeScope live' (by rwa [hwork])
      (show t.work.table.scopes.tail = ScopeStack.empty.scopes by rwa [hwork])
    rw [hwork] at hrun
    generalize hclosed : (t.after [.closed ScopeStack.empty.depth]).withWork
      ⟨s.work.symbols, .empty⟩ = closed at hrun
    have hsymbols : closed.work.symbols = s.work.symbols := by rw [← hclosed]; rfl
    have herrors : closed.errors = t.errors := by rw [← hclosed]; rfl
    have live'' : closed.halted = none := by rw [← hclosed]; simpa
    refine (run_bind hrun).trans ((run_bind run_symbols).trans ((run_bind (run_get _)).trans
      ((run_bind (run_note live'' rfl)).trans ?_)))
    rw [run_return, hsymbols, herrors, ← hclosed, Run.after_withWork, Run.after_after]
    rfl
  cases dumpScopes with
  | false => exact hclose s live rfl
  | true =>
      have hlog : logScopes.run s = ((), s.after [.scopes (s.work.table.listing s.work.symbols)]) :=
        (run_bind run_table).trans ((run_bind run_symbols).trans (run_note live rfl))
      have hrun := hclose (s.after [.scopes (s.work.table.listing s.work.symbols)])
        (by simpa) (by simp)
      rw [Run.after_after] at hrun
      exact (run_bind hlog).trans hrun

/-- What a run is after name resolution: the symbols and the events of the rules, between events of
the pass that report nothing, and no scope. -/
def Resolved (s : Run Names) (w : Names) (es : List Event) (t : Run Names) : Prop :=
  t.halted = none ∧ ∃ before after, reports before = [] ∧ reports after = [] ∧
    t = ((s.restart s.work).after (before ++ es ++ after)).withWork ⟨w.symbols, .empty⟩

lemma Resolved.outcome {t : Run Names} {w : Names} {es : List Event} (h : Resolved s w es t) :
    t.outcome = .ok () := by
  rw [Run.outcome, h.1]

lemma Resolved.symbols_eq {t : Run Names} {w : Names} {es : List Event} (h : Resolved s w es t) :
    t.work.symbols = w.symbols := by
  obtain ⟨-, before, after, -, -, rfl⟩ := h
  rfl

end Naming

open Naming in
/-- The run after name resolution, with all that it has logged. -/
def Run.resolved (s : Run Names) (dumpScopes : Bool) (p : Program) (w : Names) (es : List Event) :
    Run Names :=
  ((s.restart s.work).after (.namingStarted p.decls.length :: .opened 1 :: es ++
    lastEvents dumpScopes w (s.errors + (reports es).length))).withWork ⟨w.symbols, .empty⟩

open Naming Pass in
/-- Name resolution of a program, with all events of the run. -/
theorem resolveProgram_logs {base : Nat} {may : Fault → Prop} (dumpScopes : Bool) (p : Program)
    (s : Run Names) (room : Room may s.work.symbols p.declCount)
    (hA : s.work.symbols.Sound base) (hle : base ≤ s.work.symbols.size)
    (hfree : Free base may p.idents) :
    Ends may s (resolveProgram dumpScopes p) fun p' t => ∃ w es,
      DeclsRule ⟨s.work.symbols, .withScope⟩ p.decls p'.decls w es ∧
        t = s.resolved dumpScopes p w es := by
  have hw : Names.Sound base ⟨s.work.symbols, .withScope⟩ := Names.sound_withScope hA hle
  have hdecls : Free base may (p.decls.flatMap Decl.idents) :=
    hfree.mono fun _ => Program.mem_idents_decls
  have hstart : (s.restart { s.work with table := .empty }).halted = none := rfl
  unfold resolveProgram
  refine .run_bind (run_modify _ s) (.run_bind (run_note hstart rfl)
    (.run_bind (run_openScope (by simp))
      ((resolveDecls_ends (by simp) (by exact room) hw hdecls).bind ?_ ?_)))
  · intro decls
    have htail : (do
        closeScope
        note (.namingFinished (← symbols).size (← get).errors)
        return { decls } : Naming Program).Stable :=
      stable_closeScope.bind fun _ => stable_symbols.bind fun _ => Stable.get.bind fun _ =>
        (Stable.note _).bind fun _ => .pure _
    cases dumpScopes with
    | false => exact htail
    | true => exact stable_logScopes.bind fun _ => htail
  · rintro decls t live ⟨w, es, rule, rfl⟩
    have hext := rule.extends hw
    refine .of_run (finish_program dumpScopes decls live hext.sound.opened hext.outer) (by simp)
      ⟨w, es, rule, ?_⟩
    have hrestart : s.restart ⟨s.work.symbols, .empty⟩ =
      (s.restart s.work).withWork ⟨s.work.symbols, .empty⟩ := rfl
    have herrors : (((s.restart s.work).after
        (.namingStarted p.decls.length :: .opened 1 :: es)).withWork w).errors =
          s.errors + (reports es).length := Run.errors_after (s.restart s.work) _
    rw [hrestart, Run.resolved, ← herrors]
    simp
    rfl

open Naming Pass in
/-- **The pass follows the rules.**  From any run, name resolution of a program ends as the rules
say, or with a fault that comes from the tree or from a lack of handles. -/
theorem resolveProgram_ends {base : Nat} {may : Fault → Prop} (dumpScopes : Bool) (p : Program)
    (s : Run Names) (room : Room may s.work.symbols p.declCount)
    (hA : s.work.symbols.Sound base) (hle : base ≤ s.work.symbols.size)
    (hfree : Free base may p.idents) :
    Ends may s (resolveProgram dumpScopes p) fun p' t => ∃ w es,
      DeclsRule ⟨s.work.symbols, .withScope⟩ p.decls p'.decls w es ∧ Resolved s w es t := by
  refine (resolveProgram_logs dumpScopes p s room hA hle hfree).mono ?_
  rintro p' t ⟨w, es, rule, rfl⟩
  exact ⟨w, es, rule, by simp [Run.resolved], [.namingStarted p.decls.length, .opened 1],
    lastEvents dumpScopes w (s.errors + (reports es).length), rfl, reports_lastEvents _ _ _, rfl⟩

open Naming in
/-- From any run with a handle left for each declaration, name resolution of a program in which
nothing is bound goes on to its end. -/
theorem resolveProgram_goes_on (dumpScopes : Bool) {p : Program}
    (unbound : ∀ id ∈ p.idents, id.symbol? = none) (s : Run Names)
    (room : s.work.symbols.size + p.declCount ≤ UInt32.size) :
    ∃ named t, (resolveProgram dumpScopes p).run s = (named, t) ∧ ∃ w es,
      DeclsRule ⟨s.work.symbols, .withScope⟩ p.decls named.decls w es ∧ Resolved s w es t := by
  obtain ⟨named, t, hrun, -, hends⟩ := (resolveProgram_ends dumpScopes p s (Or.inl room)
    s.work.symbols.sound_size (Nat.le_refl _) (Or.inl unbound)).goes_on
  exact ⟨named, t, hrun, hends⟩

end StructLang
