import Mathlib.Tactic.Common
import StructLang.Proofs.Accepted
import StructLang.Proofs.Meanings

/-!
# Well typed expressions

A rule of name resolution and the type checking of what comes out of it, against the static
semantics, in scopes and an environment that say the same.

* `DeclaresRule.of_ok`, `DeclaresRule.ok` — declarations are reported unless they are well formed,
  and the scopes after them say what the environment after them says.
* `ExprRule.hasType_iff` — an expression is well typed exactly if neither pass finds anything wrong
  in it, and then its type is the one in its slot.
-/

namespace StructLang

/-! ## Declarations -/

namespace Naming

variable {A : Arena} {env env' : Env} {m : Meaning}

/-- Struct types are looked up where the table and the environment say the same. -/
def Agree (types : ScopeStack → ScopeStack) (outer : Env → Env) (A : Arena) : Prop :=
  ∀ B table env, A.Grows B → Env.Describes env B table → (outer env).Describes B (types table)

lemma agree_id (A : Arena) : Agree id id A := fun _ _ _ _ hdesc => hdesc

lemma agree_const {table : ScopeStack} (hdesc : env.Describes A table) :
    Agree (fun _ => table) (fun _ => env) A := fun _ _ _ hgrows _ => hdesc.grows hgrows

lemma Agree.grows {types : ScopeStack → ScopeStack} {outer : Env → Env} {B : Arena}
    (hagree : Agree types outer A) (hAB : A.Grows B) : Agree types outer B :=
  fun C table env hBC hdesc => hagree C table env (hAB.trans hBC) hdesc

section

variable {types : ScopeStack} {name name' : Ident} {defn : Option SymbolId} {es : List Event}

lemma StructNameRule.of_known (rule : StructNameRule A types name name' defn es)
    (hdesc : env.Describes A types) {struct : String} {fields : List (String × Meaning)}
    (hknown : env.meaning? name.name = some (.struct struct fields)) :
    reports es = [] ∧ ∃ h, defn = some h ∧ Represents A h (.struct struct fields) := by
  obtain ⟨h, hfind, hrep⟩ := hdesc.meaning_some hknown
  cases rule with
  | means found symbol isStruct =>
      obtain rfl := Option.some.inj (hfind.symm.trans found)
      exact ⟨rfl, h, rfl, hrep⟩
  | invalid wrong =>
      obtain ⟨d, hd, hdef⟩ := wrong h hfind
      cases hrep with
      | struct symbol all =>
          obtain rfl := Except.ok.inj (hd.symm.trans symbol)
          cases hdef

lemma StructNameRule.known (rule : StructNameRule A types name name' defn es)
    (hdesc : env.Describes A types) (hquiet : reports es = []) :
    ∃ struct fields, env.meaning? name.name = some (.struct struct fields) := by
  cases rule with
  | means found symbol isStruct =>
      obtain ⟨m, hknown, hrep⟩ := hdesc.find_some found
      obtain ⟨fields, rfl⟩ := (hrep.isStructDef_iff symbol).1 isStruct
      exact ⟨_, _, hknown⟩
  | invalid wrong => cases hquiet

end

section

variable {types : ScopeStack} {owner : Ident} {ty ty' : TypeName} {kind : Option Symbol.Kind}
  {es : List Event}

/-- A type that is right is not reported, and the variable stands for what it means. -/
lemma KindRule.of_varOk (rule : KindRule A types owner ty ty' kind es)
    (hdesc : env.Describes A types) (hok : VarOk env ty m) :
    reports es = [] ∧ ∃ k, kind = some k ∧ ∀ {B : Arena} {h : SymbolId} {name : String},
      A.Grows B → B.get h = .ok { name, kind := k } → Represents B h m := by
  cases hok with
  | int =>
      cases rule
      exact ⟨rfl, _, rfl, fun _ symbol => .int symbol⟩
  | bool =>
      cases rule
      exact ⟨rfl, _, rfl, fun _ symbol => .bool symbol⟩
  | struct known =>
      cases rule with
      | struct type =>
          obtain ⟨hquiet, h, rfl, hrep⟩ := type.of_known hdesc known
          exact ⟨hquiet, _, rfl, fun hgrows symbol => .record symbol (hrep.grows hgrows)⟩

lemma KindRule.varOk (rule : KindRule A types owner ty ty' kind es)
    (hdesc : env.Describes A types) (hquiet : reports es = []) : ∃ m, VarOk env ty m := by
  cases rule with
  | int => exact ⟨_, .int⟩
  | bool => exact ⟨_, .bool⟩
  | void => cases hquiet
  | struct type =>
      obtain ⟨struct, fields, hknown⟩ := type.known hdesc hquiet
      exact ⟨_, .struct hknown⟩

end

section

variable {types : ScopeStack → ScopeStack} {outer : Env → Env} {w w' : Names} {es : List Event}

/-- A declaration that is well formed is not reported, and names and environment go on alike. -/
lemma DeclareRule.of_ok {d d' : VarDecl} (rule : DeclareRule types w d d' w' es)
    (hagree : Agree types outer w.symbols) (hdesc : env.Describes w.symbols w.table)
    (hok : VarOk (outer env) d.ty m) (hd : env.Declares d.id.name m env') :
    reports es = [] ∧ env'.Describes w'.symbols w'.table := by
  have htypes := hagree _ _ _ (.refl _) hdesc
  cases rule with
  | taken type known =>
      rw [hdesc.local_of_declares hd] at known
      cases known
  | rejected type free =>
      obtain ⟨-, k, hk, -⟩ := type.of_varOk htypes hok
      cases hk
  | @declared _ kind _ _ type room scope =>
      obtain ⟨hquiet, k, hk, hrep⟩ := type.of_varOk htypes hok
      obtain rfl := Option.some.inj hk
      have hgrows := w.symbols.grows_push { name := d.id.name, kind } room
      refine ⟨?_, hdesc.declare hd scope hgrows (hrep hgrows (Arena.get_nextId_push _ room))⟩
      rw [reports_append, hquiet]
      rfl

/-- A declaration that is not reported is well formed. -/
lemma DeclareRule.ok {d d' : VarDecl} (rule : DeclareRule types w d d' w' es)
    (hagree : Agree types outer w.symbols) (hdesc : env.Describes w.symbols w.table)
    (hquiet : reports es = []) :
    ∃ m env', VarOk (outer env) d.ty m ∧ env.Declares d.id.name m env' ∧
      env'.Describes w'.symbols w'.table := by
  have htypes := hagree _ _ _ (.refl _) hdesc
  suffices h : ∃ m env', VarOk (outer env) d.ty m ∧ env.Declares d.id.name m env' by
    obtain ⟨m, env', hok, hd⟩ := h
    exact ⟨m, env', hok, hd, (rule.of_ok hagree hdesc hok hd).2⟩
  cases rule with
  | taken type known => simp [reports_append] at hquiet
  | rejected type free =>
      obtain ⟨m, hok⟩ := type.varOk htypes hquiet
      obtain ⟨-, k, hk, -⟩ := type.of_varOk htypes hok
      cases hk
  | declared type room scope =>
      obtain ⟨m, hok⟩ := type.varOk htypes (reports_append_eq_nil_iff.1 hquiet).1
      obtain ⟨env', hd⟩ := hdesc.declares_of_declare scope m
      exact ⟨m, env', hok, hd⟩

lemma DeclaresRule.of_ok {base : Nat} {ds ds' : List VarDecl}
    (rule : DeclaresRule types w ds ds' w' es) (ht : SoundTypes base types w.symbols)
    (hw : w.Sound base) (hagree : Agree types outer w.symbols)
    (hdesc : env.Describes w.symbols w.table) (hok : VarsOk outer env ds env') :
    reports es = [] ∧ env'.Describes w'.symbols w'.table := by
  induction rule generalizing env with
  | nil =>
      cases hok
      exact ⟨rfl, hdesc⟩
  | cons first rest ih =>
      cases hok with
      | cons type declares others =>
          have hfirst := first.extends ht hw
          obtain ⟨hq, hdesc'⟩ := first.of_ok hagree hdesc type declares
          obtain ⟨hqs, hdesc''⟩ := ih (ht.grows hfirst.grows) hfirst.sound
            (hagree.grows hfirst.grows) hdesc' others
          exact ⟨by rw [reports_append, hq, hqs]; rfl, hdesc''⟩

lemma DeclaresRule.ok {base : Nat} {ds ds' : List VarDecl}
    (rule : DeclaresRule types w ds ds' w' es) (ht : SoundTypes base types w.symbols)
    (hw : w.Sound base) (hagree : Agree types outer w.symbols)
    (hdesc : env.Describes w.symbols w.table) (hquiet : reports es = []) :
    ∃ env', VarsOk outer env ds env' ∧ env'.Describes w'.symbols w'.table := by
  induction rule generalizing env with
  | nil => exact ⟨env, .nil, hdesc⟩
  | cons first rest ih =>
      rw [reports_append_eq_nil_iff] at hquiet
      have hfirst := first.extends ht hw
      obtain ⟨m, env', type, declares, hdesc'⟩ := first.ok hagree hdesc hquiet.1
      obtain ⟨env'', others, hdesc''⟩ := ih (ht.grows hfirst.grows) hfirst.sound
        (hagree.grows hfirst.grows) hdesc' hquiet.2
      exact ⟨env'', .cons type declares others, hdesc''⟩

end

/-! ## Expressions -/

section

variable {w : Names} {B : Arena} (hdesc : env.Describes w.symbols w.table)

include hdesc

/-- What denotes something is not reported, and has its symbol. -/
lemma ExprRule.of_denotes {e e' : Expr} {es : List Event} (rule : ExprRule w e e' es)
    (hflag : ∀ x ∈ e.exprs, x.isFlagged = false) (hden : Denotes env e m) :
    reports es = [] ∧ ∃ h, e'.asBase = .symbol h ∧ Represents w.symbols h m := by
  induction hden generalizing e' es with
  | name visible =>
      obtain ⟨h, hfind, hrep⟩ := hdesc.meaning_some visible
      cases rule with
      | name note use =>
          cases use with
          | bound found =>
              obtain rfl := Option.some.inj (hfind.symm.trans found)
              exact ⟨rfl, h, rfl, hrep⟩
          | undeclared missing =>
              rw [hfind] at missing
              cases missing
  | dot record member ih =>
      obtain rfl := hflag _ List.mem_cons_self
      cases rule with
      | dot note first second =>
          obtain ⟨hquiet, h, hbase, hrep⟩ :=
            ih first fun x hx => hflag x (List.mem_cons_of_mem _ hx)
          obtain ⟨table, hfields, htable⟩ := hrep.fieldsOf
          have hmember := (Env.meaning?_singleton _ _).trans member
          obtain ⟨k, hfind, hrep'⟩ := htable.meaning_some hmember
          cases second with
          | skipped wrong =>
              rw [hbase] at wrong
              cases wrong
          | noStruct wrong =>
              rw [WithoutFields, hbase] at wrong
              rcases wrong with wrong | ⟨h', hsymbol, hnone⟩
              · cases wrong
              · obtain rfl := Base.symbol.inj hsymbol
                rw [hfields] at hnone
                cases hnone
          | unknown symbol struct missing =>
              obtain rfl := Base.symbol.inj (hbase.symm.trans symbol)
              obtain rfl := Option.some.inj (Except.ok.inj (hfields.symm.trans struct))
              rw [hfind] at missing
              cases missing
          | selected symbol struct found =>
              obtain rfl := Base.symbol.inj (hbase.symm.trans symbol)
              obtain rfl := Option.some.inj (Except.ok.inj (hfields.symm.trans struct))
              obtain rfl := Option.some.inj (hfind.symm.trans found)
              exact ⟨by rw [reports_append, hquiet]; rfl, k, rfl, hrep'⟩

/-- What has a symbol and is not reported denotes what the symbol stands for. -/
lemma ExprRule.denotes : ∀ {e e' : Expr} {es : List Event} {h : SymbolId}, ExprRule w e e' es →
    reports es = [] → e'.asBase = .symbol h → ∃ m, Denotes env e m ∧ Represents w.symbols h m
  | _, _, _, _, .name note use, hquiet, hbase => by
      cases use with
      | bound found =>
          obtain rfl := Base.symbol.inj hbase
          obtain ⟨m, hknown, hrep⟩ := hdesc.find_some found
          exact ⟨m, .name hknown, hrep⟩
      | undeclared missing => cases hquiet
  | .dot _ _ failed _, _, _, _, .dot note first second, hquiet, hbase => by
      rw [reports_append_eq_nil_iff] at hquiet
      cases second with
      | selected symbol struct found =>
          cases failed with
          | true => cases hbase
          | false =>
              obtain rfl := Base.symbol.inj hbase
              obtain ⟨m, hden, hrep⟩ := first.denotes hquiet.1 symbol
              obtain ⟨name, fields, rfl⟩ := hrep.record_of_fieldsOf struct
              obtain ⟨table, hfields, htable⟩ := hrep.fieldsOf
              obtain rfl := Option.some.inj (Except.ok.inj (hfields.symm.trans struct))
              obtain ⟨m, hknown, hrep'⟩ := htable.find_some found
              rw [Env.meaning?_singleton] at hknown
              exact ⟨m, .dot hden hknown, hrep'⟩
      | skipped wrong => cases hbase
      | noStruct wrong => cases hbase
      | unknown symbol struct missing => cases hbase
  | _, _, _, _, .lit _ _, _, hbase => nomatch hbase
  | _, _, _, _, .assign _ _ _, _, hbase => nomatch hbase
  | _, _, _, _, .call _ _ _, _, hbase => nomatch hbase
  | _, _, _, _, .unary _ _ _, _, hbase => nomatch hbase
  | _, _, _, _, .binary _ _ _ _, _, hbase => nomatch hbase

omit hdesc in
/-- Nothing can be wrong with the types in what denotes something. -/
lemma ExprRule.complaints_of_denotes {e e' : Expr} {es : List Event} (rule : ExprRule w e e' es)
    (hden : Denotes env e m) (b : Bool) : (e'.decorate B).complaints B b = [] := by
  induction hden generalizing e' es with
  | name visible =>
      cases rule
      rfl
  | dot record member ih =>
      cases rule with
      | dot note first second =>
          have hbase := ih first
          exact hbase

omit hdesc in
/-- What has a symbol has the type that the symbol stands for. -/
lemma ty_of_asBase {e : Expr} {h : SymbolId} (hbase : e.asBase = .symbol h)
    (hrep : Represents B h m) : (e.decorate B).ty = m.ty := by
  have hident : ∀ id : Ident, id.symbol? = some h → id.typeIn B = m.ty :=
    fun id hid => Ident.typeIn_eq hid hrep.typeOf
  cases e with
  | name id note =>
      rw [Expr.decorate, Expr.ty_settled, Expr.judged_name]
      refine hident id ?_
      cases hsymbol : id.symbol? with
      | some k => simpa [Expr.asBase, hsymbol] using hbase
      | none => simp [Expr.asBase, hsymbol] at hbase
  | dot base field failed note =>
      rw [Expr.decorate, Expr.ty_settled, Expr.judged_dot]
      refine hident field ?_
      cases failed with
      | true => cases hbase
      | false =>
          cases hsymbol : field.symbol? with
          | some k => simpa [Expr.asBase, hsymbol] using hbase
          | none => simp [Expr.asBase, hsymbol] at hbase
  | _ => cases hbase

/-- What is well typed has a type. -/
lemma isError_of_hasType {e : Expr} {ty : Ty} (hty : HasType env e ty) : ty.isError = false := by
  cases hty with
  | int | string | bool => rfl
  | path denotes => exact Meaning.isError_ty _
  | assign left right scalar => exact scalar.isError
  | call visible all =>
      obtain ⟨h, -, hrep⟩ := hdesc.meaning_some visible
      exact hrep.rightRet
  | unary inner takes => cases takes <;> rfl
  | binary first second takes =>
      generalize BinaryOp.family _ = family at takes
      cases takes <;> rfl

/-- A path has the type of what it denotes. -/
lemma ExprRule.path_iff {e e' : Expr} {es : List Event} {b : Bool} {ty : Ty}
    (hgrows : w.symbols.Grows B) (rule : ExprRule w e e' es)
    (hflag : ∀ x ∈ e.exprs, x.isFlagged = false)
    (hpath : reports es = [] → ∃ h, e'.asBase = .symbol h) :
    (∃ m, Denotes env e m ∧ m.ty = ty) ↔
      reports es = [] ∧ (e'.decorate B).complaints B b = [] ∧ (e'.decorate B).ty = ty := by
  constructor
  · rintro ⟨m, hden, rfl⟩
    obtain ⟨hquiet, h, hbase, hrep⟩ := rule.of_denotes hdesc hflag hden
    exact ⟨hquiet, rule.complaints_of_denotes hden b, ty_of_asBase hbase (hrep.grows hgrows)⟩
  · rintro ⟨hquiet, -, rfl⟩
    obtain ⟨h, hbase⟩ := hpath hquiet
    obtain ⟨m, hden, hrep⟩ := rule.denotes hdesc hquiet hbase
    exact ⟨m, hden, (ty_of_asBase hbase (hrep.grows hgrows)).symm⟩

/-- A name that has a meaning is not reported. -/
lemma UseRule.of_known {id id' : Ident} {es : List Event} (use : UseRule w id id' es)
    (hknown : env.meaning? id.name = some m) : reports es = [] := by
  cases use with
  | bound found => rfl
  | undeclared missing =>
      obtain ⟨h, hfind, -⟩ := hdesc.meaning_some hknown
      rw [missing] at hfind
      cases hfind

/-- A name that is not reported has a meaning, and its type. -/
lemma UseRule.known {id id' : Ident} {es : List Event} (hgrows : w.symbols.Grows B)
    (use : UseRule w id id' es) (hquiet : reports es = []) :
    ∃ h m, env.meaning? id.name = some m ∧ Represents w.symbols h m ∧ id'.typeIn B = m.ty := by
  cases use with
  | @bound h found =>
      obtain ⟨m, hknown, hrep⟩ := hdesc.find_some found
      exact ⟨h, m, hknown, hrep, Ident.typeIn_eq rfl (hrep.grows hgrows).typeOf⟩
  | undeclared missing => cases hquiet

omit hdesc in
lemma blame_eq_nil_iff {b : Bool} {findings : List Finding} :
    blame b findings = [] ↔ findings = [] := by
  simp [blame]

mutual

/-- **Well typed expressions.**  An expression is well typed exactly if neither pass finds anything
wrong in it, and then its type is the one that type checking leaves in its slot. -/
theorem ExprRule.hasType_iff (hgrows : w.symbols.Grows B) : ∀ {e e' : Expr} {es : List Event},
    ExprRule w e e' es → (∀ x ∈ e.exprs, x.isFlagged = false) → ∀ (b : Bool) (ty : Ty),
      (HasType env e ty ↔
        reports es = [] ∧ (e'.decorate B).complaints B b = [] ∧ (e'.decorate B).ty = ty)
  | _, _, _, .lit value note, _, b, ty => by
      rw [hasType_lit_iff, Expr.decorate, Expr.ty_settled]
      cases value <;> exact ⟨fun h => ⟨rfl, rfl, h.symm⟩, fun h => h.2.2.symm⟩
  | _, _, _, .name note use, hflag, b, ty => by
      rw [hasType_name_iff]
      refine ExprRule.path_iff hdesc hgrows (.name note use) hflag fun hquiet => ?_
      cases use with
      | bound found => exact ⟨_, rfl⟩
      | undeclared missing => cases hquiet
  | _, _, _, .dot note first second, hflag, b, ty => by
      rw [hasType_dot_iff]
      refine ExprRule.path_iff hdesc hgrows (.dot note first second) hflag fun hquiet => ?_
      have hfailed := (ExprRule.dot note first second).asBase_ne_failed hflag hquiet
      cases second with
      | selected symbol struct found =>
          obtain rfl := hflag _ List.mem_cons_self
          exact ⟨_, rfl⟩
      | skipped wrong => exact absurd rfl hfailed
      | noStruct wrong => exact nomatch (reports_append_eq_nil_iff.1 hquiet).2
      | unknown symbol struct missing => exact nomatch (reports_append_eq_nil_iff.1 hquiet).2
  | _, _, _, .assign note left right, hflag, b, ty => by
      have hl := left.hasType_iff hgrows (fun x hx => hflag x (by simp [Expr.exprs, hx])) b
      have hr := right.hasType_iff hgrows (fun x hx => hflag x (by simp [Expr.exprs, hx])) b
      rw [hasType_assign_iff, Expr.decorate, Expr.ty_settled, reports_append_eq_nil_iff]
      show _ ↔ _ ∧ _ ++ _ ++ blame b _ = [] ∧ _
      rw [List.append_eq_nil_iff, List.append_eq_nil_iff, blame_eq_nil_iff]
      constructor
      · rintro ⟨ht, hv, hscalar⟩
        obtain ⟨hq₁, hc₁, rfl⟩ := (hl ty).1 ht
        obtain ⟨hq₂, hc₂, hty⟩ := (hr _).1 hv
        have herror := isError_of_hasType hdesc ht
        obtain ⟨hnil, hgrant⟩ := (assignRule_iff herror (hty ▸ herror)).2 ⟨hty.symm, hscalar, rfl⟩
        exact ⟨⟨hq₁, hq₂⟩, ⟨⟨hc₁, hc₂⟩, hnil⟩, hgrant⟩
      · rintro ⟨⟨hq₁, hq₂⟩, ⟨⟨hc₁, hc₂⟩, hnil⟩, hgrant⟩
        have ht := (hl _).2 ⟨hq₁, hc₁, rfl⟩
        have hv := (hr _).2 ⟨hq₂, hc₂, rfl⟩
        obtain ⟨heq, hscalar, rfl⟩ := (assignRule_iff (isError_of_hasType hdesc ht)
          (isError_of_hasType hdesc hv)).1 ⟨hnil, hgrant⟩
        exact ⟨ht, heq ▸ hv, hscalar⟩
  | _, _, _, .call note use all, hflag, b, ty => by
      have hall := all.hasTypes_iff hgrows fun x hx => hflag x (List.mem_cons_of_mem _ hx)
      rw [hasType_call_iff, Expr.decorate, Expr.ty_settled, reports_append_eq_nil_iff]
      show _ ↔ _ ∧ blame b _ ++ _ ++ blame true _ = [] ∧ _
      rw [List.append_eq_nil_iff, List.append_eq_nil_iff, blame_eq_nil_iff, blame_eq_nil_iff,
        Expr.judged_call, Expr.judged_call]
      constructor
      · rintro ⟨params, hknown, hargs⟩
        have hq := use.of_known hdesc hknown
        obtain ⟨h, m, hknown', hrep, htype⟩ := use.known hdesc hgrows hq
        obtain rfl := Option.some.inj (hknown.symm.trans hknown')
        obtain ⟨hqs, hcs, hlength, hnil⟩ := (hall params hrep.rightParams).1 hargs
        rw [htype]
        refine ⟨⟨hq, hqs⟩, ⟨⟨rfl, hcs⟩, ?_⟩, rfl⟩
        simp only [Meaning.ty, judgeCall, hlength, if_true]
        exact hnil
      · rintro ⟨⟨hq, hqs⟩, ⟨⟨hcallee, hcs⟩, hfindings⟩, hty⟩
        obtain ⟨h, m, hknown, hrep, htype⟩ := use.known hdesc hgrows hq
        rw [htype] at hcallee hfindings hty
        cases m with
        | fn params ret =>
            obtain rfl : ret = ty := hty
            simp only [Meaning.ty, judgeCall] at hfindings
            split at hfindings
            · next hlength =>
                exact ⟨params, hknown,
                  (hall params hrep.rightParams).2 ⟨hqs, hcs, hlength, hfindings⟩⟩
            · cases hfindings
        | _ => cases hcallee
  | _, _, _, .unary op note inner, hflag, b, ty => by
      have hinner := inner.hasType_iff hgrows (fun x hx => hflag x (List.mem_cons_of_mem _ hx)) b
      rw [hasType_unary_iff, Expr.decorate, Expr.ty_settled]
      show _ ↔ _ ∧ _ ++ blame b _ = [] ∧ _
      rw [List.append_eq_nil_iff, blame_eq_nil_iff]
      constructor
      · rintro ⟨_, ho, htakes⟩
        obtain ⟨hq, hc, rfl⟩ := (hinner _).1 ho
        obtain ⟨hnil, hgrant⟩ := (UnaryOp.rule_iff (isError_of_hasType hdesc ho)).2 htakes
        exact ⟨hq, ⟨hc, hnil⟩, hgrant⟩
      · rintro ⟨hq, ⟨hc, hnil⟩, hgrant⟩
        have ho := (hinner _).2 ⟨hq, hc, rfl⟩
        exact ⟨_, ho, (UnaryOp.rule_iff (isError_of_hasType hdesc ho)).1 ⟨hnil, hgrant⟩⟩
  | _, _, _, .binary op note first second, hflag, b, ty => by
      have hl := first.hasType_iff hgrows (fun x hx => hflag x (by simp [Expr.exprs, hx])) b
      have hr := second.hasType_iff hgrows (fun x hx => hflag x (by simp [Expr.exprs, hx])) b
      rw [hasType_binary_iff, Expr.decorate, Expr.ty_settled, reports_append_eq_nil_iff]
      show _ ↔ _ ∧ _ ++ _ ++ blame b _ = [] ∧ _
      rw [List.append_eq_nil_iff, List.append_eq_nil_iff, blame_eq_nil_iff]
      constructor
      · rintro ⟨_, ha, hb, htakes⟩
        obtain ⟨hq₁, hc₁, rfl⟩ := (hl _).1 ha
        obtain ⟨hq₂, hc₂, hty⟩ := (hr _).1 hb
        have herror := isError_of_hasType hdesc ha
        obtain ⟨hnil, hresult⟩ := (judgeBinary_iff herror (hty ▸ herror)).2 ⟨hty.symm, htakes⟩
        exact ⟨⟨hq₁, hq₂⟩, ⟨⟨hc₁, hc₂⟩, hnil⟩, hresult⟩
      · rintro ⟨⟨hq₁, hq₂⟩, ⟨⟨hc₁, hc₂⟩, hnil⟩, hresult⟩
        have ha := (hl _).2 ⟨hq₁, hc₁, rfl⟩
        have hb := (hr _).2 ⟨hq₂, hc₂, rfl⟩
        obtain ⟨heq, htakes⟩ := (judgeBinary_iff (isError_of_hasType hdesc ha)
          (isError_of_hasType hdesc hb)).1 ⟨hnil, hresult⟩
        exact ⟨_, ha, heq ▸ hb, htakes⟩

/-- The arguments are well typed exactly if neither pass finds anything wrong in them, and they are
what the parameters ask for. -/
theorem ArgsRule.hasTypes_iff (hgrows : w.symbols.Grows B) : ∀ {args args' : List Expr}
    {es : List Event}, ArgsRule w args args' es →
      (∀ x ∈ Expr.exprsOfAll args, x.isFlagged = false) → ∀ params : List Ty,
        (∀ ty ∈ params, ty.isError = false) → (HasTypes env args params ↔
          reports es = [] ∧ Expr.complaintsOfAll B (Expr.decorateAll B args') = [] ∧
            (Expr.decorateAll B args').length = params.length ∧
            argFindings (Expr.decorateAll B args') params = [])
  | _, _, _, .nil, _, [], _ => iff_of_true .nil ⟨rfl, rfl, rfl, rfl⟩
  | _, _, _, .nil, _, _ :: _, _ => iff_of_false nofun fun ⟨_, _, hlength, _⟩ => nomatch hlength
  | _, _, _, .cons _ _, _, [], _ => iff_of_false nofun fun ⟨_, _, hlength, _⟩ => nomatch hlength
  | _, _, _, .cons first rest, hflag, param :: params, hparams => by
      have hfirst := first.hasType_iff hgrows (fun x hx => hflag x (List.mem_append_left _ hx)) true
      have hrest := rest.hasTypes_iff hgrows (fun x hx => hflag x (List.mem_append_right _ hx))
        params fun ty hty => hparams ty (List.mem_cons_of_mem _ hty)
      have hparam := hparams param List.mem_cons_self
      rw [hasTypes_cons_iff, reports_append_eq_nil_iff, hrest]
      show _ ↔ _ ∧ _ ++ _ = [] ∧ _ + 1 = _ + 1 ∧ _ ++ _ = []
      rw [List.append_eq_nil_iff, List.append_eq_nil_iff, Nat.succ_inj]
      constructor
      · rintro ⟨he, hscalar, hqs, hcs, hlength, hnils⟩
        obtain ⟨hq, hc, hty⟩ := (hfirst _).1 he
        refine ⟨⟨hq, hqs⟩, ⟨hc, hcs⟩, hlength, ?_, hnils⟩
        exact (argRule_quiet_iff (hty ▸ hparam) hparam).2 ⟨hty, hty ▸ hscalar⟩
      · rintro ⟨⟨hq, hqs⟩, ⟨hc, hcs⟩, hlength, hnil, hnils⟩
        have he := (hfirst _).2 ⟨hq, hc, rfl⟩
        obtain ⟨hty, hscalar⟩ := (argRule_quiet_iff (isError_of_hasType hdesc he) hparam).1 hnil
        exact ⟨hty ▸ he, hty ▸ hscalar, hqs, hcs, hlength, hnils⟩

end

end

end Naming

end StructLang
