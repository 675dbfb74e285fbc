import Mathlib.Tactic.Common
import StructLang.Proofs.AllBound
import StructLang.Proofs.Analysis

/-!
# Handles on a resolved tree

Every handle that name resolution leaves on a tree has a symbol, and one of the run at hand: on the
names that are declared, on the names of struct types and on the names that are used, at every
level (`DeclsRule.allHave`).
-/

namespace StructLang

namespace Naming

variable {base : Nat} {A B : Arena} {w w' : Names} {es : List Event}

lemma Has.grows {h : SymbolId} (hhas : Has base A h) (hAB : A.Grows B) : Has base B h := by
  obtain ⟨hle, symbol, hg⟩ := hhas
  exact ⟨hle, symbol, hAB h symbol hg⟩

/-- Every handle on the identifiers has a symbol from `base` on. -/
def AllHave (base : Nat) (A : Arena) (ids : List Ident) : Prop :=
  ∀ id ∈ ids, ∀ h, id.symbol? = some h → Has base A h

lemma AllHave.grows {ids : List Ident} (h : AllHave base A ids) (hAB : A.Grows B) :
    AllHave base B ids := fun id hid k hk => (h id hid k hk).grows hAB

lemma AllHave.append {ids jds : List Ident} (h : AllHave base A ids) (h' : AllHave base A jds) :
    AllHave base A (ids ++ jds) := by
  intro id hid
  rcases List.mem_append.1 hid with hid | hid
  · exact h id hid
  · exact h' id hid

lemma allHave_of_noneBound {ids : List Ident} (h : NoneBound ids) : AllHave base A ids := by
  intro id hid k hk
  rw [h id hid] at hk
  cases hk

lemma allHave_bindTo {id : Ident} {h : SymbolId} (hhas : Has base A h) :
    AllHave base A [id.bindTo h] := by
  intro id' hid k hk
  obtain rfl := List.mem_singleton.1 hid
  obtain rfl := Option.some.inj hk
  exact hhas

/-- The symbol that was allocated last. -/
lemma has_nextId (hle : base ≤ A.size) (symbol : Symbol) (room : A.size < UInt32.size) :
    Has base (A.push symbol room) A.nextId :=
  ⟨by rwa [Arena.index_nextId room], symbol, Arena.get_nextId_push symbol room⟩

/-! ## Declarations -/

lemma StructNameRule.allHave {types : ScopeStack} {name name' : Ident} {defn : Option SymbolId}
    (rule : StructNameRule A types name name' defn es) (hw : Names.Sound base ⟨A, types⟩)
    (free : name.symbol? = none) : AllHave base A [name'] := by
  cases rule with
  | means found symbol struct =>
      obtain ⟨hle, -⟩ := hw.named _ _ (ScopeStack.binds_of_find? found)
      exact allHave_bindTo ⟨hle, _, symbol⟩
  | invalid wrong => exact allHave_of_noneBound (List.forall_mem_singleton.2 free)

lemma KindRule.allHave {types : ScopeStack} {owner : Ident} {ty ty' : TypeName}
    {kind : Option Symbol.Kind} (rule : KindRule A types owner ty ty' kind es)
    (hw : Names.Sound base ⟨A, types⟩) (free : NoneBound ty.idents) :
    AllHave base A ty'.idents := by
  cases rule with
  | struct type => exact type.allHave hw (free _ List.mem_cons_self)
  | _ => exact allHave_of_noneBound nofun

lemma DeclareRule.allHave {types : ScopeStack → ScopeStack} {d d' : VarDecl}
    (rule : DeclareRule types w d d' w' es) (ht : SoundTypes base types w.symbols)
    (hw : w.Sound base) (free : NoneBound d.idents) : AllHave base w'.symbols d'.idents := by
  obtain ⟨hty, hid⟩ := noneBound_append.1 free
  have htypes := ht w (.refl _) hw
  cases rule with
  | taken type known => exact (type.allHave htypes hty).append (allHave_of_noneBound hid)
  | rejected type available => exact (type.allHave htypes hty).append (allHave_of_noneBound hid)
  | declared type room scope =>
      exact ((type.allHave htypes hty).grows (Arena.grows_push _ _ room)).append
        (allHave_bindTo (has_nextId hw.base_le _ room))

lemma DeclaresRule.allHave {types : ScopeStack → ScopeStack} {ds ds' : List VarDecl}
    (rule : DeclaresRule types w ds ds' w' es) (ht : SoundTypes base types w.symbols)
    (hw : w.Sound base) (free : NoneBound (ds.flatMap VarDecl.idents)) :
    AllHave base w'.symbols (ds'.flatMap VarDecl.idents) := by
  induction rule with
  | nil => exact allHave_of_noneBound nofun
  | cons first rest ih =>
      rw [List.flatMap_cons, noneBound_append] at free
      have hfirst := first.extends ht hw
      have ht' := ht.grows hfirst.grows
      rw [List.flatMap_cons]
      exact ((first.allHave ht hw free.1).grows (rest.extends ht' hfirst.sound).grows).append
        (ih ht' hfirst.sound free.2)

mutual

theorem BlockRule.allHave : ∀ {w w' : Names} {b b' : Block} {es : List Event},
    BlockRule w b b' w' es → w.Sound base → NoneBound b.declIdents →
      AllHave base w'.symbols b'.declIdents
  | _, _, _, _, _, .mk decls stmts, hw, free => by
      obtain ⟨hds, hss⟩ := noneBound_append.1 free
      have hdecls := decls.extends_here hw
      exact ((decls.allHave (soundTypes_id _) hw hds).grows
        (stmts.extends hdecls.sound).grows).append (stmts.allHave hdecls.sound hss)

theorem BranchRule.allHave : ∀ {w : Names} {A : Arena} {b b' : Block} {es : List Event},
    BranchRule w b b' A es → w.Sound base → NoneBound b.declIdents →
      AllHave base A b'.declIdents
  | _, _, _, _, _, .mk inside, hw, free => inside.allHave hw.enter free

theorem StmtRule.allHave : ∀ {w : Names} {A : Arena} {s s' : Stmt} {es : List Event},
    StmtRule w s s' A es → w.Sound base → NoneBound s.declIdents →
      AllHave base A s'.declIdents
  | _, _, _, _, _, .simple _ _, _, _ | _, _, _, _, _, .leave _, _, _
  | _, _, _, _, _, .ret _ _, _, _ => allHave_of_noneBound nofun
  | _, _, _, _, _, .guarded _ _ branch, hw, free => branch.allHave hw free
  | _, _, _, _, _, .ifElse _ first second, hw, free => by
      obtain ⟨hyes, hno⟩ := noneBound_append.1 free
      have hfirst := first.extends hw
      exact ((first.allHave hw hyes).grows (second.extends hfirst.sound).grows).append
        (second.allHave hfirst.sound hno)

theorem StmtsRule.allHave : ∀ {w : Names} {A : Arena} {ss ss' : List Stmt} {es : List Event},
    StmtsRule w ss ss' A es → w.Sound base → NoneBound (Stmt.declIdentsOfAll ss) →
      AllHave base A (Stmt.declIdentsOfAll ss')
  | _, _, _, _, _, .nil, _, _ => allHave_of_noneBound nofun
  | _, _, _, _, _, .cons first rest, hw, free => by
      obtain ⟨hs, hss⟩ := noneBound_append.1 free
      have hfirst := first.extends hw
      exact ((first.allHave hw hs).grows (rest.extends hfirst.sound).grows).append
        (rest.allHave hfirst.sound hss)

end

/-! ## Programs -/

lemma ReturnRule.allHave {ret ret' : TypeName} {ty : Ty} (rule : ReturnRule w ret ret' ty es)
    (hw : w.Sound base) (free : NoneBound ret.idents) : AllHave base w.symbols ret'.idents := by
  cases rule with
  | plain type => exact allHave_of_noneBound free
  | struct type => exact type.allHave hw (free _ List.mem_cons_self)

lemma HeadRule.allHave {id id' : Ident} {params : List Ty} {ret : Ty}
    (rule : HeadRule w id params ret id' w' es) (hw : w.Sound base) (free : id.symbol? = none) :
    AllHave base w'.symbols [id'] := by
  cases rule with
  | taken known => exact allHave_of_noneBound (List.forall_mem_singleton.2 free)
  | declared room scope => exact allHave_bindTo (has_nextId hw.base_le _ room)

lemma FnRule.allHave {f f' : FnDecl} (rule : FnRule w f f' w' es) (hw : w.Sound base)
    (free : NoneBound (Decl.fn f).declIdents) :
    AllHave base w'.symbols (Decl.fn f').declIdents := by
  obtain ⟨hbefore, hbody⟩ := noneBound_append.1 free
  obtain ⟨hret, hrest⟩ := noneBound_append.1 hbefore
  cases rule with
  | mk type head params inside =>
      have hhead := head.extends_of_type type hw
      have hparams := params.extends_here hhead.sound.enter
      have hinside := inside.extends hparams.sound
      have hlater := hparams.grows.trans hinside.grows
      have hid := (head.allHave hw (hrest _ List.mem_cons_self)).grows hlater
      have hformals := (params.allHave (soundTypes_id _) hhead.sound.enter
        fun id hid => hrest id (List.mem_cons_of_mem _ hid)).grows hinside.grows
      have hall := ((type.allHave hw hret).grows (hhead.grows.trans hlater)).append
        (hid.append hformals)
      exact hall.append (inside.allHave hparams.sound hbody)

lemma StructRule.allHave {s s' : StructDecl} (rule : StructRule w s s' w' es) (hw : w.Sound base)
    (free : NoneBound (Decl.struct s).declIdents) :
    AllHave base w'.symbols (Decl.struct s').declIdents := by
  have hfields : NoneBound (s.fields.flatMap VarDecl.idents) :=
    fun id hid => free id (List.mem_cons_of_mem _ hid)
  cases rule with
  | taken known all =>
      have hid : NoneBound [s.id] := List.forall_mem_singleton.2 (free _ List.mem_cons_self)
      exact (allHave_of_noneBound hid).append
        (all.allHave (soundTypes_const hw) hw.withScope hfields)
  | declared all room scope =>
      have hle := (all.extends_around hw).1.base_le
      exact (allHave_bindTo (has_nextId hle _ room)).append
        ((all.allHave (soundTypes_const hw) hw.withScope hfields).grows (Arena.grows_push _ _ room))

lemma DeclRule.allHave {d d' : Decl} (rule : DeclRule w d d' w' es) (hw : w.Sound base)
    (free : NoneBound d.declIdents) : AllHave base w'.symbols d'.declIdents := by
  cases rule with
  | var rule => exact rule.allHave (soundTypes_id _) hw free
  | fn rule => exact rule.allHave hw free
  | struct rule => exact rule.allHave hw free

lemma DeclsRule.declIdents_allHave {ds ds' : List Decl} (rule : DeclsRule w ds ds' w' es)
    (hw : w.Sound base) (free : NoneBound (ds.flatMap Decl.declIdents)) :
    AllHave base w'.symbols (ds'.flatMap Decl.declIdents) := by
  induction rule with
  | nil => exact allHave_of_noneBound nofun
  | cons first rest ih =>
      rw [List.flatMap_cons, noneBound_append] at free
      have hfirst := first.extends hw
      rw [List.flatMap_cons]
      exact ((first.allHave hw free.1).grows (rest.extends hfirst.sound).grows).append
        (ih hfirst.sound free.2)

/-- **Handles on a resolved tree.**  Every handle on the declarations of a program in which nothing
was filled has a symbol. -/
theorem DeclsRule.allHave {ds ds' : List Decl} (rule : DeclsRule w ds ds' w' es)
    (hw : w.Sound base) (free : NoneBound (ds.flatMap Decl.declIdents))
    (blank : AllBlank (ds.flatMap Decl.exprs)) :
    AllHave base w'.symbols (ds'.flatMap Decl.idents) := by
  have hcarries : Carries base w'.symbols (fun _ => True)
      (fun e => e.ty? = none ∧ ∀ id, e.ident? = some id → id.symbol? = none)
      (fun e => ∀ id, e.ident? = some id → ∀ h, id.symbol? = some h → Has base w'.symbols h) :=
    fun hw hgrows _ _ _ rule hblank _ id hid h hh => (rule.has_ident hw hblank hid hh).grows hgrows
  have huses := rule.carries hcarries hw (.refl _) blank fun _ _ => trivial
  intro id hid h hh
  obtain ⟨d, hd, hid⟩ := List.mem_flatMap.1 hid
  rcases List.mem_append.1 hid with hid | hid
  · exact rule.declIdents_allHave hw free id (List.mem_flatMap.2 ⟨d, hd, hid⟩) h hh
  · obtain ⟨e, he, hident⟩ := List.mem_filterMap.1 hid
    exact huses e (List.mem_flatMap.2 ⟨d, hd, he⟩) id hident h hh

end Naming

end StructLang
