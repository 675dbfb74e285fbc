import Mathlib.Tactic.Common
import StructLang.Proofs.Transport
import StructLang.Proofs.Uniqueness

/-!
# Two derivations in step

The rules carry over to a relabeled tree if there are handles enough.  If the relabeled tree has a
derivation of its own, then there are: wherever the first tree is given a symbol, so is the second,
since what the names mean is the same in both.  So the second derivation has to be the one that
carries over (`DeclsRule.lockstep`), and nothing need be known of the number of handles.
-/

namespace StructLang

namespace Naming

variable {T : Relabeling} {n : Nat}

/-- Mirrored symbols have a handle each, and so have the others. -/
lemma fits_of_mirrors {A B : Arena} (hm : T.Mirrors n A B) : A.size + n ≤ UInt32.size :=
  hm.size ▸ B.numbered

/-- With a handle for one more behind the others, both can be given a symbol. -/
lemma fits_of_room {A B : Arena} (hm : T.Mirrors n A B) {symbol : Symbol}
    (room : A.size < UInt32.size) (room' : B.size < UInt32.size) :
    (A.push symbol room).size + n ≤ UInt32.size := by
  have hsize := hm.size
  rw [Arena.size_push]
  omega

section

variable {w v w' v' : Names} {es fs : List Event}

/-! ## Declarations -/

/-- A declaration that is given a symbol is given one in mirrored names too. -/
lemma DeclareRule.fits_both {types types' : ScopeStack → ScopeStack} {d d₁ d₂ : VarDecl}
    (rule : DeclareRule types w d d₁ w' es) (rule' : DeclareRule types' v (d.relabel T) d₂ v' fs)
    (ht : TypesMirror T types types') (hm : Names.Mirrors T n w v) :
    w'.symbols.size + n ≤ UInt32.size := by
  have hlocal := hm.local? d.id.name
  cases rule with
  | taken type known => exact fits_of_mirrors hm.symbols
  | rejected type free => exact fits_of_mirrors hm.symbols
  | declared type room scope =>
      rw [ScopeStack.local?_of_declare scope] at hlocal
      have htype := type.relabel hm.symbols.maps
      rw [← ht, ← hm.table] at htype
      cases rule' with
      | taken type' known => cases hlocal.symm.trans known
      | rejected type' free => cases (htype.unique type').2.1
      | declared type' room' scope' => exact fits_of_room hm.symbols room room'

lemma DeclaresRule.fits_both {types types' : ScopeStack → ScopeStack} {ds ds₁ ds₂ : List VarDecl}
    (rule : DeclaresRule types w ds ds₁ w' es)
    (rule' : DeclaresRule types' v (ds.map (·.relabel T)) ds₂ v' fs)
    (ht : TypesMirror T types types') (hm : Names.Mirrors T n w v) :
    w'.symbols.size + n ≤ UInt32.size := by
  induction rule generalizing v ds₂ fs with
  | nil => exact fits_of_mirrors hm.symbols
  | cons first rest ih =>
      cases rule' with
      | cons first' rest' =>
          obtain ⟨_, hfirst, hm₁⟩ := first.relabel ht hm (first.fits_both first' ht hm)
          obtain ⟨-, rfl, -⟩ := first'.unique hfirst
          exact ih rest' hm₁

end

/-! ## Blocks and statements -/

mutual

theorem BlockRule.fits_both : ∀ {w v w' v' : Names} {b b₁ b₂ : Block} {es fs : List Event},
    BlockRule w b b₁ w' es → BlockRule v (b.relabel T) b₂ v' fs → Names.Mirrors T n w v →
      w'.symbols.size + n ≤ UInt32.size
  | _, _, _, _, _, _, _, _, _, .mk decls stmts, .mk decls' stmts', hm => by
      obtain ⟨_, hdecls, hm₁⟩ :=
        decls.relabel typesMirror_id hm (decls.fits_both decls' typesMirror_id hm)
      obtain ⟨-, rfl, -⟩ := decls'.unique hdecls
      exact stmts.fits_both stmts' hm₁

theorem BranchRule.fits_both : ∀ {w v : Names} {A B : Arena} {b b₁ b₂ : Block} {es fs : List Event},
    BranchRule w b b₁ A es → BranchRule v (b.relabel T) b₂ B fs → Names.Mirrors T n w v →
      A.size + n ≤ UInt32.size
  | _, _, _, _, _, _, _, _, _, .mk inside, .mk inside', hm => inside.fits_both inside' hm.enter

theorem StmtRule.fits_both : ∀ {w v : Names} {A B : Arena} {s s₁ s₂ : Stmt} {es fs : List Event},
    StmtRule w s s₁ A es → StmtRule v (s.relabel T) s₂ B fs → Names.Mirrors T n w v →
      A.size + n ≤ UInt32.size
  | _, _, _, _, _, _, _, _, _, .simple _ _, _, hm => fits_of_mirrors hm.symbols
  | _, _, _, _, _, _, _, _, _, .guarded _ _ branch, .guarded _ _ branch', hm =>
      branch.fits_both branch' hm
  | _, _, _, _, _, _, _, _, _, .ifElse _ first second, .ifElse _ first' second', hm => by
      obtain ⟨_, hfirst, hA⟩ := first.relabel hm (first.fits_both first' hm)
      obtain ⟨-, rfl, -⟩ := first'.unique hfirst
      exact second.fits_both second' (hm.later hA)
  | _, _, _, _, _, _, _, _, _, .leave _, _, hm => fits_of_mirrors hm.symbols
  | _, _, _, _, _, _, _, _, _, .ret _ _, _, hm => fits_of_mirrors hm.symbols

theorem StmtsRule.fits_both : ∀ {w v : Names} {A B : Arena} {ss ss₁ ss₂ : List Stmt}
    {es fs : List Event}, StmtsRule w ss ss₁ A es → StmtsRule v (Stmt.relabelAll T ss) ss₂ B fs →
      Names.Mirrors T n w v → A.size + n ≤ UInt32.size
  | _, _, _, _, _, _, _, _, _, .nil, _, hm => fits_of_mirrors hm.symbols
  | _, _, _, _, _, _, _, _, _, .cons first rest, .cons first' rest', hm => by
      obtain ⟨_, hfirst, hA⟩ := first.relabel hm (first.fits_both first' hm)
      obtain ⟨-, rfl, -⟩ := first'.unique hfirst
      exact rest.fits_both rest' (hm.later hA)

end

/-! ## Functions, structs and programs -/

section

variable {w v w' v' : Names} {es fs : List Event}

lemma HeadRule.fits_both {id id₁ id₂ : Ident} {params : List Ty} {ret : Ty}
    (rule : HeadRule w id params ret id₁ w' es)
    (rule' : HeadRule v (id.relabel T) (Ty.relabelAll T params) (ret.relabel T) id₂ v' fs)
    (hm : Names.Mirrors T n w v) : w'.symbols.size + n ≤ UInt32.size := by
  have hlocal := hm.local? id.name
  cases rule with
  | taken known => exact fits_of_mirrors hm.symbols
  | declared room scope =>
      rw [ScopeStack.local?_of_declare scope] at hlocal
      cases rule' with
      | taken known => cases hlocal.symm.trans known
      | declared room' scope' => exact fits_of_room hm.symbols room room'

lemma FnRule.fits_both {f f₁ f₂ : FnDecl} (rule : FnRule w f f₁ w' es)
    (rule' : FnRule v (f.relabel T) f₂ v' fs) (hm : Names.Mirrors T n w v) :
    w'.symbols.size + n ≤ UInt32.size := by
  cases rule with
  | mk type head params inside =>
      cases rule' with
      | mk type' head' params' inside' =>
          obtain ⟨-, rfl, -⟩ := type'.unique (type.relabel hm)
          have hwritten := writtenTypes_relabel (T := T) f.formals
          rw [FnDecl.relabel, hwritten] at head'
          obtain ⟨_, hhead, hm₁⟩ := head.relabel hm (head.fits_both head' hm)
          obtain ⟨-, rfl, -⟩ := head'.unique hhead
          obtain ⟨_, hparams, hm₂⟩ := params.relabel typesMirror_id hm₁.enter
            (params.fits_both params' typesMirror_id hm₁.enter)
          obtain ⟨-, rfl, -⟩ := params'.unique hparams
          exact inside.fits_both inside' hm₂

lemma StructRule.fits_both {s s₁ s₂ : StructDecl} (rule : StructRule w s s₁ w' es)
    (rule' : StructRule v (s.relabel T) s₂ v' fs) (hm : Names.Mirrors T n w v) :
    w'.symbols.size + n ≤ UInt32.size := by
  have ht : TypesMirror T (fun _ => w.table) (fun _ => v.table) := fun _ => hm.table
  have hlocal := hm.local? s.id.name
  cases rule with
  | taken known all =>
      rw [known] at hlocal
      cases rule' with
      | taken known' all' => exact all.fits_both all' ht hm.withScope
      | declared all' room' scope' =>
          cases hlocal.symm.trans (ScopeStack.local?_of_declare scope')
  | declared all room scope =>
      rw [ScopeStack.local?_of_declare scope] at hlocal
      cases rule' with
      | taken known' all' => cases hlocal.symm.trans known'
      | declared all' room' scope' =>
          obtain ⟨_, hall, hm₁⟩ := all.relabel ht hm.withScope (all.fits_both all' ht hm.withScope)
          obtain ⟨-, rfl, -⟩ := all'.unique hall
          exact fits_of_room hm₁.symbols room room'

lemma DeclRule.fits_both {d d₁ d₂ : Decl} (rule : DeclRule w d d₁ w' es)
    (rule' : DeclRule v (d.relabel T) d₂ v' fs) (hm : Names.Mirrors T n w v) :
    w'.symbols.size + n ≤ UInt32.size := by
  cases rule with
  | var rule => cases rule' with | var rule' => exact rule.fits_both rule' typesMirror_id hm
  | fn rule => cases rule' with | fn rule' => exact rule.fits_both rule' hm
  | struct rule => cases rule' with | struct rule' => exact rule.fits_both rule' hm

end

end Naming

end StructLang
