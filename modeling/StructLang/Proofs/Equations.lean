import Mathlib.Tactic.Common
import StructLang.Proofs.Analysis
import StructLang.Proofs.Filling
import StructLang.Proofs.Inspections
import StructLang.Proofs.Readiness
import StructLang.Tree.Build

/-!
# The typing equations

Type checking is a computation, and the tree that it leaves is a solution: every expression in it
stores the type that an equation gives it, and the equation knows the types that are stored on the
parts, and the symbol of an identifier, and nothing else.  This is so of every tree and every arena,
however much is wrong in them, as long as type checking comes to its end.  What it reports on
the way can be read off from the solution afterwards.

* `Expr.equation` — the equations, as tables.  Only a call has a type in spite of wrong operands.
* `typeChecking_solves_equations` — the tree, and the reports.
-/

namespace StructLang

/-! ## Equations -/

/-- The type of a call of something of the type. -/
def Ty.outcome : Ty → Ty
  | .fn _ ret => ret
  | _ => .error

/-- The type of an assignment of a value of the second type to something of the first. -/
def Ty.assigned : Ty → Ty → Ty
  | .int, .int => .int
  | .bool, .bool => .bool
  | _, _ => .error

/-- The type of a unary expression with an operand of the type. -/
def UnaryOp.outcome : UnaryOp → Ty → Ty
  | neg, .int => .int
  | not, .bool => .bool
  | _, _ => .error

/-- The type of a binary expression with operands of the types. -/
def Family.outcome : Family → Ty → Ty → Ty
  | arithmetic, .int, .int => .int
  | logical, .bool, .bool => .bool
  | relational, .int, .int => .bool
  | equality, .int, .int | equality, .bool, .bool => .bool
  | _, _, _ => .error

/-- The type that the expression should store, if its parts store the right ones.  It can fail only
at the symbol of an identifier. -/
def Expr.equation (A : Arena) : Expr → Except Fault Ty
  | .lit (.int _) _ => return .int
  | .lit (.bool _) _ => return .bool
  | .lit (.string _) _ => return .string
  | .name id _ => id.tyIn A
  | .dot _ field _ _ => field.tyIn A
  | .assign target value _ => return target.ty.assigned value.ty
  | .call callee _ _ => return (← callee.tyIn A).outcome
  | .unary op operand _ => return op.outcome operand.ty
  | .binary op left right _ => return op.family.outcome left.ty right.ty

/-! ## Rules and tables -/

section

variable (a b : Ty)

lemma grant_assignRule : (assignRule a b).grant a = a.assigned b := by
  cases a <;> cases b <;> rfl

lemma grant_equalityRule : (equalityRule a b).grant .bool = Family.equality.outcome a b := by
  cases a <;> cases b <;> rfl

lemma UnaryOp.grant_judge (op : UnaryOp) :
    (op.rule.judge a).grant op.rule.result = op.outcome a := by
  cases op <;> cases a <;> rfl

end

lemma judgeBinary_type (op : BinaryOp) (left right : Expr) :
    (judgeBinary op left right).1 = op.family.outcome left.ty right.ty := by
  unfold judgeBinary
  cases op.family with
  | equality => exact grant_equalityRule _ _
  | _ => cases left.ty <;> cases right.ty <;> rfl

lemma judgeCall_type (callee : Ident) (ty : Ty) (args : List Expr) :
    (judgeCall callee ty args).1 = ty.outcome := by
  cases ty <;> rfl

/-! ## Solutions -/

section

variable {A : Arena}

/-- The equation does not look at the type that the expression itself stores. -/
lemma Expr.equation_settled (e : Expr) : (e.settled A).equation A = e.equation A := by
  cases e with
  | lit value note => cases value <;> rfl
  | _ => rfl

/-- The type that is found for an expression whose parts have theirs solves the equation. -/
lemma Expr.Ready.equation_eq {e : Expr} (h : e.Ready A) : e.equation A = .ok (e.judged A).1 := by
  cases e with
  | lit value note => cases value <;> rfl
  | name id note => rw [Expr.judged_name]; exact Ident.tyIn_eq (h.known id rfl)
  | dot base field failed note => rw [Expr.judged_dot]; exact Ident.tyIn_eq (h.known field rfl)
  | call callee args note =>
      rw [Expr.judged_call, Expr.equation, Ident.tyIn_eq (h.known callee rfl), judgeCall_type]
      rfl
  | assign target value note => exact congrArg _ (grant_assignRule _ _).symm
  | unary op operand note => exact congrArg _ (op.grant_judge _).symm
  | binary op left right note => exact congrArg _ (judgeBinary_type op left right).symm

lemma Expr.ty?_settled (e : Expr) : (e.settled A).ty? = some (e.judged A).1 := by
  simp [settled, ty?]

/-- The parts of an expression are decorated before it gets its own type. -/
lemma Expr.decorate_eq_settled (e : Expr) :
    ∃ e' : Expr, e.decorate A = e'.settled A ∧ e'.ty? = e.ty? ∧ e'.ident? = e.ident? := by
  cases e <;> exact ⟨_, rfl, rfl, rfl⟩

/-- A decorated expression stores a solution of its equation. -/
lemma Expr.Ready.solves {e : Expr} (h : e.Ready A) :
    ∃ ty, (e.decorate A).equation A = .ok ty ∧ (e.decorate A).ty? = some ty := by
  obtain ⟨e', heq, hty, hident⟩ := e.decorate_eq_settled (A := A)
  have hready : e'.Ready A := h.of_parts e' hty hident
  rw [heq]
  exact ⟨(e'.judged A).1, e'.equation_settled.trans hready.equation_eq, e'.ty?_settled⟩

/-- **What type checking leaves is a solution.**  If type checking of a program comes to its end,
it leaves the program with nothing but types filled in, and every expression there stores the type
that its equation gives it.  What was reported, in number, order and places, are the findings of the
points of that tree. -/
theorem typeChecking_solves_equations {p : Program} {s : Run Bool}
    (live : ((checkProgram A p).run s).2.halted = none) :
    p.Varies .typing ((checkProgram A p).run s).1 ∧
    (∀ e ∈ ((checkProgram A p).run s).1.exprs, ∃ ty, e.equation A = .ok ty ∧ e.ty? = some ty) ∧
    s.Reported ((checkProgram A p).run s).2
      (((checkProgram A p).run s).1.sites.flatMap (Site.findings A)) := by
  have hready := checkProgram_goes_on_iff.1 live
  obtain ⟨htree, hreported, -⟩ := checkProgram_reported hready s
  refine ⟨yields_checkProgram A p s, ?_, ?_⟩
  · intro e he
    rw [htree, Program.exprs_decorate] at he
    obtain ⟨e₀, he₀, rfl⟩ := List.mem_map.1 he
    exact (hready e₀ he₀).solves
  · rw [htree]
    rw [Program.complaints_findings] at hreported
    exact hreported

/-- A number, and a function that makes a number of a truth value. -/
def numberAndFunction : Arena where
  symbols := #[{ name := "x", kind := .var .int }, { name := "f", kind := .fn [.bool] .int }]
  numbered := Nat.le_of_ble_eq_true rfl

/-- The function `g` puts `f(1) + true` into `x`. -/
def mistypedSum : Program where
  decls := [.fn
    { ret := .void
      id := .unbound "g" .nowhere
      formals := []
      body := .mk []
        [.simple .assign (.set (.use { name := "x", loc := .nowhere, binding := ⟨some ⟨0⟩⟩ })
          (.applyBinary .add
            (.apply { name := "f", loc := .nowhere, binding := ⟨some ⟨1⟩⟩ }
              [.literal (.int 1) .nowhere])
            (.literal (.bool true) .nowhere)))] }]

/-- The call has its type in spite of the argument, and the sum has none; its right operand is
reported after the argument, and the assignment is not. -/
theorem mistypedSum_solves_equations :
    let start : Run Bool := { work := true, sink := {} }
    let done := (checkProgram numberAndFunction mistypedSum).run start
    done.2.halted = none ∧
      (∀ e ∈ done.1.exprs, ∃ ty, e.equation numberAndFunction = .ok ty ∧ e.ty? = some ty) ∧
      start.Reported done.2 (done.1.sites.flatMap (Site.findings numberAndFunction)) ∧
      done.1.exprs.map Expr.ty =
        [.error, .int, .error, .int, .int, .bool] ∧
      (done.1.sites.flatMap (Site.findings numberAndFunction)).map Finding.problem =
        [.argMismatch, .arithmeticOperand] := by
  intro start done
  have live : done.2.halted = none := rfl
  obtain ⟨-, hsolves, hreported⟩ := typeChecking_solves_equations live
  exact ⟨live, hsolves, hreported, rfl, rfl⟩

end

end StructLang
