import Mathlib.Data.Int.ModEq
import Trefoil.Proofs.Scoping
import Trefoil.Proofs.Soundness

/-! # Wrapping once

Every sum, difference and product is wrapped to the range of integers, and so are the
values that names are bound to. Wrapping keeps the remainder modulo the number of
integers, and arithmetic respects remainders. So the value of an expression is what
its exact result wraps to. -/

namespace Trefoil

/-! ## Wrapping -/

namespace Integer

theorem inRange_iff {value : Int} :
    inRange value = true ↔ -2 ^ 31 ≤ value ∧ value ≤ 2 ^ 31 - 1 := by
  rw [inRange, Bool.and_eq_true, decide_eq_true_eq, decide_eq_true_eq]
  exact Iff.rfl

theorem wrap_of_inRange {value : Int} (within : inRange value = true) : wrap value = value := by
  rw [inRange_iff] at within
  simp only [wrap, minimum, modulus]
  omega

theorem wrap_modEq (result : Int) : wrap result ≡ result [ZMOD modulus] := by
  have shifted : (result - minimum) % modulus ≡ result - minimum [ZMOD modulus] :=
    Int.mod_modEq _ _
  simpa [wrap] using shifted.add_right minimum

theorem wrap_eq_wrap_of_modEq {left right : Int} (same : left ≡ right [ZMOD modulus]) :
    wrap left = wrap right := by
  have shifted : (left - minimum) % modulus = (right - minimum) % modulus :=
    same.sub_right minimum
  rw [wrap, wrap, shifted]

/-- Wrapping finds the only integer in range with the same remainder. -/
theorem eq_wrap_iff {result value : Int} :
    value = wrap result ↔
      -2 ^ 31 ≤ value ∧ value ≤ 2 ^ 31 - 1 ∧ value ≡ result [ZMOD 2 ^ 32] := by
  constructor
  · intro equal
    rw [equal]
    rcases inRange_iff.mp (inRange_wrap result) with ⟨least, most⟩
    exact ⟨least, most, wrap_modEq result⟩
  · rintro ⟨least, most, same⟩
    rw [← wrap_of_inRange (inRange_iff.mpr ⟨least, most⟩)]
    exact wrap_eq_wrap_of_modEq same

end Integer

/-! ## Exact values -/

def BinaryOp.arithmetic? : BinaryOp → Option (Int → Int → Int)
  | plus => some (· + ·)
  | minus => some (· - ·)
  | times => some (· * ·)
  | equals | blank => none

theorem BinaryOp.wrap_arithmetic {op : BinaryOp} {operation : Int → Int → Int}
    (computes : op.arithmetic? = some operation) (left right : Int) :
    Integer.wrap (operation (Integer.wrap left) (Integer.wrap right)) =
      Integer.wrap (operation left right) := by
  have onLeft := Integer.wrap_modEq left
  have onRight := Integer.wrap_modEq right
  apply Integer.wrap_eq_wrap_of_modEq
  cases op with
  | equals | blank => cases computes
  | plus =>
      cases computes
      exact onLeft.add onRight
  | minus =>
      cases computes
      exact onLeft.sub onRight
  | times =>
      cases computes
      exact onLeft.mul onRight

namespace Expr

def isArithmeticNode : Expr → Bool
  | int value => Integer.inRange value
  | binary op _ _ => op.arithmetic?.isSome
  | var _ | letIn _ _ _ => true
  | _ => false

def Arithmetic (expr : Expr) : Prop := expr.Every isArithmeticNode

instance (expr : Expr) : Decidable expr.Arithmetic :=
  inferInstanceAs (Decidable (expr.Every isArithmeticNode))

/-- The value of an expression in arithmetic that never wraps. Names stand for exact
values too. -/
def unwrapped? : Expr → (String → Option Int) → Option Int
  | int value, _ => some value
  | var name, values => values name
  | binary op left right, values => do
      let operation ← op.arithmetic?
      return operation (← left.unwrapped? values) (← right.unwrapped? values)
  | letIn name bound body, values => do
      let value ← bound.unwrapped? values
      body.unwrapped? (Function.update values name (some value))
  | _, _ => none

theorem Arithmetic.self {expr : Expr} (arithmetic : expr.Arithmetic) :
    expr.isArithmeticNode = true :=
  arithmetic expr (by cases expr <;> simp [nodes])

theorem outcome_applyBinary_arithmetic {op : BinaryOp} {operation : Int → Int → Int}
    (computes : op.arithmetic? = some operation) (room : Nat) (site : Expr) (left right : Int) :
    (applyBinary room op site (int left) (int right)).outcome =
      .ok (int (Integer.wrap (operation left right))) := by
  cases op with
  | equals | blank => cases computes
  | plus | minus | times =>
      cases computes
      rfl

end Expr

namespace Env

def integer? (env : Env) (name : String) : Option Int :=
  match env.lookup name with
  | some (.value (.int value)) => some value
  | _ => none

/-- The names have exact values, and stand for what these wrap to. -/
def WrapsOn (names : List String) (values : String → Option Int) (env : Env) : Prop :=
  ∀ name ∈ names, ∃ result, values name = some result ∧
    env.lookup name = some (.value (.int (Integer.wrap result)))

namespace WrapsOn

variable {names names' : List String} {values : String → Option Int} {env : Env}

theorem mono (wraps : WrapsOn names values env) (subset : names' ⊆ names) :
    WrapsOn names' values env :=
  fun name member => wraps name (subset member)

theorem bindValue {name : String} (wraps : WrapsOn (names.filter (· ≠ name)) values env)
    (result : Int) :
    WrapsOn names (Function.update values name (some result))
      (.bindValue name (.int (Integer.wrap result)) env) := by
  intro other member
  by_cases same : other = name
  · subst same
    exact ⟨result, by simp, by simp [lookup]⟩
  · rcases wraps other (by simp [member, same]) with ⟨value, known, found⟩
    exact ⟨value, by simp [same, known], by simp [lookup, Ne.symm same, found]⟩

end WrapsOn

end Env

/-! ## Evaluation -/

theorem exists_unwrapped_evaluate {expr : Expr} {values : String → Option Int} {env : Env}
    (arithmetic : expr.Arithmetic) (wraps : env.WrapsOn expr.freeNames values) :
    ∃ result, expr.unwrapped? values = some result ∧ ∀ room, expr.depth ≤ room →
      (evaluate room expr env).outcome = .ok (.int (Integer.wrap result)) := by
  -- By induction on the expression: under a `let`, the name has an exact value and stands
  -- for what it wraps to, as the other names do.
  induction expr using Expr.induction generalizing values env with
  | blank | bool _ | nil | cond _ _ _ | cons _ _ | unary _ _ | call _ _ | max _ _ =>
      cases arithmetic.self
  | int value =>
      refine ⟨value, rfl, fun room enough => ?_⟩
      rcases Nat.exists_eq_add_of_le' enough with ⟨room, rfl⟩
      rw [Integer.wrap_of_inRange arithmetic.self]
      rfl
  | var name =>
      rcases wraps name (by simp [Expr.freeNames]) with ⟨result, known, found⟩
      refine ⟨result, known, fun room enough => ?_⟩
      rcases Nat.exists_eq_add_of_le' enough with ⟨room, rfl⟩
      rw [Expr.depth, evaluate, Env.outcome_variableValue, found]
  | binary op left right onLeft onRight =>
      rcases Expr.every_binary.mp arithmetic with ⟨node, arithmeticLeft, arithmeticRight⟩
      rcases Option.isSome_iff_exists.mp node with ⟨operation, computes⟩
      rcases onLeft arithmeticLeft (wraps.mono (by simp [Expr.freeNames])) with
        ⟨exactLeft, knownLeft, evaluatesLeft⟩
      rcases onRight arithmeticRight (wraps.mono (by simp [Expr.freeNames])) with
        ⟨exactRight, knownRight, evaluatesRight⟩
      have filled : op ≠ .blank := by
        intro blank
        rw [blank] at computes
        cases computes
      refine ⟨operation exactLeft exactRight, ?_, fun room enough => ?_⟩
      · simp [Expr.unwrapped?, computes, knownLeft, knownRight]
      · rcases Nat.exists_eq_add_of_le' enough with ⟨spare, rfl⟩
        have enoughLeft : left.depth ≤ spare + Nat.max left.depth right.depth := by grind
        have enoughRight : right.depth ≤ spare + Nat.max left.depth right.depth := by grind
        rw [Expr.depth, ← Nat.add_assoc, evaluate_binary filled, Traced.outcome_bind,
          evaluatesLeft _ enoughLeft, Traced.ok_bind, Traced.outcome_bind,
          evaluatesRight _ enoughRight, Traced.ok_bind,
          Expr.outcome_applyBinary_arithmetic computes, BinaryOp.wrap_arithmetic computes]
  | letIn name bound body onBound onBody =>
      rcases Expr.every_letIn.mp arithmetic with ⟨_, arithmeticBound, arithmeticBody⟩
      rcases onBound arithmeticBound (wraps.mono (by simp [Expr.freeNames])) with
        ⟨exactBound, knownBound, evaluatesBound⟩
      have inner : env.WrapsOn (body.freeNames.filter (· ≠ name)) values :=
        wraps.mono (by simp [Expr.freeNames])
      rcases onBody arithmeticBody (inner.bindValue exactBound) with
        ⟨result, known, evaluatesBody⟩
      refine ⟨result, ?_, fun room enough => ?_⟩
      · simp [Expr.unwrapped?, knownBound, known]
      · rcases Nat.exists_eq_add_of_le' enough with ⟨spare, rfl⟩
        have enoughBound : bound.depth ≤ spare + Nat.max bound.depth body.depth := by grind
        have enoughBody : body.depth ≤ spare + Nat.max bound.depth body.depth := by grind
        have bindable : (Expr.int (Integer.wrap exactBound)).isValue = true := rfl
        rw [Expr.depth, ← Nat.add_assoc, evaluate, Traced.outcome_bind,
          evaluatesBound _ enoughBound, Traced.ok_bind, Traced.outcome_bind,
          Env.outcome_withValue, if_pos bindable, Traced.ok_bind, evaluatesBody _ enoughBody]

/-- Arithmetic on integers has a value, which is what the exact result wraps to: the only
integer in range with the same remainder. It makes no difference that every result on
the way is wrapped. -/
theorem arithmetic_wraps_once {expr : Expr} {env : Env} (arithmetic : expr.Arithmetic)
    (integers : ∀ name ∈ expr.freeNames, ∃ value, Integer.inRange value = true ∧
      env.lookup name = some (.value (.int value))) :
    ∃ result, expr.unwrapped? env.integer? = some result ∧
      (∀ room, expr.depth ≤ room →
        (evaluate room expr env).outcome = .ok (.int (Integer.wrap result))) ∧
      ∀ value, value = Integer.wrap result ↔
        -2 ^ 31 ≤ value ∧ value ≤ 2 ^ 31 - 1 ∧ value ≡ result [ZMOD 2 ^ 32] := by
  have wraps : env.WrapsOn expr.freeNames env.integer? := by
    intro name free
    rcases integers name free with ⟨value, within, found⟩
    exact ⟨value, by rw [Env.integer?, found], by rw [found, Integer.wrap_of_inRange within]⟩
  rcases exists_unwrapped_evaluate arithmetic wraps with ⟨result, known, evaluates⟩
  exact ⟨result, known, evaluates, fun value => Integer.eq_wrap_iff⟩

/-- The square of the greatest integer leaves the range, and its own square does so by
far. -/
theorem arithmetic_wraps_once_squared :
    let square : Expr := .binary .times (.var "x") (.var "x")
    let expr : Expr := .letIn "x" square (.binary .minus square (.binary .plus (.var "x") (.int 1)))
    let env : Env := .bindValue "x" (.int 2147483647) .empty
    expr.Arithmetic ∧
      (∀ name ∈ expr.freeNames, ∃ value, Integer.inRange value = true ∧
        env.lookup name = some (.value (.int value))) ∧
      expr.unwrapped? env.integer? = some 21267647892944572732387174255555510271 ∧
      (evaluate 4 expr env).outcome = .ok (.int (-1)) := by
  intro square expr env
  have arithmetic : expr.Arithmetic := by decide
  have integers : ∀ name ∈ expr.freeNames, ∃ value, Integer.inRange value = true ∧
      env.lookup name = some (.value (.int value)) := by
    intro name free
    have named : name = "x" := by simpa [expr, square, Expr.freeNames] using free
    exact ⟨2147483647, rfl, by rw [named]; rfl⟩
  have known : expr.unwrapped? env.integer? = some 21267647892944572732387174255555510271 := rfl
  rcases arithmetic_wraps_once arithmetic integers with ⟨result, same, evaluates, _⟩
  cases known.symm.trans same
  exact ⟨arithmetic, integers, known, evaluates 4 (by decide)⟩

end Trefoil
