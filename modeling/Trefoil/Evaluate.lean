import Trefoil.Scope

/-! # Evaluation

The value of an expression in an environment. Operands are evaluated from left to
right, all of them, before an operator looks at what they are. The one exception is
`max`, which looks at each argument before it evaluates the next. A call evaluates its
arguments where it stands, and the body of the function where the function was defined.

Evaluation goes at most `room` levels of nesting deep, counting expressions
inside expressions and the bodies of called functions alike. -/

namespace Trefoil

namespace Expr

def isFalse : Expr → Bool
  | bool false => true
  | _ => false

/-- Applies an operator to integers. `site` is the whole expression. -/
def applyBinary (room : Nat) (op : BinaryOp) (site left right : Expr) : Traced Expr :=
  match op, left, right with
  | .plus, int left, int right => pure (int (Integer.wrap (left + right)))
  | .minus, int left, int right => pure (int (Integer.wrap (left - right)))
  | .times, int left, int right => pure (int (Integer.wrap (left * right)))
  | .equals, int left, int right => pure (bool (left == right))
  | .blank, _, _ => Traced.fault (.sketchedExpr site)
  | op, left, right => Traced.raise room (.notIntegers op site left right)

def applyUnary (room : Nat) (op : UnaryOp) (site value : Expr) : Traced Expr :=
  match op, value with
  | .isNil, nil => pure (bool true)
  | .isNil, _ => pure (bool false)
  | .isCons, cons _ _ => pure (bool true)
  | .isCons, _ => pure (bool false)
  | .car, cons head _ => pure head
  | .cdr, cons _ tail => pure tail
  | .blank, _ => Traced.fault (.sketchedExpr site)
  | op, value => Traced.raise room (.notCons op site value)

def integerArgument (room position : Nat) (site : Expr) : Expr → Traced Int
  | int value => pure value
  | value => Traced.raise room (.notInteger position site value)

/-- The largest of the integers seen so far and the remaining arguments. Each
argument is checked before the next one is evaluated. -/
def largest (room : Nat) (evaluate : Expr → Traced Expr) (site : Expr) :
    (position : Nat) → (best : Int) → List Expr → Traced Int
  | _, best, [] => pure best
  | position, best, argument :: arguments => do
      let value ← evaluate argument
      let candidate ← integerArgument room position site value
      largest room evaluate site (position + 1) (if best < candidate then candidate else best)
        arguments

end Expr

def evaluate : (room : Nat) → Expr → Env → Traced Expr
  | 0, _, _ => Traced.fail .tooDeep
  | room + 1, expr, env =>
      match expr with
      | .int _ | .bool _ | .nil => pure expr
      | .blank | .binary .blank _ _ | .unary .blank _ => Traced.fault (.sketchedExpr expr)
      | .var name => env.variableValue room name (some expr)
      | .binary op left right => do
          let leftValue ← evaluate room left env
          let rightValue ← evaluate room right env
          Expr.applyBinary room op expr leftValue rightValue
      | .unary op operand => do
          let value ← evaluate room operand env
          Expr.applyUnary room op expr value
      | .cond condition thenBranch elseBranch => do
          let value ← evaluate room condition env
          Traced.log (.branchTaken condition value !value.isFalse)
          evaluate room (if value.isFalse then elseBranch else thenBranch) env
      | .letIn name bound body => do
          let value ← evaluate room bound env
          let inner ← env.withValue room name value
          evaluate room body inner
      | .cons head tail => do
          let headValue ← evaluate room head env
          let tailValue ← evaluate room tail env
          return .cons headValue tailValue
      | .max first others => do
          let value ← evaluate room first env
          let start ← Expr.integerArgument room 1 expr value
          let best ← Expr.largest room (evaluate room · env) expr 2 start others
          Traced.log (.largest expr (.int best))
          return .int best
      | .call name arguments => do
          let (definition, scope) ← env.functionNamed room name (some expr)
          if definition.parameters.length = arguments.length then
            let values ← Traced.each (evaluate room · env) arguments
            let inner ← scope.withValues room definition.parameters values
            Traced.log (.called name values inner)
            evaluate room definition.body inner
          else
            Traced.raise room
              (.argumentCount name expr definition.parameters.length arguments.length)

theorem evaluate_binary {op : BinaryOp} (filled : op ≠ .blank) (room : Nat)
    (left right : Expr) (env : Env) :
    evaluate (room + 1) (.binary op left right) env = (do
      let leftValue ← evaluate room left env
      let rightValue ← evaluate room right env
      Expr.applyBinary room op (.binary op left right) leftValue rightValue) := by
  rw [evaluate]
  exact filled

theorem evaluate_unary {op : UnaryOp} (filled : op ≠ .blank) (room : Nat)
    (operand : Expr) (env : Env) :
    evaluate (room + 1) (.unary op operand) env = (do
      let value ← evaluate room operand env
      Expr.applyUnary room op (.unary op operand) value) := by
  rw [evaluate]
  exact filled

end Trefoil
