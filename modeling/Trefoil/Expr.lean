import Trefoil.Integer

/-! # Expressions

The expressions of the language, as trees. Values are expressions too: integers,
truth values, `nil`, and conses of values. `Expr.text` writes an expression the
way source text does.

Nodes can be sketched before they say what they do. A blank expression stands for
any expression, and a blank operator for any operator. Sketches can be looked at
but have no meaning, and a blank expression cannot be written at all. -/

namespace Trefoil

inductive BinaryOp where
  | plus
  | minus
  | times
  | equals
  | blank
  deriving DecidableEq, Repr

inductive UnaryOp where
  | isNil
  | isCons
  | car
  | cdr
  | blank
  deriving DecidableEq, Repr

inductive Expr where
  | blank
  | int (value : Int)
  | bool (value : Bool)
  | nil
  | var (name : String)
  | binary (op : BinaryOp) (left right : Expr)
  | cond (condition thenBranch elseBranch : Expr)
  | letIn (name : String) (bound body : Expr)
  | cons (head tail : Expr)
  | unary (op : UnaryOp) (operand : Expr)
  | call (name : String) (arguments : List Expr)
  /-- The largest of one or more integers. -/
  | max (first : Expr) (others : List Expr)
  deriving Inhabited

def BinaryOp.symbol : BinaryOp → String
  | plus => "+"
  | minus => "-"
  | times => "*"
  | equals => "="
  | blank => ""

def UnaryOp.symbol : UnaryOp → String
  | isNil => "nil?"
  | isCons => "cons?"
  | car => "car"
  | cdr => "cdr"
  | blank => ""

namespace Expr

def parenthesised (words : List String) : String := "(" ++ " ".intercalate words ++ ")"

mutual

def text : Expr → String
  | blank => ""
  | int value => toString value
  | bool true => "true"
  | bool false => "false"
  | nil => "nil"
  | var name => name
  | binary op left right => parenthesised [op.symbol, text left, text right]
  | cond condition thenBranch elseBranch =>
      parenthesised ["if", text condition, text thenBranch, text elseBranch]
  | letIn name bound body =>
      parenthesised ["let", parenthesised [parenthesised [name, text bound]], text body]
  | cons head tail => parenthesised ["cons", text head, text tail]
  | unary op operand => parenthesised [op.symbol, text operand]
  | call name arguments => parenthesised (name :: texts arguments)
  | max first others => parenthesised ("max" :: text first :: texts others)

def texts : List Expr → List String
  | [] => []
  | expr :: exprs => text expr :: texts exprs

end

mutual

/-- How many levels of parentheses the text has, counting a bare atom as one. -/
def depth : Expr → Nat
  | blank | int _ | bool _ | nil | var _ => 1
  | binary _ left right | cons left right => Nat.max (depth left) (depth right) + 1
  | cond condition thenBranch elseBranch =>
      Nat.max (depth condition) (Nat.max (depth thenBranch) (depth elseBranch)) + 1
  | letIn _ bound body => Nat.max (depth bound) (depth body) + 1
  | unary _ operand => depth operand + 1
  | call _ arguments => depthAll arguments + 1
  | max first others => Nat.max (depth first) (depthAll others) + 1

def depthAll : List Expr → Nat
  | [] => 0
  | expr :: exprs => Nat.max (depth expr) (depthAll exprs)

end

mutual

def hasBlank : Expr → Bool
  | blank => true
  | int _ | bool _ | nil | var _ => false
  | binary _ left right | cons left right => hasBlank left || hasBlank right
  | cond condition thenBranch elseBranch =>
      hasBlank condition || hasBlank thenBranch || hasBlank elseBranch
  | letIn _ bound body => hasBlank bound || hasBlank body
  | unary _ operand => hasBlank operand
  | call _ arguments => hasBlankAll arguments
  | max first others => hasBlank first || hasBlankAll others

def hasBlankAll : List Expr → Bool
  | [] => false
  | expr :: exprs => hasBlank expr || hasBlankAll exprs

end

/-- The expression is written like a value. Only the outermost node counts: the
parts of a cons are not looked at. -/
def isValue : Expr → Bool
  | int _ | bool _ | nil | cons _ _ => true
  | _ => false

def ofList : List Expr → Expr
  | [] => nil
  | expr :: exprs => cons expr (ofList exprs)

/-! ## Equality -/

mutual

def same : Expr → Expr → Bool
  | blank, blank => true
  | int value, int value' => value == value'
  | bool value, bool value' => value == value'
  | nil, nil => true
  | var name, var name' => name == name'
  | binary op left right, binary op' left' right' =>
      op == op' && same left left' && same right right'
  | cond condition thenBranch elseBranch, cond condition' thenBranch' elseBranch' =>
      same condition condition' && same thenBranch thenBranch' && same elseBranch elseBranch'
  | letIn name bound body, letIn name' bound' body' =>
      name == name' && same bound bound' && same body body'
  | cons head tail, cons head' tail' => same head head' && same tail tail'
  | unary op operand, unary op' operand' => op == op' && same operand operand'
  | call name arguments, call name' arguments' =>
      name == name' && sameAll arguments arguments'
  | max first others, max first' others' => same first first' && sameAll others others'
  | _, _ => false

def sameAll : List Expr → List Expr → Bool
  | [], [] => true
  | expr :: exprs, expr' :: exprs' => same expr expr' && sameAll exprs exprs'
  | _, _ => false

end

mutual

theorem same_iff : (left right : Expr) → (same left right = true ↔ left = right)
  | .blank, right => by cases right <;> simp [same]
  | .int _, right => by cases right <;> simp [same]
  | .bool _, right => by cases right <;> simp [same]
  | .nil, right => by cases right <;> simp [same]
  | .var _, right => by cases right <;> simp [same]
  | .binary _ left₁ left₂, right => by
      cases right <;> simp [same, same_iff left₁, same_iff left₂, and_assoc]
  | .cond left₁ left₂ left₃, right => by
      cases right <;> simp [same, same_iff left₁, same_iff left₂, same_iff left₃, and_assoc]
  | .letIn _ left₁ left₂, right => by
      cases right <;> simp [same, same_iff left₁, same_iff left₂, and_assoc]
  | .cons left₁ left₂, right => by
      cases right <;> simp [same, same_iff left₁, same_iff left₂]
  | .unary _ left, right => by cases right <;> simp [same, same_iff left]
  | .call _ lefts, right => by cases right <;> simp [same, sameAll_iff lefts]
  | .max left lefts, right => by
      cases right <;> simp [same, same_iff left, sameAll_iff lefts]

theorem sameAll_iff : (lefts rights : List Expr) → (sameAll lefts rights = true ↔ lefts = rights)
  | [], rights => by cases rights <;> simp [sameAll]
  | left :: lefts, rights => by
      cases rights <;> simp [sameAll, same_iff left, sameAll_iff lefts]

end

instance : DecidableEq Expr := fun left right =>
  decidable_of_iff (same left right = true) (same_iff left right)

end Expr

end Trefoil
