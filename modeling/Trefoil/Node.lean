import Trefoil.Checked
import Trefoil.Datum
import Trefoil.Expr.Describe
import Trefoil.Failure

/-! # Nodes from data

Expressions and bindings can be made from records. A record has the kind of node
under `node`, and the parts of the node in other fields. The nodes inside it are
made first, in the order of the fields, and the first of them that fails fails
the whole. Then all the fields of the node itself are checked. -/

namespace Trefoil

open Trefoil.Text

inductive Node where
  | expression (expr : Expr)
  | binding (form : Binding)
  deriving DecidableEq

namespace Node

def describe : Node → String
  | expression expr => expr.describe
  | binding form => form.describe

def text : Node → Except Fault String
  | expression expr => if expr.hasBlank then .error .blankText else .ok expr.text
  | binding form =>
      if form.exprs.any Expr.hasBlank then .error .blankText else .ok form.text

def isValue : Node → Bool
  | expression expr => expr.isValue
  | binding _ => false

def partCountOfExpr : Expr → Nat
  | .blank | .nil => 0
  | .int _ | .bool _ | .var _ | .unary _ _ | .max _ _ => 1
  | .binary _ _ _ | .cons _ _ | .call _ _ => 2
  | .cond _ _ _ | .letIn _ _ _ => 3

def partCountOfBinding : Binding → Nat
  | .blank => 0
  | .expression _ | .test _ => 1
  | .defineVariable _ _ => 2
  | .defineFunction _ => 3

def partCount : Node → Nat
  | expression expr => partCountOfExpr expr
  | binding form => partCountOfBinding form

/-- Changing a part of a node is refused. -/
def assign (_ : Node) (name : String) : Checked Node :=
  .error [{ location := [.field name], complaint := .fixed }]

end Node

inductive Part where
  | node (made : Node)
  | row (items : List Part)
  | plain (datum : Datum)
  deriving Inhabited

namespace Part

/-! ## Checks of a part -/

def toText : Part → Checked String
  | plain (.text value) => .ok value
  | _ => Checked.complain .notText

def toInteger : Part → Checked Int
  | plain (.whole value) =>
      if value > Integer.maximum then Checked.complain .aboveRange
      else if value < Integer.minimum then Checked.complain .belowRange
      else .ok value
  | _ => Checked.complain .notWhole

def toTruth : Part → Checked Bool
  | plain (.bool value) => .ok value
  | _ => Checked.complain .notTruth

/-- A record that names no kind stands for a blank expression. -/
def toExpr : Part → Checked Expr
  | node (.expression expr) => .ok expr
  | plain (.record _) => .ok .blank
  | _ => Checked.complain .notExpression

/-- The items of a row. A node counts as the row of its parts, each together with
its name. Such pairs are rows themselves. -/
def items? : Part → Option (List Part)
  | row items => some items
  | node made => some (List.replicate made.partCount (row []))
  | plain _ => none

def toRow {α : Type} (check : Part → Checked α) (part : Part) : Checked (List α) :=
  match part.items? with
  | some items => Checked.items check 0 items
  | none => Checked.complain .notRow

def countPassing {α : Type} (check : Part → Checked α) (part : Part) : Nat :=
  (part.items?.getD []).countP fun item => (check item).isOk

/-- A row of at least one item. Items that fail do not count. -/
def toFilledRow {α : Type} (check : Part → Checked α) (part : Part) : Checked (α × List α) :=
  match toRow check part with
  | .ok (first :: others) => .ok (first, others)
  | .ok [] => Checked.complain (.tooFew 1 0)
  | .error found =>
      if part.items?.isSome && countPassing check part = 0 then
        .error (found ++ [{ complaint := .tooFew 1 0 }])
      else .error found

end Part

/-! ## Nodes from fields -/

abbrev Fields := List (String × Part)

namespace Fields

variable {α : Type}

def required (fields : Fields) (name : String) (check : Part → Checked α) : Checked α :=
  Checked.within (.field name) <|
    match fields.lookup name with
    | some part => check part
    | none => Checked.complain .missing

def optional (fields : Fields) (name : String) (fallback : α) (check : Part → Checked α) :
    Checked α :=
  match fields.lookup name with
  | some part => (check part).within (.field name)
  | none => .ok fallback

/-! Each kind of node checks its fields side by side. -/

def one {β : Type} (build : α → β) (first : Checked α) : Checked β := first.map build

def two {β γ : Type} (build : α → β → γ) (first : Checked α) (second : Checked β) : Checked γ :=
  (first.both second).map fun (value, value') => build value value'

def three {β γ δ : Type} (build : α → β → γ → δ) (first : Checked α) (second : Checked β)
    (third : Checked γ) : Checked δ :=
  (first.both (second.both third)).map fun (value, value', value'') => build value value' value''

def binary (fields : Fields) (op : BinaryOp) : Checked Node :=
  two (fun left right => .expression (.binary op left right))
    (fields.required "left" Part.toExpr) (fields.required "right" Part.toExpr)

def unary (fields : Fields) (op : UnaryOp) : Checked Node :=
  one (fun operand => .expression (.unary op operand)) (fields.required "expr" Part.toExpr)

def integer (fields : Fields) : Checked Node :=
  one (.expression <| .int ·) (fields.required "value" Part.toInteger)

def truth (fields : Fields) : Checked Node :=
  one (.expression <| .bool ·) (fields.required "value" Part.toTruth)

def cons (fields : Fields) : Checked Node :=
  two (fun head tail => .expression (.cons head tail))
    (fields.required "head" Part.toExpr) (fields.required "tail" Part.toExpr)

def node? (fields : Fields) : (kind : String) → Option (Checked Node)
  | "Expression" => some (.ok (.expression .blank))
  | "Binding" => some (.ok (.binding .blank))
  | "BinaryOperation" => some (fields.binary .blank)
  | "UnaryOperation" => some (fields.unary .blank)
  | "IntegerLiteral" => some fields.integer
  | "BooleanLiteral" => some fields.truth
  | "Nil" => some (.ok (.expression .nil))
  | "VariableReference" =>
      some (one (.expression <| .var ·) (fields.required "name" Part.toText))
  | "Plus" => some (fields.binary .plus)
  | "Minus" => some (fields.binary .minus)
  | "Times" => some (fields.binary .times)
  | "Equals" => some (fields.binary .equals)
  | "Conditional" =>
      some (three (fun condition thenBranch elseBranch =>
          .expression (.cond condition thenBranch elseBranch))
        (fields.required "condition" Part.toExpr)
        (fields.required "then_branch" Part.toExpr)
        (fields.required "else_branch" Part.toExpr))
  | "Let" =>
      some (three (fun name bound body => .expression (.letIn name bound body))
        (fields.required "local_name" Part.toText)
        (fields.required "bound_expr" Part.toExpr)
        (fields.required "body_expr" Part.toExpr))
  | "Cons" => some fields.cons
  | "IsNil" => some (fields.unary .isNil)
  | "IsCons" => some (fields.unary .isCons)
  | "Car" => some (fields.unary .car)
  | "Cdr" => some (fields.unary .cdr)
  | "FunctionCall" =>
      some (two (fun name arguments => .expression (.call name arguments))
        (fields.required "name" Part.toText)
        (fields.optional "args" [] (Part.toRow Part.toExpr)))
  | "FindMax" =>
      some (one (fun (first, others) => .expression (.max first others))
        (fields.required "args" (Part.toFilledRow Part.toExpr)))
  | "VariableBinding" =>
      some (two (fun name init => .binding (.defineVariable name init))
        (fields.required "name" Part.toText) (fields.required "init_expr" Part.toExpr))
  | "FunctionBinding" =>
      some (three (fun name parameters body =>
          .binding (.defineFunction { name, parameters, body }))
        (fields.required "name" Part.toText)
        (fields.optional "param_names" [] (Part.toRow Part.toText))
        (fields.required "body_expr" Part.toExpr))
  | "TopLevelExpression" =>
      some (one (.binding <| .expression ·) (fields.required "expr" Part.toExpr))
  | "TestBinding" => some (one (.binding <| .test ·) (fields.required "expr" Part.toExpr))
  | _ => none

end Fields

def Datum.kind? (fields : List (String × Datum)) : Option String :=
  match fields.lookup "node" with
  | some (.text kind) => some kind
  | _ => none

namespace Part

mutual

def ofDatum : Datum → Checked Part
  | .record fields =>
      match Datum.kind? fields with
      | none => .ok (plain (.record fields))
      | some kind => do
          let parts ← ofFields fields
          match Fields.node? parts kind with
          | some made => made.map Part.node
          | none => .ok (plain (.record fields))
  | .row items => (ofItems items).map row
  | datum => .ok (plain datum)

def ofItems : List Datum → Checked (List Part)
  | [] => .ok []
  | item :: items => do return (← ofDatum item) :: (← ofItems items)

def ofFields : List (String × Datum) → Checked Fields
  | [] => .ok []
  | field :: fields => do return (← ofField field) :: (← ofFields fields)

def ofField : String × Datum → Checked (String × Part)
  | (name, datum) => do return (name, ← ofDatum datum)

end

end Part

namespace Node

def ofDatum? (datum : Datum) : Checked (Option Node) :=
  (Part.ofDatum datum).map fun
    | .node node => some node
    | _ => none

/-! ## Values -/

def integer (value : Part) : Checked Node := Fields.integer [("value", value)]

def truth (value : Part) : Checked Node := Fields.truth [("value", value)]

def cons (head tail : Part) : Checked Node := Fields.cons [("head", head), ("tail", tail)]

/-- The list of some parts. It is made from its end, so that the last part at
fault is the one that is told. -/
def list : List Part → Checked Node
  | [] => .ok (expression .nil)
  | item :: items => do cons item (.node (← list items))

end Node

end Trefoil
