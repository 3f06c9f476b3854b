import Trefoil.Binding
import Trefoil.Text.Quoted

/-! # Descriptions

A description spells out the kind and the parts of a node, which the text of the
node leaves to the reader. The log and reports of internal errors use it. -/

namespace Trefoil

open Trefoil.Text

namespace Expr

def kind : Expr → String
  | blank => "Expression"
  | int _ => "IntegerLiteral"
  | bool _ => "BooleanLiteral"
  | nil => "Nil"
  | var _ => "VariableReference"
  | binary .plus _ _ => "Plus"
  | binary .minus _ _ => "Minus"
  | binary .times _ _ => "Times"
  | binary .equals _ _ => "Equals"
  | binary .blank _ _ => "BinaryOperation"
  | cond _ _ _ => "Conditional"
  | letIn _ _ _ => "Let"
  | cons _ _ => "Cons"
  | unary .isNil _ => "IsNil"
  | unary .isCons _ => "IsCons"
  | unary .car _ => "Car"
  | unary .cdr _ => "Cdr"
  | unary .blank _ => "UnaryOperation"
  | call _ _ => "FunctionCall"
  | max _ _ => "FindMax"

end Expr

def Binding.kind : Binding → String
  | blank => "Binding"
  | defineVariable _ _ => "VariableBinding"
  | defineFunction _ => "FunctionBinding"
  | expression _ => "TopLevelExpression"
  | test _ => "TestBinding"

def describeParts (kind : String) (parts : List (String × String)) : String :=
  kind ++ "(" ++ commaSeparated (parts.map fun part => part.1 ++ "=" ++ part.2) ++ ")"

namespace Expr

mutual

def describe : Expr → String
  | blank => describeParts blank.kind []
  | int value => describeParts (int value).kind [("value", toString value)]
  | bool value => describeParts (bool value).kind [("value", if value then "True" else "False")]
  | nil => describeParts nil.kind []
  | var name => describeParts (var name).kind [("name", quote name)]
  | binary op left right =>
      describeParts (binary op left right).kind
        [("left", describe left), ("right", describe right)]
  | cond condition thenBranch elseBranch =>
      describeParts (cond condition thenBranch elseBranch).kind
        [("condition", describe condition), ("then_branch", describe thenBranch),
          ("else_branch", describe elseBranch)]
  | letIn name bound body =>
      describeParts (letIn name bound body).kind
        [("local_name", quote name), ("bound_expr", describe bound),
          ("body_expr", describe body)]
  | cons head tail =>
      describeParts (cons head tail).kind [("head", describe head), ("tail", describe tail)]
  | unary op operand => describeParts (unary op operand).kind [("expr", describe operand)]
  | call name arguments =>
      describeParts (call name arguments).kind
        [("name", quote name), ("args", tupled (describeAll arguments))]
  | max first others =>
      describeParts (max first others).kind
        [("args", tupled (describe first :: describeAll others))]

def describeAll : List Expr → List String
  | [] => []
  | expr :: exprs => describe expr :: describeAll exprs

end

end Expr

def Binding.describe : Binding → String
  | blank => describeParts blank.kind []
  | defineVariable name init =>
      describeParts (defineVariable name init).kind
        [("name", quote name), ("init_expr", init.describe)]
  | defineFunction definition =>
      describeParts (defineFunction definition).kind
        [("name", quote definition.name),
          ("param_names", tupled (definition.parameters.map quote)),
          ("body_expr", definition.body.describe)]
  | expression expr => describeParts (expression expr).kind [("expr", expr.describe)]
  | test expr => describeParts (test expr).kind [("expr", expr.describe)]

end Trefoil
