import Trefoil.Expr

/-! # Bindings

One binding stands for each form of a program: the definition of a variable or a
function, an expression to evaluate, or a test. A blank binding is a sketch, as
blank expressions are. -/

namespace Trefoil

/-- The definition of a function. Its parameters may repeat: that is refused only
when the function is added to an environment. -/
structure FunctionDef where
  name : String
  parameters : List String
  body : Expr
  deriving DecidableEq

namespace FunctionDef

def text (definition : FunctionDef) : String :=
  Expr.parenthesised
    ["define", Expr.parenthesised (definition.name :: definition.parameters), definition.body.text]

end FunctionDef

inductive Binding where
  | blank
  | defineVariable (name : String) (init : Expr)
  | defineFunction (definition : FunctionDef)
  | expression (expr : Expr)
  | test (expr : Expr)
  deriving DecidableEq

namespace Binding

def text : Binding → String
  | blank => ""
  | defineVariable name init => Expr.parenthesised ["define", name, init.text]
  | defineFunction definition => definition.text
  | expression expr => expr.text
  | test expr => Expr.parenthesised ["test", expr.text]

def exprs : Binding → List Expr
  | blank => []
  | defineVariable _ init => [init]
  | defineFunction definition => [definition.body]
  | expression expr | test expr => [expr]

end Binding

end Trefoil
