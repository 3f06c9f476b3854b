import Trefoil.Reader

/-! # From trees to expressions and bindings

The grammar of the language. A node whose head is a keyword is that keyword's
form, and any other node is a call. Keywords, unlike literals, are not reserved:
a name may be spelled like one, although it can then not be called. -/

namespace Trefoil

variable {host : Type}

def Traced.misread {α : Type} (error : SyntaxError) : Traced α :=
  fail (.program (.inSyntax error))

/-! ## Atoms -/

/-- The words that are literals. Any other word is the name of a variable. -/
def Expr.ofWord : String → Expr
  | "true" => .bool true
  | "false" => .bool false
  | "nil" => .nil
  | word => .var word

def Expr.ofToken (token : String) : Traced Expr :=
  match Integer.ofToken token with
  | .integer value => pure (.int value)
  | .notInteger => pure (.ofWord token)
  | .tooLong digits => Traced.fault (.numeralTooLong digits)

/-! ## Keyword forms -/

inductive Keyword where
  | binary (op : BinaryOp)
  | unary (op : UnaryOp)
  | cond
  | letIn
  | cons
  | max
  deriving DecidableEq, Repr

namespace Keyword

def ofToken? : String → Option Keyword
  | "+" => some (binary .plus)
  | "-" => some (binary .minus)
  | "*" => some (binary .times)
  | "=" => some (binary .equals)
  | "if" => some cond
  | "let" => some letIn
  | "nil?" => some (unary .isNil)
  | "cons" => some cons
  | "cons?" => some (unary .isCons)
  | "car" => some (unary .car)
  | "cdr" => some (unary .cdr)
  | "max" => some max
  | _ => none

def ofHead? {host : Type} : Tree host → Option (String × Keyword)
  | .leaf token => (ofToken? token).map (token, ·)
  | _ => none

/-- The number of arguments of a form. The form `max` takes at least as many. -/
def arity : Keyword → Nat
  | unary _ | max => 1
  | binary _ | letIn | cons => 2
  | cond => 3

end Keyword

def letForm [ToString host] (build : Tree host → Traced Expr) (bindings body tree : Tree host) :
    Traced Expr :=
  match bindings with
  | .node [.node [.leaf name, bound]] => do
      let bound ← build bound
      let body ← build body
      return .letIn name bound body
  | .node [.node [_, _]] => Traced.misread (.letBindingName tree.text)
  | .node [_] => Traced.misread (.letBindingShape tree.text)
  | _ => Traced.misread (.letBindingCount tree.text)

/-- The expression of a keyword's form. `token` is the keyword as it was written
and `tree` the whole form. -/
def keywordForm [ToString host] (build : Tree host → Traced Expr) (keyword : Keyword)
    (token : String) (arguments : List (Tree host)) (tree : Tree host) : Traced Expr :=
  match keyword, arguments with
  | .binary op, [left, right] => do
      let left ← build left
      let right ← build right
      return .binary op left right
  | .unary op, [operand] => do
      let operand ← build operand
      return .unary op operand
  | .cond, [condition, thenBranch, elseBranch] => do
      let condition ← build condition
      let thenBranch ← build thenBranch
      let elseBranch ← build elseBranch
      return .cond condition thenBranch elseBranch
  | .letIn, [bindings, body] => letForm build bindings body tree
  | .cons, [head, tail] => do
      let head ← build head
      let tail ← build tail
      return .cons head tail
  | .max, first :: others => do
      let first ← build first
      let others ← Traced.each build others
      return .max first others
  | .max, [] => Traced.misread (.noArguments token tree.text)
  | keyword, _ => Traced.misread (.wrongArity token keyword.arity tree.text)

/-! ## Calls -/

def calleeName [ToString host] (head tree : Tree host) : Traced String :=
  match head with
  | .leaf token => do
      match ← Expr.ofToken token with
      | .var name => return name
      | _ => Traced.misread (.notFunction token tree.text)
  | .node _ => Traced.misread (.notFunction head.text tree.text)
  | .foreign _ => Traced.fault .foreignHead

def callForm [ToString host] (build : Tree host → Traced Expr) (head : Tree host)
    (arguments : List (Tree host)) (tree : Tree host) : Traced Expr := do
  let name ← calleeName head tree
  let arguments ← Traced.each build arguments
  return .call name arguments

/-! ## Expressions -/

def Expr.ofTree [ToString host] : (room : Nat) → Tree host → Traced Expr
  | 0, _ => Traced.fail .tooDeep
  | _ + 1, .leaf token => Expr.ofToken token
  | _ + 1, .foreign value => Traced.misread (.notTree (toString value))
  | _ + 1, .node [] => Traced.misread (.emptyParentheses (Tree.node ([] : List (Tree host))).text)
  | room + 1, .node (head :: arguments) =>
      match Keyword.ofHead? head with
      | some (token, keyword) => do
          Traced.log (.keywordForm token arguments.length)
          keywordForm (Expr.ofTree room) keyword token arguments (.node (head :: arguments))
      | none => callForm (Expr.ofTree room) head arguments (.node (head :: arguments))

/-! ## Bindings -/

def definableName [ToString host] (tree part : Tree host) : Traced String :=
  match part with
  | .leaf token => do
      match ← Expr.ofToken token with
      | .var name => return name
      | _ => Traced.misread (.notDefinable token tree.text)
  | _ => Traced.misread (.notDefinable part.text tree.text)

/-- The binding of a definition. The target is a name, or a name and parameters
in parentheses. -/
def definition [ToString host] (room : Nat) (target body tree : Tree host) : Traced Binding :=
  match target with
  | .leaf _ => do
      let name ← definableName tree target
      let init ← Expr.ofTree room body
      return .defineVariable name init
  | .foreign _ => Traced.fault .foreignTarget
  | .node [] => Traced.misread (.unnamedFunction tree.text)
  | .node (head :: parameters) => do
      let name ← definableName tree head
      let parameters ← Traced.each (definableName tree) parameters
      Traced.log (.functionForm name parameters)
      let body ← Expr.ofTree room body
      return .defineFunction { name, parameters, body }

/-- The binding of a tree that is at most `room` levels deep. The words `define`
and `test` have their meaning only at the head of the whole tree. -/
def Binding.ofTree [ToString host] (room : Nat) (tree : Tree host) : Traced Binding :=
  match tree with
  | .node [.leaf "define", target, body] => definition room target body tree
  | .node (.leaf "define" :: _) => Traced.misread (.wrongArity "define" 2 tree.text)
  | .node [.leaf "test", body] => do
      let expr ← Expr.ofTree room body
      return .test expr
  | .node (.leaf "test" :: _) => Traced.misread (.wrongArity "test" 1 tree.text)
  | _ => do
      let expr ← Expr.ofTree room tree
      return .expression expr

/-! ## From source text -/

def Expr.ofSource (room : Nat) (source : String) : Traced Expr := do
  Expr.ofTree room (← Reader.single room source)

def Binding.ofSource (room : Nat) (source : String) : Traced Binding := do
  Binding.ofTree room (← Reader.single room source)

def Binding.listOfSource (room : Nat) (source : String) : Traced (List Binding) := do
  Traced.each (Binding.ofTree room) (← Reader.program room source)

end Trefoil
