import Trefoil.Environment
import Trefoil.Expr.Describe
import Trefoil.Files.Error
import Trefoil.Reader.Form

/-! # Failures

What can go wrong is kept as its cause. Syntax errors and runtime errors are
mistakes of a program, and each has a diagnostic: one line that sums it up, the
text that it is about, and details. Running out of depth is a failure of its own,
which becomes a runtime error when a run reports it. Faults are everything else:
no run handles them, and they end the session. -/

namespace Trefoil

open Trefoil.Text
open Trefoil.Reader (Form Bracket)

/-! ## Diagnostics -/

structure Diagnostic where
  summary : String
  /-- What the subject is called in the message. -/
  label : String
  subject : String := ""
  details : String := ""

namespace Diagnostic

/-- The summary, followed by a line for the subject and one for the details
unless they are empty. -/
def message (diagnostic : Diagnostic) : String :=
  diagnostic.summary ++
    (if diagnostic.subject = "" then ""
      else "\n" ++ diagnostic.label ++ ": '" ++ diagnostic.subject ++ "'") ++
    (if diagnostic.details = "" then "" else "\nDetails: " ++ diagnostic.details)

def ofSource (summary : String) (subject : String := "") (details : String := "") : Diagnostic :=
  { summary, label := "Input", subject, details }

def ofExpression (summary : String) (subject : String := "") (details : String := "") :
    Diagnostic :=
  { summary, label := "Expression", subject, details }

end Diagnostic

/-! ## Syntax errors -/

/-- The last argument of each constructor below `manyForms` is the text of the
tree that is at fault. -/
inductive SyntaxError where
  | unclosed (source : String) (opened : Bracket) (found : Option Bracket)
  | strayCloser (source rest : String)
  | danglingQuote (source : String) (position : Nat)
  | textLiteral (source value : String)
  | unsupported (source : String) (form : Form)
  | noForm (source : String)
  | manyForms (source : String) (count : Nat)
  | notTree (shown : String)
  | emptyParentheses (tree : String)
  | wrongArity (operator : String) (expected : Nat) (tree : String)
  | noArguments (operator : String) (tree : String)
  | letBindingCount (tree : String)
  | letBindingShape (tree : String)
  | letBindingName (tree : String)
  | notFunction (head tree : String)
  | unnamedFunction (tree : String)
  | notDefinable (part tree : String)

namespace SyntaxError

def unclosedDetails (opened : Bracket) (found : Option Bracket) : String :=
  "Not enough closing brackets. Expected " ++ quote opened.closing.toString ++
    " to be the last letter in the sexp. Got: " ++
    (match found with
      | some bracket => quote bracket.closing.toString
      | none => "None")

def strayCloserDetails (rest : String) : String :=
  "Too many closing brackets. Expected no character left in the sexp. Got: " ++ quote rest

def danglingQuoteDetails (position : Nat) : String :=
  "No s-exp is found after an apostrophe at position " ++ toString position

def formKind : Form → String
  | .quoted _ => "Quoted"
  | .brackets _ => "Brackets"
  | .symbol _ => "Symbol"
  | .list _ => "list"
  | .text _ => "str"

def diagnostic : SyntaxError → Diagnostic
  | unclosed source opened found =>
      .ofSource "Syntax error: unbalanced parentheses." source (unclosedDetails opened found)
  | strayCloser source rest =>
      .ofSource "Syntax error: unexpected closing parenthesis." source (strayCloserDetails rest)
  | danglingQuote source position =>
      .ofSource "Quoted expressions are not supported." source (danglingQuoteDetails position)
  | textLiteral source value =>
      .ofSource "String literals are not supported." source (quote value)
  | unsupported source form =>
      .ofSource ("Unsupported syntax: " ++ form.describe) source
        ("sexpdata produced " ++ formKind form)
  | noForm source =>
      .ofSource "Input is empty or contains only whitespace and comments." source
  | manyForms source count =>
      .ofSource "Unexpected content after the main expression." source
        ("Found " ++ toString count ++ " top-level forms")
  | notTree shown => .ofSource ("Not a symbol tree: " ++ shown)
  | emptyParentheses tree => .ofSource "Unexpected empty parentheses." tree
  | wrongArity operator expected tree =>
      .ofSource ("Operator " ++ operator ++ " expects " ++ toString expected ++ " arguments") tree
  | noArguments operator tree =>
      .ofSource ("Operator " ++ operator ++ " expects at least 1 arguments") tree
  | letBindingCount tree =>
      .ofSource "'let' expects exactly one binding: (let ((name expr)) body)" tree
  | letBindingShape tree => .ofSource "'let' binding must have the form (name expr)" tree
  | letBindingName tree => .ofSource "'let' binding name must be a symbol" tree
  | notFunction head tree => .ofSource (head ++ " should be a function but is not.") tree
  | unnamedFunction tree =>
      .ofSource "Function definition needs a name: (define (name param...) body)" tree
  | notDefinable part tree =>
      .ofSource ("Cannot define " ++ part ++ ": expected a symbol") tree

end SyntaxError

/-! ## Runtime errors -/

/-- Where an expression is at fault it is the last argument but for the values
that were found. A name that is looked up on its own has no expression around it. -/
inductive RuntimeError where
  | unboundVariable (name : String) (site : Option Expr)
  | unboundFunction (name : String) (site : Option Expr)
  | argumentCount (name : String) (call : Expr) (expected given : Nat)
  | notIntegers (op : BinaryOp) (site left right : Expr)
  /-- Positions of arguments count from one. -/
  | notInteger (position : Nat) (site found : Expr)
  | notCons (op : UnaryOp) (site found : Expr)
  | notValue (name : String) (expr : Expr)
  | repeatedParameter (parameter : String) (definition : FunctionDef)
  | testFailed (test found : Expr)
  | tooDeep

def BinaryOp.verb : BinaryOp → String
  | plus => "plus"
  | minus => "minus"
  | times => "times"
  | equals => "equals"
  | blank => ""

namespace RuntimeError

def optionalText : Option Expr → String
  | some expr => expr.text
  | none => ""

def summary : RuntimeError → String
  | unboundVariable name _ => "Unbound variable: " ++ name
  | unboundFunction name _ => "Unbound function: " ++ name
  | argumentCount name _ _ _ => "Function " ++ name ++ " has incompatible number of parameters"
  | notIntegers op _ _ _ => "Arguments of " ++ op.verb ++ " are not integers"
  | notInteger position _ _ => "Argument " ++ toString position ++ " of max is not an integer"
  | notCons op _ _ => "Argument of " ++ op.symbol ++ " is not a cons"
  | notValue name _ => "Cannot bind '" ++ name ++ "' to an unevaluated expression"
  | repeatedParameter parameter definition =>
      "Parameter name " ++ parameter ++ " duplicated in function " ++ definition.name
  | testFailed _ _ => "Test failed"
  | tooDeep => "Maximum recursion depth exceeded"

def diagnostic (error : RuntimeError) : Diagnostic :=
  match error with
  | unboundVariable _ site | unboundFunction _ site =>
      .ofExpression error.summary (optionalText site)
  | argumentCount _ call expected given =>
      .ofExpression error.summary call.text
        ("expected " ++ toString expected ++ ", got " ++ toString given)
  | notIntegers _ site left right =>
      .ofExpression error.summary site.text ("got " ++ left.text ++ " and " ++ right.text)
  | notInteger _ site found | notCons _ site found =>
      .ofExpression error.summary site.text ("got " ++ found.text)
  | notValue _ expr => .ofExpression error.summary expr.text
  | repeatedParameter _ definition => .ofExpression error.summary definition.text
  | testFailed test found =>
      .ofExpression error.summary (Binding.test test).text ("evaluated to " ++ found.text)
  | tooDeep => .ofExpression error.summary

def exprs : RuntimeError → List Expr
  | unboundVariable _ site | unboundFunction _ site => site.toList
  | argumentCount _ call _ _ => [call]
  | notIntegers _ site left right => [site, left, right]
  | notInteger _ site found | notCons _ site found => [site, found]
  | notValue _ expr => [expr]
  | repeatedParameter _ definition => [definition.body]
  | testFailed test found => [test, found]
  | tooDeep => []

end RuntimeError

/-! ## Faults and failures -/

inductive Fault where
  /-- A text literal has no end. -/
  | unfinishedText
  /-- Nothing follows a backslash. -/
  | unfinishedEscape
  /-- A foreign value stands where a node's head or a definition's target belongs. -/
  | foreignHead
  | foreignTarget
  | numeralTooLong (digits : Nat)
  /-- Names and values to bind them to differ in number. -/
  | countMismatch (names values : Nat)
  /-- A sketch is evaluated or executed. -/
  | sketchedExpr (expr : Expr)
  | sketchedBinding (binding : Binding)
  /-- A blank expression is written out. -/
  | blankText
  /-- Something that is not text is given as a source. -/
  | sourceNotText
  /-- A file does not hold text. -/
  | notText
  /-- A path contains the null character. -/
  | nullInPath
  /-- A file cannot be opened. -/
  | fileFailed (error : FileError) (path : String)
  /-- A log is set up for a level that does not exist. -/
  | unknownLevel (name : String)
  /-- A limit on the recursion is beyond what can be set. -/
  | limitTooLarge

namespace Fault

def sketchMessage (sort kind description : String) : String :=
  "\"impossible\" " ++ sort ++ " AST node " ++ kind ++ ": " ++ description

def message : Fault → String
  | unfinishedText | unfinishedEscape | foreignHead | foreignTarget | notText => ""
  | numeralTooLong digits =>
      "Exceeds the limit (" ++ toString maxDigits ++
        " digits) for integer string conversion: value has " ++ toString digits ++
        " digits; use sys.set_int_max_str_digits() to increase the limit"
  | countMismatch names values =>
      "Got " ++ toString names ++ " names but " ++ toString values ++ " values"
  | sketchedExpr expr => sketchMessage "expression" expr.kind expr.describe
  | sketchedBinding binding => sketchMessage "binding" binding.kind binding.describe
  | sourceNotText => "Input must be a string."
  | blankText => Expr.blank.kind ++ " does not define a rendering"
  | nullInPath => "embedded null byte"
  | fileFailed error path => error.message path
  | unknownLevel name => "Unknown level: " ++ quote name
  | limitTooLarge => "Python int too large to convert to C int"

end Fault

/-- A mistake of a program, which a run reports and survives. -/
inductive ProgramError where
  | inSyntax (error : SyntaxError)
  | atRuntime (error : RuntimeError)

namespace ProgramError

def diagnostic : ProgramError → Diagnostic
  | inSyntax error => error.diagnostic
  | atRuntime error => error.diagnostic

def message (error : ProgramError) : String := error.diagnostic.message

end ProgramError

inductive Failure where
  | program (error : ProgramError)
  | tooDeep
  | fault (fault : Fault)

namespace Failure

def programError? : Failure → Option ProgramError
  | program error => some error
  | tooDeep => some (.atRuntime .tooDeep)
  | fault _ => none

end Failure

end Trefoil
