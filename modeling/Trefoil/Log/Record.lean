import Trefoil.Failure
import Trefoil.Log.Level

/-! # Log records

Each step worth a line in the log has a record. A record holds what the step was
about, and is worded only when the line is written. -/

namespace Trefoil.Log

open Trefoil.Text

inductive Status where
  | complete
  | failed
  deriving DecidableEq, Repr

def Status.name : Status → String
  | complete => "COMPLETE"
  | failed => "FAILED"

inductive Record where
  | logReady (level : Level)
  | evaluatorReady
  | runningFile (path : String)
  | loadingFile (path : String)
  | readingSource (source : String)
  | unbalanced (details : String)
  | unexpectedCloser (details : String)
  | danglingQuote (details : String)
  | readTrees (count : Nat)
  | keywordForm (keyword : String) (arguments : Nat)
  | functionForm (name : String) (parameters : List String)
  | executing (binding : Binding)
  | notVariable (name : String) (scope : Env) (found : Option Entry)
  | notFunction (name : String) (scope : Env) (found : Option Entry)
  | lookupFailed (name : String) (summary : String)
  | branchTaken (condition value : Expr) (taken : Bool)
  | called (name : String) (arguments : List Expr) (scope : Env)
  | largest (expr value : Expr)
  | valueBound (scope : Env) (name : String) (value : Expr)
  | closureMade (definition : FunctionDef) (scope : Env)
  | functionBound (scope : Env) (name : String) (extended : Env)
  /-- Positions of bindings count from one. -/
  | bindingFailed (position : Nat) (message : String)
  | ranBindings (count total : Nat) (status : Status)

namespace Record

def level : Record → Level
  | logReady _ | runningFile _ | loadingFile _ | ranBindings _ _ _ => .info
  | _ => .debug

def origin : Record → String
  | logReady _ => "src.config.logging_config"
  | runningFile _ => "src.main"
  | loadingFile _ => "src.repl.repl"
  | readingSource _ | unbalanced _ | unexpectedCloser _ | danglingQuote _ | readTrees _ =>
      "src.sexp_parser.sexp_parser"
  | keywordForm _ _ | functionForm _ _ => "src.trefoil_ast.ast_builder"
  | evaluatorReady | executing _ => "src.sexp_evaluator.sexp_evaluator"
  | lookupFailed _ _ | branchTaken _ _ _ | called _ _ _ =>
      "src.sexp_evaluator.sexp_special_forms"
  | largest _ _ => "src.sexp_evaluator.sexp_primitives"
  | notVariable _ _ _ | notFunction _ _ _ | valueBound _ _ _ | functionBound _ _ _ =>
      "src.sexp_evaluator.sexp_environment"
  | closureMade _ _ => "src.sexp_evaluator.sexp_closure"
  | bindingFailed _ _ | ranBindings _ _ _ => "src.dispatcher"

def quotedLength : Nat := 100

def foundText (identify : Env → String) : Option Entry → String
  | none => "None"
  | some (.value value) => "VariableEntry(" ++ value.text ++ ")"
  | some (.function definition scope) =>
      "<FunctionEntry " ++ definition.name ++ "(" ++ commaSeparated definition.parameters ++
        ") def_env_id=" ++ identify scope ++ ">"

def message (identify : Env → String) : Record → String
  | logReady level => "Logging initialized at " ++ level.name ++ " level"
  | evaluatorReady =>
      "TrefoilEvaluator initialized with 17 expression and 4 binding handlers."
  | runningFile path => "Running " ++ path
  | loadingFile path => "Loading " ++ path ++ " into the REPL session"
  | readingSource source =>
      "Attempting to parse Trefoil source: '" ++
        String.ofList (source.toList.take quotedLength) ++ "'"
  | unbalanced details => "Unbalanced parentheses: " ++ details
  | unexpectedCloser details => "Unexpected closing parenthesis: " ++ details
  | danglingQuote details => "Dangling quote: " ++ details
  | readTrees count => "Parsed " ++ toString count ++ " top-level tree(s)"
  | keywordForm keyword arguments =>
      "Building keyword form '" ++ keyword ++ "' with " ++ toString arguments ++ " argument(s)"
  | functionForm name parameters =>
      "Building function binding '" ++ name ++ "' with params " ++
        bracketed (parameters.map quote)
  | executing binding => "Executing binding: " ++ binding.text
  | notVariable name scope found =>
      "'" ++ name ++ "' is not a variable in env id=" ++ identify scope ++ " (found " ++
        foundText identify found ++ ")"
  | notFunction name scope found =>
      "'" ++ name ++ "' is not a function in env id=" ++ identify scope ++ " (found " ++
        foundText identify found ++ ")"
  | lookupFailed name summary =>
      "handle_variable: lookup of '" ++ name ++ "' failed: " ++ summary
  | branchTaken condition value taken =>
      "handle_if: condition " ++ condition.text ++ " -> " ++ value.text ++ ", taking " ++
        (if taken then "then" else "else") ++ " branch"
  | called name arguments scope =>
      "handle_call: " ++ name ++ bracketed (Expr.describeAll arguments) ++ " in env " ++
        identify scope
  | largest expr value => "apply_max: " ++ expr.text ++ " -> " ++ value.text
  | valueBound scope name value =>
      "Extending env " ++ identify scope ++ " with variable '" ++ name ++ "' = " ++ value.text
  | closureMade definition scope =>
      "Closure created: " ++ definition.name ++ tupled (definition.parameters.map quote) ++
        ", def_env_id=" ++ identify scope
  | functionBound scope name extended =>
      "Extending env " ++ identify scope ++ " with function '" ++ name ++ "' -> env " ++
        identify extended
  | bindingFailed position message =>
      "Run failed at binding " ++ toString position ++ ": " ++ message
  | ranBindings count total status =>
      "Ran " ++ toString count ++ " of " ++ toString total ++ " binding(s), status " ++
        status.name

end Record

end Trefoil.Log
