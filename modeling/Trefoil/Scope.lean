import Trefoil.Traced

/-! # Scopes

Looking names up in an environment, and extending it with values and functions,
together with the errors that can arise. -/

namespace Trefoil

/-- Stops with a runtime error. Its text has to be written out, which takes `room`
for the depth of each expression in it, and fails on a blank one. -/
def Traced.raise {α : Type} (room : Nat) (error : RuntimeError) : Traced α :=
  if error.exprs.any (·.hasBlank) then fault .blankText
  else if error.exprs.all (·.depth ≤ room) then fail (.program (.atRuntime error))
  else fail .tooDeep

namespace Env

/-- The value of a variable. `site` is the expression that asks for it. -/
def variableValue (room : Nat) (name : String) (site : Option Expr) (env : Env) : Traced Expr :=
  match env.lookup name with
  | some (.value value) => pure value
  | found => do
      Traced.log (.notVariable name env found)
      if site.isSome then
        Traced.log (.lookupFailed name (RuntimeError.unboundVariable name site).summary)
      Traced.raise room (.unboundVariable name site)

def functionNamed (room : Nat) (name : String) (site : Option Expr) (env : Env) :
    Traced (FunctionDef × Env) :=
  match env.lookup name with
  | some (.function definition scope) => pure (definition, scope)
  | found => do
      Traced.log (.notFunction name env found)
      Traced.raise room (.unboundFunction name site)

def withValue (room : Nat) (name : String) (value : Expr) (env : Env) : Traced Env :=
  if value.isValue then do
    Traced.log (.valueBound env name value)
    return bindValue name value env
  else Traced.raise room (.notValue name value)

def withEach (room : Nat) : List (String × Expr) → Env → Traced Env
  | [], env => pure env
  | (name, value) :: rest, env => do
      let extended ← env.withValue room name value
      withEach room rest extended

def withValues (room : Nat) (names : List String) (values : List Expr) (env : Env) :
    Traced Env :=
  if names.length = values.length then withEach room (names.zip values) env
  else Traced.fault (.countMismatch names.length values.length)

def repeated? (earlier : List String) : List String → Option String
  | [] => none
  | name :: names => if name ∈ earlier then some name else repeated? (name :: earlier) names

def withFunction (room mark : Nat) (definition : FunctionDef) (env : Env) : Traced Env :=
  match repeated? [] definition.parameters with
  | some parameter => Traced.raise room (.repeatedParameter parameter definition)
  | none => do
      let extended := bindFunction mark definition env
      Traced.log (.closureMade definition extended)
      Traced.log (.functionBound env definition.name extended)
      return extended

end Env

end Trefoil
