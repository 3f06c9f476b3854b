import Trefoil.Build
import Trefoil.Execute

/-! # Runs

A run takes source text form by form: each one is built and executed before the
next one is looked at. A form that fails leaves the environment as it was. The run
records the mistake, and stops or carries on with the next form. Text that cannot
be read fails as a whole, before anything is executed. -/

namespace Trefoil

/-- How deep things may nest for a limit on the interpreter's own recursion: each
level of nesting takes two steps of it. -/
def levels (limit : Nat) : Nat := limit / 2

def defaultLimit : Nat := 10000

structure RunResult where
  env : Env
  bindingsRun : Nat := 0
  /-- The mistakes, in the order they were met. -/
  errors : List ProgramError := []

namespace RunResult

def status (result : RunResult) : Log.Status :=
  if result.errors.isEmpty then .complete else .failed

def failing (result : RunResult) (error : ProgramError) : Traced RunResult := do
  Traced.log (.bindingFailed (result.bindingsRun + 1) error.message)
  Traced.happen (.failed error)
  return { result with errors := result.errors ++ [error] }

def succeeding (result : RunResult) (env : Env) : RunResult :=
  { result with env, bindingsRun := result.bindingsRun + 1 }

end RunResult

def runTree (room : Nat) (tree : SymbolTree) (env : Env) : Traced Env := do
  let binding ← Binding.ofTree room tree
  execute room env.size binding env

def runTrees (room : Nat) (stopOnError : Bool) :
    List SymbolTree → RunResult → Traced RunResult
  | [], result => pure result
  | tree :: trees, result => do
      match ← (runTree room tree result.env).attempt with
      | .ok env => runTrees room stopOnError trees (result.succeeding env)
      | .error failure =>
          match failure.programError? with
          | none => Traced.fail failure
          | some error =>
              let failed ← result.failing error
              if stopOnError then return failed
              else runTrees room stopOnError trees failed

def runSource (room : Nat) (stopOnError : Bool) (source : String) (env : Env) :
    Traced RunResult := do
  match ← (Reader.program room source).attempt with
  | .error failure =>
      match failure.programError? with
      | none => Traced.fail failure
      | some error => RunResult.failing { env } error
  | .ok trees =>
      let result ← runTrees room stopOnError trees { env }
      Traced.log (.ranBindings result.bindingsRun trees.length result.status)
      return result

end Trefoil
