import Mathlib.Logic.Relation
import Trefoil.Proofs.Outcome
import Trefoil.Run

/-! # Reachable environments

The environments that programs get to, starting from the empty one. Whatever way
a program is run, its bindings are executed one at a time. So reachable environments
are those that single steps lead to, and what every binding keeps holds of them all. -/

namespace Trefoil

def Binding.Built (binding : Binding) : Prop :=
  ∃ (room : Nat) (tree : SymbolTree), (Binding.ofTree room tree).outcome = .ok binding

namespace Env

/-- With this room, executing one of the allowed bindings leads from an environment to
another. -/
def StepAt (room : Nat) (allowed : Binding → Prop) (env next : Env) : Prop :=
  ∃ (mark : Nat) (binding : Binding),
    allowed binding ∧ (execute room mark binding env).outcome = .ok next

def Step (allowed : Binding → Prop) (env next : Env) : Prop :=
  ∃ room, StepAt room allowed env next

/-- An environment that is empty, or that is left by executing a binding, by
executing bindings in order, or by running a source, in a reachable one. -/
inductive Reachable : Env → Prop
  | empty : Reachable .empty
  | execute {env next : Env} {binding : Binding} (room mark : Nat) (start : Reachable env)
      (built : binding.Built) (runs : (execute room mark binding env).outcome = .ok next) :
      Reachable next
  | executeAll {env next : Env} {bindings : List Binding} (room : Nat) (start : Reachable env)
      (built : ∀ binding ∈ bindings, binding.Built)
      (runs : (executeAll room bindings env).outcome = .ok next) : Reachable next
  | runSource {env : Env} {result : RunResult} (room : Nat) (stopOnError : Bool)
      (source : String) (start : Reachable env)
      (runs : (runSource room stopOnError source env).outcome = .ok result) :
      Reachable result.env

end Env

open Relation (ReflTransGen)

theorem Env.steps_of_stepsAt {room : Nat} {allowed : Binding → Prop} {env next : Env}
    (steps : ReflTransGen (Env.StepAt room allowed) env next) :
    ReflTransGen (Env.Step allowed) env next :=
  ReflTransGen.mono (fun _ _ step => ⟨room, step⟩) _ _ steps

theorem executeAll_steps {allowed : Binding → Prop} {room : Nat} {bindings : List Binding}
    {env next : Env} (all : ∀ binding ∈ bindings, allowed binding)
    (runs : (executeAll room bindings env).outcome = .ok next) :
    ReflTransGen (Env.Step allowed) env next := by
  induction bindings generalizing env with
  | nil =>
      cases runs
      exact .refl
  | cons binding bindings induction =>
      rw [executeAll, Traced.outcome_bind_eq_ok] at runs
      rcases runs with ⟨middle, first, rest⟩
      have step : Env.Step allowed env middle :=
        ⟨room, env.size, binding, all binding (by simp), first⟩
      exact .head step (induction (fun other member => all other (by simp [member])) rest)

theorem outcome_runTrees_cons (room : Nat) (stopOnError : Bool) (tree : SymbolTree)
    (trees : List SymbolTree) (result : RunResult) :
    (runTrees room stopOnError (tree :: trees) result).outcome =
      match (runTree room tree result.env).outcome with
      | .ok env => (runTrees room stopOnError trees (result.succeeding env)).outcome
      | .error failure =>
          match failure.programError? with
          | none => .error failure
          | some error =>
              let failed := { result with errors := result.errors ++ [error] }
              if stopOnError then .ok failed
              else (runTrees room stopOnError trees failed).outcome := by
  rw [runTrees, Traced.outcome_bind, Traced.outcome_attempt, Traced.ok_bind]
  cases (runTree room tree result.env).outcome with
  | ok env => rfl
  | error failure =>
      dsimp only
      cases failure.programError? with
      | none => rfl
      | some error => cases stopOnError <;> rfl

theorem runTree_step {room : Nat} {tree : SymbolTree} {env next : Env}
    (runs : (runTree room tree env).outcome = .ok next) :
    Env.StepAt room Binding.Built env next := by
  rw [runTree, Traced.outcome_bind_eq_ok] at runs
  rcases runs with ⟨binding, built, executed⟩
  exact ⟨env.size, binding, ⟨room, tree, built⟩, executed⟩

theorem runTrees_steps {room : Nat} {stopOnError : Bool} {trees : List SymbolTree}
    {result final : RunResult}
    (runs : (runTrees room stopOnError trees result).outcome = .ok final) :
    ReflTransGen (Env.StepAt room Binding.Built) result.env final.env := by
  induction trees generalizing result with
  | nil =>
      cases runs
      exact .refl
  | cons tree trees induction =>
      rw [outcome_runTrees_cons] at runs
      split at runs
      next env ran => exact .head (runTree_step ran) (induction runs)
      next failure _ =>
          split at runs
          next => cases runs
          next error _ =>
              -- A form that fails leaves the environment as it was.
              cases stopOnError with
              | true =>
                  cases runs
                  exact .refl
              | false =>
                  have onward := @induction { result with errors := result.errors ++ [error] } runs
                  exact onward

theorem runSource_steps {room : Nat} {stopOnError : Bool} {source : String} {env : Env}
    {result : RunResult} (runs : (runSource room stopOnError source env).outcome = .ok result) :
    ReflTransGen (Env.StepAt room Binding.Built) env result.env := by
  rw [runSource, Traced.outcome_bind, Traced.outcome_attempt, Traced.ok_bind] at runs
  split at runs
  next failure _ =>
      split at runs
      next => cases runs
      next error _ =>
          cases runs
          exact .refl
  next trees _ =>
      rw [Traced.outcome_bind_eq_ok] at runs
      rcases runs with ⟨final, ran, returned⟩
      cases returned
      exact runTrees_steps ran

theorem Env.steps_invariant {stepped : Env → Env → Prop} {property : Env → Prop}
    (step : ∀ env next, property env → stepped env next → property next)
    {env next : Env} (start : property env) (steps : ReflTransGen stepped env next) :
    property next := by
  induction steps with
  | refl => exact start
  | tail _ last holds => exact step _ _ holds last

theorem Env.reachable_iff_steps {env : Env} :
    env.Reachable ↔ ReflTransGen (Env.Step Binding.Built) .empty env := by
  constructor
  · intro reachable
    induction reachable with
    | empty => exact .refl
    | execute room mark _ built runs start => exact start.tail ⟨room, mark, _, built, runs⟩
    | executeAll room _ built runs start => exact start.trans (executeAll_steps built runs)
    | runSource room stopOnError source _ runs start =>
        exact start.trans (steps_of_stepsAt (runSource_steps runs))
  · refine Env.steps_invariant ?_ .empty
    rintro env next reachable ⟨room, mark, binding, built, runs⟩
    exact .execute room mark reachable built runs

end Trefoil
