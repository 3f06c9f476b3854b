import Trefoil.Execute
import Trefoil.Proofs.Outcome

/-! # Frames

What extending an environment does to it: values and functions are put in front,
and nothing else happens. So what holds of all frames is a matter of the frames
that are added, and the environment of a function starts at its own frame. -/

namespace Trefoil

namespace Env

variable {env scope inner next : Env} {name : String} {value : Expr} {definition : FunctionDef}

/-! ## Lookup -/

theorem lookup_function_of_bindValue {bound : String}
    (found : (bindValue bound value env).lookup name = some (.function definition scope)) :
    env.lookup name = some (.function definition scope) := by
  rw [lookup] at found
  split at found
  · cases found
  · exact found

theorem lookup_function_eq (found : env.lookup name = some (.function definition scope)) :
    definition.name = name ∧ ∃ mark outer, scope = bindFunction mark definition outer := by
  induction env with
  | empty => cases found
  | bindValue bound stored outer induction =>
      exact induction (lookup_function_of_bindValue found)
  | bindFunction mark other outer induction =>
      rw [lookup] at found
      split at found
      next named =>
          cases found
          exact ⟨named, mark, outer, rfl⟩
      next => exact induction found

theorem size_le_of_lookup (found : env.lookup name = some (.function definition scope)) :
    scope.size ≤ env.size := by
  induction env with
  | empty => cases found
  | bindValue bound stored outer induction =>
      have below := induction (lookup_function_of_bindValue found)
      rw [size]
      omega
  | bindFunction mark other outer induction =>
      rw [lookup] at found
      split at found
      · cases found
        exact Nat.le_refl _
      · have below := induction found
        rw [size]
        omega

/-! ## Properties of all frames -/

def Every (onValue : Expr → Prop) (onFunction : FunctionDef → Prop) : Env → Prop
  | empty => True
  | bindValue _ value outer => onValue value ∧ outer.Every onValue onFunction
  | bindFunction _ definition outer => onFunction definition ∧ outer.Every onValue onFunction

/-- The environments that can be got at from an environment: itself, the rest of
each chain, and those in which functions were defined. -/
inductive Reaches (env : Env) : Env → Prop
  | refl : Reaches env env
  | pastValue {name : String} {value : Expr} {outer : Env}
      (start : Reaches env (.bindValue name value outer)) : Reaches env outer
  | pastFunction {mark : Nat} {definition : FunctionDef} {outer : Env}
      (start : Reaches env (.bindFunction mark definition outer)) : Reaches env outer
  | captured {inner scope : Env} {name : String} {definition : FunctionDef}
      (start : Reaches env inner)
      (found : inner.lookup name = some (.function definition scope)) : Reaches env scope

namespace Every

variable {onValue : Expr → Prop} {onFunction : FunctionDef → Prop}

theorem lookup_value (every : env.Every onValue onFunction)
    (found : env.lookup name = some (.value value)) : onValue value := by
  induction env with
  | empty => cases found
  | bindValue bound stored outer induction =>
      rw [lookup] at found
      split at found
      · cases found
        exact every.1
      · exact induction every.2 found
  | bindFunction mark definition outer induction =>
      rw [lookup] at found
      split at found
      · cases found
      · exact induction every.2 found

theorem lookup_function (every : env.Every onValue onFunction)
    (found : env.lookup name = some (.function definition scope)) :
    onFunction definition ∧ scope.Every onValue onFunction := by
  induction env with
  | empty => cases found
  | bindValue bound stored outer induction =>
      exact induction every.2 (lookup_function_of_bindValue found)
  | bindFunction mark other outer induction =>
      rw [lookup] at found
      split at found
      · cases found
        exact ⟨every.1, every⟩
      · exact induction every.2 found

theorem reaches (every : env.Every onValue onFunction) (reaches : env.Reaches inner) :
    inner.Every onValue onFunction := by
  induction reaches with
  | refl => exact every
  | pastValue _ holds => exact holds.2
  | pastFunction _ holds => exact holds.2
  | captured _ found holds => exact (holds.lookup_function found).2

end Every

theorem functionNamed_eq_ok {room : Nat} {site : Option Expr}
    (finds : (env.functionNamed room name site).outcome = .ok (definition, scope)) :
    env.lookup name = some (.function definition scope) := by
  rw [outcome_functionNamed] at finds
  split at finds
  next found =>
      cases finds
      exact found
  next => exact absurd finds Traced.outcome_raise_ne_ok

/-! ## Extension -/

theorem withValue_eq_ok {room : Nat} (binds : (env.withValue room name value).outcome = .ok next) :
    next = bindValue name value env := by
  rw [outcome_withValue] at binds
  split at binds
  · cases binds
    rfl
  · exact absurd binds Traced.outcome_raise_ne_ok

theorem withValues_invariant {property : Env → Prop} {room : Nat} {names : List String}
    {values : List Expr} (start : property scope)
    (step : ∀ name value env, property env → property (bindValue name value env))
    (binds : (scope.withValues room names values).outcome = .ok inner) : property inner := by
  rw [withValues] at binds
  split at binds
  · generalize names.zip values = bindings at binds
    induction bindings generalizing scope with
    | nil =>
        cases binds
        exact start
    | cons binding bindings induction =>
        rw [withEach, Traced.outcome_bind_eq_ok] at binds
        rcases binds with ⟨extended, first, rest⟩
        rw [withValue_eq_ok first] at rest
        exact induction (step _ _ _ start) rest
  · cases binds

end Env

/-- The binding makes the one environment into the other. A definition puts one frame
in front, and any other binding none. The frame of a function gets the mark `mark`. -/
def Binding.Extends (room mark : Nat) (env next : Env) : Binding → Prop
  | .blank => False
  | .defineVariable name init =>
      ∃ value, (evaluate room init env).outcome = .ok value ∧ next = .bindValue name value env
  | .defineFunction definition => next = .bindFunction mark definition env
  | .expression _ | .test _ => next = env

theorem extends_of_execute {room mark : Nat} {binding : Binding} {env next : Env}
    (runs : (execute room mark binding env).outcome = .ok next) :
    binding.Extends room mark env next := by
  cases binding with
  | blank => cases runs
  | defineVariable name init =>
      simp only [execute, Traced.outcome_bind_eq_ok] at runs
      rcases runs with ⟨_, _, value, evaluates, _, _, binds⟩
      exact ⟨value, evaluates, Env.withValue_eq_ok binds⟩
  | defineFunction definition =>
      simp only [execute, Traced.outcome_bind_eq_ok] at runs
      rcases runs with ⟨_, _, extended, defines, _, _, returns⟩
      cases returns
      rw [Env.withFunction] at defines
      split at defines
      · exact absurd defines Traced.outcome_raise_ne_ok
      · cases defines
        rfl
  | expression expr =>
      simp only [execute, Traced.outcome_bind_eq_ok] at runs
      rcases runs with ⟨_, _, value, _, _, _, returns⟩
      cases returns
      rfl
  | test expr =>
      simp only [execute, Traced.outcome_bind_eq_ok] at runs
      rcases runs with ⟨_, _, value, _, returns⟩
      split at returns
      · cases returns
        rfl
      · exact absurd returns Traced.outcome_raise_ne_ok

/-- Executing a binding puts at most one frame in front of the environment. A frame
of a function comes from the definition of that function. -/
theorem execute_eq_ok {room mark : Nat} {binding : Binding} {env next : Env}
    (runs : (execute room mark binding env).outcome = .ok next) :
    next = env ∨ (∃ name value, next = .bindValue name value env) ∨
      ∃ definition, binding = .defineFunction definition ∧
        next = .bindFunction mark definition env := by
  have extended := extends_of_execute runs
  cases binding with
  | blank => cases extended
  | defineVariable name init =>
      rcases extended with ⟨value, _, bound⟩
      exact .inr (.inl ⟨name, value, bound⟩)
  | defineFunction definition => exact .inr (.inr ⟨definition, rfl, extended⟩)
  | expression expr | test expr => exact .inl extended

end Trefoil
