import Trefoil.Proofs.Frames
import Trefoil.Proofs.Reachable

/-! # Closures

A function sees what was bound when it was defined, itself included, and its
parameters in front of that. Its frame is put in front of the environment of that
moment, and whatever is executed later goes in front of the frame. -/

namespace Trefoil

open Relation (ReflTransGen)

namespace Env

variable {env scope outer inner : Env} {name : String} {value : Expr}
  {definition : FunctionDef} {mark : Nat}

/-! ## What can be got at -/

theorem Reaches.of_bindValue (reaches : (bindValue name value env).Reaches inner) :
    inner = bindValue name value env ∨ env.Reaches inner := by
  induction reaches with
  | refl => exact .inl rfl
  | pastValue _ inside =>
      rcases inside with front | behind
      · cases front
        exact .inr .refl
      · exact .inr behind.pastValue
  | pastFunction _ inside =>
      rcases inside with front | behind
      · cases front
      · exact .inr behind.pastFunction
  | captured _ found inside =>
      rcases inside with rfl | behind
      · exact .inr (.captured .refl (lookup_function_of_bindValue found))
      · exact .inr (behind.captured found)

theorem Reaches.of_bindFunction (reaches : (bindFunction mark definition env).Reaches inner) :
    inner = bindFunction mark definition env ∨ env.Reaches inner := by
  induction reaches with
  | refl => exact .inl rfl
  | pastValue _ inside =>
      rcases inside with front | behind
      · cases front
      · exact .inr behind.pastValue
  | pastFunction _ inside =>
      rcases inside with front | behind
      · cases front
        exact .inr .refl
      · exact .inr behind.pastFunction
  | captured _ found inside =>
      rcases inside with rfl | behind
      · rw [lookup] at found
        split at found
        · cases found
          exact .inl rfl
        · exact .inr (.captured .refl found)
      · exact .inr (behind.captured found)

/-- The chain from the frame on that decides what a name stands for. -/
def deciding? (name : String) : Env → Option Env
  | empty => none
  | bindValue bound value outer =>
      if bound = name then some (bindValue bound value outer) else outer.deciding? name
  | bindFunction mark definition outer =>
      if definition.name = name then some (bindFunction mark definition outer)
      else outer.deciding? name

theorem deciding?_of_lookup (found : env.lookup name = some (.function definition scope)) :
    env.deciding? name = some scope := by
  induction env with
  | empty => cases found
  | bindValue bound stored outer induction =>
      rw [lookup] at found
      rw [deciding?]
      split at found
      · cases found
      next different => rw [if_neg different, induction found]
  | bindFunction mark other outer induction =>
      rw [lookup] at found
      rw [deciding?]
      split at found
      next named =>
          cases found
          rw [if_pos named]
      next different => rw [if_neg different, induction found]

/-! ## Binding parameters -/

theorem repeated?_eq_none {earlier names : List String} :
    repeated? earlier names = none ↔ names.Nodup ∧ ∀ name ∈ names, name ∉ earlier := by
  induction names generalizing earlier with
  | nil => simp [repeated?]
  | cons name names induction =>
      rw [repeated?]
      split
      next member => simp [member]
      next fresh =>
          rw [induction]
          simp only [List.nodup_cons, List.mem_cons, not_or, forall_eq_or_imp]
          constructor
          · rintro ⟨nodup, apart⟩
            exact ⟨⟨fun member => (apart name member).1 rfl, nodup⟩, fresh,
              fun other member => (apart other member).2⟩
          · rintro ⟨⟨notMember, nodup⟩, _, apart⟩
            refine ⟨nodup, fun other member => ⟨?_, apart other member⟩⟩
            rintro rfl
            exact notMember member

def bindValues : List (String × Expr) → Env → Env
  | [], env => env
  | (name, value) :: bindings, env => bindValues bindings (bindValue name value env)

theorem outcome_withEach {room : Nat} {bindings : List (String × Expr)}
    (values : ∀ binding ∈ bindings, binding.2.isValue = true) :
    (withEach room bindings env).outcome = .ok (bindValues bindings env) := by
  induction bindings generalizing env with
  | nil => rfl
  | cons binding bindings induction =>
      rw [withEach, Traced.outcome_bind, outcome_withValue,
        if_pos (values binding (by simp)), Traced.ok_bind]
      exact induction fun other member => values other (by simp [member])

theorem lookup_bindValues_of_not_mem {bindings : List (String × Expr)}
    (absent : ∀ binding ∈ bindings, binding.1 ≠ name) :
    (bindValues bindings env).lookup name = env.lookup name := by
  induction bindings generalizing env with
  | nil => rfl
  | cons binding bindings induction =>
      rw [bindValues, induction fun other member => absent other (by simp [member]), lookup,
        if_neg (absent binding (by simp))]

theorem lookup_bindValues_of_mem {bindings : List (String × Expr)}
    (different : (bindings.map Prod.fst).Nodup) (member : (name, value) ∈ bindings) :
    (bindValues bindings env).lookup name = some (.value value) := by
  induction bindings generalizing env with
  | nil => cases member
  | cons binding bindings induction =>
      rw [List.map_cons, List.nodup_cons] at different
      rcases List.mem_cons.mp member with rfl | member
      · have absent (other : String × Expr) (inside : other ∈ bindings) : other.1 ≠ name := by
          intro same
          exact different.1 (List.mem_map.mpr ⟨other, inside, same⟩)
        rw [bindValues, lookup_bindValues_of_not_mem absent, lookup, if_pos rfl]
      · exact induction different.2 member

theorem outcome_withValues {room : Nat} {names : List String} {values : List Expr}
    (count : names.length = values.length) (evaluated : ∀ value ∈ values, value.isValue = true) :
    (scope.withValues room names values).outcome = .ok (bindValues (names.zip values) scope) := by
  rw [withValues, if_pos count]
  apply outcome_withEach
  intro binding member
  exact evaluated binding.2 (List.of_mem_zip member).2

end Env

/-! ## Definitions -/

/-- The definition was executed in the environment, which allowed bindings lead to. -/
structure FunctionDef.DefinedIn (allowed : Binding → Prop) (outer : Env) (mark : Nat)
    (definition : FunctionDef) : Prop where
  reached : ReflTransGen (Env.Step allowed) .empty outer
  allows : allowed (.defineFunction definition)
  runs : ∃ room, (execute room mark (.defineFunction definition) outer).outcome =
    .ok (.bindFunction mark definition outer)

theorem Env.Step.reaches {allowed : Binding → Prop} {env next inner : Env}
    (step : Env.Step allowed env next) (reaches : env.Reaches inner) : next.Reaches inner := by
  rcases step with ⟨room, mark, binding, _, runs⟩
  have behind : next.Reaches env := by
    rcases execute_eq_ok runs with rfl | ⟨name, value, rfl⟩ | ⟨definition, rfl, rfl⟩
    · exact .refl
    · exact .pastValue .refl
    · exact .pastFunction .refl
  induction reaches with
  | refl => exact behind
  | pastValue _ inside => exact inside.pastValue
  | pastFunction _ inside => exact inside.pastFunction
  | captured _ found inside => exact inside.captured found

theorem Env.reaches_of_steps {allowed : Binding → Prop} {env later inner : Env}
    (steps : ReflTransGen (Env.Step allowed) env later) (reaches : env.Reaches inner) :
    later.Reaches inner := by
  induction steps with
  | refl => exact reaches
  | tail _ last inside => exact last.reaches inside

/-- Each function frame goes back to the definition of its function, which was
executed in what is behind the frame. -/
theorem Env.definedIn_of_steps {allowed : Binding → Prop} {env outer : Env} {mark : Nat}
    {definition : FunctionDef} (reached : ReflTransGen (Env.Step allowed) .empty env)
    (frame : env.Reaches (.bindFunction mark definition outer)) :
    definition.DefinedIn allowed outer mark := by
  induction reached with
  | refl =>
      have frameless : Env.Every (fun _ => False) (fun _ => False) .empty := trivial
      exact (frameless.reaches frame).1.elim
  | tail before last defined =>
      rcases last with ⟨room, newMark, binding, allows, runs⟩
      rcases execute_eq_ok runs with rfl | ⟨name, value, rfl⟩ | ⟨added, rfl, rfl⟩
      · exact defined frame
      · rcases frame.of_bindValue with front | behind
        · cases front
        · exact defined behind
      · rcases frame.of_bindFunction with front | behind
        · cases front
          exact ⟨before, allows, room, runs⟩
        · exact defined behind

theorem FunctionDef.DefinedIn.nodup_parameters {allowed : Binding → Prop} {outer : Env}
    {mark : Nat} {definition : FunctionDef} (defined : definition.DefinedIn allowed outer mark) :
    definition.parameters.Nodup := by
  rcases defined.runs with ⟨room, runs⟩
  simp only [execute, Traced.outcome_bind_eq_ok] at runs
  rcases runs with ⟨_, _, extended, defines, _⟩
  rw [Env.withFunction] at defines
  split at defines
  · exact absurd defines Traced.outcome_raise_ne_ok
  next noRepeat => exact (Env.repeated?_eq_none.mp noRepeat).1

/-! ## Calls -/

theorem outcome_evaluate_call {room : Nat} {name : String} {arguments values : List Expr}
    {caller scope : Env} {definition : FunctionDef}
    (found : caller.lookup name = some (.function definition scope))
    (evaluates : (Traced.each (evaluate room · caller) arguments).outcome = .ok values)
    (count : definition.parameters.length = values.length)
    (evaluated : ∀ value ∈ values, value.isValue = true) :
    (evaluate (room + 1) (.call name arguments) caller).outcome =
      (evaluate room definition.body
        (.bindValues (definition.parameters.zip values) scope)).outcome := by
  have length := Traced.length_eq_of_each evaluates
  rw [evaluate, Traced.outcome_bind, Env.outcome_functionNamed, found]
  dsimp only
  rw [Traced.ok_bind]
  dsimp only
  rw [if_pos (count.trans length), Traced.outcome_bind, evaluates, Traced.ok_bind,
    Traced.outcome_bind, Env.outcome_withValues count evaluated, Traced.ok_bind,
    Traced.outcome_bind, Traced.outcome_log, Traced.ok_bind]

/-- Whatever bindings lead to an environment, built or made by hand, the environment of a
function in it is the chain from its frame on. That frame was put in front of what was
there by the definition of the function, and is never taken away. So the function sees
itself, all that was bound before it and nothing else, and in a call its parameters, which
differ, in front of that. Reachable environments are those that built bindings lead to, as
`Env.reachable_iff_steps` says. -/
theorem closures_keep_scope {allowed : Binding → Prop} {env : Env}
    (reached : ReflTransGen (Env.Step allowed) .empty env) :
    (∀ inner name definition scope, env.Reaches inner →
      inner.lookup name = some (.function definition scope) →
      definition.name = name ∧ inner.deciding? name = some scope ∧
        ∃ mark outer, scope = .bindFunction mark definition outer) ∧
    (∀ mark definition outer scope, scope = Env.bindFunction mark definition outer →
      env.Reaches scope →
      -- What the function sees is what there was when it was defined, and itself.
      definition.DefinedIn allowed outer mark ∧
      scope.lookup definition.name = some (.function definition scope) ∧
      (∀ name, name ≠ definition.name → scope.lookup name = outer.lookup name) ∧
      (∀ inner, scope.Reaches inner → inner = scope ∨ outer.Reaches inner) ∧
      -- Nothing that is executed later takes the frame away.
      (∀ later, ReflTransGen (Env.Step fun _ => True) env later → later.Reaches scope) ∧
      definition.parameters.Nodup ∧
      -- In a call, parameters stand for the arguments and all else for what it did.
      (∀ room name arguments values caller,
        caller.lookup name = some (.function definition scope) →
        (Traced.each (evaluate room · caller) arguments).outcome = .ok values →
        definition.parameters.length = values.length →
        (∀ value ∈ values, value.isValue = true) →
        ∃ inner, (scope.withValues room definition.parameters values).outcome = .ok inner ∧
          (evaluate (room + 1) (.call name arguments) caller).outcome =
            (evaluate room definition.body inner).outcome ∧
          (∀ (index : Nat) parameter value, definition.parameters[index]? = some parameter →
            values[index]? = some value → inner.lookup parameter = some (.value value)) ∧
          (∀ name, name ∉ definition.parameters →
            inner.lookup name = scope.lookup name))) := by
  constructor
  · intro inner name definition scope _ found
    rcases Env.lookup_function_eq found with ⟨named, frame⟩
    exact ⟨named, Env.deciding?_of_lookup found, frame⟩
  · rintro mark definition outer scope rfl frame
    have defined := Env.definedIn_of_steps reached frame
    refine ⟨defined, ?_, ?_, ?_, ?_, defined.nodup_parameters, ?_⟩
    · rw [Env.lookup, if_pos rfl]
    · intro name different
      rw [Env.lookup, if_neg different.symm]
    · intro inner reaches
      exact reaches.of_bindFunction
    · intro later steps
      exact Env.reaches_of_steps steps frame
    · intro room name arguments values caller found evaluates count evaluated
      refine ⟨_, Env.outcome_withValues count evaluated,
        outcome_evaluate_call found evaluates count evaluated, ?_, ?_⟩
      · intro index parameter value atParameter atValue
        apply Env.lookup_bindValues_of_mem
        · rw [List.map_fst_zip (Nat.le_of_eq count)]
          exact defined.nodup_parameters
        · apply List.mem_of_getElem? (i := index)
          rw [List.getElem?_zip_eq_some]
          exact ⟨atParameter, atValue⟩
      · intro other notParameter
        apply Env.lookup_bindValues_of_not_mem
        rintro ⟨parameter, value⟩ member rfl
        exact notParameter (List.of_mem_zip member).1

/-- Both `f` and the `x` that it sees are bound again later. A call from where `f` is
still a function takes its argument from the new `x`, and the body sees the old one. -/
theorem closures_keep_scope_redefined :
    let pair : FunctionDef := ⟨"f", ["a", "b"], .cons (.var "a") (.cons (.var "b") (.var "x"))⟩
    let scope : Env := .bindFunction 1 pair (.bindValue "x" (.int 1) .empty)
    let caller : Env := .bindValue "x" (.int 2) scope
    let env : Env := .bindValue "f" .nil caller
    env.Reachable ∧ env.Reaches scope ∧ scope.lookup "x" = some (.value (.int 1)) ∧
      pair.parameters.Nodup ∧
      ∃ inner, (scope.withValues 8 ["a", "b"] [.nil, .int 2]).outcome = .ok inner ∧
        (evaluate 9 (.call "f" [.nil, .var "x"]) caller).outcome =
          (evaluate 8 pair.body inner).outcome ∧
        inner.lookup "b" = some (.value (.int 2)) ∧
        inner.lookup "x" = scope.lookup "x" := by
  intro pair scope caller env
  have builtPair : Binding.Built (.defineFunction pair) :=
    ⟨9, .node [.leaf "define", .node [.leaf "f", .leaf "a", .leaf "b"],
      .node [.leaf "cons", .leaf "a", .node [.leaf "cons", .leaf "b", .leaf "x"]]], rfl⟩
  have builtOne : Binding.Built (.defineVariable "x" (.int 1)) :=
    ⟨9, .node [.leaf "define", .leaf "x", .leaf "1"], rfl⟩
  have builtTwo : Binding.Built (.defineVariable "x" (.int 2)) :=
    ⟨9, .node [.leaf "define", .leaf "x", .leaf "2"], rfl⟩
  have builtNil : Binding.Built (.defineVariable "f" .nil) :=
    ⟨9, .node [.leaf "define", .leaf "f", .leaf "nil"], rfl⟩
  have first : Env.Reachable (.bindValue "x" (.int 1) .empty) := .execute 9 0 .empty builtOne rfl
  have second : scope.Reachable := .execute 9 1 first builtPair rfl
  have third : caller.Reachable := .execute 9 2 second builtTwo rfl
  have reachable : env.Reachable := .execute 9 3 third builtNil rfl
  have frame : env.Reaches scope := .pastValue (.pastValue .refl)
  have reached := Env.reachable_iff_steps.mp reachable
  have closure := (closures_keep_scope reached).2 1 pair _ scope rfl frame
  rcases closure with ⟨_, _, earlier, _, _, different, calls⟩
  rcases calls 8 "f" [.nil, .var "x"] [.nil, .int 2] caller rfl rfl rfl (by decide) with
    ⟨inner, binds, same, parameters, others⟩
  exact ⟨reachable, frame, earlier "x" (by decide), different, inner, binds, same,
    parameters 1 "b" (.int 2) rfl rfl, others "x" (by decide)⟩

end Trefoil
