import Trefoil.Proofs.Soundness

/-! # Termination

Evaluation fails when its room runs out, and a function that calls itself may use
up any amount of it. Nothing else does. The body of a function is evaluated in the
chain of frames from its own frame on, so what it calls is the function itself or
was defined before it. Where no function calls itself, each call leads to a
shorter chain, and there is room enough for every expression. -/

namespace Trefoil

theorem exists_depth_le (exprs : List Expr) :
    ∃ bound, ∀ expr ∈ exprs, expr.depth ≤ bound := by
  induction exprs with
  | nil => exact ⟨0, by simp⟩
  | cons expr exprs induction =>
      rcases induction with ⟨bound, holds⟩
      refine ⟨max expr.depth bound, ?_⟩
      intro other member
      rcases List.mem_cons.mp member with equal | member
      · rw [equal]
        omega
      · have below := holds other member
        omega

/-! ## Computations that are given room -/

namespace Traced

variable {α β : Type}

/-- The computation has this outcome as soon as it is given enough room. -/
def Settles (computation : Nat → Traced α) (outcome : Except Failure α) : Prop :=
  ∃ enough, ∀ room, enough ≤ room → (computation room).outcome = outcome

/-- With enough room the computation has an outcome that is no lack of room. -/
def Terminates (computation : Nat → Traced α) : Prop :=
  ∃ outcome, outcome ≠ .error .tooDeep ∧ Settles computation outcome

theorem terminates_pure (value : α) : Terminates fun _ => (pure value : Traced α) :=
  ⟨.ok value, nofun, 0, fun _ _ => rfl⟩

theorem terminates_fault (reason : Fault) : Terminates fun _ => (fault reason : Traced α) :=
  ⟨.error (.fault reason), nofun, 0, fun _ _ => rfl⟩

namespace Terminates

theorem of_succ {computation : Nat → Traced α}
    (below : Terminates fun room => computation (room + 1)) : Terminates computation := by
  rcases below with ⟨outcome, roomy, enough, settled⟩
  refine ⟨outcome, roomy, enough + 1, ?_⟩
  intro room large
  cases room with
  | zero => omega
  | succ room => exact settled room (by omega)

theorem bind {first : Nat → Traced α} {next : Nat → α → Traced β} (start : Terminates first)
    (rest : ∀ value, Settles first (.ok value) → Terminates (next · value)) :
    Terminates fun room => first room >>= next room := by
  rcases start with ⟨outcome, roomy, enough, settled⟩
  cases outcome with
  | error failure =>
      refine ⟨.error failure, ?_, enough, ?_⟩
      · intro tooDeep
        cases tooDeep
        exact roomy rfl
      · intro room large
        rw [outcome_bind, settled room large, error_bind]
  | ok value =>
      rcases rest value ⟨enough, settled⟩ with ⟨final, roomy, more, finished⟩
      refine ⟨final, roomy, max enough more, ?_⟩
      intro room large
      rw [outcome_bind, settled room (by omega), ok_bind, finished room (by omega)]

theorem log_bind {record : Log.Record} {next : Nat → Unit → Traced α}
    (rest : Terminates (next · ())) : Terminates fun room => log record >>= next room :=
  bind ⟨.ok (), nofun, 0, fun _ _ => rfl⟩ fun _ _ => rest

end Terminates

theorem terminates_each {action : Nat → α → Traced β} {items : List α}
    (one : ∀ item ∈ items, Terminates (action · item)) :
    Terminates fun room => each (action room) items := by
  induction items with
  | nil => exact terminates_pure []
  | cons item items induction =>
      simp only [each]
      apply Terminates.bind (one item (by simp))
      intro result _
      apply Terminates.bind (induction fun other member => one other (by simp [member]))
      intro results _
      exact terminates_pure (result :: results)

theorem settles_raise (error : RuntimeError) :
    Settles (fun room => (raise room error : Traced α))
      (.error (if error.exprs.any (·.hasBlank) then .fault .blankText
        else .program (.atRuntime error))) := by
  rcases exists_depth_le error.exprs with ⟨bound, holds⟩
  refine ⟨bound, ?_⟩
  intro room large
  have fits : error.exprs.all (·.depth ≤ room) = true := by
    rw [List.all_eq_true]
    intro expr member
    have below := holds expr member
    exact decide_eq_true (by omega)
  dsimp only
  rw [raise, if_pos fits]
  split
  · rfl
  · rfl

theorem terminates_raise (error : RuntimeError) :
    Terminates fun room => (raise room error : Traced α) := by
  refine ⟨_, ?_, settles_raise error⟩
  split
  · nofun
  · nofun

end Traced

open Traced (Settles Terminates)

/-! ## Steps of evaluation -/

section

variable {site : Expr} {env : Env}

theorem Expr.terminates_applyBinary (op : BinaryOp) (left right : Expr) :
    Terminates (applyBinary · op site left right) := by
  unfold applyBinary
  split
  · exact Traced.terminates_pure _
  · exact Traced.terminates_pure _
  · exact Traced.terminates_pure _
  · exact Traced.terminates_pure _
  · exact Traced.terminates_fault _
  · exact Traced.terminates_raise _

theorem Expr.terminates_applyUnary (op : UnaryOp) (value : Expr) :
    Terminates (applyUnary · op site value) := by
  unfold applyUnary
  split
  · exact Traced.terminates_pure _
  · exact Traced.terminates_pure _
  · exact Traced.terminates_pure _
  · exact Traced.terminates_pure _
  · exact Traced.terminates_pure _
  · exact Traced.terminates_pure _
  · exact Traced.terminates_fault _
  · exact Traced.terminates_raise _

theorem Expr.terminates_integerArgument (position : Nat) (value : Expr) :
    Terminates (integerArgument · position site value) := by
  unfold integerArgument
  split
  · exact Traced.terminates_pure _
  · exact Traced.terminates_raise _

theorem Expr.terminates_largest {evaluate : Nat → Expr → Traced Expr} {position : Nat}
    {best : Int} {arguments : List Expr}
    (one : ∀ argument ∈ arguments, Terminates (evaluate · argument)) :
    Terminates fun room => largest room (evaluate room) site position best arguments := by
  induction arguments generalizing position best with
  | nil => exact Traced.terminates_pure best
  | cons argument arguments induction =>
      simp only [largest]
      apply Terminates.bind (one argument (by simp))
      intro value _
      apply Terminates.bind (terminates_integerArgument position value)
      intro candidate _
      exact induction fun other member => one other (by simp [member])

theorem Env.terminates_variableValue (name : String) :
    Terminates fun room => env.variableValue room name (some site) := by
  unfold variableValue
  split
  · exact Traced.terminates_pure _
  · apply Terminates.log_bind
    apply Terminates.log_bind
    exact Traced.terminates_raise _

theorem Env.terminates_functionNamed (name : String) :
    Terminates fun room => env.functionNamed room name (some site) := by
  unfold functionNamed
  split
  · exact Traced.terminates_pure _
  · apply Terminates.log_bind
    exact Traced.terminates_raise _

theorem Env.terminates_withValue (name : String) (value : Expr) :
    Terminates fun room => env.withValue room name value := by
  unfold withValue
  split
  · apply Terminates.log_bind
    exact Traced.terminates_pure _
  · exact Traced.terminates_raise _

theorem Env.terminates_withValues (names : List String) (values : List Expr) :
    Terminates fun room => env.withValues room names values := by
  unfold withValues
  split
  · generalize names.zip values = bindings
    induction bindings generalizing env with
    | nil => exact Traced.terminates_pure env
    | cons binding bindings induction =>
        simp only [withEach]
        apply Terminates.bind (terminates_withValue binding.1 binding.2)
        intro extended _
        exact induction
  · exact Traced.terminates_fault _

end

/-! ## Calls -/

def FunctionDef.CallsItself (definition : FunctionDef) : Prop :=
  ∃ arguments, .call definition.name arguments ∈ definition.body.nodes

namespace Env

variable {env : Env}

def SelfCallFree (env : Env) : Prop := env.Every (fun _ => True) (¬ ·.CallsItself)

/-- The calls among the nodes lead to chains of at most `bound` frames. -/
def CallsWithin (bound : Nat) (nodes : List Expr) (env : Env) : Prop :=
  ∀ name arguments definition scope, .call name arguments ∈ nodes →
    env.lookup name = some (.function definition scope) → scope.size ≤ bound

namespace CallsWithin

variable {bound : Nat} {nodes nodes' : List Expr}

theorem mono (within : env.CallsWithin bound nodes) (subset : nodes' ⊆ nodes) :
    env.CallsWithin bound nodes' :=
  fun name arguments definition scope member =>
    within name arguments definition scope (subset member)

theorem bindValue {name : String} {value : Expr} (within : env.CallsWithin bound nodes) :
    (Env.bindValue name value env).CallsWithin bound nodes :=
  fun name arguments definition scope member found =>
    within name arguments definition scope member (lookup_function_of_bindValue found)

end CallsWithin

theorem lookup_of_withValues {mark room : Nat} {definition callee : FunctionDef}
    {outer inner scope : Env} {values : List Expr} {name : String}
    (binds : ((bindFunction mark definition outer).withValues room definition.parameters
      values).outcome = .ok inner)
    (found : inner.lookup name = some (.function callee scope)) :
    (name = definition.name ∧ callee = definition ∧
        scope = bindFunction mark definition outer) ∨
      outer.lookup name = some (.function callee scope) := by
  let property (inner : Env) : Prop :=
    inner.lookup name = some (.function callee scope) →
      (bindFunction mark definition outer).lookup name = some (.function callee scope)
  have passes : property inner := by
    refine withValues_invariant (fun found => found) ?_ binds
    intro bound value env holds found
    exact holds (lookup_function_of_bindValue found)
  have inScope := passes found
  rw [lookup] at inScope
  split at inScope
  next named =>
      cases inScope
      exact .inl ⟨named.symm, rfl, rfl⟩
  next => exact .inr inScope

theorem SelfCallFree.withValues {scope inner : Env} {room : Nat} {names : List String}
    {values : List Expr} (free : scope.SelfCallFree)
    (binds : (scope.withValues room names values).outcome = .ok inner) : inner.SelfCallFree :=
  withValues_invariant free (fun _ _ _ holds => ⟨trivial, holds⟩) binds

/-- The calls in the body of a function that does not call itself lead to chains
that are shorter than its own. -/
theorem callsWithin_of_withValues {mark room : Nat} {definition : FunctionDef}
    {outer inner : Env} {values : List Expr} (selfCallFree : ¬ definition.CallsItself)
    (binds : ((bindFunction mark definition outer).withValues room definition.parameters
      values).outcome = .ok inner) :
    inner.CallsWithin outer.size definition.body.nodes := by
  intro name arguments callee scope member found
  rcases lookup_of_withValues binds found with ⟨itself, _⟩ | earlier
  · rw [itself] at member
    exact absurd ⟨arguments, member⟩ selfCallFree
  · exact size_le_of_lookup earlier

end Env

theorem terminates_evaluate {bound : Nat} {expr : Expr} {env : Env} (free : env.SelfCallFree)
    (within : env.CallsWithin bound expr.nodes) : Terminates (evaluate · expr env) := by
  -- A call goes to a body of any size, but to a smaller bound; all else goes to
  -- smaller expressions under the same bound.
  induction bound using Nat.strongRecOn generalizing expr env with
  | ind bound onBodies =>
  induction expr using Expr.induction generalizing env with
  | blank =>
      apply Terminates.of_succ
      exact Traced.terminates_fault _
  | int value =>
      apply Terminates.of_succ
      exact Traced.terminates_pure _
  | bool value =>
      apply Terminates.of_succ
      exact Traced.terminates_pure _
  | nil =>
      apply Terminates.of_succ
      exact Traced.terminates_pure _
  | var name =>
      apply Terminates.of_succ
      exact Env.terminates_variableValue name
  | binary op left right onLeft onRight =>
      apply Terminates.of_succ
      by_cases sketched : op = .blank
      · subst sketched
        exact Traced.terminates_fault _
      · simp only [evaluate_binary sketched]
        apply Terminates.bind (onLeft free (within.mono (by simp [Expr.nodes])))
        intro leftValue _
        apply Terminates.bind (onRight free (within.mono (by simp [Expr.nodes])))
        intro rightValue _
        exact Expr.terminates_applyBinary op leftValue rightValue
  | unary op operand onOperand =>
      apply Terminates.of_succ
      by_cases sketched : op = .blank
      · subst sketched
        exact Traced.terminates_fault _
      · simp only [evaluate_unary sketched]
        apply Terminates.bind (onOperand free (within.mono (by simp [Expr.nodes])))
        intro value _
        exact Expr.terminates_applyUnary op value
  | cond condition thenBranch elseBranch onCondition onThen onElse =>
      apply Terminates.of_succ
      simp only [evaluate]
      apply Terminates.bind (onCondition free (within.mono (by simp [Expr.nodes])))
      intro value _
      apply Terminates.log_bind
      split
      · exact onElse free (within.mono fun node inside => by simp [Expr.nodes, inside])
      · exact onThen free (within.mono fun node inside => by simp [Expr.nodes, inside])
  | letIn name boundExpr body onBound onBody =>
      apply Terminates.of_succ
      simp only [evaluate]
      apply Terminates.bind (onBound free (within.mono (by simp [Expr.nodes])))
      intro value _
      apply Terminates.bind (Env.terminates_withValue name value)
      rintro inner ⟨enough, settled⟩
      rw [Env.withValue_eq_ok (settled enough (Nat.le_refl _))]
      have onward : env.CallsWithin bound body.nodes := within.mono (by simp [Expr.nodes])
      exact onBody ⟨trivial, free⟩ onward.bindValue
  | cons head tail onHead onTail =>
      apply Terminates.of_succ
      simp only [evaluate]
      apply Terminates.bind (onHead free (within.mono (by simp [Expr.nodes])))
      intro headValue _
      apply Terminates.bind (onTail free (within.mono (by simp [Expr.nodes])))
      intro tailValue _
      exact Traced.terminates_pure _
  | max first others onFirst onOthers =>
      apply Terminates.of_succ
      simp only [evaluate]
      apply Terminates.bind (onFirst free (within.mono (by simp [Expr.nodes])))
      intro value _
      apply Terminates.bind (Expr.terminates_integerArgument 1 value)
      intro start _
      have onRest (other : Expr) (member : other ∈ others) :
          Terminates (evaluate · other env) := by
        apply onOthers other member free (within.mono _)
        intro node inside
        simp only [Expr.nodes, List.mem_cons, List.mem_append, Expr.mem_nodesAll]
        exact .inr (.inr ⟨other, member, inside⟩)
      apply Terminates.bind (Expr.terminates_largest onRest)
      intro best _
      apply Terminates.log_bind
      exact Traced.terminates_pure _
  | call name arguments onArguments =>
      apply Terminates.of_succ
      simp only [evaluate]
      apply Terminates.bind (Env.terminates_functionNamed name)
      rintro ⟨definition, scope⟩ ⟨enough, settled⟩
      have found := Env.functionNamed_eq_ok (settled enough (Nat.le_refl _))
      have below := within name arguments definition scope (by simp [Expr.nodes]) found
      rcases free.lookup_function found with ⟨selfCallFree, onScope⟩
      rcases (Env.lookup_function_eq found).2 with ⟨mark, outer, rfl⟩
      dsimp only
      split
      · have onEach (argument : Expr) (member : argument ∈ arguments) :
            Terminates (evaluate · argument env) := by
          apply onArguments argument member free (within.mono _)
          intro node inside
          simp only [Expr.nodes, List.mem_cons, Expr.mem_nodesAll]
          exact .inr ⟨argument, member, inside⟩
        apply Terminates.bind (Traced.terminates_each onEach)
        intro values _
        apply Terminates.bind (Env.terminates_withValues definition.parameters values)
        rintro inner ⟨enough, settled⟩
        have binds := settled enough (Nat.le_refl _)
        apply Terminates.log_bind
        apply onBodies outer.size
        · rw [Env.size] at below
          omega
        · exact Env.SelfCallFree.withValues onScope binds
        · exact Env.callsWithin_of_withValues selfCallFree binds
      · exact Traced.terminates_raise _

/-! ## Programs -/

/-- Executing bindings of the program, in whatever order and with whatever room,
leads from the empty environment to this one. -/
def Env.ReachedBy (program : List Binding) (env : Env) : Prop :=
  Relation.ReflTransGen (Env.Step (· ∈ program)) .empty env

theorem Env.ReachedBy.selfCallFree {program : List Binding} {env : Env}
    (reached : env.ReachedBy program)
    (free : ∀ definition, .defineFunction definition ∈ program → ¬ definition.CallsItself) :
    env.SelfCallFree := by
  have empty : Env.SelfCallFree .empty := trivial
  refine Env.steps_invariant ?_ empty reached
  rintro env next holds ⟨room, mark, binding, member, runs⟩
  rcases execute_eq_ok runs with rfl | ⟨name, value, rfl⟩ | ⟨definition, rfl, rfl⟩
  · exact holds
  · exact ⟨trivial, holds⟩
  · exact ⟨free definition member, holds⟩

/-- In every environment that a program gets to in which no function calls itself,
every expression comes to a value or a runtime error, and to the same one with
any amount of room from some amount on. The reason is what a body finds when it
calls a function: the one it is the body of, or one that was there before. -/
theorem evaluation_settles {program : List Binding} {env : Env}
    (concrete : ∀ binding ∈ program, binding.Concrete)
    (free : ∀ definition, .defineFunction definition ∈ program → ¬ definition.CallsItself)
    (reached : env.ReachedBy program) :
    (∀ expr : Expr, expr.Concrete → ∃ outcome, Settles (evaluate · expr env) outcome ∧
      ((∃ value, outcome = .ok value) ∨
        ∃ error, outcome = .error (.program (.atRuntime error)))) ∧
    (∀ name definition scope, env.lookup name = some (.function definition scope) →
      ∃ mark outer, scope = .bindFunction mark definition outer ∧
        ∀ room values inner callee other found,
          (scope.withValues room definition.parameters values).outcome = .ok inner →
          inner.lookup callee = some (.function other found) →
          (callee = definition.name ∧ other = definition ∧ found = scope) ∨
            outer.lookup callee = some (.function other found)) := by
  constructor
  · intro expr onExpr
    have within : env.CallsWithin env.size expr.nodes :=
      fun name arguments definition scope member found => Env.size_le_of_lookup found
    rcases terminates_evaluate (reached.selfCallFree free) within with
      ⟨outcome, roomy, enough, settled⟩
    refine ⟨outcome, ⟨enough, settled⟩, ?_⟩
    have empty : Env.Sound .empty := trivial
    have ensures := @evaluate_ensures enough _ _ onExpr (empty.steps concrete reached)
    have atEnough := settled enough (Nat.le_refl _)
    cases outcome with
    | ok value => exact .inl ⟨value, rfl⟩
    | error failure =>
        rcases ensures.of_error atEnough with rfl | ⟨error, rfl, _⟩
        · exact absurd rfl roomy
        · exact .inr ⟨error, rfl⟩
  · intro name definition scope found
    rcases (Env.lookup_function_eq found).2 with ⟨mark, outer, rfl⟩
    refine ⟨mark, outer, rfl, ?_⟩
    intro room values inner callee other found binds inside
    exact Env.lookup_of_withValues binds inside

/-- The second `f` calls `g`, and `g` calls the first `f`. -/
theorem evaluation_settles_redefined :
    let next : FunctionDef := ⟨"f", ["x"], .binary .plus (.var "x") (.int 1)⟩
    let twice : FunctionDef := ⟨"g", ["x"], .call "f" [.call "f" [.var "x"]]⟩
    let again : FunctionDef := ⟨"f", ["x"], .call "g" [.var "x"]⟩
    ∃ env, (executeAll 9 [.defineFunction next, .defineFunction twice, .defineFunction again]
        .empty).outcome = .ok env ∧
      ∃ outcome, Settles (evaluate · (.call "f" [.int 1]) env) outcome ∧
        ((∃ value, outcome = .ok value) ∨
          ∃ error, outcome = .error (.program (.atRuntime error))) := by
  intro next twice again
  let program : List Binding :=
    [.defineFunction next, .defineFunction twice, .defineFunction again]
  let env : Env := .bindFunction 2 again (.bindFunction 1 twice (.bindFunction 0 next .empty))
  have runs : (executeAll 9 program .empty).outcome = .ok env := rfl
  have concrete : ∀ binding ∈ program, binding.Concrete := by decide
  have free (definition : FunctionDef) (member : .defineFunction definition ∈ program) :
      ¬ definition.CallsItself := by
    rintro ⟨arguments, calls⟩
    simp only [program, List.mem_cons, Binding.defineFunction.injEq, List.not_mem_nil,
      or_false] at member
    rcases member with rfl | rfl | rfl
    · simp [next, Expr.nodes] at calls
    · simp [twice, Expr.nodes, Expr.nodesAll] at calls
    · simp [again, Expr.nodes, Expr.nodesAll] at calls
  have reached : env.ReachedBy program := executeAll_steps (fun _ member => member) runs
  exact ⟨env, runs, (evaluation_settles concrete free reached).1 _ (by decide)⟩

end Trefoil
