import Trefoil.Node
import Trefoil.Proofs.Built
import Trefoil.Proofs.Frames
import Trefoil.Proofs.Reachable

/-! # Soundness of values

`Expr.isValue` looks at the outermost node only, so that what a cons is made of is
never checked. It does not have to be: evaluation in an environment that holds
nothing but deep values ends in deep values, and all bindings keep environments
that way. Hence the checks that are there never fail: no value is refused as
unevaluated, names and values to bind never differ in number, and no sketch is
met. -/

namespace Trefoil

/-! ## Integers -/

theorem Integer.inRange_wrap (value : Int) : Integer.inRange (Integer.wrap value) = true := by
  simp [inRange, wrap, modulus, minimum, maximum]
  omega

/-- Every frame binds a deep value, or a function with a concrete body. -/
def Env.Sound (env : Env) : Prop :=
  env.Every (·.isDeepValue = true) (·.body.Concrete)

/-! ## Failures -/

/-- A runtime error or a lack of room. The error is not that an expression was
found where a value belongs. -/
def Failure.IsRuntime (failure : Failure) : Prop :=
  failure = .tooDeep ∨
    ∃ error, failure = .program (.atRuntime error) ∧ ∀ name expr, error ≠ .notValue name expr

theorem Traced.ensures_raise_runtime {α : Type} {result : α → Prop} {room : Nat}
    {error : RuntimeError} (concrete : ∀ expr ∈ error.exprs, expr.Concrete)
    (evaluated : ∀ name expr, error ≠ .notValue name expr) :
    (raise room error : Traced α).Ensures result Failure.IsRuntime :=
  ensures_raise (fun expr member => (concrete expr member).hasBlank_eq_false)
    (.inr ⟨error, rfl, evaluated⟩) (.inl rfl)

/-- What is said of failures where sketches may be met: if `filled` holds, which stands
for there being none, the failure is one at runtime. -/
def Failure.IsRuntimeIf (filled : Prop) (failure : Failure) : Prop := filled → failure.IsRuntime

section

variable {filled : Prop} {room : Nat} {site : Expr} {env : Env}

theorem Traced.ensures_raise_runtimeIf {α : Type} {result : α → Prop} {error : RuntimeError}
    (concrete : filled → ∀ expr ∈ error.exprs, expr.Concrete)
    (evaluated : ∀ name expr, error ≠ .notValue name expr) :
    (raise room error : Traced α).Ensures result (Failure.IsRuntimeIf filled) := by
  unfold Ensures
  cases raised : (raise room error : Traced α).outcome with
  | ok value => exact absurd raised outcome_raise_ne_ok
  | error failure =>
      intro holds
      have told : (raise room error : Traced α).Ensures result Failure.IsRuntime :=
        ensures_raise_runtime (concrete holds) evaluated
      exact told.of_error raised

/-! ## Evaluation -/

theorem Expr.applyBinary_ensures {op : BinaryOp} {left right : Expr}
    (concrete : filled → op ≠ .blank ∧ site.Concrete ∧ left.Concrete ∧ right.Concrete) :
    (applyBinary room op site left right).Ensures (·.isDeepValue = true)
      (Failure.IsRuntimeIf filled) := by
  unfold applyBinary
  split
  · exact Traced.ensures_pure (Integer.inRange_wrap _)
  · exact Traced.ensures_pure (Integer.inRange_wrap _)
  · exact Traced.ensures_pure (Integer.inRange_wrap _)
  · exact Traced.ensures_pure rfl
  · exact Traced.ensures_fail fun holds => absurd rfl (concrete holds).1
  · apply Traced.ensures_raise_runtimeIf
    · intro holds
      simp [RuntimeError.exprs, (concrete holds).2]
    · nofun

theorem Expr.applyUnary_ensures {op : UnaryOp} {value : Expr}
    (concrete : filled → op ≠ .blank ∧ site.Concrete) (onValue : value.isDeepValue = true) :
    (applyUnary room op site value).Ensures (·.isDeepValue = true)
      (Failure.IsRuntimeIf filled) := by
  unfold applyUnary
  split
  · exact Traced.ensures_pure rfl
  · exact Traced.ensures_pure rfl
  · exact Traced.ensures_pure rfl
  · exact Traced.ensures_pure rfl
  · rw [isDeepValue, Bool.and_eq_true] at onValue
    exact Traced.ensures_pure onValue.1
  · rw [isDeepValue, Bool.and_eq_true] at onValue
    exact Traced.ensures_pure onValue.2
  · exact Traced.ensures_fail fun holds => absurd rfl (concrete holds).1
  · apply Traced.ensures_raise_runtimeIf
    · intro holds
      simp [RuntimeError.exprs, (concrete holds).2, concrete_of_isDeepValue onValue]
    · simp

theorem Expr.integerArgument_ensures {position : Nat} {value : Expr}
    (onSite : filled → site.Concrete) (onValue : value.isDeepValue = true) :
    (integerArgument room position site value).Ensures (Integer.inRange · = true)
      (Failure.IsRuntimeIf filled) := by
  unfold integerArgument
  split
  · exact Traced.ensures_pure onValue
  · apply Traced.ensures_raise_runtimeIf
    · intro holds
      simp [RuntimeError.exprs, onSite holds, concrete_of_isDeepValue onValue]
    · nofun

theorem Expr.largest_ensures {evaluate : Expr → Traced Expr} {position : Nat} {best : Int}
    {arguments : List Expr} (onSite : filled → site.Concrete)
    (onBest : Integer.inRange best = true)
    (inside : ∀ argument ∈ arguments,
      (evaluate argument).Ensures (·.isDeepValue = true) (Failure.IsRuntimeIf filled)) :
    (largest room evaluate site position best arguments).Ensures (Integer.inRange · = true)
      (Failure.IsRuntimeIf filled) := by
  induction arguments generalizing position best with
  | nil => exact Traced.ensures_pure onBest
  | cons argument arguments induction =>
      rw [largest]
      apply Traced.Ensures.bind (inside argument (by simp))
      intro value onValue
      apply Traced.Ensures.bind (integerArgument_ensures onSite onValue)
      intro candidate onCandidate
      have onNext : Integer.inRange (if best < candidate then candidate else best) = true := by
        split
        · exact onCandidate
        · exact onBest
      exact induction onNext fun other member => inside other (by simp [member])

theorem Env.variableValue_ensures {name : String} (sound : env.Sound)
    (onSite : filled → site.Concrete) :
    (env.variableValue room name (some site)).Ensures (·.isDeepValue = true)
      (Failure.IsRuntimeIf filled) := by
  unfold variableValue
  split
  next value found => exact Traced.ensures_pure (sound.lookup_value found)
  · apply Traced.ensures_log_bind
    apply Traced.ensures_log_bind
    apply Traced.ensures_raise_runtimeIf
    · intro holds
      simp [RuntimeError.exprs, onSite holds]
    · nofun

theorem Env.functionNamed_ensures {name : String} (sound : env.Sound)
    (onSite : filled → site.Concrete) :
    (env.functionNamed room name (some site)).Ensures
      (fun (definition, scope) => definition.body.Concrete ∧ scope.Sound)
      (Failure.IsRuntimeIf filled) := by
  unfold functionNamed
  split
  next definition scope found => exact Traced.ensures_pure (sound.lookup_function found)
  · apply Traced.ensures_log_bind
    apply Traced.ensures_raise_runtimeIf
    · intro holds
      simp [RuntimeError.exprs, onSite holds]
    · nofun

variable {failure : Failure → Prop}

theorem Env.withValue_ensures {name : String} {value : Expr} (sound : env.Sound)
    (onValue : value.isDeepValue = true) :
    (env.withValue room name value).Ensures Env.Sound failure := by
  unfold withValue
  rw [if_pos (Expr.isValue_of_isDeepValue onValue)]
  exact Traced.ensures_log_bind (Traced.ensures_pure ⟨onValue, sound⟩)

theorem Env.withEach_ensures {bindings : List (String × Expr)} (sound : env.Sound)
    (onValues : ∀ binding ∈ bindings, binding.2.isDeepValue = true) :
    (withEach room bindings env).Ensures Env.Sound failure := by
  induction bindings generalizing env with
  | nil => exact Traced.ensures_pure sound
  | cons binding bindings induction =>
      rw [withEach]
      apply Traced.Ensures.bind (withValue_ensures sound (onValues binding (by simp)))
      intro extended onExtended
      exact induction onExtended fun other member => onValues other (by simp [member])

theorem Env.withValues_ensures {names : List String} {values : List Expr} (sound : env.Sound)
    (count : names.length = values.length)
    (onValues : ∀ value ∈ values, value.isDeepValue = true) :
    (env.withValues room names values).Ensures Env.Sound failure := by
  unfold withValues
  rw [if_pos count]
  apply withEach_ensures sound
  intro binding member
  exact onValues binding.2 (List.of_mem_zip member).2

/-- In a sound environment, an expression with integers in range has a deep value. If it
is concrete, it fails at runtime if at all. -/
theorem evaluate_ensures_of_ranged {expr : Expr} (ranged : expr.Ranged)
    (concrete : filled → expr.Concrete) (sound : env.Sound) :
    (evaluate room expr env).Ensures (·.isDeepValue = true) (Failure.IsRuntimeIf filled) := by
  -- By induction on the room and not on the expression: a call goes on with a body
  -- that is no part of it, in another environment.
  induction room generalizing expr env with
  | zero => exact Traced.ensures_fail fun _ => .inl rfl
  | succ room induction =>
      cases expr with
      | blank =>
          exact Traced.ensures_fail fun holds =>
            absurd (Expr.every_blank.mp (concrete holds)) (by decide)
      | int value =>
          have node : Expr.isRangedNode (.int value) = true := Expr.every_int.mp ranged
          exact Traced.ensures_pure node
      | bool value => exact Traced.ensures_pure rfl
      | nil => exact Traced.ensures_pure rfl
      | var name => exact Env.variableValue_ensures sound concrete
      | binary op left right =>
          rcases Expr.every_binary.mp ranged with ⟨_, onLeft, onRight⟩
          by_cases sketched : op = .blank
          · subst sketched
            exact Traced.ensures_fail fun holds => absurd rfl (concrete holds).binary_filled
          · rw [evaluate_binary sketched]
            apply Traced.Ensures.bind
              (induction onLeft (fun holds => (Expr.every_binary.mp (concrete holds)).2.1) sound)
            intro leftValue leftDeep
            apply Traced.Ensures.bind
              (induction onRight (fun holds => (Expr.every_binary.mp (concrete holds)).2.2) sound)
            intro rightValue rightDeep
            exact Expr.applyBinary_ensures fun holds =>
              ⟨sketched, concrete holds, Expr.concrete_of_isDeepValue leftDeep,
                Expr.concrete_of_isDeepValue rightDeep⟩
      | unary op operand =>
          rcases Expr.every_unary.mp ranged with ⟨_, onOperand⟩
          by_cases sketched : op = .blank
          · subst sketched
            exact Traced.ensures_fail fun holds => absurd rfl (concrete holds).unary_filled
          · rw [evaluate_unary sketched]
            apply Traced.Ensures.bind
              (induction onOperand (fun holds => (Expr.every_unary.mp (concrete holds)).2) sound)
            intro value deep
            exact Expr.applyUnary_ensures (fun holds => ⟨sketched, concrete holds⟩) deep
      | cond condition thenBranch elseBranch =>
          rcases Expr.every_cond.mp ranged with ⟨_, onCondition, onThen, onElse⟩
          have parts (holds : filled) := (Expr.every_cond.mp (concrete holds)).2
          rw [evaluate]
          apply Traced.Ensures.bind (induction onCondition (fun holds => (parts holds).1) sound)
          intro value _
          apply Traced.ensures_log_bind
          split
          · exact induction onElse (fun holds => (parts holds).2.2) sound
          · exact induction onThen (fun holds => (parts holds).2.1) sound
      | letIn name bound body =>
          rcases Expr.every_letIn.mp ranged with ⟨_, onBound, onBody⟩
          have parts (holds : filled) := (Expr.every_letIn.mp (concrete holds)).2
          rw [evaluate]
          apply Traced.Ensures.bind (induction onBound (fun holds => (parts holds).1) sound)
          intro value deep
          apply Traced.Ensures.bind (Env.withValue_ensures sound deep)
          intro inner onInner
          exact induction onBody (fun holds => (parts holds).2) onInner
      | cons head tail =>
          rcases Expr.every_cons.mp ranged with ⟨_, onHead, onTail⟩
          have parts (holds : filled) := (Expr.every_cons.mp (concrete holds)).2
          rw [evaluate]
          apply Traced.Ensures.bind (induction onHead (fun holds => (parts holds).1) sound)
          intro headValue headDeep
          apply Traced.Ensures.bind (induction onTail (fun holds => (parts holds).2) sound)
          intro tailValue tailDeep
          exact Traced.ensures_pure (by simp [Expr.isDeepValue, headDeep, tailDeep])
      | max first others =>
          rcases Expr.every_max.mp ranged with ⟨_, onFirst, onOthers⟩
          have parts (holds : filled) := (Expr.every_max.mp (concrete holds)).2
          rw [evaluate]
          apply Traced.Ensures.bind (induction onFirst (fun holds => (parts holds).1) sound)
          intro value deep
          apply Traced.Ensures.bind (Expr.integerArgument_ensures concrete deep)
          intro start onStart
          apply Traced.Ensures.bind (Expr.largest_ensures concrete onStart fun other member =>
            induction (onOthers other member) (fun holds => (parts holds).2 other member) sound)
          intro best onBest
          exact Traced.ensures_log_bind (Traced.ensures_pure onBest)
      | call name arguments =>
          rcases Expr.every_call.mp ranged with ⟨_, onArguments⟩
          have parts (holds : filled) := (Expr.every_call.mp (concrete holds)).2
          rw [evaluate]
          apply Traced.Ensures.bind (Env.functionNamed_ensures sound concrete)
          rintro ⟨definition, scope⟩ ⟨onBody, onScope⟩
          dsimp only
          split
          next count =>
              have each := Traced.ensures_each arguments fun argument member =>
                induction (onArguments argument member)
                  (fun holds => parts holds argument member) sound
              apply Traced.Ensures.bind each
              rintro values ⟨length, deep⟩
              -- As many values as arguments, so as many as parameters.
              have sameCount := count.trans length.symm
              apply Traced.Ensures.bind (Env.withValues_ensures onScope sameCount deep)
              intro inner onInner
              exact Traced.ensures_log_bind (induction onBody.ranged (fun _ => onBody) onInner)
          next =>
              apply Traced.ensures_raise_runtimeIf
              · intro holds
                simpa [RuntimeError.exprs] using concrete holds
              · simp

theorem evaluate_yields {expr : Expr} (ranged : expr.Ranged) (sound : env.Sound) :
    (evaluate room expr env).Yields (·.isDeepValue = true) :=
  (evaluate_ensures_of_ranged ranged False.elim sound).mono (fun _ => id) fun _ _ => trivial

theorem evaluate_ensures {expr : Expr} (concrete : expr.Concrete) (sound : env.Sound) :
    (evaluate room expr env).Ensures (·.isDeepValue = true) Failure.IsRuntime :=
  (evaluate_ensures_of_ranged concrete.ranged (fun _ => concrete) sound).mono (fun _ => id)
    fun _ atRuntime => atRuntime trivial

/-! ## Execution -/

theorem Traced.ensures_report_bind {α : Type} {result : α → Prop} {report : Report}
    {next : Unit → Traced α} (rest : (next ()).Ensures result Failure.IsRuntime) :
    (Traced.report room report >>= next).Ensures result Failure.IsRuntime := by
  have told : (Traced.report room report).Ensures (fun _ => True) Failure.IsRuntime := by
    unfold Traced.report
    split
    · trivial
    · exact Traced.ensures_fail (.inl rfl)
  exact told.bind fun _ _ => rest

theorem Env.withFunction_ensures {mark : Nat} {definition : FunctionDef} (sound : env.Sound)
    (onBody : definition.body.Concrete) :
    (env.withFunction room mark definition).Ensures Env.Sound Failure.IsRuntime := by
  unfold withFunction
  split
  · apply Traced.ensures_raise_runtime
    · simpa [RuntimeError.exprs] using onBody
    · nofun
  · apply Traced.ensures_log_bind
    exact Traced.ensures_log_bind (Traced.ensures_pure ⟨onBody, sound⟩)

theorem execute_ensures {mark : Nat} {binding : Binding} (concrete : binding.Concrete)
    (sound : env.Sound) :
    (execute room mark binding env).Ensures Env.Sound Failure.IsRuntime := by
  rcases concrete with ⟨filled, concrete⟩
  cases binding with
  | blank => exact absurd rfl filled
  | defineVariable name init =>
      have onInit : init.Concrete := concrete init (by simp [Binding.exprs])
      apply Traced.ensures_log_bind
      apply Traced.Ensures.bind (evaluate_ensures onInit sound)
      intro value deep
      exact Traced.ensures_report_bind (Env.withValue_ensures sound deep)
  | defineFunction definition =>
      have onBody : definition.body.Concrete := concrete _ (by simp [Binding.exprs])
      apply Traced.ensures_log_bind
      apply Traced.Ensures.bind (Env.withFunction_ensures sound onBody)
      intro extended onExtended
      exact Traced.ensures_report_bind (Traced.ensures_pure onExtended)
  | expression expr =>
      have onExpr : expr.Concrete := concrete expr (by simp [Binding.exprs])
      apply Traced.ensures_log_bind
      apply Traced.Ensures.bind (evaluate_ensures onExpr sound)
      intro value _
      exact Traced.ensures_report_bind (Traced.ensures_pure sound)
  | test expr =>
      have onExpr : expr.Concrete := concrete expr (by simp [Binding.exprs])
      apply Traced.ensures_log_bind
      apply Traced.Ensures.bind (evaluate_ensures onExpr sound)
      intro value deep
      split
      · exact Traced.ensures_pure sound
      · apply Traced.ensures_raise_runtime
        · simp [RuntimeError.exprs, onExpr, Expr.concrete_of_isDeepValue deep]
        · simp

end

/-! ## Whole runs -/

theorem Binding.Built.concrete {binding : Binding} (built : binding.Built) :
    binding.Concrete := by
  rcases built with ⟨room, tree, returns⟩
  have written := Binding.ofTree_written room tree (List.Subset.refl tree.tokens)
  exact (written.of_ok returns).concrete

theorem Env.Sound.steps {allowed : Binding → Prop} {env next : Env} (sound : env.Sound)
    (concrete : ∀ binding, allowed binding → binding.Concrete)
    (steps : Relation.ReflTransGen (Env.Step allowed) env next) : next.Sound := by
  refine Env.steps_invariant ?_ sound steps
  rintro env next sound ⟨room, mark, binding, allows, runs⟩
  exact (execute_ensures (concrete binding allows) sound).of_ok runs

theorem Env.Sound.of_runTrees {room : Nat} {stopOnError : Bool} {trees : List SymbolTree}
    {result final : RunResult} (sound : result.env.Sound)
    (runs : (runTrees room stopOnError trees result).outcome = .ok final) : final.env.Sound :=
  sound.steps (fun _ built => built.concrete) (Env.steps_of_stepsAt (runTrees_steps runs))

theorem Env.Sound.of_runTree {room : Nat} {tree : SymbolTree} {env next : Env}
    (sound : env.Sound) (runs : (runTree room tree env).outcome = .ok next) : next.Sound :=
  sound.steps (fun _ built => built.concrete) (.single ⟨room, runTree_step runs⟩)

theorem Env.Reachable.sound {env : Env} (reachable : env.Reachable) : env.Sound :=
  have empty : Env.Sound .empty := trivial
  empty.steps (fun _ built => built.concrete) (Env.reachable_iff_steps.mp reachable)

theorem Node.integer_eq_ok {value : Int} (inRange : (Expr.int value).isDeepValue = true) :
    Node.integer (.plain (.whole value)) = .ok (.expression (.int value)) := by
  rw [Expr.isDeepValue, Integer.inRange, Bool.and_eq_true, decide_eq_true_eq,
    decide_eq_true_eq] at inRange
  have notAbove : ¬ value > Integer.maximum := Int.not_lt.mpr inRange.2
  have notBelow : ¬ value < Integer.minimum := Int.not_lt.mpr inRange.1
  simp [Node.integer, Fields.integer, Fields.one, Fields.required, Checked.within,
    Part.toInteger, notAbove, notBelow, Except.map]

/-- All values that can be got at from a reachable environment are deep, and so
are those that concrete expressions evaluate to there. Their integers pass the
check on integers, and so does every integer that an operator makes, whatever its operands
and wherever it is applied. Evaluating and executing fail at runtime if at all. -/
theorem reachable_values_sound {env : Env} (reachable : env.Reachable) :
    (∀ name value outer, env.Reaches (.bindValue name value outer) →
      value.isDeepValue = true) ∧
    (∀ room expr value, expr.Concrete → (evaluate room expr env).outcome = .ok value →
      value.isDeepValue = true) ∧
    (∀ room expr value, expr.Concrete → (evaluate room expr env).outcome = .ok (.int value) →
      Node.integer (.plain (.whole value)) = .ok (.expression (.int value))) ∧
    (∀ room op site left right value,
      (Expr.applyBinary room op site left right).outcome = .ok (.int value) →
      Node.integer (.plain (.whole value)) = .ok (.expression (.int value))) ∧
    (∀ room expr failure, expr.Concrete → (evaluate room expr env).outcome = .error failure →
      failure.IsRuntime) ∧
    (∀ room mark binding failure, binding.Concrete →
      (execute room mark binding env).outcome = .error failure → failure.IsRuntime) := by
  have sound := reachable.sound
  refine ⟨?_, ?_, ?_, ?_, ?_, ?_⟩
  · intro name value outer reaches
    exact (sound.reaches reaches).1
  · intro room expr value concrete returns
    exact (evaluate_ensures concrete sound).of_ok returns
  · intro room expr value concrete returns
    exact Node.integer_eq_ok ((evaluate_ensures concrete sound).of_ok returns)
  · intro room op site left right value returns
    exact Node.integer_eq_ok ((Expr.applyBinary_ensures False.elim).of_ok returns)
  · intro room expr failure concrete fails
    exact (evaluate_ensures concrete sound).of_error fails
  · intro room mark binding failure concrete fails
    exact (execute_ensures concrete sound).of_error fails

/-- A function adds a variable to its argument. The sum leaves the range of
integers, and what it wraps to passes the check on integers. -/
theorem reachable_values_sound_wrapped :
    ∃ env : Env, env.Reachable ∧
      (evaluate 9 (.call "next" [.int 2147483647]) env).outcome = .ok (.int (-2147483648)) ∧
      Node.integer (.plain (.whole (-2147483648))) =
        .ok (.expression (.int (-2147483648))) := by
  let next : FunctionDef := ⟨"next", ["n"], .binary .plus (.var "n") (.var "one")⟩
  have built : Binding.Built (.defineVariable "one" (.int 1)) :=
    ⟨9, .node [.leaf "define", .leaf "one", .leaf "+001"], rfl⟩
  have builtNext : Binding.Built (.defineFunction next) :=
    ⟨9, .node [.leaf "define", .node [.leaf "next", .leaf "n"],
      .node [.leaf "+", .leaf "n", .leaf "one"]], rfl⟩
  have first : Env.Reachable (.bindValue "one" (.int 1) .empty) :=
    .execute 9 0 .empty built rfl
  have second : Env.Reachable (.bindFunction 1 next (.bindValue "one" (.int 1) .empty)) :=
    .execute 9 1 first builtNext rfl
  exact ⟨_, second, rfl,
    (reachable_values_sound second).2.2.1 9 (.call "next" [.int 2147483647]) _ (by decide) rfl⟩

end Trefoil
