import Trefoil.Proofs.KeepGoing
import Trefoil.Proofs.Placement

/-! # More room

Reading, building, evaluating and reporting go only so deep. A computation that
lacks the room ends in a failure of its own. Any other computation stays the same
with more room: it has the same outcome, and the same events on the way. A run turns
a lack of room into an error, after which it may go on, but a run without such an
error is the same with more room as well. -/

namespace Trefoil

namespace Traced

variable {α β : Type} {room room' : Nat}

theorem bind_congr_of_ok {first : Traced α} {next next' : α → Traced β} {value : α}
    (returns : first.outcome = .ok value) (same : next value = next' value) :
    first >>= next = first >>= next' := by
  simp [Bind.bind, returns, same]

theorem persists_report (le : room ≤ room') (report : Report) :
    Persists (Traced.report room report) (Traced.report room' report) := by
  unfold Traced.report
  split
  next fit =>
      rw [if_pos (depths_le le fit)]
      exact .refl _
  next => exact fun enough => absurd rfl enough

end Traced

open Traced

/-! ## Reading and building -/

theorem Reader.persists_program {room room' : Nat} (le : room ≤ room') (source : String) :
    Persists (program room source) (program room' source) := by
  intro enough
  have enoughForms : forms room source.toList ≠ .error .tooDeep := by
    intro tooDeep
    rw [outcome_program_of_error tooDeep] at enough
    exact enough rfl
  rw [program, forms_of_le le enoughForms]
  rfl

/-! ## Evaluation -/

section

variable {room room' : Nat} {site : Expr} {env : Env}

theorem Expr.persists_applyBinary (le : room ≤ room') (op : BinaryOp) (left right : Expr) :
    Persists (applyBinary room op site left right) (applyBinary room' op site left right) := by
  unfold applyBinary
  split
  · exact .refl _
  · exact .refl _
  · exact .refl _
  · exact .refl _
  · exact .refl _
  · exact persists_raise le _

theorem Expr.persists_applyUnary (le : room ≤ room') (op : UnaryOp) (value : Expr) :
    Persists (applyUnary room op site value) (applyUnary room' op site value) := by
  unfold applyUnary
  split
  · exact .refl _
  · exact .refl _
  · exact .refl _
  · exact .refl _
  · exact .refl _
  · exact .refl _
  · exact .refl _
  · exact persists_raise le _

theorem Expr.persists_integerArgument (le : room ≤ room') (position : Nat) (value : Expr) :
    Persists (integerArgument room position site value)
      (integerArgument room' position site value) := by
  unfold integerArgument
  split
  · exact .refl _
  · exact persists_raise le _

theorem Expr.persists_largest {evaluate evaluate' : Expr → Traced Expr} (le : room ≤ room')
    (inside : ∀ expr, Persists (evaluate expr) (evaluate' expr)) (position : Nat) (best : Int)
    (arguments : List Expr) :
    Persists (largest room evaluate site position best arguments)
      (largest room' evaluate' site position best arguments) := by
  induction arguments generalizing position best with
  | nil => exact .refl _
  | cons argument arguments induction =>
      apply (inside argument).bind
      intro value
      apply (persists_integerArgument le _ _).bind
      intro candidate
      exact induction _ _

theorem Env.persists_variableValue (le : room ≤ room') (name : String) (site : Option Expr) :
    Persists (env.variableValue room name site) (env.variableValue room' name site) := by
  unfold variableValue
  split
  · exact .refl _
  · apply Persists.log_bind
    dsimp only
    split
    · exact Persists.log_bind (persists_raise le _)
    · exact persists_raise le _

theorem Env.persists_functionNamed (le : room ≤ room') (name : String) (site : Option Expr) :
    Persists (env.functionNamed room name site) (env.functionNamed room' name site) := by
  unfold functionNamed
  split
  · exact .refl _
  · exact Persists.log_bind (persists_raise le _)

theorem Env.persists_withValue (le : room ≤ room') (name : String) (value : Expr) :
    Persists (env.withValue room name value) (env.withValue room' name value) := by
  unfold withValue
  split
  · exact .refl _
  · exact persists_raise le _

theorem Env.persists_withValues (le : room ≤ room') (names : List String) (values : List Expr) :
    Persists (env.withValues room names values) (env.withValues room' names values) := by
  unfold withValues
  split
  · generalize names.zip values = bindings
    induction bindings generalizing env with
    | nil => exact .refl _
    | cons binding bindings induction =>
        apply (persists_withValue le _ _).bind
        intro extended
        exact induction
  · exact .refl _

theorem Env.persists_withFunction (le : room ≤ room') (mark : Nat) (definition : FunctionDef) :
    Persists (env.withFunction room mark definition) (env.withFunction room' mark definition) := by
  unfold withFunction
  split
  · exact persists_raise le _
  · exact .refl _

theorem persists_evaluate (le : room ≤ room') (expr : Expr) (env : Env) :
    Persists (evaluate room expr env) (evaluate room' expr env) := by
  -- By induction on the smaller room: a call goes on with a body that is no part of it.
  induction room generalizing room' expr env with
  | zero => exact fun enough => absurd rfl enough
  | succ room induction =>
      rcases Nat.exists_eq_succ_of_ne_zero (by omega : room' ≠ 0) with ⟨room', rfl⟩
      have below : room ≤ room' := by omega
      have inside := @induction room' below
      cases expr with
      | blank | int _ | bool _ | nil => exact .refl _
      | var name => exact Env.persists_variableValue below _ _
      | binary op left right =>
          by_cases sketched : op = .blank
          · subst sketched
            exact .refl _
          · rw [evaluate_binary sketched, evaluate_binary sketched]
            apply (inside left env).bind
            intro leftValue
            apply (inside right env).bind
            intro rightValue
            exact Expr.persists_applyBinary below _ _ _
      | unary op operand =>
          by_cases sketched : op = .blank
          · subst sketched
            exact .refl _
          · rw [evaluate_unary sketched, evaluate_unary sketched]
            apply (inside operand env).bind
            intro value
            exact Expr.persists_applyUnary below _ _
      | cond condition thenBranch elseBranch =>
          rw [evaluate, evaluate]
          apply (inside condition env).bind
          intro value
          exact Persists.log_bind (inside _ env)
      | letIn name bound body =>
          rw [evaluate, evaluate]
          apply (inside bound env).bind
          intro value
          apply (Env.persists_withValue below _ _).bind
          intro inner
          exact inside body inner
      | cons head tail =>
          rw [evaluate, evaluate]
          apply (inside head env).bind
          intro headValue
          apply (inside tail env).bind
          intro tailValue
          exact .refl _
      | max first others =>
          rw [evaluate, evaluate]
          apply (inside first env).bind
          intro value
          apply (Expr.persists_integerArgument below _ _).bind
          intro start
          apply (Expr.persists_largest below (fun other => inside other env) _ _ _).bind
          intro best
          exact .refl _
      | call name arguments =>
          rw [evaluate, evaluate]
          apply (Env.persists_functionNamed below _ _).bind
          rintro ⟨definition, scope⟩
          dsimp only
          split
          · apply (persists_each _ fun argument => inside argument env).bind
            intro values
            apply (Env.persists_withValues below _ _).bind
            intro inner
            exact Persists.log_bind (inside _ inner)
          · exact persists_raise below _

end

/-! ## Runs -/

section

variable {room room' : Nat}

theorem persists_execute (le : room ≤ room') (mark : Nat) (binding : Binding) (env : Env) :
    Persists (execute room mark binding env) (execute room' mark binding env) := by
  cases binding with
  | blank => exact .refl _
  | defineVariable name init =>
      apply Persists.log_bind
      apply (persists_evaluate le init env).bind
      intro value
      apply (persists_report le _).bind
      intro _
      exact Env.persists_withValue le _ _
  | defineFunction definition =>
      apply Persists.log_bind
      apply (Env.persists_withFunction le _ _).bind
      intro extended
      apply (persists_report le _).bind
      intro _
      exact .refl _
  | expression expr =>
      apply Persists.log_bind
      apply (persists_evaluate le expr env).bind
      intro value
      apply (persists_report le _).bind
      intro _
      exact .refl _
  | test expr =>
      apply Persists.log_bind
      apply (persists_evaluate le expr env).bind
      intro value
      split
      · exact .refl _
      · exact persists_raise le _

theorem persists_runTree (le : room ≤ room') (tree : SymbolTree) (env : Env) :
    Persists (runTree room tree env) (runTree room' tree env) := by
  apply (Binding.persists_ofTree le tree).bind
  intro binding
  exact persists_execute le _ _ _

theorem runTrees_of_le (le : room ≤ room') {stopOnError : Bool} {trees : List SymbolTree}
    {result : RunResult}
    (enough : .atRuntime .tooDeep ∉ (runTrees room stopOnError trees result).errors) :
    runTrees room' stopOnError trees result = runTrees room stopOnError trees result := by
  induction trees generalizing result with
  | nil => rfl
  | cons tree trees induction =>
      rw [Traced.errors, shown_runTrees_cons, List.filterMap_append, List.mem_append,
        not_or] at enough
      have enoughFirst : (runTree room tree result.env).outcome ≠ .error .tooDeep := by
        intro tooDeep
        rw [tooDeep] at enough
        exact enough.2 List.mem_cons_self
      rw [runTrees, runTrees, persists_runTree le tree result.env enoughFirst]
      apply bind_congr_of_ok (outcome_attempt _)
      cases ran : (runTree room tree result.env).outcome with
      | ok env =>
          rw [ran] at enough
          exact induction enough.2
      | error failure =>
          rw [ran] at enough
          dsimp only at enough ⊢
          cases told : failure.programError? with
          | none => rfl
          | some error =>
              rw [told] at enough
              cases stopOnError with
              | true => rfl
              | false =>
                  apply bind_congr_of_ok rfl
                  exact induction fun member => enough.2 (List.mem_cons_of_mem _ member)

theorem runSource_of_unread {stopOnError : Bool} {source : String} {env : Env} {failure : Failure}
    {error : ProgramError} (unread : (Reader.program room source).outcome = .error failure)
    (told : failure.programError? = some error) :
    (runSource room stopOnError source env).outcome = .ok { env, errors := [error] } ∧
      (runSource room stopOnError source env).shown = [.failed error] := by
  have silent : (Reader.program room source).attempt.Silent := Reader.silent_program room source
  rw [runSource, outcome_bind, silent.shown_bind (outcome_attempt _), outcome_attempt, ok_bind,
    unread]
  dsimp only
  rw [told]
  exact ⟨rfl, rfl⟩

theorem runSource_of_le (le : room ≤ room') {stopOnError : Bool} {source : String} {env : Env}
    (enough : .atRuntime .tooDeep ∉ (runSource room stopOnError source env).errors) :
    runSource room' stopOnError source env = runSource room stopOnError source env := by
  have enoughRead : (Reader.program room source).outcome ≠ .error .tooDeep := by
    intro tooDeep
    rw [Traced.errors, (runSource_of_unread tooDeep rfl).2] at enough
    exact enough List.mem_cons_self
  rw [runSource, runSource, Reader.persists_program le source enoughRead]
  apply bind_congr_of_ok (outcome_attempt _)
  cases read : (Reader.program room source).outcome with
  | error failure => rfl
  | ok trees =>
      rw [Traced.errors, (runSource_of_read read).2] at enough
      dsimp only
      rw [runTrees_of_le le enough]

end

/-- A run without an error for lack of room is the same run with more room: it has the
same result, or ends in the same fault, and the same events happen. An expression that
has a value or an error has the same one with more room. -/
theorem more_room_same_answer {room room' : Nat} (le : room ≤ room') :
    (∀ stopOnError source env,
      .atRuntime .tooDeep ∉ (runSource room stopOnError source env).errors →
      runSource room' stopOnError source env = runSource room stopOnError source env) ∧
    (∀ expr env, (evaluate room expr env).outcome ≠ .error .tooDeep →
      evaluate room' expr env = evaluate room expr env) := by
  constructor
  · intro stopOnError source env enough
    exact runSource_of_le le enough
  · intro expr env enough
    exact persists_evaluate le expr env enough

/-- The function `f` calls itself three times, and between its definition and the call a
form fails. -/
theorem more_room_same_answer_recursive :
    let source := "\n".intercalate
      ["(define (f n) (if (= n 0) nil (cons n (f (- n 1)))))", "(car nil)", "(f 3)"]
    let count : FunctionDef := ⟨"f", ["n"], .cond (.binary .equals (.var "n") (.int 0)) .nil
      (.cons (.var "n") (.call "f" [.binary .minus (.var "n") (.int 1)]))⟩
    runSource 5000 false source .empty = runSource 15 false source .empty ∧
      evaluate 5000 (.call "f" [.int 3]) (.bindFunction 0 count .empty) =
        evaluate 15 (.call "f" [.int 3]) (.bindFunction 0 count .empty) := by
  intro source count
  let body : SymbolTree := .node [.leaf "if", .node [.leaf "=", .leaf "n", .leaf "0"], .leaf "nil",
    .node [.leaf "cons", .leaf "n", .node [.leaf "f", .node [.leaf "-", .leaf "n", .leaf "1"]]]]
  let trees : List SymbolTree := [.node [.leaf "define", .node [.leaf "f", .leaf "n"], body],
    .node [.leaf "car", .leaf "nil"], .node [.leaf "f", .leaf "3"]]
  have read : (Reader.program 15 source).outcome = .ok trees :=
    @Reader.outcome_program trees 15 (by decide) (by decide)
  have errors : (runTrees 15 false trees { env := .empty }).errors =
      [.atRuntime (.notCons .car (.unary .car .nil) .nil)] := rfl
  have enough : .atRuntime .tooDeep ∉ (runSource 15 false source .empty).errors := by
    rw [Traced.errors, (runSource_of_read read).2, ← Traced.errors, errors]
    simp
  have value : (evaluate 15 (.call "f" [.int 3]) (.bindFunction 0 count .empty)).outcome =
      .ok (.ofList [.int 3, .int 2, .int 1]) := rfl
  have same := more_room_same_answer (by decide : 15 ≤ 5000)
  exact ⟨same.1 false source .empty enough, same.2 _ _ (by rw [value]; simp)⟩

end Trefoil
