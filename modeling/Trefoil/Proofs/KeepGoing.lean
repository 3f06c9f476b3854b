import Trefoil.Proofs.ReadBack
import Trefoil.Proofs.Shown

/-! # Runs that keep going

A run that carries on after a failure does what a run of the other forms alone
does. A form that fails leaves the environment as it was and reports nothing, so
the forms after it are run as if it had not been there. -/

namespace Trefoil

open Traced

/-! ## Form by form -/

theorem shown_runTrees_cons (room : Nat) (stopOnError : Bool) (tree : SymbolTree)
    (trees : List SymbolTree) (result : RunResult) :
    (runTrees room stopOnError (tree :: trees) result).shown =
      (runTree room tree result.env).shown ++
      match (runTree room tree result.env).outcome with
      | .ok env => (runTrees room stopOnError trees (result.succeeding env)).shown
      | .error failure =>
          match failure.programError? with
          | none => []
          | some error =>
              let failed := { result with errors := result.errors ++ [error] }
              .failed error ::
                if stopOnError then [] else (runTrees room stopOnError trees failed).shown := by
  rw [runTrees, shown_bind_of_ok (outcome_attempt _)]
  cases (runTree room tree result.env).outcome with
  | ok env => rfl
  | error failure =>
      dsimp only
      cases failure.programError? with
      | none => rfl
      | some error => cases stopOnError <;> rfl

theorem errors_of_runTrees {room : Nat} {stopOnError : Bool} {trees : List SymbolTree}
    {result final : RunResult}
    (runs : (runTrees room stopOnError trees result).outcome = .ok final) :
    final.errors = result.errors ++ (runTrees room stopOnError trees result).errors := by
  induction trees generalizing result with
  | nil =>
      cases runs
      simp [runTrees, Traced.errors, shown]
  | cons tree trees induction =>
      have noErrors := errors_runTree room tree result.env
      rw [outcome_runTrees_cons] at runs
      rw [Traced.errors, shown_runTrees_cons, List.filterMap_append, ← Traced.errors, noErrors,
        List.nil_append]
      cases ran : (runTree room tree result.env).outcome with
      | ok env =>
          rw [ran] at runs
          exact induction runs
      | error failure =>
          rw [ran] at runs
          dsimp only at runs ⊢
          cases told : failure.programError? with
          | none => simp [told] at runs
          | some error =>
              rw [told] at runs
              cases stopOnError with
              | true =>
                  cases runs
                  rfl
              | false =>
                  rw [induction runs, List.append_assoc]
                  rfl

namespace RunResult

/-- The result of a run that starts where the earlier one ended. -/
def after (earlier later : RunResult) : RunResult :=
  { env := later.env
    bindingsRun := earlier.bindingsRun + later.bindingsRun
    errors := earlier.errors ++ later.errors }

theorem after_assoc (first second third : RunResult) :
    (first.after second).after third = first.after (second.after third) := by
  simp [after, Nat.add_assoc]

theorem succeeding_eq_after (result : RunResult) (env : Env) :
    result.succeeding env = result.after { env, bindingsRun := 1 } := by
  simp [succeeding, after]

theorem failing_eq_after (result : RunResult) (error : ProgramError) :
    { result with errors := result.errors ++ [error] } =
      result.after { env := result.env, errors := [error] } := by
  simp [after]

def halts (stopOnError : Bool) (result : RunResult) : Bool :=
  stopOnError && !result.errors.isEmpty

end RunResult

/-- What was run before makes no difference but for the environment that it left. -/
theorem runTrees_after (room : Nat) (stopOnError : Bool) (trees : List SymbolTree)
    (result : RunResult) :
    (runTrees room stopOnError trees result).outcome =
        (runTrees room stopOnError trees { env := result.env }).outcome.map result.after ∧
      (runTrees room stopOnError trees result).shown =
        (runTrees room stopOnError trees { env := result.env }).shown := by
  induction trees generalizing result with
  | nil => simp [runTrees, RunResult.after, Except.map, shown]
  | cons tree trees induction =>
      -- After the first form, both runs go on with the same environment.
      have onward (first : RunResult) :
          (runTrees room stopOnError trees (result.after first)).outcome =
              (runTrees room stopOnError trees first).outcome.map result.after ∧
            (runTrees room stopOnError trees (result.after first)).shown =
              (runTrees room stopOnError trees first).shown := by
        have joined := induction (result.after first)
        have alone := induction first
        have sameEnv : (result.after first).env = first.env := rfl
        rw [sameEnv] at joined
        constructor
        · rw [joined.1, alone.1]
          cases (runTrees room stopOnError trees { env := first.env }).outcome with
          | error failure => rfl
          | ok final => simp [Except.map, RunResult.after_assoc]
        · exact joined.2.trans alone.2.symm
      rw [outcome_runTrees_cons, outcome_runTrees_cons, shown_runTrees_cons, shown_runTrees_cons]
      cases (runTree room tree result.env).outcome with
      | ok env =>
          have rest := onward { env, bindingsRun := 1 }
          dsimp only
          rw [RunResult.succeeding_eq_after]
          exact ⟨rest.1, congrArg _ rest.2⟩
      | error failure =>
          dsimp only
          cases failure.programError? with
          | none => exact ⟨rfl, rfl⟩
          | some error =>
              have rest := onward { env := result.env, errors := [error] }
              dsimp only
              rw [RunResult.failing_eq_after]
              cases stopOnError with
              | true => exact ⟨rfl, rfl⟩
              | false => exact ⟨rest.1, congrArg (_ ++ _ :: ·) rest.2⟩

theorem runTrees_append {room : Nat} {stopOnError : Bool} {front back : List SymbolTree}
    {result : RunResult} (goes : result.halts stopOnError = false) :
    runTrees room stopOnError (front ++ back) result = (do
      let middle ← runTrees room stopOnError front result
      if middle.halts stopOnError then return middle
      else runTrees room stopOnError back middle) := by
  induction front generalizing result with
  | nil => simp [runTrees, goes]
  | cons tree front induction =>
      rw [List.cons_append, runTrees, runTrees, bind_assoc]
      congr 1
      funext outcome
      cases outcome with
      | ok env => exact induction goes
      | error failure =>
          dsimp only
          cases failure.programError? with
          | none => rfl
          | some error =>
              cases stopOnError with
              | true => simp [RunResult.failing, RunResult.halts]
              | false =>
                  simp only [bind_assoc, Bool.false_eq_true, if_false]
                  congr 1
                  funext failed
                  exact induction rfl

/-! ## The forms that succeed -/

/-- The forms that succeed when each one is run, whatever has failed before it. -/
def succeeding (room : Nat) : List SymbolTree → Env → List SymbolTree
  | [], _ => []
  | tree :: trees, env =>
      match (runTree room tree env).outcome with
      | .ok next => tree :: succeeding room trees next
      | .error _ => succeeding room trees env

section

variable {room : Nat} {tree : SymbolTree} {trees : List SymbolTree} {env next : Env}

theorem runTrees_cons_of_ok {stopOnError : Bool}
    (succeeds : (runTree room tree env).outcome = .ok next) :
    (runTrees room stopOnError (tree :: trees) { env }).outcome =
        (runTrees room stopOnError trees { env := next }).outcome.map
          (RunResult.after { env := next, bindingsRun := 1 }) ∧
      (runTrees room stopOnError (tree :: trees) { env }).shown =
        (runTree room tree env).shown ++
          (runTrees room stopOnError trees { env := next }).shown := by
  have rest := runTrees_after room stopOnError trees { env := next, bindingsRun := 1 }
  rw [outcome_runTrees_cons, shown_runTrees_cons, succeeds]
  exact ⟨rest.1, congrArg _ rest.2⟩

theorem runTrees_cons_of_error {failure : Failure} {error : ProgramError}
    (fails : (runTree room tree env).outcome = .error failure)
    (told : failure.programError? = some error) :
    (runTrees room false (tree :: trees) { env }).outcome =
        (runTrees room false trees { env }).outcome.map
          (RunResult.after { env, errors := [error] }) ∧
      (runTrees room false (tree :: trees) { env }).shown =
        (runTree room tree env).shown ++
          .failed error :: (runTrees room false trees { env }).shown := by
  have rest := runTrees_after room false trees { env, errors := [error] }
  rw [outcome_runTrees_cons, shown_runTrees_cons, fails]
  dsimp only
  rw [told]
  exact ⟨rest.1, congrArg (_ ++ _ :: ·) rest.2⟩

end

/-- Forms that are run from an environment, with the result: some succeed, and the
others fail with an error. -/
inductive KeepsGoing (room : Nat) : List SymbolTree → Env → RunResult → Prop
  | nil (env : Env) : KeepsGoing room [] env { env }
  | succeeds {tree : SymbolTree} {trees : List SymbolTree} {env next : Env} {final : RunResult}
      (ran : (runTree room tree env).outcome = .ok next) (rest : KeepsGoing room trees next final) :
      KeepsGoing room (tree :: trees) env (RunResult.after { env := next, bindingsRun := 1 } final)
  | fails {tree : SymbolTree} {trees : List SymbolTree} {env : Env} {failure : Failure}
      {error : ProgramError} {final : RunResult}
      (ran : (runTree room tree env).outcome = .error failure)
      (told : failure.programError? = some error) (rest : KeepsGoing room trees env final) :
      KeepsGoing room (tree :: trees) env (RunResult.after { env, errors := [error] } final)

theorem keepsGoing_of_runTrees {room : Nat} {trees : List SymbolTree} {env : Env}
    {final : RunResult} (runs : (runTrees room false trees { env }).outcome = .ok final) :
    KeepsGoing room trees env final := by
  induction trees generalizing env final with
  | nil =>
      cases runs
      exact .nil env
  | cons tree trees induction =>
      cases ran : (runTree room tree env).outcome with
      | ok next =>
          rw [(runTrees_cons_of_ok ran).1] at runs
          cases rest : (runTrees room false trees { env := next }).outcome with
          | error failure => simp [rest, Except.map] at runs
          | ok later =>
              rw [rest] at runs
              cases runs
              exact .succeeds ran (induction rest)
      | error failure =>
          cases told : failure.programError? with
          | none =>
              rw [outcome_runTrees_cons, ran] at runs
              simp [told] at runs
          | some error =>
              rw [(runTrees_cons_of_error ran told).1] at runs
              cases rest : (runTrees room false trees { env }).outcome with
              | error failure => simp [rest, Except.map] at runs
              | ok later =>
                  rw [rest] at runs
                  cases runs
                  exact .fails ran told (induction rest)

namespace KeepsGoing

variable {room : Nat} {trees : List SymbolTree} {env : Env} {final : RunResult}

theorem count (goes : KeepsGoing room trees env final) :
    final.bindingsRun + final.errors.length = trees.length := by
  induction goes with
  | nil env => rfl
  | succeeds ran rest count =>
      simp only [RunResult.after, List.nil_append, List.length_cons]
      omega
  | fails ran told rest count =>
      simp only [RunResult.after, List.length_append, List.length_cons, List.length_nil]
      omega

/-- The forms that succeed give the same result on their own, without the errors. -/
theorem alone (goes : KeepsGoing room trees env final) :
    (runTrees room true (succeeding room trees env) { env }).outcome =
      .ok { env := final.env, bindingsRun := final.bindingsRun } := by
  induction goes with
  | nil env => rfl
  | succeeds ran rest alone =>
      rw [succeeding, ran]
      dsimp only
      rw [(runTrees_cons_of_ok ran).1, alone]
      rfl
  | fails ran told rest alone =>
      rw [succeeding, ran]
      dsimp only
      rw [alone]
      simp [RunResult.after]

theorem reports (goes : KeepsGoing room trees env final) (sound : env.Sound) :
    (runTrees room false trees { env }).reports =
      (runTrees room true (succeeding room trees env) { env }).reports := by
  induction goes with
  | nil env => rfl
  | @succeeds tree trees env next final ran rest same =>
      have onNext := sound.of_runTree ran
      rw [succeeding, ran]
      dsimp only
      rw [Traced.reports, Traced.reports, (runTrees_cons_of_ok ran).2, (runTrees_cons_of_ok ran).2,
        List.filterMap_append, List.filterMap_append]
      exact congrArg _ (same onNext)
  | @fails tree trees env failure error final ran told rest same =>
      have silent := runTree_failsSilently room tree sound failure ran
      rw [succeeding, ran]
      dsimp only
      rw [Traced.reports, (runTrees_cons_of_error ran told).2, silent]
      exact same sound

end KeepsGoing

theorem runTrees_append_failing {room : Nat} {front back : List SymbolTree} {tree : SymbolTree}
    {env : Env} {before final : RunResult} {failure : Failure} (sound : env.Sound)
    (runs : (runTrees room false (front ++ tree :: back) { env }).outcome = .ok final)
    (reached : (runTrees room false front { env }).outcome = .ok before)
    (failed : (runTree room tree before.env).outcome = .error failure) :
    ∃ after, (runTrees room false (front ++ [tree]) { env }).outcome = .ok after ∧
      after.env = before.env ∧
      (runTrees room false (front ++ [tree]) { env }).reports =
        (runTrees room false front { env }).reports := by
  have onBefore : before.env.Sound := sound.of_runTrees reached
  have silent := runTree_failsSilently room tree onBefore failure failed
  have split (rest : List SymbolTree) : runTrees room false (front ++ rest) { env } =
      runTrees room false front { env } >>= runTrees room false rest := runTrees_append rfl
  rw [split, outcome_bind, reached, ok_bind, outcome_runTrees_cons, failed] at runs
  cases told : failure.programError? with
  | none => simp [told] at runs
  | some error =>
      refine ⟨{ before with errors := before.errors ++ [error] }, ?_, rfl, ?_⟩
      · rw [split, outcome_bind, reached, ok_bind, outcome_runTrees_cons, failed]
        dsimp only
        rw [told]
        rfl
      · rw [reports, split, shown_bind_of_ok reached, shown_runTrees_cons, failed, silent]
        dsimp only
        rw [told, List.filterMap_append]
        exact List.append_nil _

/-! ## What is added to the environment -/

/-- The bindings make the one environment into the other, in their order. -/
def Env.ExtendedBy (room : Nat) : List Binding → Env → Env → Prop
  | [], env, final => final = env
  | binding :: bindings, env, final =>
      ∃ next, binding.Extends room env.size env next ∧ ExtendedBy room bindings next final

theorem extendedBy_of_runTrees {room : Nat} {trees : List SymbolTree} {env : Env}
    {final : RunResult} (runs : (runTrees room true trees { env }).outcome = .ok final)
    (complete : final.errors = []) :
    ∃ bindings, (Traced.each (Binding.ofTree room) trees).outcome = .ok bindings ∧
      Env.ExtendedBy room bindings env final.env := by
  induction trees generalizing env final with
  | nil =>
      cases runs
      exact ⟨[], rfl, rfl⟩
  | cons tree trees induction =>
      cases ran : (runTree room tree env).outcome with
      | error failure =>
          rw [outcome_runTrees_cons, ran] at runs
          dsimp only at runs
          split at runs
          · cases runs
          · cases runs
            cases complete
      | ok next =>
          rw [(runTrees_cons_of_ok ran).1] at runs
          cases rest : (runTrees room true trees { env := next }).outcome with
          | error failure => simp [rest, Except.map] at runs
          | ok later =>
              rw [rest] at runs
              cases runs
              rcases induction rest complete with ⟨bindings, builds, extended⟩
              rw [runTree, outcome_bind_eq_ok] at ran
              rcases ran with ⟨binding, built, executed⟩
              refine ⟨binding :: bindings, ?_, next, extends_of_execute executed, extended⟩
              rw [each, outcome_bind, built, ok_bind, outcome_bind, builds]
              rfl

/-! ## Sources -/

theorem Reader.silent_program (room : Nat) (source : String) :
    (Reader.program room source).Silent := by
  unfold Reader.program
  apply Silent.log_bind
  split
  next error _ => cases error <;> rfl
  · split
    · rfl
    · rfl

theorem runSource_of_read {room : Nat} {stopOnError : Bool} {source : String}
    {trees : List SymbolTree} {env : Env}
    (read : (Reader.program room source).outcome = .ok trees) :
    (runSource room stopOnError source env).outcome =
        (runTrees room stopOnError trees { env }).outcome ∧
      (runSource room stopOnError source env).shown =
        (runTrees room stopOnError trees { env }).shown := by
  have silent : (Reader.program room source).attempt.Silent := Reader.silent_program room source
  rw [runSource, outcome_bind, silent.shown_bind (outcome_attempt _), outcome_attempt, ok_bind,
    read]
  dsimp only
  cases ran : (runTrees room stopOnError trees { env }).outcome with
  | error failure => exact ⟨by rw [outcome_bind, ran]; rfl, shown_bind_of_error ran⟩
  | ok result =>
      constructor
      · rw [outcome_bind, ran]
        rfl
      · rw [shown_bind_of_ok ran]
        exact List.append_nil _

/-- In a run that keeps going, every form counts as one that was run or as an error,
and each error is shown once. A form that fails reports nothing and changes nothing.
The forms that succeed, run on their own, give the same environment and the same
reports. What they add is one frame for each definition among them, in their order. -/
theorem keep_going_isolates_failures {env : Env} {room : Nat} {source : String}
    {trees : List SymbolTree} {result : RunResult} (reachable : env.Reachable)
    (read : (Reader.program room source).outcome = .ok trees)
    (runs : (runSource room false source env).outcome = .ok result) :
    let kept := succeeding room trees env
    result.bindingsRun + result.errors.length = trees.length ∧
    (result.status = .failed ↔ result.errors ≠ []) ∧
    (runSource room false source env).errors = result.errors ∧
    (∀ front tree back before failure, trees = front ++ tree :: back →
      (runTrees room false front { env }).outcome = .ok before →
      (runTree room tree before.env).outcome = .error failure →
      ∃ after, (runTrees room false (front ++ [tree]) { env }).outcome = .ok after ∧
        after.env = before.env ∧
        (runTrees room false (front ++ [tree]) { env }).reports =
          (runTrees room false front { env }).reports) ∧
    (∃ alone, (runTrees room true kept { env }).outcome = .ok alone ∧
      alone.status = .complete ∧ alone.env = result.env ∧
      alone.bindingsRun = result.bindingsRun ∧
      (runTrees room true kept { env }).reports = (runSource room false source env).reports ∧
      (∀ other, (Reader.program room other).outcome = .ok kept →
        (runSource room true other env).outcome = .ok alone ∧
        (runSource room true other env).reports = (runSource room false source env).reports)) ∧
    (∃ bindings, (Traced.each (Binding.ofTree room) kept).outcome = .ok bindings ∧
      Env.ExtendedBy room bindings env result.env) := by
  intro kept
  have sound := reachable.sound
  have whole := @runSource_of_read room false source trees env read
  rw [whole.1] at runs
  have goes := keepsGoing_of_runTrees runs
  have errors : (runSource room false source env).errors = result.errors := by
    rw [Traced.errors, whole.2]
    exact (errors_of_runTrees runs).symm
  have reports : (runTrees room true kept { env }).reports =
      (runSource room false source env).reports := by
    rw [Traced.reports, Traced.reports, whole.2]
    exact (goes.reports sound).symm
  refine ⟨goes.count, ?_, errors, ?_, ?_, ?_⟩
  · cases equation : result.errors <;> simp [RunResult.status, equation]
  · rintro front tree back before failure rfl reached failed
    exact runTrees_append_failing sound runs reached failed
  · refine ⟨_, goes.alone, rfl, rfl, rfl, reports, ?_⟩
    intro other readOther
    have same := @runSource_of_read room true other kept env readOther
    refine ⟨same.1.trans goes.alone, ?_⟩
    rw [← reports, Traced.reports, Traced.reports, same.2]
  · have added := extendedBy_of_runTrees goes.alone rfl
    exact added

/-- A form that cannot be built, a repeated parameter, a failed test and a `car` of an
integer stand between two definitions and a call. -/
theorem keep_going_isolates_failures_mixed :
    let source := "\n".intercalate ["(define x 1)", "()", "(define (f a a) x)", "(test false)",
      "(define (g a) (cons a x))", "(car x)", "(g nil)"]
    let kept := "\n".intercalate ["(define x 1)", "(define (g a) (cons a x))", "(g nil)"]
    let g : FunctionDef := ⟨"g", ["a"], .cons (.var "a") (.var "x")⟩
    let result : RunResult :=
      { env := .bindFunction 1 g (.bindValue "x" (.int 1) .empty)
        bindingsRun := 3
        errors := [.inSyntax (.emptyParentheses "()"),
          .atRuntime (.repeatedParameter "a" ⟨"f", ["a", "a"], .var "x"⟩),
          .atRuntime (.testFailed (.bool false) (.bool false)),
          .atRuntime (.notCons .car (.unary .car (.var "x")) (.int 1))] }
    let reports := ["x = 1", "g is defined", "(cons nil 1)"]
    (runSource 9 false source .empty).outcome = .ok result ∧
      (runSource 9 false source .empty).errors = result.errors ∧
      (runSource 9 false source .empty).reports.map Report.text = reports ∧
      ∃ alone, (runSource 9 true kept .empty).outcome = .ok alone ∧
        alone.status = .complete ∧ alone.env = result.env ∧
        (runSource 9 true kept .empty).reports.map Report.text = reports := by
  intro source kept g result reports
  let x : SymbolTree := .node [.leaf "define", .leaf "x", .leaf "1"]
  let defineG : SymbolTree := .node [.leaf "define", .node [.leaf "g", .leaf "a"],
    .node [.leaf "cons", .leaf "a", .leaf "x"]]
  let callG : SymbolTree := .node [.leaf "g", .leaf "nil"]
  let trees : List SymbolTree := [x, .node [],
    .node [.leaf "define", .node [.leaf "f", .leaf "a", .leaf "a"], .leaf "x"],
    .node [.leaf "test", .leaf "false"], defineG, .node [.leaf "car", .leaf "x"], callG]
  have read : (Reader.program 9 source).outcome = .ok trees :=
    @Reader.outcome_program trees 9 (by decide) (by decide)
  have readKept : (Reader.program 9 kept).outcome = .ok [x, defineG, callG] :=
    @Reader.outcome_program [x, defineG, callG] 9 (by decide) (by decide)
  have runs : (runSource 9 false source .empty).outcome = .ok result :=
    (runSource_of_read read).1
  have reported : (runSource 9 false source .empty).reports =
      [.bound "x" (.int 1), .defined "g", .result (.cons .nil (.int 1))] := by
    rw [Traced.reports, (runSource_of_read read).2]
    rfl
  have texts : (runSource 9 false source .empty).reports.map Report.text = reports := by
    rw [reported]
    decide
  have isolates := keep_going_isolates_failures .empty read runs
  rcases isolates.2.2.2.2.1 with ⟨alone, _, complete, sameEnv, _, _, others⟩
  rcases others kept readKept with ⟨ran, sameReports⟩
  exact ⟨runs, isolates.2.2.1, texts, alone, ran, complete, sameEnv, sameReports ▸ texts⟩

end Trefoil
