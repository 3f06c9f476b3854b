import Trefoil.Proofs.KeepGoing

/-! # Ways to run a program

The forms of a program can be run up to the first one that fails, or all of them
whatever fails, or they can all be built before the first one is executed. A run that
stops shows what the one that goes on shows up to its first error. Building first
changes nothing but the way in which a failure is told. -/

namespace Trefoil

open Traced

/-! ## Stopping and going on -/

/-- The events up to the first error, which is the last one of them. -/
def Event.throughError : List Event → List Event
  | [] => []
  | .failed error :: _ => [.failed error]
  | event :: events => event :: throughError events

theorem Event.throughError_append {front : List Event} (noErrors : front.filterMap error? = [])
    (back : List Event) : throughError (front ++ back) = front ++ throughError back := by
  induction front with
  | nil => rfl
  | cons event front induction =>
      cases event with
      | failed error => simp [error?] at noErrors
      | logged record => exact congrArg _ (induction noErrors)
      | reported report => exact congrArg _ (induction noErrors)

theorem shown_runTrees_stop (room : Nat) (trees : List SymbolTree) (result : RunResult) :
    (runTrees room true trees result).shown =
      Event.throughError (runTrees room false trees result).shown := by
  induction trees generalizing result with
  | nil => rfl
  | cons tree trees induction =>
      rw [shown_runTrees_cons, shown_runTrees_cons,
        Event.throughError_append (errors_runTree room tree result.env)]
      congr 1
      cases (runTree room tree result.env).outcome with
      | ok env => exact induction _
      | error failure =>
          dsimp only
          cases failure.programError? <;> rfl

theorem outcome_runTrees_stop {room : Nat} {trees : List SymbolTree} {result : RunResult}
    (noErrors : (runTrees room false trees result).errors = []) :
    (runTrees room true trees result).outcome = (runTrees room false trees result).outcome := by
  induction trees generalizing result with
  | nil => rfl
  | cons tree trees induction =>
      rw [Traced.errors, shown_runTrees_cons, List.filterMap_append,
        List.append_eq_nil_iff] at noErrors
      rw [outcome_runTrees_cons, outcome_runTrees_cons]
      cases ran : (runTree room tree result.env).outcome with
      | ok env =>
          rw [ran] at noErrors
          exact induction noErrors.2
      | error failure =>
          rw [ran] at noErrors
          dsimp only at noErrors ⊢
          cases told : failure.programError? with
          | none => rfl
          | some error =>
              rw [told] at noErrors
              cases noErrors.2

/-! ## Form after form -/

/-- Runs forms one after the other. A form that fails ends it all. -/
def runAll (room : Nat) (trees : List SymbolTree) (env : Env) : Traced Env :=
  trees.foldlM (fun env tree => runTree room tree env) env

theorem runAll_cons (room : Nat) (tree : SymbolTree) (trees : List SymbolTree) (env : Env) :
    runAll room (tree :: trees) env = runTree room tree env >>= runAll room trees :=
  List.foldlM_cons

/-- How a run that stops concludes, for the outcome of running its forms: a failure
becomes one more error, and a fault stays what it is. -/
inductive Concludes (earlier : List ProgramError) :
    Except Failure Env → Except Failure RunResult → Prop
  | complete {result : RunResult} (same : result.errors = earlier) :
      Concludes earlier (.ok result.env) (.ok result)
  | failed {failure : Failure} {error : ProgramError} {result : RunResult}
      (told : failure.programError? = some error) (added : result.errors = earlier ++ [error]) :
      Concludes earlier (.error failure) (.ok result)
  | broken {failure : Failure} (untold : failure.programError? = none) :
      Concludes earlier (.error failure) (.error failure)

theorem runTrees_concludes (room : Nat) (trees : List SymbolTree) (result : RunResult) :
    Concludes result.errors (runAll room trees result.env).outcome
      (runTrees room true trees result).outcome := by
  induction trees generalizing result with
  | nil => exact .complete rfl
  | cons tree trees induction =>
      rw [runAll_cons, outcome_bind, outcome_runTrees_cons]
      cases (runTree room tree result.env).outcome with
      | ok env => exact induction (result.succeeding env)
      | error failure =>
          cases told : failure.programError? with
          | none =>
              simp only [told]
              exact .broken told
          | some error =>
              simp only [told]
              exact .failed told rfl

theorem reports_runTrees_stop (room : Nat) (trees : List SymbolTree) (result : RunResult) :
    (runTrees room true trees result).reports = (runAll room trees result.env).reports := by
  induction trees generalizing result with
  | nil => rfl
  | cons tree trees induction =>
      rw [runAll_cons, Traced.reports, Traced.reports, shown_runTrees_cons, List.filterMap_append]
      cases ran : (runTree room tree result.env).outcome with
      | ok env =>
          rw [shown_bind_of_ok ran, List.filterMap_append]
          exact congrArg _ (induction (result.succeeding env))
      | error failure =>
          rw [shown_bind_of_error ran]
          cases told : failure.programError? with
          | none => simp [told]
          | some error => simp [told, Event.report?]

/-! ## Complete runs and faults -/

theorem runTrees_complete_iff {room : Nat} {stopOnError : Bool} {trees : List SymbolTree}
    {result : RunResult} :
    (∃ final, (runTrees room stopOnError trees result).outcome = .ok final ∧
        final.errors = result.errors) ↔
      ∃ env, (runAll room trees result.env).outcome = .ok env := by
  induction trees generalizing result with
  | nil => exact ⟨fun _ => ⟨result.env, rfl⟩, fun _ => ⟨result, rfl, rfl⟩⟩
  | cons tree trees induction =>
      rw [outcome_runTrees_cons, runAll_cons, outcome_bind]
      cases (runTree room tree result.env).outcome with
      | ok env => exact @induction (result.succeeding env)
      | error failure =>
          constructor
          · rintro ⟨final, runs, same⟩
            dsimp only at runs
            split at runs
            next => cases runs
            next error _ =>
                -- The error of this form stays among the errors of the result.
                have kept : ∃ more, final.errors = result.errors ++ error :: more := by
                  cases stopOnError with
                  | true =>
                      cases runs
                      exact ⟨[], rfl⟩
                  | false =>
                      have errors := errors_of_runTrees runs
                      rw [List.append_assoc] at errors
                      exact ⟨_, errors⟩
                rcases kept with ⟨more, kept⟩
                rw [same] at kept
                simp at kept
          · rintro ⟨env, returned⟩
            cases returned

/-- One of the forms faults when those before it have been run, and the run goes on
to it. -/
def FaultsAmong (room : Nat) (stopOnError : Bool) (trees : List SymbolTree)
    (result : RunResult) : Prop :=
  ∃ front tree back before fault, trees = front ++ tree :: back ∧
    (runTrees room stopOnError front result).outcome = .ok before ∧
    before.halts stopOnError = false ∧
    (runTree room tree before.env).outcome = .error (.fault fault)

theorem FaultsAmong.cons {room : Nat} {stopOnError : Bool} {tree : SymbolTree}
    {trees : List SymbolTree} {result next : RunResult}
    (onward : ∀ front, (runTrees room stopOnError (tree :: front) result).outcome =
      (runTrees room stopOnError front next).outcome)
    (later : FaultsAmong room stopOnError trees next) :
    FaultsAmong room stopOnError (tree :: trees) result := by
  rcases later with ⟨front, other, back, before, fault, rfl, runs, faults⟩
  exact ⟨tree :: front, other, back, before, fault, rfl, (onward front).trans runs, faults⟩

theorem faultsAmong_of_error {room : Nat} {stopOnError : Bool} {trees : List SymbolTree}
    {result : RunResult} {failure : Failure} (goes : result.halts stopOnError = false)
    (fails : (runTrees room stopOnError trees result).outcome = .error failure) :
    FaultsAmong room stopOnError trees result := by
  induction trees generalizing result with
  | nil => cases fails
  | cons tree trees induction =>
      rw [outcome_runTrees_cons] at fails
      cases ran : (runTree room tree result.env).outcome with
      | ok env =>
          rw [ran] at fails
          have goesOn : (result.succeeding env).halts stopOnError = false := goes
          apply FaultsAmong.cons _ (induction goesOn fails)
          intro front
          rw [outcome_runTrees_cons, ran]
      | error reason =>
          rw [ran] at fails
          cases reason with
          | fault fault => exact ⟨[], tree, trees, result, fault, rfl, rfl, goes, ran⟩
          | program _ | tooDeep =>
              cases stopOnError with
              | true => cases fails
              | false =>
                  apply FaultsAmong.cons _ (induction rfl fails)
                  intro front
                  rw [outcome_runTrees_cons, ran]
                  rfl

/-! ## Building first -/

theorem executeAll_eq_runAll {room : Nat} {trees : List SymbolTree} {bindings : List Binding}
    (builds : (each (Binding.ofTree room) trees).outcome = .ok bindings) (env : Env) :
    (executeAll room bindings env).outcome = (runAll room trees env).outcome ∧
      (executeAll room bindings env).shown = (runAll room trees env).shown := by
  induction trees generalizing bindings env with
  | nil =>
      cases builds
      exact ⟨rfl, rfl⟩
  | cons tree trees induction =>
      rw [each, outcome_bind_eq_ok] at builds
      rcases builds with ⟨binding, built, builds⟩
      rw [outcome_bind_eq_ok] at builds
      rcases builds with ⟨others, builds, returned⟩
      cases returned
      have sameOutcome : (runTree room tree env).outcome =
          (execute room env.size binding env).outcome := by
        rw [runTree, outcome_bind, built, ok_bind]
      have sameShown : (runTree room tree env).shown =
          (execute room env.size binding env).shown :=
        (Binding.silent_ofTree room tree).shown_bind built
      rw [executeAll, runAll_cons]
      constructor
      · apply outcome_bind_congr sameOutcome.symm
        intro next _
        exact (induction builds next).1
      · cases ran : (execute room env.size binding env).outcome with
        | error failure =>
            rw [shown_bind_of_error ran, shown_bind_of_error (sameOutcome.trans ran), sameShown]
        | ok next =>
            rw [shown_bind_of_ok ran, shown_bind_of_ok (sameOutcome.trans ran), sameShown,
              (induction builds next).2]

theorem Binding.built_of_each {room : Nat} {trees : List SymbolTree} {bindings : List Binding}
    (builds : (each (Binding.ofTree room) trees).outcome = .ok bindings) :
    ∀ binding ∈ bindings, binding.Built := by
  have one (tree : SymbolTree) : (Binding.ofTree room tree).Yields Binding.Built := by
    unfold Yields Ensures
    split
    next binding built => exact ⟨room, tree, built⟩
    · trivial
  exact ((ensures_each trees fun tree _ => one tree).of_ok builds).2

theorem executeAll_ensures {room : Nat} {bindings : List Binding} {env : Env}
    (concrete : ∀ binding ∈ bindings, binding.Concrete) (sound : env.Sound) :
    (executeAll room bindings env).Ensures Env.Sound Failure.IsRuntime := by
  induction bindings generalizing env with
  | nil => exact ensures_pure sound
  | cons binding bindings induction =>
      rw [executeAll]
      apply Ensures.bind (execute_ensures (concrete binding (by simp)) sound)
      intro next onNext
      exact induction (fun other member => concrete other (by simp [member])) onNext

theorem Failure.IsRuntime.told {failure : Failure} (runtime : failure.IsRuntime) :
    ∃ reason, failure.programError? = some (.atRuntime reason) ∧
      (failure = .program (.atRuntime reason) ∨ failure = .tooDeep ∧ reason = .tooDeep) := by
  rcases runtime with rfl | ⟨reason, rfl, _⟩
  · exact ⟨.tooDeep, rfl, .inr ⟨rfl, rfl⟩⟩
  · exact ⟨reason, rfl, .inl rfl⟩

theorem Concludes.of_runtime {executed : Except Failure Env}
    {concluded : Except Failure RunResult} (concludes : Concludes [] executed concluded)
    (runtime : ∀ failure, executed = .error failure → failure.IsRuntime) :
    ∃ result, concluded = .ok result ∧
      (result.status = .complete ∧ executed = .ok result.env ∨
        ∃ error, result.status = .failed ∧ result.errors = [.atRuntime error] ∧
          (executed = .error (.program (.atRuntime error)) ∨
            executed = .error .tooDeep ∧ error = .tooDeep)) := by
  cases concludes with
  | @complete result same =>
      exact ⟨result, rfl, .inl ⟨by simp [RunResult.status, same], rfl⟩⟩
  | @failed failure error result told added =>
      rcases (runtime failure rfl).told with ⟨reason, toldAs, cause⟩
      cases told.symm.trans toldAs
      refine ⟨result, rfl, .inr ⟨reason, by simp [RunResult.status, added], added, ?_⟩⟩
      rcases cause with rfl | ⟨rfl, rfl⟩
      · exact .inl rfl
      · exact .inr ⟨rfl, rfl⟩
  | @broken failure untold =>
      rcases (runtime failure rfl).told with ⟨reason, toldAs, _⟩
      cases untold.symm.trans toldAs

/-! ## The three ways -/

/-- A run that stops at the first error shows what a run that goes on shows up to its
first error. Without errors they come to the same. Where all forms can be built,
executing them makes the reports of the run that stops. It leaves the environment of
that run if it is complete, and fails with its only error if not, or for lack of room
where the error says that the recursion is too deep. -/
theorem ways_to_run_agree {env : Env} {room : Nat} {source : String} {trees : List SymbolTree}
    (reachable : env.Reachable) (read : (Reader.program room source).outcome = .ok trees) :
    let stopping := runSource room true source env
    let going := runSource room false source env
    stopping.shown = Event.throughError going.shown ∧
    (going.errors = [] → stopping.outcome = going.outcome) ∧
    ∀ bindings, (Binding.listOfSource room source).outcome = .ok bindings →
      let executing := executeAll room bindings env
      executing.reports = stopping.reports ∧
      ∃ result, stopping.outcome = .ok result ∧
        (result.status = .complete ∧ executing.outcome = .ok result.env ∨
          ∃ error, result.status = .failed ∧ result.errors = [.atRuntime error] ∧
            (executing.outcome = .error (.program (.atRuntime error)) ∨
              executing.outcome = .error .tooDeep ∧ error = .tooDeep)) := by
  intro stopping going
  have onStopping := @runSource_of_read room true source trees env read
  have onGoing := @runSource_of_read room false source trees env read
  refine ⟨?_, ?_, ?_⟩
  · rw [onStopping.2, onGoing.2]
    exact shown_runTrees_stop room trees { env }
  · intro noErrors
    rw [Traced.errors, onGoing.2] at noErrors
    rw [onStopping.1, onGoing.1]
    exact outcome_runTrees_stop noErrors
  · intro bindings builds executing
    rw [Binding.listOfSource, outcome_bind, read, ok_bind] at builds
    have same := executeAll_eq_runAll builds env
    have concrete (binding : Binding) (member : binding ∈ bindings) : binding.Concrete :=
      (Binding.built_of_each builds binding member).concrete
    have ensures : executing.Ensures Env.Sound Failure.IsRuntime :=
      executeAll_ensures concrete reachable.sound
    have concludes := runTrees_concludes room trees { env }
    rw [← same.1, ← onStopping.1] at concludes
    constructor
    · rw [Traced.reports, Traced.reports, same.2, onStopping.2]
      exact (reports_runTrees_stop room trees { env }).symm
    · exact concludes.of_runtime fun failure fails => ensures.of_error fails

/-- A definition is followed by a `car` of an integer and by a form that is fine. -/
theorem ways_to_run_agree_failing :
    let source := "\n".intercalate ["(define x 1)", "(car x)", "x"]
    let bindings : List Binding := [.defineVariable "x" (.int 1),
      .expression (.unary .car (.var "x")), .expression (.var "x")]
    let error : RuntimeError := .notCons .car (.unary .car (.var "x")) (.int 1)
    Env.Reachable .empty ∧
      (Binding.listOfSource 9 source).outcome = .ok bindings ∧
      (runSource 9 false source .empty).shown = [.reported (.bound "x" (.int 1)),
        .failed (.atRuntime error), .reported (.result (.int 1))] ∧
      (runSource 9 true source .empty).shown = [.reported (.bound "x" (.int 1)),
        .failed (.atRuntime error)] ∧
      (executeAll 9 bindings .empty).outcome = .error (.program (.atRuntime error)) ∧
      (executeAll 9 bindings .empty).reports = (runSource 9 true source .empty).reports := by
  intro source bindings error
  let trees : List SymbolTree := [.node [.leaf "define", .leaf "x", .leaf "1"],
    .node [.leaf "car", .leaf "x"], .leaf "x"]
  have read : (Reader.program 9 source).outcome = .ok trees :=
    @Reader.outcome_program trees 9 (by decide) (by decide)
  have builds : (Binding.listOfSource 9 source).outcome = .ok bindings := by
    rw [Binding.listOfSource, outcome_bind, read]
    rfl
  have shownGoing : (runSource 9 false source .empty).shown = [.reported (.bound "x" (.int 1)),
      .failed (.atRuntime error), .reported (.result (.int 1))] := by
    rw [(runSource_of_read read).2]
    rfl
  have agree := ways_to_run_agree .empty read
  refine ⟨.empty, builds, shownGoing, ?_, rfl, (agree.2.2 bindings builds).1⟩
  rw [agree.1, shownGoing]
  rfl

end Trefoil
