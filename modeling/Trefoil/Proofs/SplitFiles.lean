import Trefoil.Program
import Trefoil.Proofs.Placement
import Trefoil.Proofs.WaysToRun

/-! # Programs in several files

A program can be split into files wherever a form ends. Running the files one after
the other writes the same lines and ends in the same way as running one file that
holds them all, each on lines of its own. Both come down to one run of all forms. -/

namespace Trefoil.Program

open Traced

/-! ## What is written -/

def Output.isLine : Output → Bool
  | toOut _ | toErr _ => true
  | logged _ => false

def Account.lines (account : Account) : List Output := account.outputs.filter Output.isLine

theorem Account.lines_after (outputs : List Output) (account : Account) :
    (account.after outputs).lines = outputs.filter Output.isLine ++ account.lines :=
  List.filter_append ..

theorem isLine_outputOfEvent (events : List Event) :
    (events.map outputOfEvent).filter Output.isLine =
      (events.filter Event.isShown).map outputOfEvent := by
  have same : Output.isLine ∘ outputOfEvent = Event.isShown := by
    funext event
    cases event <;> rfl
  rw [List.filter_map, same]

/-! ## Files -/

/-- A file that is found and whose text the reader accepts. -/
structure ProgramFile (room : Nat) (read : String → FileRead) where
  path : String
  content : String
  trees : List SymbolTree
  found : read path = .text content
  accepted : (Reader.program room content).outcome = .ok trees

def endingOfRun (failed : Bool) : Except Failure RunResult → Ending
  | .error failure => .failed failure
  | .ok result => .returned (if failed || !result.errors.isEmpty then 1 else 0)

theorem endingOfRun_after (failed : Bool) (earlier : RunResult)
    (outcome : Except Failure RunResult) :
    endingOfRun failed (outcome.map earlier.after) =
      endingOfRun (failed || !earlier.errors.isEmpty) outcome := by
  cases outcome with
  | error failure => rfl
  | ok later =>
      cases equation : earlier.errors <;> simp [Except.map, endingOfRun, RunResult.after, equation]

variable {room : Nat} {read : String → FileRead}

theorem halts_start (stopOnError : Bool) (env : Env) :
    RunResult.halts stopOnError { env } = false := by
  simp [RunResult.halts]

theorem runFiles_cons {path source : String} (found : read path = .text source)
    (stopOnError : Bool) (env : Env) (failed : Bool) (paths : List String) :
    runFiles room stopOnError read env failed (path :: paths) =
      let run := runSource room stopOnError source env
      let outputs := .logged (.runningFile path) :: run.events.map outputOfEvent
      match run.outcome with
      | .error failure => { outputs, ending := .failed failure }
      | .ok result =>
          if result.halts stopOnError then { outputs, ending := .returned 1 }
          else (runFiles room stopOnError read result.env (failed || !result.errors.isEmpty)
            paths).after outputs := by
  rw [runFiles, found]
  dsimp only
  cases (runSource room stopOnError source env).outcome with
  | error failure => rfl
  | ok result =>
      dsimp only
      cases equation : result.errors <;> cases stopOnError <;>
        simp [RunResult.halts, equation]

theorem runFiles_eq_runTrees (stopOnError : Bool) (files : List (ProgramFile room read))
    (env : Env) (failed : Bool) :
    let account := runFiles room stopOnError read env failed (files.map (·.path))
    let run := runTrees room stopOnError (files.flatMap (·.trees)) { env }
    account.lines = run.shown.map outputOfEvent ∧
      account.ending = endingOfRun failed run.outcome := by
  induction files generalizing env failed with
  | nil =>
      refine ⟨rfl, ?_⟩
      simp [runFiles, runTrees, endingOfRun]
  | cons file files induction =>
      have whole := @runSource_of_read room stopOnError file.content file.trees env file.accepted
      have written : (Output.logged (.runningFile file.path) ::
          (runSource room stopOnError file.content env).events.map outputOfEvent).filter
            Output.isLine =
          (runTrees room stopOnError file.trees { env }).shown.map outputOfEvent := by
        rw [← whole.2]
        exact isLine_outputOfEvent _
      dsimp only
      rw [List.map_cons, runFiles_cons file.found, List.flatMap_cons,
        runTrees_append (halts_start stopOnError env)]
      dsimp only
      rw [whole.1]
      cases ran : (runTrees room stopOnError file.trees { env }).outcome with
      | error failure =>
          rw [shown_bind_of_error ran, outcome_bind, ran]
          exact ⟨written, rfl⟩
      | ok middle =>
          rw [shown_bind_of_ok ran, outcome_bind, ran, ok_bind]
          dsimp only
          -- Both sides stop here, or both go on in the environment that the file leaves.
          split
          next halts =>
              rw [RunResult.halts, Bool.and_eq_true, Bool.not_eq_true'] at halts
              constructor
              · exact written.trans (by simp [shown])
              · simp [endingOfRun, halts.2]
          next =>
              have rest := runTrees_after room stopOnError (files.flatMap (·.trees)) middle
              have onward := induction middle.env (failed || !middle.errors.isEmpty)
              constructor
              · rw [Account.lines_after, written, onward.1, rest.2, List.map_append]
              · rw [rest.1, endingOfRun_after]
                exact onward.2

theorem outcome_program_intercalate {files : List (ProgramFile room read)} (nonempty : files ≠ []) :
    (Reader.program room ("\n".intercalate (files.map (·.content)))).outcome =
      .ok (files.flatMap (·.trees)) := by
  induction files with
  | nil => exact absurd rfl nonempty
  | cons file files induction =>
      cases files with
      | nil => simpa using file.accepted
      | cons other files =>
          have text : ("\n".intercalate ((file :: other :: files).map (·.content))).toList =
              file.content.toList ++
                '\n' :: ("\n".intercalate ((other :: files).map (·.content))).toList := by
            simp
          exact Reader.outcome_program_newline text file.accepted (induction (by simp))

/-! ## Exit codes -/

theorem endingOfRun_eq_zero_iff {stopOnError : Bool} {trees : List SymbolTree} {env : Env} :
    endingOfRun false (runTrees room stopOnError trees { env }).outcome = .returned 0 ↔
      ∃ final, (runAll room trees env).outcome = .ok final := by
  rw [← @runTrees_complete_iff room stopOnError trees { env }]
  cases (runTrees room stopOnError trees { env }).outcome with
  | error failure => simp [endingOfRun]
  | ok result => simp [endingOfRun]

theorem exists_endingOfRun {stopOnError : Bool} {trees : List SymbolTree} {env : Env}
    (noFault : ¬ FaultsAmong room stopOnError trees { env }) :
    ∃ code ≤ 1, endingOfRun false (runTrees room stopOnError trees { env }).outcome =
      .returned code := by
  cases ran : (runTrees room stopOnError trees { env }).outcome with
  | error failure =>
      exact absurd (faultsAmong_of_error (halts_start stopOnError env) ran) noFault
  | ok result =>
      refine ⟨_, ?_, rfl⟩
      split <;> decide

/-- Running files that the reader accepts writes the same lines, in the same order and
to the same streams, and ends in the same way as running one file with their texts on
lines of their own. The exit code is zero just when all forms succeed one after the
other. There is an exit code unless a form faults. -/
theorem splitting_into_files_agrees {readWhole : String → FileRead} {stopOnError : Bool}
    {files : List (ProgramFile room read)} {path : String} (nonempty : files ≠ [])
    (found : readWhole path = .text ("\n".intercalate (files.map (·.content)))) :
    let trees := files.flatMap (·.trees)
    let split := runFiles room stopOnError read .empty false (files.map (·.path))
    let whole := runFiles room stopOnError readWhole .empty false [path]
    split.lines = whole.lines ∧ split.ending = whole.ending ∧
    (split.ending = .returned 0 ↔ ∃ env, (runAll room trees .empty).outcome = .ok env) ∧
    (¬ FaultsAmong room stopOnError trees { env := .empty } →
      ∃ code ≤ 1, split.ending = .returned code) := by
  intro trees split whole
  let single : ProgramFile room readWhole :=
    { path, content := _, trees, found, accepted := outcome_program_intercalate nonempty }
  have onSplit := runFiles_eq_runTrees stopOnError files .empty false
  have onWhole := runFiles_eq_runTrees stopOnError [single] .empty false
  rw [List.flatMap_singleton] at onWhole
  refine ⟨onSplit.1.trans onWhole.1.symm, onSplit.2.trans onWhole.2.symm, ?_, ?_⟩
  · rw [onSplit.2]
    exact endingOfRun_eq_zero_iff
  · intro noFault
    rw [onSplit.2]
    exact exists_endingOfRun noFault

/-- The first file ends inside a comment, and the second one fails. -/
theorem splitting_into_files_agrees_commented :
    let contents := ["(define x 1)\n;one", "(car x)", "x"]
    let read (path : String) : FileRead :=
      if path = "first" then .text "(define x 1)\n;one"
      else if path = "second" then .text "(car x)"
      else if path = "third" then .text "x"
      else .text ("\n".intercalate contents)
    let split := runFiles 9 false read .empty false ["first", "second", "third"]
    let whole := runFiles 9 false read .empty false ["whole"]
    let lines : List Output := [.toOut "x = 1\n",
      .toErr "error: Argument of car is not a cons\nExpression: '(car x)'\nDetails: got 1\n",
      .toOut "1\n"]
    split.lines = lines ∧ whole.lines = lines ∧ split.ending = .returned 1 ∧
      whole.ending = .returned 1 := by
  intro contents read split whole lines
  let define : SymbolTree := .node [.leaf "define", .leaf "x", .leaf "1"]
  let car : SymbolTree := .node [.leaf "car", .leaf "x"]
  have readDefine : (Reader.program 9 "(define x 1)").outcome = .ok [define] :=
    @Reader.outcome_program [define] 9 (by decide) (by decide)
  have readComment : (Reader.program 9 ";one").outcome = .ok [] := rfl
  let first : ProgramFile 9 read :=
    { path := "first", content := "(define x 1)\n;one", trees := [define], found := by simp [read]
      accepted := Reader.outcome_program_newline (by decide) readDefine readComment }
  let second : ProgramFile 9 read :=
    { path := "second", content := "(car x)", trees := [car], found := by simp [read]
      accepted := @Reader.outcome_program [car] 9 (by decide) (by decide) }
  let third : ProgramFile 9 read :=
    { path := "third", content := "x", trees := [.leaf "x"], found := by simp [read]
      accepted := rfl }
  have found : read "whole" = .text ("\n".intercalate contents) := by simp [read]
  have agrees := @splitting_into_files_agrees 9 read read false [first, second, third] "whole"
    (by simp) found
  have runs := runFiles_eq_runTrees false [first, second, third] .empty false
  let events : List Event := [.reported (.bound "x" (.int 1)),
    .failed (.atRuntime (.notCons .car (.unary .car (.var "x")) (.int 1))),
    .reported (.result (.int 1))]
  have shown : (runTrees 9 false [define, car, .leaf "x"] { env := .empty }).shown = events := rfl
  have texts : events.map outputOfEvent = lines := rfl
  have written : split.lines = lines :=
    runs.1.trans ((congrArg (List.map outputOfEvent) shown).trans texts)
  have fails : split.ending = .returned 1 := runs.2
  exact ⟨written, agrees.1.symm.trans written, fails, agrees.2.1.symm.trans fails⟩

end Trefoil.Program
