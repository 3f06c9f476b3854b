import Trefoil.Proofs.Equality
import Trefoil.Proofs.FaultsOfText
import Trefoil.Proofs.LineByLine

/-! # How sessions end

A session goes from prompt to prompt until nothing more is typed, it is interrupted,
or it is asked to exit. There are two other ends. One is a fault, of a source that it
runs or of a file that it loads. The other is to be asked for the environment when a
value in it is too deep to be written. At each prompt the environment holds what the
sources left that were run since the last reset. -/

namespace Trefoil.Session

open Trefoil.Text

/-! ## What inputs do -/

inductive Effect where
  | nothing
  | reset
  | runs (source : String)
  deriving DecidableEq

namespace Effect

def source? : Effect → Option String
  | runs source => some source
  | nothing | reset => none

end Effect

/-- An input that is no command is run without the blanks around it. A command to load a
file has the text of the file run. -/
def effect (read : String → FileRead) (input : String) : Effect :=
  match command? input with
  | none => if trim input = "" then .nothing else .runs (trim input)
  | some .reset => .reset
  | some (.load path) =>
      if path = "" then .nothing
      else
        match read path with
        | .text source => .runs source
        | .failed _ | .fault _ => .nothing
  | some _ => .nothing

def sourcesSinceReset (effects : List Effect) : List String :=
  (effects.reverse.takeWhile (· ≠ .reset)).reverse.filterMap Effect.source?

def resetEnv (env : Env) (effects : List Effect) : Env :=
  if .reset ∈ effects then .empty else env

/-- The environment that runs of the sources leave, each in that of the one before. -/
def replay (room : Nat) (env : Env) (sources : List String) : Except Failure Env :=
  sources.foldlM (fun env source => RunResult.env <$> (runSource room true source env).outcome) env

/-- There is room to write all values that names stand for. -/
def AllFit (room : Nat) (env : Env) : Prop :=
  ∀ name value, env.lookup name = some (.value value) → value.depth ≤ room

namespace AllFit

variable {room : Nat} {env next : Env}

theorem empty : AllFit room .empty := by
  intro name value found
  cases found

/-- With this room, nothing deeper is bound: values are reported before they are bound. -/
theorem step {allowed : Binding → Prop} (fit : AllFit room env)
    (step : Env.StepAt room allowed env next) : AllFit room next := by
  rcases step with ⟨mark, binding, _, runs⟩
  have extended := extends_of_execute runs
  cases binding with
  | blank => cases extended
  | expression expr | test expr =>
      cases extended
      exact fit
  | defineFunction definition =>
      cases extended
      intro name value found
      rw [Env.lookup] at found
      split at found
      · cases found
      · exact fit name value found
  | defineVariable bound init =>
      simp only [execute, Traced.outcome_bind_eq_ok] at runs
      rcases runs with ⟨_, _, stored, _, _, reports, binds⟩
      cases Env.withValue_eq_ok binds
      intro name value found
      rw [Env.lookup] at found
      split at found
      · cases found
        rw [Traced.report] at reports
        split at reports
        next written => simpa [Report.exprs] using written
        next => cases reports
      · exact fit name value found

end AllFit

inductive Replies (room : Nat) (read : String → FileRead) (input : String) (env : Env) :
    Env → Option Ending → Prop
  | nothing (still : effect read input = .nothing) : Replies room read input env env none
  | reset (resets : effect read input = .reset) : Replies room read input env .empty none
  | ran {source : String} {result : RunResult} (runs : effect read input = .runs source)
      (returns : (runSource room true source env).outcome = .ok result) :
      Replies room read input env result.env none
  | failed {source : String} {failure : Failure} (runs : effect read input = .runs source)
      (fails : (runSource room true source env).outcome = .error failure) :
      Replies room read input env env (some (.failed failure))
  | unreadable {path : String} {fault : Fault} (loads : command? input = some (.load path))
      (named : path ≠ "") (faults : read path = .fault fault) :
      Replies room read input env env (some (.failed (.fault fault)))
  | unwritable (asked : command? input = some .env) (tooDeep : ¬ AllFit room env) :
      Replies room read input env env (some (.failed .tooDeep))
  | exit (asked : command? input = some .exit) : Replies room read input env env (some .exited)

section

variable {room : Nat} {read : String → FileRead} {input : String} {env : Env}

theorem replies_runText {source : String} (runs : effect read input = .runs source) :
    Replies room read input env (runText room source env).env
      (runText room source env).ending := by
  simp only [runText]
  cases ran : (runSource room true source env).outcome with
  | ok result => exact .ran runs ran
  | error failure => exact .failed runs ran

theorem printEntries_ends (entries : List (String × Entry)) :
    (printEntries room env entries).env = env ∧
      (printEntries room env entries).ending =
        if entries.all (fits room ·.2) then none else some (.failed .tooDeep) := by
  induction entries with
  | nil => exact ⟨rfl, rfl⟩
  | cons entry entries induction =>
      rw [printEntries, List.all_cons]
      cases fits room entry.2 with
      | true => exact induction
      | false => exact ⟨rfl, rfl⟩

theorem mem_sortedEntries {name : String} {entry : Entry} :
    (name, entry) ∈ sortedEntries env ↔ env.lookup name = some entry := by
  simp only [sortedEntries, List.mem_filterMap, List.mem_mergeSort, Env.mem_names_iff,
    Option.map_eq_some_iff, Prod.mk.injEq]
  constructor
  · rintro ⟨_, _, _, found, rfl, rfl⟩
    exact found
  · intro found
    exact ⟨name, by simp [found], entry, found, rfl, rfl⟩

theorem all_fits_iff : (sortedEntries env).all (fits room ·.2) = true ↔ AllFit room env := by
  rw [List.all_eq_true]
  constructor
  · intro all name value found
    exact of_decide_eq_true (all _ (mem_sortedEntries.mpr found))
  · rintro fit ⟨name, entry⟩ member
    cases entry with
    | function definition scope => rfl
    | value value => exact decide_eq_true (fit name value (mem_sortedEntries.mp member))

theorem printEnv_cases :
    (printEnv room env).env = env ∧
      ((printEnv room env).ending = none ∧ AllFit room env ∨
        (printEnv room env).ending = some (.failed .tooDeep) ∧ ¬ AllFit room env) := by
  have listed : (printEnv room env).env = env ∧
      (printEnv room env).ending =
        if (sortedEntries env).all (fits room ·.2) then none else some (.failed .tooDeep) := by
    rw [printEnv]
    split
    next empty => exact ⟨rfl, by simp [sortedEntries, List.isEmpty_iff.mp empty]⟩
    next => exact printEntries_ends _
  rw [listed.2, ← all_fits_iff]
  refine ⟨listed.1, ?_⟩
  split
  next all => exact .inl ⟨rfl, all⟩
  next some => exact .inr ⟨rfl, some⟩

theorem replies_respond :
    Replies room read input env (respond room read input env).env
      (respond room read input env).ending := by
  unfold respond
  cases command : command? input with
  | none =>
      by_cases blank : trim input = ""
      · rw [if_pos blank]
        exact .nothing (by simp [effect, command, blank])
      · rw [if_neg blank]
        exact replies_runText (by simp [effect, command, blank])
  | some given =>
      cases given with
      | help | unknown word => exact .nothing (by simp [effect, command])
      | env =>
          dsimp only [obey]
          rcases @printEnv_cases room env with ⟨same, ⟨ending, _⟩ | ⟨ending, tooDeep⟩⟩
          · rw [same, ending]
            exact .nothing (by simp [effect, command])
          · rw [same, ending]
            exact .unwritable command tooDeep
      | reset => exact .reset (by simp [effect, command])
      | exit => exact .exit command
      | load path =>
          by_cases unnamed : path = ""
          · simp only [obey, load, if_pos unnamed]
            exact .nothing (by simp [effect, command, unnamed])
          · simp only [obey, load, if_neg unnamed]
            cases found : read path with
            | failed error => exact .nothing (by simp [effect, command, unnamed, found])
            | fault fault => exact .unreadable command unnamed found
            | text source => exact replies_runText (by simp [effect, command, unnamed, found])

theorem Replies.of_runs {next : Env} {ending : Option Ending} {source : String}
    (replies : Replies room read input env next ending)
    (runs : effect read input = .runs source) :
    match (runSource room true source env).outcome with
    | .ok result => ending = none ∧ next = result.env
    | .error failure => ending = some (.failed failure) ∧ next = env := by
  cases replies with
  | nothing still => simp [still] at runs
  | reset resets => simp [resets] at runs
  | exit asked => simp [effect, asked] at runs
  | unwritable asked tooDeep => simp [effect, asked] at runs
  | unreadable loads named faults => simp [effect, loads, named, faults] at runs
  | ran runsToo returns =>
      cases runs.symm.trans runsToo
      rw [returns]
      exact ⟨rfl, rfl⟩
  | failed runsToo fails =>
      cases runs.symm.trans runsToo
      rw [fails]
      exact ⟨rfl, rfl⟩

end

/-! ## From prompt to prompt -/

/-- The lines bring a session that starts in an environment to a prompt, in the state. -/
inductive Prompts (room : Nat) (read : String → FileRead) (env : Env) :
    List String → State → Prop
  | first : Prompts room read env [] { env }
  | next {lines : List String} {state : State} {line : String}
      (before : Prompts room read env lines state)
      (goesOn : (step room read state (.line line)).ending = none) :
      Prompts room read env (lines ++ [line]) (step room read state (.line line)).state

/-- What lines amount to: the inputs that they complete, and the lines of another one. -/
structure Typed where
  inputs : List String := []
  gathered : List String := []

namespace Typed

def add (typed : Typed) (line : String) : Typed :=
  let gathered := typed.gathered ++ [line]
  if isUnfinished gathered then { typed with gathered }
  else { inputs := typed.inputs ++ [joined gathered] }

end Typed

def typed (lines : List String) : Typed := lines.foldl Typed.add {}

def effects (read : String → FileRead) (lines : List String) : List Effect :=
  (typed lines).inputs.map (effect read)

theorem typed_append_line (lines : List String) (line : String) :
    typed (lines ++ [line]) = (typed lines).add line := by
  simp [typed]

section

variable {room : Nat} {read : String → FileRead} {env : Env} {state : State} {line : String}

theorem step_of_unfinished (unfinished : isUnfinished (state.gathered ++ [line]) = true) :
    step room read state (.line line) =
      { state := { state with gathered := state.gathered ++ [line] } } := by
  simp [step, unfinished]

theorem step_of_complete (complete : isUnfinished (state.gathered ++ [line]) = false) :
    let reply := respond room read (joined (state.gathered ++ [line])) state.env
    step room read state (.line line) =
      { outputs := reply.outputs, state := { env := reply.env }, ending := reply.ending } := by
  simp [step, complete]

theorem step_cases :
    (isUnfinished (state.gathered ++ [line]) = true ∧
        (step room read state (.line line)).state =
          { state with gathered := state.gathered ++ [line] } ∧
        (step room read state (.line line)).ending = none) ∨
      isUnfinished (state.gathered ++ [line]) = false ∧
        (step room read state (.line line)).state.gathered = [] ∧
        Replies room read (joined (state.gathered ++ [line])) state.env
          (step room read state (.line line)).state.env
          (step room read state (.line line)).ending := by
  cases unfinished : isUnfinished (state.gathered ++ [line]) with
  | true =>
      rw [step_of_unfinished unfinished]
      exact .inl ⟨rfl, rfl, rfl⟩
  | false =>
      rw [step_of_complete unfinished]
      dsimp only
      exact .inr ⟨rfl, rfl, replies_respond⟩

variable {now : Env} {lines : List String}

theorem isUnfinished_of_closed {gathered : List String}
    (closed : parenDepth (joined gathered) ≤ 0) :
    isUnfinished gathered = false := by
  simp [isUnfinished, closed]

theorem Prompts.replied (before : Prompts room read env lines { env := now })
    (complete : isUnfinished [line] = false)
    (goesOn : (respond room read line now).ending = none) :
    Prompts room read env (lines ++ [line]) { env := (respond room read line now).env } := by
  have stepped := @step_of_complete room read { env := now } line complete
  have next := @Prompts.next room read env lines { env := now } line before
  rw [stepped] at next
  dsimp only at next
  exact next goesOn

theorem Prompts.ran {source : String} {result : RunResult}
    (before : Prompts room read env lines { env := now })
    (complete : isUnfinished [line] = false) (runs : effect read line = .runs source)
    (returns : (runSource room true source now).outcome = .ok result) :
    Prompts room read env (lines ++ [line]) { env := result.env } := by
  have replied := (@replies_respond room read line now).of_runs runs
  rw [returns] at replied
  rw [← replied.2]
  exact before.replied complete replied.1

end

/-! ## Environments at prompts -/

theorem replay_append (room : Nat) (env : Env) (sources : List String) (source : String) :
    replay room env (sources ++ [source]) =
      replay room env sources >>= fun env =>
        RunResult.env <$> (runSource room true source env).outcome := by
  simp [replay, List.foldlM_append]

theorem sourcesSinceReset_append (effects : List Effect) (last : Effect) :
    sourcesSinceReset (effects ++ [last]) =
      if last = .reset then [] else sourcesSinceReset effects ++ last.source?.toList := by
  by_cases reset : last = .reset
  · simp [sourcesSinceReset, reset]
  · rw [if_neg reset]
    cases equation : last.source? <;> simp [sourcesSinceReset, reset, equation]

theorem resetEnv_append (env : Env) (effects : List Effect) (last : Effect) :
    resetEnv env (effects ++ [last]) = if last = .reset then .empty else resetEnv env effects := by
  by_cases reset : last = .reset
  · simp [resetEnv, reset]
  · simp [resetEnv, reset, Ne.symm reset]

theorem replay_effect {room : Nat} {read : String → FileRead} {input : String}
    {first env next : Env} {effects : List Effect}
    (before : replay room (resetEnv first effects) (sourcesSinceReset effects) = .ok env)
    (replies : Replies room read input env next none) :
    replay room (resetEnv first (effects ++ [effect read input]))
      (sourcesSinceReset (effects ++ [effect read input])) = .ok next := by
  rw [resetEnv_append, sourcesSinceReset_append]
  cases replies with
  | nothing still => simpa [still, Effect.source?] using before
  | reset resets => simp [resets, replay, pure, Except.pure]
  | ran runs returns =>
      simp only [runs, reduceCtorEq, if_false, Effect.source?, Option.toList_some]
      rw [replay_append, before, Traced.ok_bind, returns]
      rfl

namespace Prompts

variable {room : Nat} {read : String → FileRead} {env : Env} {lines : List String}
  {state : State}

theorem gathered (prompts : Prompts room read env lines state) :
    state.gathered = (typed lines).gathered := by
  induction prompts with
  | first => rfl
  | @next lines state line _ _ same =>
      rw [typed_append_line, Typed.add, ← same]
      rcases @step_cases room read state line with ⟨unfinished, gathers, _⟩ | ⟨complete, empty, _⟩
      · rw [gathers, if_pos unfinished]
      · rw [empty, if_neg (by simp [complete])]

theorem replays (prompts : Prompts room read env lines state) :
    replay room (resetEnv env (effects read lines)) (sourcesSinceReset (effects read lines)) =
      .ok state.env := by
  induction prompts with
  | first => rfl
  | @next lines state line before goesOn same =>
      rw [effects, typed_append_line, Typed.add, ← before.gathered]
      rcases @step_cases room read state line with ⟨unfinished, gathers, _⟩ | ⟨complete, _, replies⟩
      · rw [gathers, if_pos unfinished]
        exact same
      · rw [goesOn] at replies
        rw [if_neg (by simp [complete]), List.map_append]
        exact replay_effect same replies

theorem invariant {property : Env → Prop} (prompts : Prompts room read env lines state)
    (start : property env) (empty : property .empty)
    (run : ∀ source env result, property env →
      (runSource room true source env).outcome = .ok result → property result.env) :
    property state.env := by
  induction prompts with
  | first => exact start
  | @next lines state line _ goesOn same =>
      rcases @step_cases room read state line with ⟨_, gathers, _⟩ | ⟨_, _, replies⟩
      · rw [gathers]
        exact same
      · rw [goesOn] at replies
        generalize (step room read state (.line line)).state.env = next at replies ⊢
        cases replies with
        | nothing => exact same
        | reset => exact empty
        | ran _ returns => exact run _ _ _ same returns

theorem reachable (prompts : Prompts room read env lines state) (start : env.Reachable) :
    state.env.Reachable :=
  prompts.invariant start .empty fun source _ _ reachable returns =>
    .runSource room true source reachable returns

theorem allFit (prompts : Prompts room read env lines state) (start : AllFit room env) :
    AllFit room state.env := by
  refine prompts.invariant start .empty ?_
  intro source env result fit returns
  exact Env.steps_invariant (fun _ _ fit step => fit.step step) fit (runSource_steps returns)

end Prompts

/-! ## Ends -/

/-- What is still to be typed ends the session at the prompt. -/
inductive Ends (room : Nat) (read : String → FileRead) (state : State) :
    List Input → Ending → Prop
  | finished : Ends room read state [] .returned
  | finish {rest : List Input} : Ends room read state (.finish :: rest) .returned
  | interrupt {rest : List Input} : Ends room read state (.interrupt :: rest) .returned
  | exit {line : String} {rest : List Input}
      (complete : isUnfinished (state.gathered ++ [line]) = false)
      (asked : command? (joined (state.gathered ++ [line])) = some .exit) :
      Ends room read state (.line line :: rest) .exited
  /-- A source that is typed or loaded is at fault. -/
  | source {line source : String} {rest : List Input} {fault : Fault}
      (complete : isUnfinished (state.gathered ++ [line]) = false)
      (runs : effect read (joined (state.gathered ++ [line])) = .runs source)
      (faults : (runSource room true source state.env).outcome = .error (.fault fault))
      (ofText : fault.isOfText = true) (harmful : ¬ Harmless source) :
      Ends room read state (.line line :: rest) (.failed (.fault fault))
  /-- A file that is loaded is at fault. -/
  | file {line path : String} {rest : List Input} {fault : Fault}
      (complete : isUnfinished (state.gathered ++ [line]) = false)
      (loads : command? (joined (state.gathered ++ [line])) = some (.load path))
      (named : path ≠ "") (faults : read path = .fault fault) :
      Ends room read state (.line line :: rest) (.failed (.fault fault))
  /-- The environment is asked for, and holds a value that is too deep. -/
  | listing {line : String} {rest : List Input}
      (complete : isUnfinished (state.gathered ++ [line]) = false)
      (asked : command? (joined (state.gathered ++ [line])) = some .env)
      (tooDeep : ¬ AllFit room state.env) :
      Ends room read state (.line line :: rest) (.failed .tooDeep)

section

variable {room : Nat} {read : String → FileRead} {env : Env} {state : State} {line : String}

theorem goesOn_or_ends (reachable : state.env.Reachable) (line : String) (rest : List Input) :
    (step room read state (.line line)).ending = none ∨
      ∃ ending, Ends room read state (.line line :: rest) ending := by
  rcases @step_cases room read state line with ⟨_, _, goesOn⟩ | ⟨complete, _, replies⟩
  · exact .inl goesOn
  · generalize (step room read state (.line line)).ending = ending,
      (step room read state (.line line)).state.env = next at replies ⊢
    cases replies with
    | nothing | reset | ran => exact .inl rfl
    | exit asked => exact .inr ⟨_, .exit complete asked⟩
    | unreadable loads named faults => exact .inr ⟨_, .file complete loads named faults⟩
    | unwritable asked tooDeep => exact .inr ⟨_, .listing complete asked tooDeep⟩
    | @failed source failure runs fails =>
        -- All other failures become errors of the run, and the session survives them.
        rcases exists_fault_of_runSource reachable.sound fails with ⟨fault, rfl, ofText⟩
        refine .inr ⟨_, .source complete runs fails ofText ?_⟩
        intro harmless
        rcases harmless.exists_result reachable.sound room true with ⟨result, returns⟩
        rw [fails] at returns
        cases returns

theorem Ends.step {input : Input} {rest : List Input} {ending : Ending}
    (ends : Ends room read state (input :: rest) ending) :
    (Session.step room read state input).ending = some ending ∧
      (Session.step room read state input).state.env = state.env := by
  cases ends with
  | finish | interrupt => exact ⟨rfl, rfl⟩
  | exit complete asked => simp [step_of_complete complete, respond, asked, obey]
  | file complete loads named faults =>
      simp [step_of_complete complete, respond, loads, obey, load, named, faults]
  | listing complete asked tooDeep =>
      rcases @printEnv_cases room state.env with ⟨same, ⟨_, fit⟩ | ⟨ending, _⟩⟩
      · exact absurd fit tooDeep
      · simp [step_of_complete complete, respond, asked, obey, ending, same]
  | @source line source _ fault complete runs faults =>
      have replied := (@replies_respond room read _ state.env).of_runs runs
      rw [faults] at replied
      rw [step_of_complete complete]
      dsimp only
      exact replied

end

/-! ## Transcripts -/

def Output.isPrompt : Output → Bool
  | prompted _ => true
  | printed _ | logged _ => false

def promptCount (outputs : List Output) : Nat := outputs.countP Output.isPrompt

section

variable {room : Nat} {read : String → FileRead} {env : Env}

theorem promptCount_append (front back : List Output) :
    promptCount (front ++ back) = promptCount front + promptCount back :=
  List.countP_append

theorem promptCount_map {α : Type} {output : α → Output}
    (noPrompt : ∀ item, (output item).isPrompt = false) (items : List α) :
    promptCount (items.map output) = 0 := by
  simp [promptCount, noPrompt]

theorem promptCount_runText (source : String) :
    promptCount (runText room source env).outputs = 0 := by
  have noPrompt (event : Event) : (outputOfEvent event).isPrompt = false := by
    cases event <;> rfl
  simp only [runText]
  split <;> exact promptCount_map noPrompt _

theorem promptCount_printEntries (entries : List (String × Entry)) :
    promptCount (printEntries room env entries).outputs = 0 := by
  induction entries with
  | nil => rfl
  | cons entry entries induction =>
      rw [printEntries]
      split
      · exact (List.countP_cons_of_neg (by simp [Output.isPrompt])).trans induction
      · rfl

theorem promptCount_respond (input : String) :
    promptCount (respond room read input env).outputs = 0 := by
  unfold respond
  cases command? input with
  | none =>
      dsimp only
      split
      · rfl
      · exact promptCount_runText _
  | some command =>
      cases command with
      | help | reset | exit | unknown word => rfl
      | env =>
          dsimp only [obey, printEnv]
          split
          · rfl
          · exact promptCount_printEntries _
      | load path =>
          simp only [obey, load]
          split
          · rfl
          · split
            · rfl
            · rfl
            · dsimp only
              rw [promptCount, List.countP_cons_of_neg (by simp [Output.isPrompt])]
              exact promptCount_runText _

theorem promptCount_step (state : State) (input : Input) :
    promptCount (.prompted state.prompt :: (step room read state input).outputs) = 1 := by
  have noPrompt : promptCount (step room read state input).outputs = 0 := by
    cases input with
    | interrupt | finish => rfl
    | line line =>
        cases unfinished : isUnfinished (state.gathered ++ [line]) with
        | true =>
            rw [step_of_unfinished unfinished]
            rfl
        | false =>
            rw [step_of_complete unfinished]
            dsimp only
            exact promptCount_respond _
  exact (List.countP_cons_of_pos rfl).trans (congrArg Nat.succ noPrompt)

variable {lines : List String} {state : State}

theorem continueFrom_of_goesOn {input : Input}
    (goesOn : (step room read state input).ending = none) (rest : List Input) :
    continueFrom room read state (input :: rest) =
      (continueFrom room read (step room read state input).state rest).after
        (.prompted state.prompt :: (step room read state input).outputs) := by
  simp only [continueFrom, goesOn]

theorem continueFrom_of_ending {input : Input} {ending : Ending}
    (ends : (step room read state input).ending = some ending) (rest : List Input) :
    continueFrom room read state (input :: rest) =
      { outputs := .prompted state.prompt :: (step room read state input).outputs, ending
        unread := rest.length, env := (step room read state input).state.env } := by
  simp only [continueFrom, ends]

theorem Prompts.start_eq (prompts : Prompts room read env lines state) :
    ∃ outputs, promptCount outputs = lines.length ∧
      ∀ rest, start room read env (lines.map .line ++ rest) =
        (continueFrom room read state rest).after outputs := by
  induction prompts with
  | first => exact ⟨[.printed banner], rfl, fun _ => rfl⟩
  | @next lines state line _ goesOn before =>
      rcases before with ⟨outputs, count, starts⟩
      refine ⟨outputs ++ .prompted state.prompt :: (step room read state (.line line)).outputs,
        ?_, ?_⟩
      · rw [promptCount_append, promptCount_step, count, List.length_append, List.length_singleton]
      · intro rest
        rw [List.map_append, List.append_assoc, List.map_singleton, List.singleton_append, starts,
          continueFrom_of_goesOn goesOn, Transcript.after_after]

theorem Ends.continueFrom {rest : List Input} {ending : Ending}
    (ends : Ends room read state rest ending) :
    let transcript := Session.continueFrom room read state rest
    transcript.ending = ending ∧ transcript.unread = rest.length - 1 ∧
      transcript.env = state.env ∧ promptCount transcript.outputs = 1 := by
  cases rest with
  | nil =>
      cases ends
      exact ⟨rfl, rfl, rfl, rfl⟩
  | cons input rest =>
      rcases ends.step with ⟨sameEnding, sameEnv⟩
      rw [continueFrom_of_ending sameEnding]
      exact ⟨rfl, rfl, sameEnv, promptCount_step state input⟩

theorem Ends.transcript {rest : List Input} {ending : Ending}
    (ends : Ends room read state rest ending) (prompts : Prompts room read env lines state) :
    let transcript := start room read env (lines.map .line ++ rest)
    transcript.ending = ending ∧ transcript.unread = rest.length - 1 ∧
      transcript.env = state.env ∧ promptCount transcript.outputs = lines.length + 1 := by
  rcases prompts.start_eq with ⟨outputs, count, starts⟩
  rcases ends.continueFrom with ⟨sameEnding, unread, sameEnv, last⟩
  rw [starts rest]
  refine ⟨sameEnding, unread, sameEnv, ?_⟩
  rw [Transcript.after, promptCount_append, count, last]

theorem Prompts.exists_end (prompts : Prompts room read env lines state)
    (reachable : env.Reachable) (inputs : List Input) :
    ∃ more rest last ending, inputs = more.map .line ++ rest ∧
      Prompts room read env (lines ++ more) last ∧ Ends room read last rest ending := by
  induction inputs generalizing lines state with
  | nil => exact ⟨[], [], state, _, rfl, by simpa using prompts, .finished⟩
  | cons input inputs induction =>
      cases input with
      | finish => exact ⟨[], _, state, _, rfl, by simpa using prompts, .finish⟩
      | interrupt => exact ⟨[], _, state, _, rfl, by simpa using prompts, .interrupt⟩
      | line line =>
          rcases @goesOn_or_ends room read state (prompts.reachable reachable) line inputs with
            goesOn | ⟨ending, ends⟩
          · rcases induction (prompts.next goesOn) with ⟨more, rest, last, ending, rfl, later, ends⟩
            rw [List.append_assoc, List.singleton_append] at later
            exact ⟨line :: more, rest, last, ending, rfl, later, ends⟩
          · exact ⟨[], _, state, ending, rfl, by simpa using prompts, ends⟩

end

/-- A session goes from prompt to prompt until it comes to one of the ends: nothing more
is typed, it is interrupted, it is asked to exit, something that it runs or loads is at
fault, or it is to list a value that is too deep. It has prompted for every line by then.
At each prompt the environment is the one that the sources since the last reset leave, and
a value in it is too deep only if one was from the start. -/
theorem session_goes_on_until_end_or_fault {room : Nat} {read : String → FileRead} {env : Env}
    (reachable : env.Reachable) :
    (∀ inputs, ∃ lines rest state ending, inputs = lines.map .line ++ rest ∧
      Prompts room read env lines state ∧ Ends room read state rest ending) ∧
      (∀ lines rest state ending, Prompts room read env lines state →
        Ends room read state rest ending →
        let transcript := start room read env (lines.map .line ++ rest)
        transcript.ending = ending ∧ transcript.unread = rest.length - 1 ∧
          transcript.env = state.env ∧ promptCount transcript.outputs = lines.length + 1) ∧
      (∀ lines state, Prompts room read env lines state →
        replay room (resetEnv env (effects read lines)) (sourcesSinceReset (effects read lines)) =
          .ok state.env) ∧
      ∀ lines state, Prompts room read env lines state → AllFit room env →
        AllFit room state.env := by
  refine ⟨?_, ?_, ?_, ?_⟩
  · intro inputs
    exact Prompts.first.exists_end reachable inputs
  · intro lines rest state ending prompts ends
    exact ends.transcript prompts
  · intro lines state prompts
    exact prompts.replays
  · intro lines state prompts
    exact prompts.allFit

/-- A definition is forgotten in a reset. The file that is loaded after it cannot see it, and
leaves what it defines itself. A session with less room than a value took ends where it is
to list the value. -/
theorem session_goes_on_until_end_or_fault_reset :
    let file := "(define y nil) x"
    let read : String → FileRead := fun path =>
      if path = "a b" then .text file else .fault .notText
    let lines := ["(define x true)", " /Reset", "/load a b"]
    let transcript := start 9 read .empty (lines.map .line ++ [.interrupt, .line "y"])
    let pair : Env := .bindValue "x" (.cons .nil .nil) .empty
    let listing := start 1 read pair [.line "/env", .line "x"]
    Env.Reachable .empty ∧ transcript.ending = .returned ∧ transcript.unread = 1 ∧
      promptCount transcript.outputs = 4 ∧
      transcript.env = .bindValue "y" .nil .empty ∧
      replay 9 .empty [file] = .ok transcript.env ∧
      pair.Reachable ∧ listing.ending = .failed .tooDeep ∧ listing.unread = 1 := by
  intro file read lines transcript pair listing
  -- What the lines do.
  have define : effect read "(define x true)" = .runs "(define x true)" := by
    rw [effect, command?, isCommand_eq_false (by decide)]
    decide
  have isReset : command? " /Reset" = some .reset := by
    rw [command?, isCommand_iff.mpr (by decide)]
    decide
  have reset : effect read " /Reset" = .reset := by rw [effect, isReset]
  have isLoad : command? "/load a b" = some (.load "a b") := by
    rw [command?, isCommand_iff.mpr (by decide)]
    decide
  have load : effect read "/load a b" = .runs file := by
    rw [effect, isLoad]
    rfl
  have complete : ∀ line ∈ lines, isUnfinished [line] = false := by
    have closed : ∀ line ∈ lines, parenDepth (joined [line]) ≤ 0 := by decide
    exact fun line member => isUnfinished_of_closed (closed line member)
  have all : effects read lines = [.runs "(define x true)", .reset, .runs file] := by
    simp only [lines, List.forall_mem_cons] at complete
    simp [effects, typed, lines, Typed.add, complete, joined, define, reset, load]
  -- What the sources do.
  have defined : (runSource 9 true "(define x true)" .empty).outcome =
      .ok { env := .bindValue "x" (.bool true) .empty, bindingsRun := 1 } := by
    have tokens : Reader.tokens "(define x true)" = ["(", "define", "x", "true", ")"] := by decide
    have reads := (@Reader.outcome_program_eq_ok 9 "(define x true)"
      [.node [.leaf "define", .leaf "x", .leaf "true"]] (by decide)).mpr
      ⟨by rw [tokens]; rfl, by rw [tokens]; decide⟩
    exact (runSource_of_read reads).1
  have loaded : (runSource 9 true file .empty).outcome =
      .ok { env := .bindValue "y" .nil .empty, bindingsRun := 1,
            errors := [.atRuntime (.unboundVariable "x" (some (.var "x")))] } := by
    have tokens : Reader.tokens file = ["(", "define", "y", "nil", ")", "x"] := by decide
    have reads := (@Reader.outcome_program_eq_ok 9 file
      [.node [.leaf "define", .leaf "y", .leaf "nil"], .leaf "x"] (by decide)).mpr
      ⟨by rw [tokens]; rfl, by rw [tokens]; decide⟩
    exact (runSource_of_read reads).1
  have prompts : Prompts 9 read .empty lines { env := .bindValue "y" .nil .empty } := by
    have afterDefine := (@Prompts.first 9 read .empty).ran (complete _ (by simp [lines])) define
      defined
    have afterReset := @Prompts.replied 9 read .empty " /Reset" _ _ afterDefine
      (complete _ (by simp [lines])) (by rw [respond, isReset]; rfl)
    rw [respond, isReset] at afterReset
    exact afterReset.ran (complete _ (by simp [lines])) load loaded
  have settled := @session_goes_on_until_end_or_fault 9 read .empty .empty
  rcases settled.2.1 lines [.interrupt, .line "y"] _ _ prompts .interrupt with
    ⟨ending, unread, env, count⟩
  have replays := settled.2.2.1 lines _ prompts
  rw [all, ← env] at replays
  -- The value that is too deep.
  have built : Binding.Built (.defineVariable "x" (.cons .nil .nil)) :=
    ⟨9, .node [.leaf "define", .leaf "x", .node [.leaf "cons", .leaf "nil", .leaf "nil"]], rfl⟩
  have reachable : pair.Reachable := .execute 9 0 .empty built rfl
  have isEnv : command? "/env" = some .env := by
    rw [command?, isCommand_iff.mpr (by decide)]
    decide
  have tooDeep : ¬ AllFit 1 pair := fun fit => absurd (fit "x" _ rfl) (by decide)
  have ends : Ends 1 read { env := pair } [.line "/env", .line "x"] (.failed .tooDeep) :=
    .listing (isUnfinished_of_closed (by decide)) isEnv tooDeep
  have listed := (session_goes_on_until_end_or_fault reachable).2.1 [] _ _ _ .first ends
  exact ⟨.empty, ending, unread, count, env, replays, reachable, listed.1, listed.2.1⟩

/-- A text without an end takes down the session, with all that was defined before it. -/
theorem unfinished_text_ends_session :
    let env := Env.bindValue "x" (.bool true) .empty
    let transcript := start 9 (fun _ => .text "") env [.line "\"", .line "x", .finish]
    transcript.ending = .failed (.fault .unfinishedText) ∧ transcript.unread = 2 := by
  intro env transcript
  have runs : effect (fun _ => .text "") "\"" = .runs "\"" := by
    rw [effect, command?, isCommand_eq_false (by decide)]
    decide
  have unread : Reader.forms 9 "\"".toList = .error .unfinishedText := by cbv
  have faults : (runSource 9 true "\"" env).outcome = .error (.fault .unfinishedText) := by
    rw [runSource, Traced.outcome_bind, Traced.outcome_attempt, Traced.ok_bind,
      Reader.outcome_program_of_error unread]
    rfl
  have harmful : ¬ Harmless "\"" := fun harmless => absurd harmless.noText (by decide)
  have ends : Ends 9 (fun _ => .text "") { env } [.line "\"", .line "x", .finish]
      (.failed (.fault .unfinishedText)) :=
    .source (isUnfinished_of_closed (by decide)) runs faults rfl harmful
  have settled := ends.transcript .first
  rw [List.map_nil, List.nil_append] at settled
  exact ⟨settled.1, settled.2.1⟩

end Trefoil.Session
