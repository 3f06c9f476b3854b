import Trefoil.CommandLine
import Trefoil.Log.Journal
import Trefoil.Session
import Trefoil.Settings

/-! # The program

The program runs files one after the other in one environment, or a session when
no files are given. All it does is a function of the command line, the variables
of its environment, the files, and what is typed. -/

namespace Trefoil.Program

open Trefoil.Log (Journal)

/-! ## What the program does -/

inductive Output where
  /-- Text on the output stream. -/
  | toOut (text : String)
  /-- Text on the error stream. -/
  | toErr (text : String)
  | logged (record : Log.Record)

inductive Ending where
  /-- The program came to its end. -/
  | returned (code : Nat)
  /-- The program was asked to exit, or refused to start. -/
  | exited (code : Nat)
  /-- The settings make no sense. -/
  | rejected (problems : List Problem)
  | failed (failure : Failure)

structure Account where
  outputs : List Output := []
  ending : Ending

namespace Account

def after (outputs : List Output) (account : Account) : Account :=
  { account with outputs := outputs ++ account.outputs }

end Account

def endLine (text : String) : String := text ++ "\n"

/-! ## Preparations -/

structure Plan where
  settings : Settings
  files : List String
  journal : Journal

/-- What an option is given, as data. An option that is left out is null. -/
def datumOf : Option CommandLine.Given → Datum
  | none => .null
  | some (.text value) => .text value
  | some (.whole value) => .whole value
  | some .nothing => .row []

def optionsOf (arguments : CommandLine.Arguments) : List (String × Datum) :=
  [("log_level", datumOf arguments.logLevel),
    ("log_file", datumOf arguments.logFile),
    ("recursion_limit", datumOf arguments.recursionLimit),
    ("stop_on_error", if arguments.keepGoing then .bool false else .null)]

def stopAccount : CommandLine.Stop → Account
  | .helpWanted => { outputs := [.toOut CommandLine.help], ending := .exited 0 }
  | .misused misuse =>
      { outputs := [.toErr (CommandLine.complaint misuse)], ending := .exited 2 }

def plan (words : List String) (environment : List (String × Datum)) : Except Account Plan :=
  match CommandLine.parse words with
  | .error stop => .error (stopAccount stop)
  | .ok arguments =>
      match Settings.gather environment (optionsOf arguments) with
      | .error problems => .error { ending := .rejected problems }
      | .ok settings =>
          .ok {
            settings
            files := arguments.files
            journal := (Journal.configure settings.logLevel.name settings.logFile).1 }

def openLog (journal : Journal) (folder : Folder) : Except Fault Folder :=
  match journal.sink.path? with
  | none => .ok folder
  | some path => folder.touch path

/-- A limit below this leaves no room for the program itself. -/
def lowestLimit : Nat := 10

def highestLimit : Nat := 2147483647

def limitFailure? (limit : Nat) : Option Failure :=
  if limit < lowestLimit then some .tooDeep
  else if highestLimit < limit then some (.fault .limitTooLarge)
  else none

/-! ## Files -/

def outputOfEvent : Event → Output
  | .logged record => .logged record
  | .reported report => .toOut (endLine report.text)
  | .failed error => .toErr (endLine ("error: " ++ error.message))

/-- Runs files in order. With `stopOnError`, a file that fails is the last one.
`failed` tells that an earlier one did. -/
def runFiles (room : Nat) (stopOnError : Bool) (read : String → FileRead) (env : Env)
    (failed : Bool) : (paths : List String) → Account
  | [] => { ending := .returned (if failed then 1 else 0) }
  | path :: paths =>
      match read path with
      | .failed error =>
          let line := "error: cannot read " ++ path ++ ": " ++ error.message path
          { outputs := [.toErr (endLine line)], ending := .returned 1 }
      | .fault fault => { ending := .failed (.fault fault) }
      | .text source =>
          let run := runSource room stopOnError source env
          let outputs := .logged (.runningFile path) :: run.events.map outputOfEvent
          match run.outcome with
          | .error failure => { outputs, ending := .failed failure }
          | .ok result =>
              if result.errors.isEmpty then
                (runFiles room stopOnError read result.env failed paths).after outputs
              else if stopOnError then { outputs, ending := .returned 1 }
              else (runFiles room stopOnError read result.env true paths).after outputs

/-! ## Sessions -/

def outputOfSession : Session.Output → Output
  | .prompted prompt => .toOut prompt
  | .printed line => .toOut (endLine line)
  | .logged record => .logged record

def endingOfSession : Session.Ending → Ending
  | .returned => .returned 0
  | .exited => .exited 0
  | .failed failure => .failed failure

def runSession (room : Nat) (read : String → FileRead) (inputs : List Session.Input) : Account :=
  let transcript := Session.start room read .empty inputs
  { outputs := transcript.outputs.map outputOfSession,
    ending := endingOfSession transcript.ending }

/-- The lines of a text that is typed. Only line feeds end a line. -/
def typedLines (text : String) : List Session.Input :=
  let pieces := text.splitOn "\n"
  (if pieces.getLast? = some "" then pieces.dropLast else pieces).map .line

/-! ## The whole program -/

namespace Plan

def logPath? (plan : Plan) : Option String := plan.journal.sink.path?

def room (plan : Plan) : Nat := levels plan.settings.recursionLimit

def work (plan : Plan) (read : String → FileRead) (inputs : List Session.Input) : Account :=
  Account.after [.logged .evaluatorReady] <|
    if plan.files.isEmpty then runSession plan.room read inputs
    else runFiles plan.room plan.settings.stopOnError read .empty false plan.files

def run (plan : Plan) (read : String → FileRead) (inputs : List Session.Input) : Account :=
  Account.after [.logged plan.journal.opening] <|
    match limitFailure? plan.settings.recursionLimit with
    | some failure => { ending := .failed failure }
    | none => plan.work read inputs

end Plan

structure Observed where
  ending : Ending
  /-- The limit on the recursion that is left in force. -/
  limit : Nat := defaultLimit
  out : String := ""
  err : String := ""
  /-- The path of the log and what was written to it. -/
  log : Option (String × String) := none

def collect (select : Output → String) (outputs : List Output) : String :=
  String.join (outputs.map select)

def outText : Output → String
  | .toOut text => text
  | _ => ""

/-- Text on the error stream when there is no log. -/
def errText : Output → String
  | .toErr text => text
  | _ => ""

def logText (journal : Journal) (time : String) (identify : Env → String) : Output → String
  | .logged record => journal.write time identify record
  | _ => ""

namespace Observed

def early (account : Account) : Observed :=
  { ending := account.ending
    out := collect outText account.outputs
    err := collect errText account.outputs }

def ofPlan (plan : Plan) (time : String) (identify : Env → String) (account : Account) :
    Observed :=
  let logged := logText plan.journal time identify
  let seen : Observed :=
    { ending := account.ending
      limit :=
        if (limitFailure? plan.settings.recursionLimit).isSome then defaultLimit
        else plan.settings.recursionLimit
      out := collect outText account.outputs }
  match plan.journal.sink with
  | .errorStream =>
      { seen with err := collect (fun output => errText output ++ logged output) account.outputs }
  | .file path =>
      { seen with
        err := collect errText account.outputs
        log := some (path, collect logged account.outputs) }

end Observed

/-- Runs the program on a folder of files. Lines in the log carry `time`, and
`identify` names environments there. -/
def run (time : String) (identify : Env → String) (words : List String)
    (environment : List (String × Datum)) (folder : Folder) (inputs : List Session.Input) :
    Observed :=
  match plan words environment with
  | .error account => .early account
  | .ok plan =>
      match openLog plan.journal folder with
      | .error fault => .early { ending := .failed (.fault fault) }
      | .ok opened => .ofPlan plan time identify (plan.run opened.read inputs)

end Trefoil.Program
