import Std.Time
import Trefoil.Program

/-! # The command

Joins the program to the process it runs in: its arguments, its environment, its
streams and the files. Nothing is decided here. -/

namespace Trefoil.Main

open Trefoil.Program (Output Ending Plan Account)

def environment : IO (List (String × Datum)) :=
  Settings.names.filterMapM fun name => do
    let variableName := Settings.variableName name
    return (← IO.getEnv variableName).map fun value => (variableName, .text value)

def fileError : IO.Error → FileError
  | .permissionDenied _ _ _ => .denied
  | .inappropriateType _ code _ =>
      if code.toNat = FileError.notDirectory.number then .notDirectory else .isDirectory
  | .invalidArgument _ code _ =>
      if code.toNat = FileError.nameTooLong.number then .nameTooLong else .missing
  | _ => .missing

def readFile (path : String) : IO FileRead := do
  if path.toList.contains '\x00' then return .fault .nullInPath
  match ← (IO.FS.readBinFile path).toBaseIO with
  | .error error => return .failed (fileError error)
  | .ok bytes =>
      match String.fromUTF8? bytes with
      | some content => return .ofText content
      | none => return .fault .notText

/-- Environments go by their size in the log. -/
def identify (env : Env) : String := toString env.size

def timeNow : IO String := do
  return (← Std.Time.PlainDateTime.now).format "uuuu-MM-dd HH:mm:ss,SSS"

def openLog (plan : Plan) : IO (Option IO.FS.Handle) := do
  match plan.logPath? with
  | none => return none
  | some path =>
      let directory := "/".intercalate (path.splitOn "/").dropLast
      if directory ≠ "" then IO.FS.createDirAll directory
      return some (← IO.FS.Handle.mk path .append)

def emit (journal : Log.Journal) (logFile : Option IO.FS.Handle) : Output → IO Unit
  | .toOut text => do
      (← IO.getStdout).putStr text
      (← IO.getStdout).flush
  | .toErr text => do (← IO.getStderr).putStr text
  | .logged record => do
      let line := journal.write (← timeNow) identify record
      match logFile with
      | some handle => handle.putStr line
      | none => (← IO.getStderr).putStr line

def exitCode : Ending → IO UInt32
  | .returned code | .exited code => return code.toUInt32
  | .rejected problems => do
      for problem in problems do
        IO.eprintln problem.complaint.message
      return 1
  | .failed (.program error) => do
      IO.eprintln error.message
      return 1
  | .failed .tooDeep => do
      IO.eprintln RuntimeError.tooDeep.summary
      return 1
  | .failed (.fault fault) => do
      IO.eprintln fault.message
      return 1

partial def converse (room : Nat) (present : Output → IO Unit) (state : Session.State) :
    IO Ending := do
  present (.toOut state.prompt)
  let typed ← (← IO.getStdin).getLine
  let input : Session.Input :=
    if typed.isEmpty then .finish else .line (typed.dropEndWhile (· = '\n')).toString
  let content ← match Session.wantedPath? state input with
    | some path => readFile path
    | none => pure (.failed .missing)
  let step := Session.step room (fun _ => content) state input
  for output in step.outputs do
    present (Program.outputOfSession output)
  match step.ending with
  | some ending => return Program.endingOfSession ending
  | none => converse room present step.state

def carryOut (plan : Plan) : IO UInt32 := do
  let present := emit plan.journal (← openLog plan)
  if plan.files.isEmpty && (Program.limitFailure? plan.settings.recursionLimit).isNone then
    for record in [plan.journal.opening, .evaluatorReady] do
      present (.logged record)
    present (.toOut (Program.endLine Session.banner))
    exitCode (← converse plan.room present {})
  else
    let contents ← plan.files.mapM fun path => do return (path, ← readFile path)
    let read (path : String) : FileRead := (contents.lookup path).getD (.failed .missing)
    let account := plan.run read []
    for output in account.outputs do
      present output
    exitCode account.ending

end Trefoil.Main

def main (words : List String) : IO UInt32 := do
  match Trefoil.Program.plan words (← Trefoil.Main.environment) with
  | .ok plan => Trefoil.Main.carryOut plan
  | .error account => do
      for output in account.outputs do
        match output with
        | .toErr text => (← IO.getStderr).putStr text
        | .toOut text => (← IO.getStdout).putStr text
        | .logged _ => pure ()
      Trefoil.Main.exitCode account.ending
