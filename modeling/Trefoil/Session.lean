import Trefoil.Files
import Trefoil.Run
import Trefoil.Text.Lowercase

/-! # Interactive sessions

A session prompts for input and answers it, over and over. Lines are gathered
until the parentheses in them balance. What was typed is then run as source text
in the environment of the session, unless it starts with a slash: then it is a
command.

A session is a function of the lines that are typed, and of what the files it is
asked to load contain. -/

namespace Trefoil.Session

open Trefoil.Text

def banner : String := "Trefoil REPL. Type /help for help."

def prompt : String := "trefoil> "

def continuationPrompt : String := "....... "

/-! ## Gathering lines -/

def lineDepth (line : List Char) : Int :=
  let code := line.takeWhile (· ≠ ';')
  (code.count '(' : Int) - code.count ')'

def parenDepth (text : String) : Int :=
  (lines text.toList).foldr (fun line depth => lineDepth line + depth) 0

def isCommand (text : String) : Bool := (trim text).startsWith "/"

def joined (gathered : List String) : String := "\n".intercalate gathered

/-- More lines are needed. A command is complete with its first line. -/
def isUnfinished (gathered : List String) : Bool :=
  !isCommand (gathered.headD "") && 0 < parenDepth (joined gathered)

/-! ## Commands -/

inductive Command where
  | help
  | env
  | reset
  | load (path : String)
  | exit
  | unknown (word : String)
  deriving DecidableEq, Repr

/-- The command of a text that starts with a slash. Its first word, in any case,
is the command, and the rest an argument. -/
def Command.ofText (text : String) : Command :=
  let (word, argument) := firstWord text
  match lower word with
  | "/help" => help
  | "/env" => env
  | "/reset" => reset
  | "/load" => load argument
  | "/exit" => exit
  | other => unknown other

/-! ## What happens in a session -/

inductive Output where
  | prompted (prompt : String)
  /-- A line of output, to which a line end is added. -/
  | printed (line : String)
  | logged (record : Log.Record)

inductive Ending where
  /-- The input ended, or was interrupted. -/
  | returned
  /-- The session was asked to exit. -/
  | exited
  | failed (failure : Failure)

def outputOfEvent : Event → Output
  | .logged record => .logged record
  | .reported report => .printed report.text
  | .failed error => .printed ("error: " ++ error.message)

def helpLines : List String :=
  ["Enter a definition, a (test ...) or an expression to evaluate.",
    "Available commands:",
    "  /help - Show this help",
    "  /env - List the names bound in the current environment",
    "  /reset - Start over with an empty environment",
    "  /load FILE - Run a Trefoil file in the current environment",
    "  /exit - Exit the REPL"]

def entryLine (name : String) : Entry → String
  | .value value => "  " ++ name ++ " = " ++ value.text
  | .function definition _ =>
      "  " ++ name ++ ": function of " ++ toString definition.parameters.length ++ " parameter(s)"

structure Reply where
  outputs : List Output := []
  env : Env
  ending : Option Ending := none

/-- Runs source text. A fault ends the session with the environment it had. -/
def runText (room : Nat) (source : String) (env : Env) : Reply :=
  let run := runSource room true source env
  let outputs := run.events.map outputOfEvent
  match run.outcome with
  | .ok result => { outputs, env := result.env }
  | .error failure => { outputs, env, ending := some (.failed failure) }

/-- Runs the text of a file. The path that `read` gets is the one that was typed: a `~` in
front is not expanded, neither there nor in what is said about the file. -/
def load (room : Nat) (read : String → FileRead) (path : String) (env : Env) : Reply :=
  if path = "" then
    { outputs := [.printed "Error: File path required", .printed "Usage: /load FILE"], env }
  else
    match read path with
    | .failed error =>
        { outputs := [.printed ("Failed to read " ++ path ++ ": " ++ error.message path)], env }
    | .fault fault => { env, ending := some (.failed (.fault fault)) }
    | .text source =>
        let reply := runText room source env
        { reply with outputs := .logged (.loadingFile path) :: reply.outputs }

def fits (room : Nat) : Entry → Bool
  | .value value => value.depth ≤ room
  | .function _ _ => true

def sortedEntries (env : Env) : List (String × Entry) :=
  (env.names.mergeSort fun left right => !(right < left)).filterMap fun name =>
    (env.lookup name).map (name, ·)

/-- Prints a line for each entry. The first one that there is no room for ends the
session, after the lines before it. -/
def printEntries (room : Nat) (env : Env) : List (String × Entry) → Reply
  | [] => { env }
  | (name, entry) :: entries =>
      if fits room entry then
        let reply := printEntries room env entries
        { reply with outputs := .printed (entryLine name entry) :: reply.outputs }
      else { env, ending := some (.failed .tooDeep) }

def printEnv (room : Nat) (env : Env) : Reply :=
  if env.names.isEmpty then { outputs := [.printed "Environment is empty"], env }
  else printEntries room env (sortedEntries env)

def obey (room : Nat) (read : String → FileRead) (command : Command) (env : Env) : Reply :=
  match command with
  | .help => { outputs := helpLines.map .printed, env }
  | .env => printEnv room env
  | .reset => { outputs := [.printed "Environment reset"], env := .empty }
  | .load path => load room read path env
  | .exit => { outputs := [.printed "Exiting..."], env, ending := some .exited }
  | .unknown word =>
      { outputs := [.printed ("Unknown command: " ++ word),
          .printed "Type /help for available commands"], env }

def command? (input : String) : Option Command :=
  if isCommand input then some (Command.ofText (trim input)) else none

def respond (room : Nat) (read : String → FileRead) (input : String) (env : Env) : Reply :=
  match command? input with
  | some command => obey room read command env
  | none => if trim input = "" then { env } else runText room (trim input) env

/-! ## Steps of a session -/

inductive Input where
  | line (text : String)
  | interrupt
  /-- Nothing more is going to be typed. -/
  | finish

structure State where
  /-- The lines of an unfinished input. -/
  gathered : List String := []
  env : Env := .empty

namespace State

def prompt (state : State) : String :=
  if state.gathered.isEmpty then Session.prompt else continuationPrompt

end State

def farewell : String := "\nExiting..."

structure Step where
  outputs : List Output := []
  state : State
  ending : Option Ending := none

def step (room : Nat) (read : String → FileRead) (state : State) : Input → Step
  | .line text =>
      let gathered := state.gathered ++ [text]
      if isUnfinished gathered then { state := { state with gathered } }
      else
        let reply := respond room read (joined gathered) state.env
        { outputs := reply.outputs, state := { env := reply.env }, ending := reply.ending }
  | .interrupt | .finish =>
      { outputs := [.printed farewell], state, ending := some .returned }

def wantedPath? (state : State) : Input → Option String
  | .line text =>
      let gathered := state.gathered ++ [text]
      match command? (joined gathered) with
      | some (.load path) => some path
      | _ => none
  | _ => none

/-! ## Whole sessions -/

structure Transcript where
  outputs : List Output
  ending : Ending
  /-- How many inputs were left when the session ended. -/
  unread : Nat
  env : Env

namespace Transcript

def after (outputs : List Output) (transcript : Transcript) : Transcript :=
  { transcript with outputs := outputs ++ transcript.outputs }

end Transcript

/-- Goes on with a session. When there are no more inputs, it ends. -/
def continueFrom (room : Nat) (read : String → FileRead) (state : State) :
    List Input → Transcript
  | [] =>
      { outputs := [.prompted state.prompt, .printed farewell], ending := .returned, unread := 0,
        env := state.env }
  | input :: inputs =>
      let next := step room read state input
      let outputs := .prompted state.prompt :: next.outputs
      match next.ending with
      | some ending => { outputs, ending, unread := inputs.length, env := next.state.env }
      | none => (continueFrom room read next.state inputs).after outputs

def start (room : Nat) (read : String → FileRead) (env : Env) (inputs : List Input) :
    Transcript :=
  (continueFrom room read { env } inputs).after [.printed banner]

end Trefoil.Session
