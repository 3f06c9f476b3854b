import Trefoil.Text.Digits
import Trefoil.Text.Quoted

/-! # Command lines

The words of a command line are options, with or without a value, and operands,
which name files. First each word is classified on its own. Then the words are
taken from left to right: an option that needs a value takes the word after it,
and the first operands in a row are the files. -/

namespace Trefoil.CommandLine

open Trefoil.Text

/-! ## Options -/

inductive Flag where
  | help
  | logLevel
  | logFile
  | recursionLimit
  | keepGoing
  deriving DecidableEq, Repr

namespace Flag

def all : List Flag := [help, logLevel, logFile, recursionLimit, keepGoing]

def spelling : Flag → String
  | help => "--help"
  | logLevel => "--log-level"
  | logFile => "--log-file"
  | recursionLimit => "--recursion-limit"
  | keepGoing => "--keep-going"

def title : Flag → String
  | help => "-h/--help"
  | flag => flag.spelling

def takesValue : Flag → Bool
  | help | keepGoing => false
  | logLevel | logFile | recursionLimit => true

def ofSpelling? (word : String) : Option Flag := all.find? (·.spelling = word)

def beginningWith (word : String) : List Flag :=
  all.filter fun flag => word.toList.isPrefixOf flag.spelling.toList

end Flag

/-! ## What can be wrong -/

inductive Misuse where
  | ambiguous (word : String) (candidates : List Flag)
  | valueMissing (flag : Flag)
  | valueIgnored (flag : Flag) (value : String)
  | notWhole (flag : Flag) (value : String)
  | unrecognized (words : List String)
  deriving DecidableEq, Repr

def Misuse.message : Misuse → String
  | ambiguous word candidates =>
      "ambiguous option: " ++ word ++ " could match " ++
        commaSeparated (candidates.map Flag.spelling)
  | valueMissing flag => "argument " ++ flag.title ++ ": expected one argument"
  | valueIgnored flag value =>
      "argument " ++ flag.title ++ ": ignored explicit argument " ++ quote value
  | notWhole flag value => "argument " ++ flag.title ++ ": invalid int value: " ++ quote value
  | unrecognized words => "unrecognized arguments: " ++ " ".intercalate words

/-! ## Classifying words -/

inductive Word where
  | operand (text : String)
  /-- Two dashes: only operands follow. -/
  | divider
  | option (flag : Flag) (value : Option String)
  /-- Letters after the one for help, all in one word. -/
  | helpCluster (letters : List Char)
  | unknown (text : String)
  deriving DecidableEq, Repr

def isNumeral (chars : List Char) : Bool :=
  !chars.isEmpty && chars.all fun char => (decimalDigit? char).isSome

/-- A word that looks like a negative number is an operand. A line end after it
makes no difference. -/
def isNegativeNumber (word : List Char) : Bool :=
  match word with
  | '-' :: chars =>
      let chars := if chars.getLast? = some '\n' then chars.dropLast else chars
      let whole := chars.takeWhile (· ≠ '.')
      match chars.dropWhile (· ≠ '.') with
      | [] => isNumeral whole
      | _ :: fraction => (whole.isEmpty || isNumeral whole) && isNumeral fraction
  | _ => false

def splitValue (word : String) : String × Option String :=
  let chars := word.toList
  (String.ofList (chars.takeWhile (· ≠ '=')),
    (chars.dropWhile (· ≠ '=')).tail?.map String.ofList)

def classifyRest (word : String) : Word :=
  if isNegativeNumber word.toList || word.toList.contains ' ' then .operand word
  else .unknown word

def classifyLong (word : String) : Except Misuse Word :=
  let (name, value) := splitValue word
  match Flag.ofSpelling? name with
  | some flag => .ok (.option flag value)
  | none =>
      match Flag.beginningWith name with
      | [] => .ok (classifyRest word)
      | [flag] => .ok (.option flag value)
      | candidates => .error (.ambiguous word candidates)

/-- What is attached to the short flag for help is taken for more such letters,
with an equals sign before them or none. -/
def classify (word : String) : Except Misuse Word :=
  match word.toList with
  | ['-', 'h', '='] => .ok (.option .help (some ""))
  | '-' :: 'h' :: '=' :: letters => .ok (.helpCluster letters)
  | '-' :: 'h' :: letters => .ok (.helpCluster letters)
  | '-' :: '-' :: _ => classifyLong word
  | '-' :: _ :: _ => .ok (classifyRest word)
  | _ => .ok (.operand word)

/-- Classifies words up to the divider, which makes operands of all after it. -/
def classifyAll : List String → Except Misuse (List Word)
  | [] => .ok []
  | word :: words =>
      if word = "--" then .ok (.divider :: words.map .operand)
      else do return (← classify word) :: (← classifyAll words)

/-! ## Taking words -/

inductive Given where
  | text (value : String)
  | whole (value : Int)
  /-- The value was taken out. -/
  | nothing
  deriving DecidableEq, Repr

structure Arguments where
  files : List String := []
  logLevel : Option Given := none
  logFile : Option Given := none
  recursionLimit : Option Given := none
  keepGoing : Bool := false
  deriving DecidableEq, Repr

inductive Stop where
  | helpWanted
  | misused (misuse : Misuse)
  deriving DecidableEq, Repr

inductive FileRun where
  | awaited
  | going
  | over
  deriving DecidableEq, Repr

structure Progress where
  arguments : Arguments := {}
  run : FileRun := .awaited
  /-- Words that nothing can be made of. -/
  extras : List String := []

namespace Progress

def atOption (progress : Progress) : Progress :=
  { progress with run := if progress.run = .going then .over else progress.run }

def operand (progress : Progress) (text : String) : Progress :=
  if progress.run = .over then { progress with extras := progress.extras ++ [text] }
  else
    { progress with
      arguments := { progress.arguments with files := progress.arguments.files ++ [text] }
      run := .going }

/-- The divider belongs to the files, and is none of them. -/
def divider (progress : Progress) : Progress :=
  if progress.run = .over then { progress with extras := progress.extras ++ ["--"] }
  else { progress with run := .going }

def unknown (progress : Progress) (text : String) : Progress :=
  { progress.atOption with extras := progress.extras ++ [text] }

def give (progress : Progress) (flag : Flag) (given : Given) : Progress :=
  let arguments := progress.arguments
  match flag with
  | .logLevel => { progress with arguments := { arguments with logLevel := some given } }
  | .logFile => { progress with arguments := { arguments with logFile := some given } }
  | .recursionLimit =>
      { progress with arguments := { arguments with recursionLimit := some given } }
  | .help | .keepGoing => progress

/-- Gives a flag its value. The divider is taken out of values as it is of files,
and so leaves nothing. -/
def assign (progress : Progress) (flag : Flag) (value : String) : Except Stop Progress :=
  if !flag.takesValue then .error (.misused (.valueIgnored flag value))
  else if value = "--" then .ok (progress.give flag .nothing)
  else if flag = .recursionLimit then
    match wholeNumber? value with
    | some limit => .ok (progress.give flag (.whole limit))
    | none => .error (.misused (.notWhole flag value))
  else .ok (progress.give flag (.text value))

def turnOn (progress : Progress) (flag : Flag) : Except Stop Progress :=
  match flag with
  | .help => .error .helpWanted
  | .keepGoing => .ok { progress with arguments := { progress.arguments with keepGoing := true } }
  | _ => .error (.misused (.valueMissing flag))

end Progress

/-- What letters after the one for help come to: they all have to ask for help. -/
def stopOfCluster : List Char → Stop
  | [] => .helpWanted
  | 'h' :: letters => stopOfCluster letters
  | letters => .misused (.valueIgnored .help (String.ofList letters))

def take (progress : Progress) : List Word → Except Stop Progress
  | [] => .ok progress
  | .operand text :: words => take (progress.operand text) words
  | .divider :: words => take progress.divider words
  | .unknown text :: words => take (progress.unknown text) words
  | .helpCluster letters :: _ => .error (stopOfCluster letters)
  | .option flag (some value) :: words => do
      take (← progress.atOption.assign flag value) words
  | [.option flag none] => progress.atOption.turnOn flag
  | .option flag none :: next :: words =>
      match flag.takesValue, next with
      | true, .operand value => do take (← progress.atOption.assign flag value) words
      | _, _ => do take (← progress.atOption.turnOn flag) (next :: words)

def parse (words : List String) : Except Stop Arguments :=
  match classifyAll words with
  | .error misuse => .error (.misused misuse)
  | .ok classified => do
      let progress ← take {} classified
      if progress.extras.isEmpty then return progress.arguments
      else throw (.misused (.unrecognized progress.extras))

/-! ## Usage and help -/

def programName : String := "trefoil"

def usage : String :=
  "usage: trefoil [-h] [--log-level LOG_LEVEL] [--log-file LOG_FILE]\n" ++
  "               [--recursion-limit RECURSION_LIMIT] [--keep-going]\n" ++
  "               [files ...]\n"

def help : String :=
  usage ++
  "\n" ++
  "Run Trefoil programs, or start a REPL when no files are given.\n" ++
  "\n" ++
  "positional arguments:\n" ++
  "  files                 Trefoil source files, run in order in one environment\n" ++
  "\n" ++
  "options:\n" ++
  "  -h, --help            show this help message and exit\n" ++
  "  --log-level LOG_LEVEL\n" ++
  "                        DEBUG, INFO, WARNING, ERROR or CRITICAL (env:\n" ++
  "                        TREFOIL_LOG_LEVEL)\n" ++
  "  --log-file LOG_FILE   Write logs to this file instead of stderr (env:\n" ++
  "                        TREFOIL_LOG_FILE)\n" ++
  "  --recursion-limit RECURSION_LIMIT\n" ++
  "                        Python recursion limit (env: TREFOIL_RECURSION_LIMIT)\n" ++
  "  --keep-going          Continue with the next binding after an error instead\n" ++
  "                        of stopping\n"

def complaint (misuse : Misuse) : String :=
  usage ++ programName ++ ": error: " ++ misuse.message ++ "\n"

end Trefoil.CommandLine
