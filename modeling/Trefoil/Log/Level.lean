import Trefoil.Log.Template

/-! # Log levels

A record is written when its level reaches the threshold that was set. -/

namespace Trefoil.Log

inductive Level where
  | notSet
  | debug
  | info
  | warning
  | error
  | critical
  deriving DecidableEq, Repr

/-- The capital of a letter, where that is an ASCII letter: the ASCII letters
themselves, the dotless `i` and the long `s`. No other letter has one. -/
def asciiCapital (char : Char) : Char :=
  if char = '\u0131' then 'I' else if char = '\u017f' then 'S' else char.toUpper

/-- A name in capitals, as far as they are ASCII. That decides whether it is the
name of a level. -/
def inCapitals (name : String) : String := String.ofList (name.toList.map asciiCapital)

namespace Level

def number : Level → Nat
  | notSet => 0
  | debug => 10
  | info => 20
  | warning => 30
  | error => 40
  | critical => 50

def name : Level → String
  | notSet => "NOTSET"
  | debug => "DEBUG"
  | info => "INFO"
  | warning => "WARNING"
  | error => "ERROR"
  | critical => "CRITICAL"

def ofName? (name : String) : Option Level :=
  [debug, info, warning, error, critical].find? (·.name = inCapitals name)

end Level

inductive NamedLevel where
  | level (level : Level)
  /-- The name of a line template, not of a level. -/
  | template (template : Template)

/-- Besides the names of the levels there are two short ones, one that lets every
record through, and one that is taken by a template. Any other name stands for
warnings. -/
def NamedLevel.ofName (name : String) : NamedLevel :=
  match Level.ofName? name with
  | some found => .level found
  | none =>
      match inCapitals name with
      | "NOTSET" => .level .notSet
      | "WARN" => .level .warning
      | "FATAL" => .level .critical
      | "BASIC_FORMAT" => .template [.level, .literal ":", .origin, .literal ":", .message]
      | _ => .level .warning

end Trefoil.Log
