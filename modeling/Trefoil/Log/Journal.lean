import Trefoil.Log.Record

/-! # Journals

A log goes to the error stream, among the messages of the program, or to a file.
Only lines in a file carry the time. -/

namespace Trefoil.Log

inductive Sink where
  | errorStream
  | file (path : String)
  deriving DecidableEq, Repr

namespace Sink

/-- An empty path is as good as none. -/
def ofPath? : Option String → Sink
  | none => errorStream
  | some path => if path = "" then errorStream else file path

def path? : Sink → Option String
  | errorStream => none
  | file path => some path

def template : Sink → Template
  | errorStream => [.literal "[", .level, .literal "] ", .origin, .literal ": ", .message]
  | file _ =>
      [.time, .literal " - ", .origin, .literal " - ", .level, .literal " - ", .message]

end Sink

structure Journal where
  sink : Sink
  threshold : Level

namespace Journal

def takes (journal : Journal) (record : Record) : Bool :=
  journal.threshold.number ≤ record.level.number

/-- Sets up a log for a level by its name. A name that stands for a template is
refused, when all but the threshold has been set. -/
def configure (levelName : String) (path? : Option String) : Journal × Option Fault :=
  let sink := Sink.ofPath? path?
  match NamedLevel.ofName levelName with
  | .level threshold => ({ sink, threshold }, none)
  | .template template => ({ sink, threshold := .warning }, some (.unknownLevel template.text))

def opening (journal : Journal) : Record := .logReady journal.threshold

/-- The line for a record, which has a time and names environments by `identify`. -/
def line (journal : Journal) (time : String) (identify : Env → String) (record : Record) :
    String :=
  journal.sink.template.fill
    { time, level := record.level.name, origin := record.origin,
      message := record.message identify } ++ "\n"

def write (journal : Journal) (time : String) (identify : Env → String) (record : Record) :
    String :=
  if journal.takes record then journal.line time identify record else ""

end Journal

end Trefoil.Log
