import Trefoil.Checked
import Trefoil.Datum
import Trefoil.Log.Level
import Trefoil.Run

/-! # Settings

Settings come from variables in the environment of the process and from options,
which win. What neither gives has a default. Values may be of any type that can
be understood: limits and switches are often given as text. -/

namespace Trefoil

open Trefoil.Text

structure Settings where
  logLevel : Log.Level := .warning
  logFile : Option String := none
  /-- A limit on the interpreter's own recursion. -/
  recursionLimit : Nat := defaultLimit
  stopOnError : Bool := true
  recursionLimit_pos : 0 < recursionLimit := by decide

namespace Settings

/-! ## Whole numbers -/

def wholeOfText (text : String) : Checked Int :=
  match Numeral.read text.toList with
  | .whole value => .ok value
  | .unreadable => Checked.complain .unreadableWhole
  | .oversized => Checked.complain .oversizedWhole

/-- Whole numbers of this size are exact when they are given as decimals. -/
def fitsDecimal (value : Int) : Bool :=
  -9223372036854775808 < value && value < 9223372036854775808

def toWhole : Datum → Checked Int
  | .whole value => .ok value
  | .bool value => .ok (if value then 1 else 0)
  | .text text => wholeOfText text
  | .decimal mantissa places =>
      match Datum.wholeOfDecimal? mantissa places with
      | none => Checked.complain .fractional
      | some value => if fitsDecimal value then .ok value else Checked.complain .oversizedWhole
  | _ => Checked.complain .notWhole

def toLimit (datum : Datum) : Checked { limit : Nat // 0 < limit } := do
  let value ← toWhole datum
  if positive : 0 < value then
    return ⟨value.toNat, by omega⟩
  else
    Checked.complain .notPositive

/-! ## Switches -/

def wordsForTrue : List String := ["true", "t", "yes", "y", "on", "1"]

def wordsForFalse : List String := ["false", "f", "no", "n", "off", "0"]

/-- The words are taken in any case, and with nothing around them. -/
def truthOfText (text : String) : Checked Bool :=
  let word := text.map Char.toLower
  if wordsForTrue.contains word then .ok true
  else if wordsForFalse.contains word then .ok false
  else Checked.complain .unreadableTruth

def truthOfWhole (value : Int) : Checked Bool :=
  if value = 1 then .ok true
  else if value = 0 then .ok false
  else if fitsDecimal value then Checked.complain .unreadableTruth
  else Checked.complain .notTruth

def toTruth : Datum → Checked Bool
  | .bool value => .ok value
  | .whole value => truthOfWhole value
  | .text text => truthOfText text
  | .decimal mantissa places =>
      match Datum.wholeOfDecimal? mantissa places with
      | some value => truthOfWhole value
      | none => Checked.complain .notTruth
  | _ => Checked.complain .notTruth

/-! ## Levels and paths -/

def toLevel : Datum → Checked Log.Level
  | .text name =>
      match Log.Level.ofName? name with
      | some level => .ok level
      | none => Checked.complain .notLevel
  | _ => Checked.complain .notLevel

def toPath : Datum → Checked (Option String)
  | .text path => .ok (some path)
  | .null => .ok none
  | _ => Checked.complain .notText

/-! ## All settings -/

def names : List String := ["log_level", "log_file", "recursion_limit", "stop_on_error"]

def variableName (name : String) : String := "TREFOIL_" ++ name.map Char.toUpper

/-- The value given for a setting. An option that is null does not count. -/
def given? (environment options : List (String × Datum)) (name : String) : Option Datum :=
  match options.lookup name with
  | some datum => if datum.isNull then environment.lookup (variableName name) else some datum
  | none => environment.lookup (variableName name)

def check {α : Type} (environment options : List (String × Datum)) (name : String) (default : α)
    (read : Datum → Checked α) : Checked α :=
  match given? environment options name with
  | some datum => (read datum).within (.field name)
  | none => .ok default

/-- The settings for the variables in `environment` and for `options`. Others than
the known ones are ignored. -/
def gather (environment options : List (String × Datum)) : Checked Settings :=
  let level := check environment options "log_level" .warning toLevel
  let file := check environment options "log_file" none toPath
  let limit := check environment options "recursion_limit" ⟨defaultLimit, by decide⟩ toLimit
  let stop := check environment options "stop_on_error" true toTruth
  (level.both (file.both (limit.both stop))).map
    fun (logLevel, logFile, ⟨recursionLimit, positive⟩, stopOnError) =>
      { logLevel, logFile, recursionLimit, stopOnError, recursionLimit_pos := positive }

end Settings

end Trefoil
