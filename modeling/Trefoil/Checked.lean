import Trefoil.Integer

/-! # Checks

Data is checked before something is made of it. A check that fails tells all that
is wrong, each problem with the place where it was found. -/

namespace Trefoil

inductive Step where
  | field (name : String)
  | index (position : Nat)
  deriving DecidableEq, Repr

inductive Complaint where
  | missing
  | notText
  | notWhole
  | notTruth
  | aboveRange
  | belowRange
  | notExpression
  | notRow
  /-- The row has fewer items than it must have. -/
  | tooFew (least found : Nat)
  /-- The part of a finished node cannot be changed. -/
  | fixed
  | notLevel
  | notPositive
  /-- A text that says no whole number. -/
  | unreadableWhole
  | oversizedWhole
  | fractional
  /-- Something that says neither true nor false. -/
  | unreadableTruth
  deriving DecidableEq, Repr

namespace Complaint

def code : Complaint → String
  | missing => "missing"
  | notText => "string_type"
  | notWhole => "int_type"
  | notTruth => "bool_type"
  | aboveRange => "less_than_equal"
  | belowRange => "greater_than_equal"
  | notExpression => "model_type"
  | notRow => "tuple_type"
  | tooFew _ _ => "too_short"
  | fixed => "frozen_instance"
  | notLevel => "literal_error"
  | notPositive => "greater_than"
  | unreadableWhole => "int_parsing"
  | oversizedWhole => "int_parsing_size"
  | fractional => "int_from_float"
  | unreadableTruth => "bool_parsing"

def message : Complaint → String
  | missing => "Field required"
  | notText => "Input should be a valid string"
  | notWhole => "Input should be a valid integer"
  | notTruth => "Input should be a valid boolean"
  | aboveRange => "Input should be less than or equal to " ++ toString Integer.maximum
  | belowRange => "Input should be greater than or equal to " ++ toString Integer.minimum
  | notExpression => "Input should be a valid dictionary or instance of Expression"
  | notRow => "Input should be a valid tuple"
  | tooFew least found =>
      "Tuple should have at least " ++ toString least ++ " item" ++
        (if least = 1 then "" else "s") ++ " after validation, not " ++ toString found
  | fixed => "Instance is frozen"
  | notLevel => "Input should be 'DEBUG', 'INFO', 'WARNING', 'ERROR' or 'CRITICAL'"
  | notPositive => "Input should be greater than 0"
  | unreadableWhole =>
      "Input should be a valid integer, unable to parse string as an integer"
  | oversizedWhole =>
      "Unable to parse input string as an integer, exceeded maximum size"
  | fractional => "Input should be a valid integer, got a number with a fractional part"
  | unreadableTruth => "Input should be a valid boolean, unable to interpret input"

end Complaint

structure Problem where
  /-- The steps from the outermost datum. -/
  location : List Step := []
  complaint : Complaint
  deriving DecidableEq, Repr

abbrev Checked (α : Type) := Except (List Problem) α

namespace Checked

variable {α β : Type}

def complain (complaint : Complaint) : Checked α := .error [{ complaint }]

def problems : Checked α → List Problem
  | .ok _ => []
  | .error found => found

def within (step : Step) : Checked α → Checked α
  | .ok value => .ok value
  | .error found =>
      .error (found.map fun problem => { problem with location := step :: problem.location })

/-- Two checks side by side: the second is made even when the first one fails. -/
def both (first : Checked α) (second : Checked β) : Checked (α × β) :=
  match first, second with
  | .ok value, .ok value' => .ok (value, value')
  | first, second => .error (first.problems ++ second.problems)

def items (check : α → Checked β) : (position : Nat) → List α → Checked (List β)
  | _, [] => .ok []
  | position, item :: rest =>
      (both ((check item).within (.index position)) (items check (position + 1) rest)).map
        fun (value, values) => value :: values

end Checked

end Trefoil
