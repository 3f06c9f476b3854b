import Trefoil.Text.Decimal
import Trefoil.Text.Quoted

/-! # Data

Data from outside, before anything is known about it: single values, rows, and
records with named fields. -/

namespace Trefoil

open Trefoil.Text

inductive Datum where
  | null
  | bool (value : Bool)
  | whole (value : Int)
  /-- The number `mantissa / 10 ^ places`, written with a decimal point. -/
  | decimal (mantissa : Int) (places : Nat)
  | text (value : String)
  | row (items : List Datum)
  | record (fields : List (String × Datum))
  deriving Inhabited

namespace Datum

def isNull : Datum → Bool
  | null => true
  | _ => false

def wholeOfDecimal? (mantissa : Int) (places : Nat) : Option Int :=
  let unit := Int.ofNat (Nat.pow 10 places)
  if mantissa % unit = 0 then some (mantissa / unit) else none

example : wholeOfDecimal? 100 1 = some 10 ∧ wholeOfDecimal? 105 1 = none := by decide

mutual

def describe : Datum → String
  | null => "None"
  | bool true => "True"
  | bool false => "False"
  | whole value => toString value
  | decimal mantissa places => Decimal.text mantissa places
  | text value => quote value
  | row items => bracketed (describeItems items)
  | record fields => "\x7b" ++ commaSeparated (describeFields fields) ++ "\x7d"

def describeItems : List Datum → List String
  | [] => []
  | item :: items => describe item :: describeItems items

def describeFields : List (String × Datum) → List String
  | [] => []
  | field :: fields => describeField field :: describeFields fields

def describeField : String × Datum → String
  | (name, datum) => quote name ++ ": " ++ describe datum

end

instance toStringDatum : ToString Datum := ⟨describe⟩

end Datum

end Trefoil
