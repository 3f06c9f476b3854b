import Trefoil.Text.Numeral

/-! # Integers

Integers are signed and 32 bits wide. Arithmetic that leaves their range wraps
around it, and a numeral outside the range is not an integer. -/

namespace Trefoil.Integer

open Trefoil.Text

def modulus : Nat := 4294967296

def minimum : Int := -2147483648

def maximum : Int := 2147483647

def inRange (value : Int) : Bool := minimum ≤ value && value ≤ maximum

def wrap (value : Int) : Int := (value - minimum) % modulus + minimum

inductive Reading where
  | integer (value : Int)
  | notInteger
  /-- A numeral with more digits than numbers are written with. -/
  | tooLong (digits : Nat)
  deriving DecidableEq, Repr

/-- A numeral is a row of decimal digits, with a sign before it or none. -/
def ofToken (token : String) : Reading :=
  let (negative, numeral) := splitSign token.toList
  match numeral.mapM asciiDigit? with
  | none | some [] => .notInteger
  | some digits =>
      if maxDigits < digits.length then .tooLong digits.length
      else
        let value := signed negative (ofDigits digits)
        if inRange value then .integer value else .notInteger

end Trefoil.Integer
