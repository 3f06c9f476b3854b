/-! # Decimal fractions in text

Decimals are written with a point and at least one digit on either side of it.
Very small and very large ones have a power of ten after their digits instead. -/

namespace Trefoil.Text.Decimal

def digits (number : Nat) : List Char := Nat.toDigits 10 number

def trimZeros (digits : List Char) : List Char := (digits.reverse.dropWhile (· = '0')).reverse

def exponentText (exponent : Int) : String :=
  let magnitude := digits exponent.natAbs
  "e" ++ (if exponent < 0 then "-" else "+") ++
    String.ofList (List.replicate (2 - magnitude.length) '0' ++ magnitude)

def pointed : List Char → String
  | [] => "0"
  | [digit] => digit.toString
  | digit :: others => String.ofList (digit :: '.' :: others)

def orZero (digits : List Char) : String :=
  if digits.isEmpty then "0" else String.ofList digits

/-- Exponents of the first digit for which the point is written in its place. -/
def isPlain (exponent : Int) : Bool := -4 ≤ exponent && exponent < 16

def plainText (significant : List Char) (exponent : Int) : String :=
  if exponent < 0 then
    "0." ++ String.ofList (List.replicate (exponent.natAbs - 1) '0' ++ significant)
  else
    let width := exponent.toNat + 1
    let padded := significant ++ List.replicate (width - significant.length) '0'
    String.ofList (padded.take width) ++ "." ++ orZero (padded.drop width)

def text (mantissa : Int) (places : Nat) : String :=
  let written := digits mantissa.natAbs
  let exponent : Int := Int.ofNat written.length - 1 - Int.ofNat places
  let significant := trimZeros written
  (if mantissa < 0 then "-" else "") ++
    (if mantissa = 0 then "0.0"
      else if isPlain exponent then plainText significant exponent
      else pointed significant ++ exponentText exponent)

/-- Zeros at the end of the fraction are left out, all but one. -/
example : text 150 2 = "1.5" ∧ text 1000 2 = "10.0" := by decide

/-- Zeros after the point are written as long as they are few. -/
example : text (-25) 4 = "-0.0025" ∧ text 1 5 = "1e-05" := by decide

/-- A large number keeps its point only if it has other digits. -/
example : text 100000000000000000 1 = "1e+16" ∧ text 150000000000000000 1 = "1.5e+16" := by
  decide

end Trefoil.Text.Decimal
