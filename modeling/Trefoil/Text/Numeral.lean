import Trefoil.Text.Digits

/-! # Numerals in loose writing

A plain numeral is a row of digits without needless zeros, after a minus sign or
none. Numerals that people write are looser: they have blanks around them, a plus
sign, zeros in front, zeros after a decimal point, or underscores between the
digits. Such a numeral is tidied up, and has to be plain then. -/

namespace Trefoil.Text

def asciiDigit? (char : Char) : Option Nat :=
  if '0' ≤ char && char ≤ '9' then some (char.toNat - '0'.toNat) else none

namespace Numeral

inductive Reading where
  | whole (value : Int)
  | unreadable
  /-- The sign and the digits are more characters than numbers are written with. -/
  | oversized
  deriving DecidableEq, Repr

/-! ## Plain numerals -/

def leadingDigits : List Char → List Nat × List Char
  | [] => ([], [])
  | char :: rest =>
      match asciiDigit? char with
      | none => ([], char :: rest)
      | some digit =>
          let (digits, others) := leadingDigits rest
          (digits.cons digit, others)

def splitMinus : List Char → Bool × List Char
  | '-' :: rest => (true, rest)
  | chars => (false, chars)

/-- Whatever follows the digits spoils a numeral, but only if they are not too many. -/
def plain (chars : List Char) : Reading :=
  let (negative, unsigned) := splitMinus chars
  match leadingDigits unsigned with
  | ([], _) | (0 :: _ :: _, _) => .unreadable
  | (digits, rest) =>
      if maxDigits < digits.length + (if negative then 1 else 0) then .oversized
      else if rest.isEmpty then .whole (signed negative (ofDigits digits))
      else .unreadable

/-! ## Tidying up -/

/-- Without a plus sign. A minus sign may not follow it. -/
def dropPlus : List Char → Option (List Char)
  | '+' :: '-' :: _ => none
  | '+' :: rest => some rest
  | chars => some chars

def startsPlain (char : Char) : Bool := char = '-' || ('1' ≤ char && char ≤ '9')

/-- What follows zeros and the underscores among them. `last` is the character
before, which stays when the number is zero or a decimal point comes next. -/
def pastZeros (last : Char) : List Char → Option (List Char)
  | [] => some [last]
  | char :: rest =>
      if char = '0' || char = '_' then pastZeros char rest
      else if startsPlain char then some (char :: rest)
      else if char = '.' then some (last :: char :: rest)
      else none

def dropZeros : List Char → Option (List Char)
  | [] => none
  | char :: rest =>
      if char = '0' then pastZeros char rest
      else if startsPlain char then some (char :: rest)
      else none

/-- Without a decimal point that only zeros follow, at least one of them. -/
def dropFraction (chars : List Char) : List Char :=
  match chars.dropWhile (· ≠ '.') with
  | _ :: '0' :: zeros => if zeros.all (· = '0') then chars.takeWhile (· ≠ '.') else chars
  | _ => chars

def hasDoubleUnderscore : List Char → Bool
  | '_' :: '_' :: _ => true
  | _ :: rest => hasDoubleUnderscore rest
  | [] => false

/-- Without underscores, if all of them are single and stand inside. -/
def dropUnderscores (chars : List Char) : List Char :=
  if chars.head? = some '_' || chars.getLast? = some '_' || hasDoubleUnderscore chars then chars
  else chars.filter (· ≠ '_')

/-- A minus sign in front stays, and what follows it is tidied on its own. -/
def tidy (chars : List Char) : Option (List Char) := do
  let (negative, unsigned) := splitMinus (← dropPlus (trimChars isWhiteSpace chars))
  let tidied := dropUnderscores (dropFraction (← dropZeros unsigned))
  return if negative then '-' :: tidied else tidied

def read (chars : List Char) : Reading :=
  match plain chars with
  | .unreadable =>
      match tidy chars with
      | some tidied => plain tidied
      | none => .unreadable
  | reading => reading

example : read " +1_000.00 ".toList = .whole 1000 ∧ read "007".toList = .whole 7 := by decide

example : read "-007".toList = .whole (-7) ∧ read "-0.0".toList = .whole 0 := by decide

example : read "1__0".toList = .unreadable ∧ read "10.".toList = .unreadable := by decide

end Numeral

end Trefoil.Text
