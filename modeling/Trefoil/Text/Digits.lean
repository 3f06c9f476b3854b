import Trefoil.Text.Blank

/-! # Whole numbers in text

Decimal digits of any script, and the whole numbers written with them. -/

namespace Trefoil.Text

def digitZeros : List Nat :=
  [
   0x30, 0x660, 0x6f0, 0x7c0, 0x966, 0x9e6, 0xa66, 0xae6, 0xb66, 0xbe6, 0xc66, 0xce6, 0xd66,
   0xde6, 0xe50, 0xed0, 0xf20, 0x1040, 0x1090, 0x17e0, 0x1810, 0x1946, 0x19d0, 0x1a80, 0x1a90,
   0x1b50, 0x1bb0, 0x1c40, 0x1c50, 0xa620, 0xa8d0, 0xa900, 0xa9d0, 0xa9f0, 0xaa50, 0xabf0,
   0xff10, 0x104a0, 0x10d30, 0x11066, 0x110f0, 0x11136, 0x111d0, 0x112f0, 0x11450, 0x114d0,
   0x11650, 0x116c0, 0x11730, 0x118e0, 0x11950, 0x11c50, 0x11d50, 0x11da0, 0x16a60, 0x16ac0,
   0x16b50, 0x1d7ce, 0x1d7d8, 0x1d7e2, 0x1d7ec, 0x1d7f6, 0x1e140, 0x1e2f0, 0x1e950, 0x1fbf0
  ]

def decimalDigit? (char : Char) : Option Nat :=
  (digitZeros.find? fun start => start ≤ char.toNat && char.toNat < start + 10).map
    (char.toNat - ·)

def maxDigits : Nat := 4300

/-- The digit values of a numeral. Single underscores may stand between digits. -/
def numeralDigits? (digit? : Char → Option Nat) : List Char → Option (List Nat)
  | [] => none
  | [char] => (digit? char).map ([·])
  | char :: '_' :: rest => do
      let value ← digit? char
      let values ← numeralDigits? digit? rest
      return value :: values
  | char :: rest => do
      let value ← digit? char
      let values ← numeralDigits? digit? rest
      return value :: values

def ofDigits (digits : List Nat) : Nat := digits.foldl (fun number digit => 10 * number + digit) 0

def splitSign : List Char → Bool × List Char
  | '-' :: rest => (true, rest)
  | '+' :: rest => (false, rest)
  | chars => (false, chars)

def signed (negative : Bool) (magnitude : Nat) : Int :=
  if negative then -magnitude else magnitude

/-- The whole number a text spells: white space around it, a sign, and digits of
any script. Numerals that are too long are refused. -/
def wholeNumber? (text : String) : Option Int :=
  let (negative, numeral) := splitSign (trimChars isWhiteSpace text.toList)
  match numeralDigits? decimalDigit? numeral with
  | some digits =>
      if digits.length ≤ maxDigits then some (signed negative (ofDigits digits)) else none
  | none => none

example : wholeNumber? " -1_000 " = some (-1000) ∧ wholeNumber? "1__0" = none := by decide

end Trefoil.Text
