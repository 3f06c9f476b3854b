import Trefoil.Integer

/-! # Numerals of integers

An integer is written as a row of digits without needless zeros, after a minus
sign if it is negative. Such a numeral, read as a token, says the integer again. -/

namespace Trefoil

namespace Text

theorem asciiDigit?_of_isDigit {char : Char} (digit : char.isDigit = true) :
    asciiDigit? char = some (char.toNat - '0'.toNat) := by
  simp only [Char.isDigit, ge_iff_le, Bool.and_eq_true, decide_eq_true_eq] at digit
  have within : ('0' ≤ char && char ≤ '9') = true := by
    simpa [Char.le_def] using digit
  rw [asciiDigit?, if_pos within]

theorem mapM_asciiDigit? {chars : List Char} (digits : ∀ char ∈ chars, char.isDigit = true) :
    chars.mapM asciiDigit? = some (chars.map fun char => char.toNat - '0'.toNat) := by
  induction chars with
  | nil => rfl
  | cons char chars induction =>
      have first := asciiDigit?_of_isDigit (digits char (by simp))
      have rest := induction fun other member => digits other (by simp [member])
      simp [first, rest]

theorem splitSign_of_isDigit {chars : List Char} (digits : ∀ char ∈ chars, char.isDigit = true) :
    splitSign chars = (false, chars) := by
  unfold splitSign
  split
  · exact absurd (digits '-' (by simp)) (by decide)
  · exact absurd (digits '+' (by simp)) (by decide)
  · rfl

theorem isDigit_of_mem {number : Nat} {char : Char} (member : char ∈ Nat.toDigits 10 number) :
    char.isDigit = true :=
  Nat.isDigit_of_mem_toDigits (by decide) (by decide) member

theorem ofDigits_toDigits (number : Nat) :
    ofDigits ((Nat.toDigits 10 number).map fun char => char.toNat - '0'.toNat) = number := by
  rw [ofDigits, List.foldl_map, ← Nat.ofDigitChars_eq_foldl, Nat.ofDigitChars_ten_toDigits]

end Text

namespace Integer

open Trefoil.Text

/-- A token that is a sign and the digits of a number says the number with the
sign. Numbers of integers are never too long. -/
theorem ofToken_eq_integer {token : String} {negative : Bool} {number : Nat}
    (parts : splitSign token.toList = (negative, Nat.toDigits 10 number))
    (within : inRange (signed negative number) = true) :
    ofToken token = .integer (signed negative number) := by
  have small : number < 10 ^ 10 := by
    cases negative <;> simp [inRange, minimum, maximum, signed] at within <;> omega
  have longer : 10 ^ 10 ≤ 10 ^ maxDigits := Nat.pow_le_pow_right (by decide) (by decide)
  have short : (Nat.toDigits 10 number).length ≤ maxDigits :=
    (Nat.length_toDigits_le_iff (by decide) (by decide)).mpr (Nat.lt_of_lt_of_le small longer)
  have digits := mapM_asciiDigit? fun char => @isDigit_of_mem number char
  rw [ofToken, parts]
  dsimp only
  rw [digits]
  split
  next impossible => cases impossible
  next empty =>
      rw [Option.some.injEq, List.map_eq_nil_iff] at empty
      exact absurd empty Nat.toDigits_ne_nil
  next values _ equal =>
      cases equal
      rw [List.length_map, if_neg (Nat.not_lt.mpr short), ofDigits_toDigits, if_pos within]

theorem toList_toString_ofNat (number : Nat) :
    (toString (Int.ofNat number)).toList = Nat.toDigits 10 number :=
  Nat.toList_repr

theorem toList_toString_negSucc (number : Nat) :
    (toString (Int.negSucc number)).toList = '-' :: Nat.toDigits 10 (number + 1) := by
  change ("-" ++ (number + 1).repr).toList = _
  rw [String.toList_append, Nat.toList_repr]
  rfl

theorem ofToken_toString {value : Int} (within : inRange value = true) :
    ofToken (toString value) = .integer value := by
  cases value with
  | ofNat number =>
      apply @ofToken_eq_integer _ false number _ within
      rw [toList_toString_ofNat]
      exact splitSign_of_isDigit fun char member => isDigit_of_mem member
  | negSucc number =>
      apply @ofToken_eq_integer _ true (number + 1) _ within
      rw [toList_toString_negSucc]
      rfl

end Integer

end Trefoil
