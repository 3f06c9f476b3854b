import Trefoil.Build
import Trefoil.Proofs.Numerals

/-! # Literals

Which tokens are literals, said without reading them: three words, and the spellings
of integers in range. Every other token is a name, except for a numeral with more
digits than numbers are read with, which is neither. -/

namespace Trefoil

open Trefoil.Text

/-! ## Spellings -/

theorem Text.isDigit_of_asciiDigit? {char : Char} {digit : Nat}
    (found : asciiDigit? char = some digit) : char.isDigit = true := by
  rw [asciiDigit?, Option.ite_none_right_eq_some] at found
  simpa [Char.isDigit, Char.le_def] using found.1

theorem Text.isDigit_of_mapM {chars : List Char} {digits : List Nat}
    (found : chars.mapM asciiDigit? = some digits) : ∀ char ∈ chars, char.isDigit = true := by
  induction chars generalizing digits with
  | nil => exact nofun
  | cons char chars induction =>
      rw [List.mapM_cons] at found
      rcases Option.bind_eq_some_iff.mp found with ⟨first, onFirst, found⟩
      rcases Option.bind_eq_some_iff.mp found with ⟨rest, onRest, _⟩
      exact List.forall_mem_cons.mpr ⟨isDigit_of_asciiDigit? onFirst, induction onRest⟩

namespace Integer

inductive Sign where
  | none
  | plus
  | minus
  deriving DecidableEq, Repr

def Sign.chars : Sign → List Char
  | none => []
  | plus => ['+']
  | minus => ['-']

/-- How whole numbers are written: a sign or none, and then decimal digits. -/
structure Spelling where
  sign : Sign
  digits : List Char
  filled : digits ≠ []
  decimal : ∀ char ∈ digits, char.isDigit = true

namespace Spelling

def token (spelling : Spelling) : String := String.ofList (spelling.sign.chars ++ spelling.digits)

def magnitude (spelling : Spelling) : Nat := Nat.ofDigitChars 10 spelling.digits 0

def value (spelling : Spelling) : Int :=
  if spelling.sign = .minus then -spelling.magnitude else spelling.magnitude

theorem length_digits_le (spelling : Spelling) :
    spelling.digits.length ≤ spelling.token.length := by
  simp [token]

theorem splitSign_token (spelling : Spelling) :
    splitSign spelling.token.toList = (decide (spelling.sign = .minus), spelling.digits) := by
  rw [token, String.toList_ofList]
  cases spelling.sign with
  | none => exact splitSign_of_isDigit spelling.decimal
  | plus | minus => rfl

end Spelling

theorem ofToken_token (spelling : Spelling) :
    ofToken spelling.token =
      if maxDigits < spelling.digits.length then .tooLong spelling.digits.length
      else if inRange spelling.value then .integer spelling.value else .notInteger := by
  have values := mapM_asciiDigit? spelling.decimal
  have magnitude : ofDigits (spelling.digits.map fun char => char.toNat - '0'.toNat) =
      spelling.magnitude := by
    rw [ofDigits, List.foldl_map, Spelling.magnitude, Nat.ofDigitChars_eq_foldl]
  have value : signed (decide (spelling.sign = .minus)) spelling.magnitude = spelling.value := by
    simp [signed, Spelling.value]
  rw [ofToken, spelling.splitSign_token]
  dsimp only
  rw [values]
  split
  next impossible => cases impossible
  next empty =>
      rw [Option.some.injEq, List.map_eq_nil_iff] at empty
      exact absurd empty spelling.filled
  next equal =>
      cases equal
      rw [List.length_map, magnitude, value]

theorem exists_spelling {token : String} (number : ofToken token ≠ .notInteger) :
    ∃ spelling : Spelling, spelling.token = token := by
  have written (sign : Sign) (digits : List Char) (chars : token.toList = sign.chars ++ digits)
      (split : (splitSign token.toList).2 = digits) :
      ∃ spelling : Spelling, spelling.token = token := by
    have filled : digits ≠ [] := by
      rintro rfl
      exact number (by simp [ofToken, split])
    have decimal : ∀ char ∈ digits, char.isDigit = true := by
      cases found : digits.mapM asciiDigit? with
      | none => exact absurd (by simp [ofToken, split, found]) number
      | some values => exact isDigit_of_mapM found
    exact ⟨⟨sign, digits, filled, decimal⟩, by simp [Spelling.token, ← chars]⟩
  generalize parts : splitSign token.toList = signAndDigits at written
  unfold splitSign at parts
  split at parts
  next digits chars => exact written .minus digits chars (by rw [← parts])
  next digits chars => exact written .plus digits chars (by rw [← parts])
  · exact written .none token.toList rfl (by rw [← parts])

end Integer

/-! ## Literals and names -/

def isName (token : String) : Bool :=
  Integer.ofToken token = .notInteger && Expr.ofWord token = .var token

theorem Expr.ofWord_cases (word : String) :
    (∃ value, ofWord word = .bool value) ∨ ofWord word = .nil ∨ ofWord word = .var word := by
  unfold ofWord
  split <;> simp

theorem Integer.inRange_of_ofToken {token : String} {value : Int}
    (reading : Integer.ofToken token = .integer value) : Integer.inRange value = true := by
  unfold Integer.ofToken at reading
  dsimp only at reading
  split at reading
  · cases reading
  · cases reading
  · split at reading
    · cases reading
    · split at reading
      · cases reading
        assumption
      · cases reading

/-- The tokens that are no names: three words, and integers in range. -/
def IsLiteral (token : String) : Prop :=
  token ∈ ["true", "false", "nil"] ∨
    ∃ spelling : Integer.Spelling, spelling.token = token ∧ Integer.inRange spelling.value = true

/-- Where the tokens spell whole numbers, they have no more digits than numbers are
read with. -/
def ShortNumerals (tokens : List String) : Prop :=
  ∀ spelling : Integer.Spelling, spelling.token ∈ tokens → spelling.digits.length ≤ maxDigits

namespace ShortNumerals

variable {tokens tokens' : List String}

theorem mono (short : ShortNumerals tokens) (subset : tokens' ⊆ tokens) : ShortNumerals tokens' :=
  fun spelling member => short spelling (subset member)

theorem of_length (lengths : ∀ token ∈ tokens, token.length ≤ maxDigits) :
    ShortNumerals tokens :=
  fun spelling member => Nat.le_trans spelling.length_digits_le (lengths _ member)

end ShortNumerals

theorem Expr.ofWord_eq_var_iff {word : String} :
    Expr.ofWord word = .var word ↔ word ∉ ["true", "false", "nil"] := by
  unfold Expr.ofWord
  split <;> simp_all

theorem Integer.exists_tooLong {token : String} (long : ¬ ShortNumerals [token]) :
    ∃ digits, ofToken token = .tooLong digits := by
  simp only [ShortNumerals, List.mem_singleton, Classical.not_forall, Nat.not_le] at long
  rcases long with ⟨spelling, rfl, long⟩
  exact ⟨_, by rw [ofToken_token, if_pos long]⟩

section

variable {token : String} (short : ShortNumerals [token])
include short

theorem Integer.ofToken_ne_tooLong (digits : Nat) : ofToken token ≠ .tooLong digits := by
  intro long
  rcases exists_spelling (by rw [long]; nofun) with ⟨spelling, rfl⟩
  rw [ofToken_token, if_neg (Nat.not_lt.mpr (short spelling (by simp)))] at long
  split at long <;> cases long

theorem Integer.ofToken_eq_notInteger_iff :
    ofToken token = .notInteger ↔
      ¬ ∃ spelling : Spelling, spelling.token = token ∧ inRange spelling.value = true := by
  constructor
  · rintro reading ⟨spelling, rfl, within⟩
    rw [ofToken_token, if_neg (Nat.not_lt.mpr (short spelling (by simp))), if_pos within] at reading
    cases reading
  · intro none
    apply Decidable.byContradiction
    intro number
    rcases exists_spelling number with ⟨spelling, rfl⟩
    have outside : ¬ inRange spelling.value = true := fun within => none ⟨spelling, rfl, within⟩
    rw [ofToken_token, if_neg (Nat.not_lt.mpr (short spelling (by simp))), if_neg outside] at number
    exact number rfl

theorem isName_iff : isName token = true ↔ ¬ IsLiteral token := by
  rw [isName, Bool.and_eq_true, decide_eq_true_eq, decide_eq_true_eq,
    Integer.ofToken_eq_notInteger_iff short, Expr.ofWord_eq_var_iff, IsLiteral, not_or, and_comm]

end

end Trefoil
