/-! # Ranges of character codes

Character properties are tables of inclusive code ranges. -/

namespace Trefoil.Text

abbrev CodeRange := Nat × Nat

namespace CodeRange

def contains (range : CodeRange) (char : Char) : Bool :=
  range.1 ≤ char.toNat && char.toNat ≤ range.2

def anyContains (ranges : List CodeRange) (char : Char) : Bool :=
  ranges.any (·.contains char)

end CodeRange

end Trefoil.Text
