/-! Sets of code points as lists of ranges in increasing order, the form in which the classes of
characters of the Unicode standard are given here. All tables are those of version 17.0. -/

namespace LargerThanLife.Text

/-- Is `n` in one of the ranges, given in increasing order with both ends inclusive? -/
def inRanges : List (Nat × Nat) → Nat → Bool
  | [], _ => false
  | (first, last) :: rest, n => first ≤ n && (n ≤ last || inRanges rest n)

end LargerThanLife.Text
