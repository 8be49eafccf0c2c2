/-
  Decodables.Unicode.Ranges — sets of characters as closed ranges of code points.

  A table lists its ranges in ascending order and apart, so a search may stop at the
  first range that ends at or after the code point.
-/

namespace Decodables.Unicode

/-- Whether the code point lies in one of the ascending ranges. -/
def inRanges : List (Nat × Nat) → Nat → Bool
  | [], _ => false
  | (first, last) :: rest, n => if n ≤ last then decide (first ≤ n) else inRanges rest n

end Decodables.Unicode
