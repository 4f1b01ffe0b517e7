/-
# Ranges of code points

The character classes of Unicode are given as lists of closed ranges of code
points, in increasing order.
-/

import DekiMigration.Text

namespace DekiMigration.Text

/-- Whether a code point lies in one of the ranges. -/
def inRanges (ranges : List (Nat × Nat)) (codePoint : Nat) : Bool :=
  ranges.any fun (low, high) => low ≤ codePoint && codePoint ≤ high

end DekiMigration.Text
