/-!
# Ranges of characters

Properties of characters beyond ASCII are given as lists of ranges of code points.
-/

namespace ApiContract.Text

/-- Ranges of code points, each by its first and its last one. -/
abbrev Ranges := List (Nat × Nat)

/-- Whether a character lies in one of some ranges. -/
def inRanges (ranges : Ranges) (c : Char) : Bool :=
  ranges.any fun r => r.1 ≤ c.toNat && c.toNat ≤ r.2

end ApiContract.Text
