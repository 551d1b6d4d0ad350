/-!
# Classes of characters given by ranges

A class of characters is kept as the ranges of its code points, in ascending order. The tables of
such ranges stand in modules of their own, each named for its class.
-/

namespace Chancery.Text

/-- Whether a code point lies in one of some ranges. -/
def inRanges (ranges : List (Nat × Nat)) (c : Char) : Bool :=
  ranges.any fun r => r.1 ≤ c.toNat && c.toNat ≤ r.2

end Chancery.Text
