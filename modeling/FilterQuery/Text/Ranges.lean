/-! # Ranges of code points

Tables of character properties are lists of inclusive ranges.
-/

namespace FilterQuery.Text

/-- The code point lies in one of the ranges. -/
def inRanges (ranges : List (Nat × Nat)) (n : Nat) : Bool :=
  ranges.any fun (lo, hi) => lo ≤ n && n ≤ hi

end FilterQuery.Text
