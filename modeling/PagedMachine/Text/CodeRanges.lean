/-!
# Sets of code points given by ranges

A Unicode property is shipped as a sorted list of closed ranges of code points. A code point
has the property when some range holds it.

Main statement: `inRanges_iff`, membership is exactly "some range holds the code point".
-/

namespace PagedMachine.Text

/-- Whether some closed range `(lo, hi)` of `ranges` holds `n`. -/
def inRanges (ranges : List (Nat × Nat)) (n : Nat) : Bool :=
  ranges.any fun r => r.1 ≤ n && n ≤ r.2

/-- A code point is in the ranges exactly when some range holds it. -/
theorem inRanges_iff (ranges : List (Nat × Nat)) (n : Nat) :
    inRanges ranges n = true ↔ ∃ r ∈ ranges, r.1 ≤ n ∧ n ≤ r.2 := by
  simp [inRanges]

end PagedMachine.Text
