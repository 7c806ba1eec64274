/-!
# Sets of code points given by ranges

A property of characters is stored as the ascending list of the ranges of code points that have
it.  `Ranges.mem` looks a code point up.
-/

namespace TagFilter.Text

/-- Ranges of code points, each given by its first and its last member. -/
abbrev Ranges := List (Nat × Nat)

/-- Whether a code point lies in one of the ranges. -/
def Ranges.mem (ranges : Ranges) (n : Nat) : Bool :=
  ranges.any fun r => r.1 ≤ n && n ≤ r.2

theorem Ranges.mem_iff (ranges : Ranges) (n : Nat) :
    ranges.mem n = true ↔ ∃ r ∈ ranges, r.1 ≤ n ∧ n ≤ r.2 := by
  simp [Ranges.mem]

end TagFilter.Text
