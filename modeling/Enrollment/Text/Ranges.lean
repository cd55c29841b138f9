/-
Sets of code points given as closed ranges: the form in which every character class of this
library that is wider than ASCII is written down.
-/
namespace Enrollment.Text

/-- Whether a code point lies in one of the given closed ranges. -/
def inRanges (ranges : Array (Nat × Nat)) (n : Nat) : Bool :=
  ranges.any fun r => r.1 ≤ n && n ≤ r.2

end Enrollment.Text
