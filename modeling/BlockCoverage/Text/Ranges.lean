/-!
# Sets of code points

A property of characters is a list of closed ranges of code points.
-/

namespace BlockCoverage.Text

/-- Closed ranges of code points. -/
abbrev Ranges := List (Nat × Nat)

/-- Whether a code point lies in one of the ranges. -/
def Ranges.has (r : Ranges) (n : Nat) : Bool := r.any (fun e => e.1 ≤ n && n ≤ e.2)

end BlockCoverage.Text
