import BlockCoverage.Number.Binary

/-!
# Ratios and percentages

A ratio of two counts is a double, and so is a hundred times it; the percentage shown is the exact
value of that double rounded to two places, a half going to the even neighbour.
-/

namespace BlockCoverage.Number

/-- The part that `covered` is of `total`; nothing of nothing is zero. -/
def ratio (covered total : Nat) : Float :=
  if total = 0 then 0.0 else Float.ofNat covered / Float.ofNat total

/-- A whole number of hundredths with two places after the point. -/
def writeHundredths (n : Nat) : String :=
  let cents := n % 100
  Nat.repr (n / 100) ++ "." ++ (if cents < 10 then "0" else "") ++ Nat.repr cents

/-- A ratio as a percentage with two places. -/
def percent (x : Float) : String :=
  match Double.ofBits (x * 100.0).toBits with
  | .finite b =>
    let (num, den) := b.fraction
    (if b.negative then "-" else "") ++ writeHundredths (roundHalfEven (num * 100) den)
  | .infinite negative => if negative then "-inf" else "inf"
  | .nan => "NaN"

end BlockCoverage.Number
