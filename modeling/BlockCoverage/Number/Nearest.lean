import BlockCoverage.Number.Binary

/-!
# The nearest double

A decimal stands for an exact fraction. The double for it is the nearest one, a half going to the
even significand; beyond the largest double it is infinity. The rounding is done on whole numbers.
-/

namespace BlockCoverage.Number

/-- The power of two just at or below the positive fraction `num / den`. -/
def floorLog (num den : Nat) : Int :=
  let guess : Int := (num.log2 : Int) - (den.log2 : Int)
  let reached := if 0 ≤ guess then decide (den * Nat.pow 2 guess.toNat ≤ num)
    else decide (den ≤ num * Nat.pow 2 (-guess).toNat)
  if reached then guess else guess - 1

/-- The bits of the double nearest to the fraction `num / den`, without a sign. A significand that
rounds up to the next power of two carries into the exponent field. -/
def nearestMagnitude (num den : Nat) : Nat :=
  if num = 0 then 0
  else
    let unit : Int := max (floorLog num den - 52) (-1074)
    let significand := if 0 ≤ unit then roundHalfEven num (den * Nat.pow 2 unit.toNat)
      else roundHalfEven (num * Nat.pow 2 (-unit).toNat) den
    if significand < fractionCount then significand
    else min ((unit + 1074).toNat * fractionCount + significand) (2047 * fractionCount)

/-- The bits of the double nearest to `digits * 10 ^ exponent`. A number whose order lies far
outside the range of doubles is not computed. -/
def ofDecimal (negative : Bool) (digits : Nat) (exponent : Int) : UInt64 :=
  let order : Int := ((Nat.repr digits).length : Int) + exponent
  let magnitude :=
    if digits = 0 ∨ order < -400 then 0
    else if 400 < order then 2047 * fractionCount
    else if 0 ≤ exponent then nearestMagnitude (digits * Nat.pow 10 exponent.toNat) 1
    else nearestMagnitude digits (Nat.pow 10 (-exponent).toNat)
  UInt64.ofNat (magnitude + if negative then 2048 * fractionCount else 0)

/-- The bits of positive infinity. -/
def infinityBits : UInt64 := UInt64.ofNat (2047 * fractionCount)

/-- The bits of a number that is none. -/
def nanBits : UInt64 := UInt64.ofNat (2047 * fractionCount + fractionCount / 2)

end BlockCoverage.Number
