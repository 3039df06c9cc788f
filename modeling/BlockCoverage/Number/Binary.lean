/-!
# Binary numbers, exactly

A double is a sign, a whole significand and a power of two. Printing works on these three, in whole
numbers, so no digit of an answer depends on rounding inside the printer.
-/

namespace BlockCoverage.Number

/-- A finite double: `significand * 2 ^ exponent`, negated if `negative`. -/
structure Binary where
  /-- Whether the sign bit is set. -/
  negative : Bool
  /-- The whole significand, below `2 ^ 53`. -/
  significand : Nat
  /-- The power of two. -/
  exponent : Int
  /-- Whether the neighbour below is nearer than the one above. -/
  narrowBelow : Bool
deriving DecidableEq, Repr

/-- What the 64 bits of a double stand for. -/
inductive Double where
  /-- A finite number. -/
  | finite (value : Binary)
  /-- An infinity. -/
  | infinite (negative : Bool)
  /-- Not a number. -/
  | nan
deriving DecidableEq, Repr

/-- How many fractions a double can have: its fraction has 52 bits, below eleven for the exponent
and one for the sign. -/
def fractionCount : Nat := 4503599627370496

/-- Takes the bits of a double apart. -/
def Double.ofBits (bits : UInt64) : Double :=
  let n := bits.toNat
  let negative := decide (n / (2048 * fractionCount) = 1)
  let field : Nat := n / fractionCount % 2048
  let fraction : Nat := n % fractionCount
  if field = 2047 then (if fraction = 0 then .infinite negative else .nan)
  else if field = 0 then .finite ⟨negative, fraction, -1074, false⟩
  else .finite ⟨negative, fraction + fractionCount, (field : Int) - 1075,
    decide (fraction = 0 ∧ 1 < field)⟩

/-- The magnitude as a fraction with a positive denominator. -/
def Binary.fraction (b : Binary) : Nat × Nat :=
  if 0 ≤ b.exponent then (b.significand * Nat.pow 2 b.exponent.toNat, 1)
  else (b.significand, Nat.pow 2 (-b.exponent).toNat)

/-- The whole number nearest to `num / den`, a half going to the even neighbour. -/
def roundHalfEven (num den : Nat) : Nat :=
  let q := num / den
  let r := num % den
  if 2 * r < den then q
  else if den < 2 * r then q + 1
  else if q % 2 = 0 then q else q + 1

end BlockCoverage.Number
