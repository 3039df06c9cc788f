import BlockCoverage.Number.Binary

/-!
# Shortest decimals

The shortest decimal of a double is the first hit when decimal grids are searched from coarse to
fine: a grid point is a hit if it rounds to the double, which is to say if it lies in the interval
of reals that do (ends included for an even significand). On each grid only the two neighbours of
the value can be the nearest hit.
-/

namespace BlockCoverage.Number

/-- A decimal `digits * 10 ^ exponent`. -/
structure Decimal where
  /-- The digits, as a whole number. -/
  digits : Nat
  /-- The power of ten. -/
  exponent : Int
deriving DecidableEq, Repr

/-- The grid point nearest to `b` on the grid of multiples of `10 ^ k`, if it rounds to `b`. -/
def gridHit? (b : Binary) (k : Int) : Option Nat :=
  let up := if 0 ≤ b.exponent then Nat.pow 2 b.exponent.toNat else 1
  let den := if 0 ≤ b.exponent then 4 else 4 * Nat.pow 2 (-b.exponent).toNat
  let num := 4 * b.significand * up
  let low := num - (if b.narrowBelow then 1 else 2) * up
  let high := num + 2 * up
  let unit := den * (if 0 ≤ k then Nat.pow 10 k.toNat else 1)
  let scale := if 0 ≤ k then 1 else Nat.pow 10 (-k).toNat
  let hit := fun c => if b.significand % 2 = 0
    then decide (low * scale ≤ c * unit ∧ c * unit ≤ high * scale)
    else decide (low * scale < c * unit ∧ c * unit < high * scale)
  let below := num * scale / unit
  let nearBelow := decide (2 * (num * scale - below * unit) < unit) ||
    (decide (2 * (num * scale - below * unit) = unit) && below % 2 == 0)
  match hit below, hit (below + 1) with
  | true, true => some (if nearBelow then below else below + 1)
  | true, false => some below
  | false, true => some (below + 1)
  | false, false => none

/-- The shortest decimal that reads back as `b`. Grids from `10 ^ 310` down to `10 ^ -330` are
searched, which holds every double. -/
def shortest (b : Binary) : Decimal :=
  if b.significand = 0 then ⟨0, 0⟩
  else
    let hits := (List.range 641).findSome? (fun (i : Nat) =>
      let k : Int := 310 - (i : Int)
      (gridHit? b k).map (fun c => Decimal.mk c k))
    hits.getD ⟨0, 0⟩

/-- How a double is written. -/
structure DoubleFormat where
  /-- Whether a number of this decimal order is written without an exponent. -/
  plain : Int → Bool
  /-- What stands before a non-negative exponent. -/
  plus : String
  /-- The text of a number that is none. -/
  nan : String
  /-- The text of positive infinity. -/
  infinity : String

/-- Writes digits and a power of ten without an exponent, always with a point. -/
def writePlain (d : Decimal) : String :=
  let ds := Nat.repr d.digits
  let point := (ds.length : Int) + d.exponent
  if 0 ≤ d.exponent then ds ++ String.ofList (List.replicate d.exponent.toNat '0') ++ ".0"
  else if 0 < point then
    String.ofList (ds.toList.take point.toNat) ++ "." ++ String.ofList (ds.toList.drop point.toNat)
  else "0." ++ String.ofList (List.replicate (-point).toNat '0') ++ ds

/-- Writes digits and a power of ten with an exponent, the point after the first digit. -/
def writeScientific (plus : String) (d : Decimal) : String :=
  let ds := (Nat.repr d.digits).toList
  let order := (ds.length : Int) - 1 + d.exponent
  let mantissa := match ds with
    | [] => ""
    | [c] => String.singleton c
    | c :: rest => String.singleton c ++ "." ++ String.ofList rest
  mantissa ++ "e" ++ (if 0 ≤ order then plus ++ Nat.repr order.toNat
    else "-" ++ Nat.repr (-order).toNat)

/-- The text of a double by its bits. -/
def DoubleFormat.write (f : DoubleFormat) (bits : UInt64) : String :=
  match Double.ofBits bits with
  | .nan => f.nan
  | .infinite negative => (if negative then "-" else "") ++ f.infinity
  | .finite b =>
    let d := shortest b
    let order := ((Nat.repr d.digits).length : Int) - 1 + d.exponent
    (if b.negative then "-" else "") ++
      (if f.plain order then writePlain d else writeScientific f.plus d)

end BlockCoverage.Number
