/-!
# Reading counts

A count typed by hand is one or more decimal digits, with any leading zeros and at most one plus
sign in front. Only the ten ASCII digits count.
-/

namespace BlockCoverage.Number

/-- Whether a character is one of the ten digits. -/
def isDigit (c : Char) : Bool := decide ('0' ≤ c ∧ c ≤ '9')

/-- The value of a run of digits read after `acc`. -/
def digitsValue (acc : Nat) (ds : List Char) : Nat :=
  ds.foldl (fun n c => n * 10 + (c.toNat - 48)) acc

/-- Reads a count below `2 ^ 32`. -/
def readWord? (text : String) : Option UInt32 :=
  let ds := match text.toList with
    | '+' :: rest => rest
    | all => all
  if ds.isEmpty || !ds.all isDigit then none
  else
    let n := digitsValue 0 ds
    if n < 4294967296 then some (UInt32.ofNat n) else none

end BlockCoverage.Number
