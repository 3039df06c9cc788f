import BlockCoverage.Text.Utf8

/-!
# Numbers in octets

Numbers in traces and digests are stored least significant octet first.
-/

namespace BlockCoverage.Number

open Text (Bytes)

/-- The number that octets stand for. -/
def ofOctets : Bytes → Nat
  | [] => 0
  | b :: rest => b.toNat + 256 * ofOctets rest

/-- A number in `n` octets. -/
def octets : Nat → Nat → Bytes
  | 0, _ => []
  | n + 1, v => UInt8.ofNat (v % 256) :: octets n (v / 256)

@[simp]
theorem length_octets (n v : Nat) : (octets n v).length = n := by
  induction n generalizing v with
  | zero => rfl
  | succ n ih => simp [octets, ih]

/-- A number that fits is read back from its octets. -/
theorem ofOctets_octets {n v : Nat} (h : v < Nat.pow 256 n) : ofOctets (octets n v) = v := by
  induction n generalizing v with
  | zero =>
    have hz : v < 1 := h
    simp only [octets, ofOctets]
    omega
  | succ n ih =>
    have hdiv : v / 256 < Nat.pow 256 n := by
      have hs : v < Nat.pow 256 n * 256 := h
      exact Nat.div_lt_of_lt_mul (by omega)
    simp only [octets, ofOctets, ih hdiv, UInt8.toNat_ofNat']
    omega

end BlockCoverage.Number
