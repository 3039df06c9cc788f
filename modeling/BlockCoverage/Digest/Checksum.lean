import BlockCoverage.Text.Utf8

/-!
# Checksums

Short sums over octet strings that tell most of them apart.
-/

namespace BlockCoverage.Digest

open Text (Bytes)

/-- The remainder of one octet, most significant bit first. -/
def remainder (n : Nat) : UInt32 :=
  (List.range 8).foldl (fun (r : UInt32) _ =>
    if r &&& 0x80000000 = 0 then r <<< 1 else (r <<< 1) ^^^ 0x04C11DB7) (UInt32.ofNat n <<< 24)

/-- The remainders of all octets. -/
def remainders : Array UInt32 := ((List.range 256).map remainder).toArray

/-- The remainder after another octet. -/
def remainderAfter (r : UInt32) (b : UInt8) : UInt32 :=
  (r <<< 8) ^^^ remainders.getD ((r >>> 24).toNat ^^^ b.toNat) 0

/-- The octets of a number without zeros at its end, the least significant first. -/
def lengthOctets : Nat → Nat → Bytes
  | 0, _ => []
  | fuel + 1, n => if n = 0 then [] else UInt8.ofNat (n % 256) :: lengthOctets fuel (n / 256)

/-- The cyclic redundancy check of octets and of their number. -/
def cyclic (s : Bytes) : UInt32 :=
  ~~~((lengthOctets 8 s.length).foldl remainderAfter (s.foldl remainderAfter 0))

/-- The sum of octets in sixteen bits, turned by one bit before each. -/
def turnedSum (s : Bytes) : Nat :=
  s.foldl (fun r b => (r / 2 + r % 2 * 32768 + b.toNat) % 65536) 0

/-- The sum of octets, folded into sixteen bits. -/
def plainSum (s : Bytes) : Nat :=
  let all := (s.foldl (fun r b => r + b.toNat) 0) % 4294967296
  let once := all % 65536 + all / 65536
  once % 65536 + once / 65536

end BlockCoverage.Digest
