import BlockCoverage.Number.Octets

/-!
# Content digests

The MD5 digest of an octet string: the padded message is cut into blocks of sixteen words, and
sixty-four rounds mix every block into four words of state.
-/

namespace BlockCoverage.Digest

open Text (Bytes)

/-- The additive constants of the rounds, the leading bits of sines. -/
def sines : List UInt32 :=
  [0xd76aa478, 0xe8c7b756, 0x242070db, 0xc1bdceee, 0xf57c0faf, 0x4787c62a, 0xa8304613, 0xfd469501,
  0x698098d8, 0x8b44f7af, 0xffff5bb1, 0x895cd7be, 0x6b901122, 0xfd987193, 0xa679438e, 0x49b40821,
  0xf61e2562, 0xc040b340, 0x265e5a51, 0xe9b6c7aa, 0xd62f105d, 0x02441453, 0xd8a1e681, 0xe7d3fbc8,
  0x21e1cde6, 0xc33707d6, 0xf4d50d87, 0x455a14ed, 0xa9e3e905, 0xfcefa3f8, 0x676f02d9, 0x8d2a4c8a,
  0xfffa3942, 0x8771f681, 0x6d9d6122, 0xfde5380c, 0xa4beea44, 0x4bdecfa9, 0xf6bb4b60, 0xbebfbc70,
  0x289b7ec6, 0xeaa127fa, 0xd4ef3085, 0x04881d05, 0xd9d4d039, 0xe6db99e5, 0x1fa27cf8, 0xc4ac5665,
  0xf4292244, 0x432aff97, 0xab9423a7, 0xfc93a039, 0x655b59c3, 0x8f0ccc92, 0xffeff47d, 0x85845dd1,
  0x6fa87e4f, 0xfe2ce6e0, 0xa3014314, 0x4e0811a1, 0xf7537e82, 0xbd3af235, 0x2ad7d2bb, 0xeb86d391]

/-- The rotations of the rounds. -/
def rotations : List UInt32 :=
  [[7, 12, 17, 22], [5, 9, 14, 20], [4, 11, 16, 23], [6, 10, 15, 21]].flatMap
    (fun (row : List UInt32) => row ++ row ++ row ++ row)

/-- Four words of state. -/
structure State where
  /-- The first word. -/
  a : UInt32
  /-- The second word. -/
  b : UInt32
  /-- The third word. -/
  c : UInt32
  /-- The fourth word. -/
  d : UInt32

/-- The state before the first block. -/
def State.initial : State := ⟨0x67452301, 0xefcdab89, 0x98badcfe, 0x10325476⟩

/-- Rotates a word to the left. -/
def rotate (x n : UInt32) : UInt32 := (x <<< n) ||| (x >>> (32 - n))

/-- One round: its number, constant and rotation, on the words of a block. -/
def State.round (block : Array UInt32) (s : State) (r : Nat × UInt32 × UInt32) : State :=
  let i := r.1
  let mixed := if i < 16 then ((s.b &&& s.c) ||| (~~~s.b &&& s.d), i)
    else if i < 32 then ((s.d &&& s.b) ||| (~~~s.d &&& s.c), (5 * i + 1) % 16)
    else if i < 48 then (s.b ^^^ s.c ^^^ s.d, (3 * i + 5) % 16)
    else (s.c ^^^ (s.b ||| ~~~s.d), (7 * i) % 16)
  let f := mixed.1 + s.a + r.2.1 + block.getD mixed.2 0
  ⟨s.d, s.b + rotate f r.2.2, s.b, s.c⟩

/-- All rounds with their constants. -/
def rounds : List (Nat × UInt32 × UInt32) := (List.range 64).zip (sines.zip rotations)

/-- Mixes a block into the state. -/
def State.block (s : State) (words : Array UInt32) : State :=
  let t := rounds.foldl (State.round words) s
  ⟨s.a + t.a, s.b + t.b, s.c + t.c, s.d + t.d⟩

/-- The message with a one bit, zeros and its length in bits, a multiple of 64 octets in all. -/
def pad (s : Bytes) : Bytes :=
  s ++ [0x80] ++ List.replicate ((119 - s.length % 64) % 64) 0 ++ Number.octets 8 (8 * s.length)

/-- A word, least significant octet first. -/
def word (a b c d : UInt8) : UInt32 :=
  a.toUInt32 ||| (b.toUInt32 <<< 8) ||| (c.toUInt32 <<< 16) ||| (d.toUInt32 <<< 24)

/-- Reads words into blocks of sixteen and mixes every full block into the state. -/
def absorb (s : State) (block : Array UInt32) : Bytes → State
  | a :: b :: c :: d :: rest =>
    let block := block.push (word a b c d)
    if block.size = 16 then absorb (s.block block) #[] rest else absorb s block rest
  | _ => s

/-- The MD5 digest, sixteen octets. -/
def md5 (s : Bytes) : Bytes :=
  let t := absorb .initial #[] (pad s)
  [t.a, t.b, t.c, t.d].flatMap (fun w => Number.octets 4 w.toNat)

end BlockCoverage.Digest
