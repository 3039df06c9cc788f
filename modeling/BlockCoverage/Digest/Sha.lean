import BlockCoverage.Number.Octets

/-!
# Secure hashes

The secure hash algorithms: a padded message is cut into blocks of sixteen words, most significant
octet first, and rounds mix every block into a state of words. The constants of the second family
are the first bits of roots of the first primes, and are computed as such.
-/

namespace BlockCoverage.Digest.Sha

open Text (Bytes)

/-! ## Words and blocks -/

/-- A number in `n` octets, the most significant first. -/
def bigOctets (n v : Nat) : Bytes := (Number.octets n v).reverse

/-- The number that octets stand for, the most significant first. -/
def ofBigOctets (s : Bytes) : Nat := s.foldl (fun v b => 256 * v + b.toNat) 0

/-- The message with a one bit, zeros and its length in bits, a multiple of `block` octets in all,
of which the last `field` hold the length. -/
def pad (block field : Nat) (s : Bytes) : Bytes :=
  let used := s.length + 1 + field
  s ++ [0x80] ++ List.replicate ((block - used % block) % block) 0 ++ bigOctets field (8 * s.length)

/-- Cuts octets into words of `n`, and these into blocks of sixteen. The length is enough fuel. -/
def blocks (n : Nat) : Nat → Bytes → List (Array Nat)
  | 0, _ => []
  | fuel + 1, s =>
    if s.isEmpty then []
    else
      let words := (List.range 16).map (fun i => ofBigOctets ((s.drop (n * i)).take n))
      words.toArray :: blocks n fuel (s.drop (16 * n))

/-- Rotates a word of `w` bits to the left. -/
def rotateLeft (w k x : Nat) : Nat := (x <<< k) % Nat.pow 2 w ||| (x >>> (w - k))

/-- Rotates a word of `w` bits to the right. -/
def rotateRight (w k x : Nat) : Nat := rotateLeft w (w - k) x

/-! ## The first family -/

/-- The words that the rounds of a block use: each after the sixteenth is made of four before it. -/
def extended (words : Array Nat) : Array Nat :=
  (List.range 64).foldl (fun (t : Array Nat) i =>
    let earlier := fun (k : Nat) => t.getD (i + 16 - k) 0
    t.push (rotateLeft 32 1 (earlier 3 ^^^ earlier 8 ^^^ earlier 14 ^^^ earlier 16))) words

/-- One round on five words. -/
def round (words : Array Nat) (s : List Nat) (i : Nat) : List Nat :=
  match s with
  | [a, b, c, d, e] =>
    let (f, k) := if i < 20 then ((b &&& c) ||| ((b ^^^ 0xFFFFFFFF) &&& d), 0x5A827999)
      else if i < 40 then (b ^^^ c ^^^ d, 0x6ED9EBA1)
      else if i < 60 then ((b &&& c) ||| (b &&& d) ||| (c &&& d), 0x8F1BBCDC)
      else (b ^^^ c ^^^ d, 0xCA62C1D6)
    let t := (rotateLeft 32 5 a + f + e + k + words.getD i 0) % 4294967296
    [t, a, rotateLeft 32 30 b, c, d]
  | _ => s

/-- The state after another block, word by word. -/
def added (w : Nat) (s t : List Nat) : List Nat := s.zipWith (fun a b => (a + b) % Nat.pow 2 w) t

/-- The digest of twenty octets. -/
def sha1 (s : Bytes) : Bytes :=
  let padded := pad 64 8 s
  let start := [0x67452301, 0xEFCDAB89, 0x98BADCFE, 0x10325476, 0xC3D2E1F0]
  let final := (blocks 4 padded.length padded).foldl (fun state words =>
    added 32 state ((List.range 80).foldl (round (extended words)) state)) start
  final.flatMap (bigOctets 4)

/-! ## The second family -/

/-- Whether a number has a divisor among the given ones. -/
def hasDivisor (ds : List Nat) (n : Nat) : Bool := ds.any (fun d => n % d == 0)

/-- The primes up to a number. -/
def primes (n : Nat) : List Nat :=
  ((List.range (n + 1)).drop 2).foldl (fun ps k => if hasDivisor ps k then ps else ps ++ [k]) []

/-- The largest number of at most `bits` bits whose `power`-th power is not above `n`, given the
bits found so far. -/
def root (power n : Nat) : Nat → Nat → Nat
  | 0, found => found
  | bits + 1, found =>
    let tried := found + Nat.pow 2 bits
    root power n bits (if Nat.pow tried power ≤ n then tried else found)

/-- The first `w` bits after the point of the `power`-th root of a small number. -/
def rootBits (power w n : Nat) : Nat :=
  root power (n * Nat.pow 2 (power * w)) (w + 8) 0 % Nat.pow 2 w

/-- A member of the second family. -/
structure Variant where
  /-- The bits of a word. -/
  word : Nat
  /-- The constants of the rounds. -/
  constants : Array Nat
  /-- The distances that words are turned by when they are extended, the last of each three
  shifted. -/
  small : (Nat × Nat × Nat) × (Nat × Nat × Nat)
  /-- The distances that words are turned by in a round. -/
  large : (Nat × Nat × Nat) × (Nat × Nat × Nat)
  /-- The state before the first block. -/
  start : List Nat
  /-- The octets of the digest. -/
  size : Nat

namespace Variant

/-- The words that the rounds of a block use. -/
def schedule (v : Variant) (words : Array Nat) : Array Nat :=
  let w := v.word
  let mixed := fun (k : Nat × Nat × Nat) (x : Nat) =>
    rotateRight w k.1 x ^^^ rotateRight w k.2.1 x ^^^ (x >>> k.2.2)
  (List.range (v.constants.size - 16)).foldl (fun (t : Array Nat) i =>
    let earlier := fun (k : Nat) => t.getD (i + 16 - k) 0
    t.push ((earlier 16 + mixed v.small.1 (earlier 15) + earlier 7 + mixed v.small.2 (earlier 2)) %
      Nat.pow 2 w)) words

/-- One round on eight words. -/
def round (v : Variant) (words : Array Nat) (s : List Nat) (i : Nat) : List Nat :=
  match s with
  | [a, b, c, d, e, f, g, h] =>
    let w := v.word
    let mixed := fun (k : Nat × Nat × Nat) (x : Nat) =>
      rotateRight w k.1 x ^^^ rotateRight w k.2.1 x ^^^ rotateRight w k.2.2 x
    let chosen := (e &&& f) ^^^ ((e ^^^ (Nat.pow 2 w - 1)) &&& g)
    let t := h + mixed v.large.2 e + chosen + v.constants.getD i 0 + words.getD i 0
    let most := (a &&& b) ^^^ (a &&& c) ^^^ (b &&& c)
    let u := mixed v.large.1 a + most
    [(t + u) % Nat.pow 2 w, a, b, c, (d + t) % Nat.pow 2 w, e, f, g]
  | _ => s

/-- The digest of an octet string. -/
def digest (v : Variant) (s : Bytes) : Bytes :=
  let n := v.word / 8
  let padded := pad (16 * n) (2 * n) s
  let rounds := List.range v.constants.size
  let final := (blocks n padded.length padded).foldl (fun state words =>
    added v.word state (rounds.foldl (v.round (v.schedule words)) state)) v.start
  (final.flatMap (bigOctets n)).take v.size

end Variant

/-- The constants of the rounds with words of 32 bits. -/
def constants32 : Array Nat := ((primes 311).map (rootBits 3 32)).toArray

/-- The constants of the rounds with words of 64 bits. -/
def constants64 : Array Nat := ((primes 409).map (rootBits 3 64)).toArray

/-- The member with words of 32 bits that starts with a state. -/
def narrow (start : List Nat) (size : Nat) : Variant :=
  ⟨32, constants32, ((7, 18, 3), (17, 19, 10)), ((2, 13, 22), (6, 11, 25)), start, size⟩

/-- The member with words of 64 bits that starts with a state. -/
def wide (start : List Nat) (size : Nat) : Variant :=
  ⟨64, constants64, ((1, 8, 7), (19, 61, 6)), ((28, 34, 39), (14, 18, 41)), start, size⟩

/-- The digest of 28 octets. -/
def sha224 : Bytes → Bytes :=
  (narrow (((primes 53).drop 8).map (fun p => rootBits 2 64 p % 4294967296)) 28).digest

/-- The digest of 32 octets. -/
def sha256 : Bytes → Bytes := (narrow ((primes 19).map (rootBits 2 32)) 32).digest

/-- The digest of 48 octets. -/
def sha384 : Bytes → Bytes := (wide (((primes 53).drop 8).map (rootBits 2 64)) 48).digest

/-- The digest of 64 octets. -/
def sha512 : Bytes → Bytes := (wide ((primes 19).map (rootBits 2 64)) 64).digest

end BlockCoverage.Digest.Sha
