/-!
# UTF-8

Octets are read as a sequence of *parts*: a part is a character, or an ill-formed stretch that no
well-formed sequence begins with (the longest prefix of one, or a single stray octet). Strict
reading accepts octets whose parts are all characters; lenient reading puts U+FFFD for every
ill-formed stretch.
-/

namespace BlockCoverage.Text

/-- Octet strings. -/
abbrev Bytes := List UInt8

namespace Utf8

/-- What the first octet of a longer sequence asks of the ones after it. -/
structure Lead where
  /-- The value bits carried by the first octet. -/
  bits : Nat
  /-- The least second octet. -/
  low : UInt8
  /-- The greatest second octet. -/
  high : UInt8
  /-- How many octets follow the second one. -/
  more : Nat

/-- Reads a first octet at or above 0x80. The limits on the second octet rule out overlong forms,
surrogates and values above U+10FFFF. -/
def lead? (b : UInt8) : Option Lead :=
  if 0xC2 ≤ b ∧ b ≤ 0xDF then some ⟨b.toNat - 0xC0, 0x80, 0xBF, 0⟩
  else if b = 0xE0 then some ⟨0, 0xA0, 0xBF, 1⟩
  else if b = 0xED then some ⟨0xD, 0x80, 0x9F, 1⟩
  else if 0xE1 ≤ b ∧ b ≤ 0xEF then some ⟨b.toNat - 0xE0, 0x80, 0xBF, 1⟩
  else if b = 0xF0 then some ⟨0, 0x90, 0xBF, 2⟩
  else if b = 0xF4 then some ⟨4, 0x80, 0x8F, 2⟩
  else if 0xF1 ≤ b ∧ b ≤ 0xF3 then some ⟨b.toNat - 0xF0, 0x80, 0xBF, 2⟩
  else none

/-- Reads the `n` octets that complete a sequence with the value `v` so far. -/
def finish : Nat → Nat → Bytes → Option Char × Bytes
  | 0, v, rest => (some (Char.ofNat v), rest)
  | _ + 1, _, [] => (none, [])
  | n + 1, v, c :: rest =>
    if 0x80 ≤ c ∧ c ≤ 0xBF then finish n (v * 64 + (c.toNat - 0x80)) rest else (none, c :: rest)

/-- Reads the part that begins with `b`; `none` stands for an ill-formed stretch. -/
def next (b : UInt8) (rest : Bytes) : Option Char × Bytes :=
  if b < 0x80 then (some (Char.ofNat b.toNat), rest)
  else match lead? b with
    | none => (none, rest)
    | some l =>
      match rest with
      | [] => (none, [])
      | c :: rest' =>
        if l.low ≤ c ∧ c ≤ l.high then finish l.more (l.bits * 64 + (c.toNat - 0x80)) rest'
        else (none, c :: rest')

theorem length_finish_le (n v : Nat) (s : Bytes) : (finish n v s).2.length ≤ s.length := by
  induction s generalizing n v with
  | nil => cases n <;> simp [finish]
  | cons c rest ih =>
    cases n with
    | zero => simp [finish]
    | succ n =>
      rw [finish]
      split
      · exact Nat.le_succ_of_le (ih n _)
      · simp

theorem length_next_le (b : UInt8) (rest : Bytes) : (next b rest).2.length ≤ rest.length := by
  rw [next]
  split
  · simp
  · split
    · simp
    · split
      · simp
      · split
        · exact Nat.le_succ_of_le (length_finish_le _ _ _)
        · simp

/-- The parts of an octet string, in order. -/
def parts : Bytes → List (Option Char)
  | [] => []
  | b :: rest => (next b rest).1 :: parts (next b rest).2
termination_by s => s.length
decreasing_by exact Nat.lt_succ_of_le (length_next_le b rest)

/-- The octets of a text. -/
def encode (s : String) : Bytes := s.toList.flatMap String.utf8EncodeChar

/-- Strict reading: every part must be a character. -/
def decode? (s : Bytes) : Option String := ((parts s).mapM id).map String.ofList

/-- Lenient reading: an ill-formed stretch becomes one replacement character. -/
def decodeLossy (s : Bytes) : String :=
  String.ofList ((parts s).map (fun p => p.getD (Char.ofNat 0xFFFD)))

end Utf8

end BlockCoverage.Text
