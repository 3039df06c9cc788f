import BlockCoverage.Text.Utf8
import Mathlib.Tactic.IntervalCases

/-!
# Reading what UTF-8 writes

The octets of a character are read as one part, that character (`next_utf8EncodeChar`), so the
octets of a text are read as its characters and lenient decoding gives the text back. The first
octet of a longer sequence holds the leading value bits and limits the octet after it; the three
tables below are `lead?` on the first octets that an encoder writes.
-/

namespace BlockCoverage.Text.Utf8

theorem lead?_two {m : Nat} (h2 : 2 ≤ m) (h : m < 32) :
    lead? (UInt8.ofNat (m + 0xC0)) = some ⟨m, 0x80, 0xBF, 0⟩ := by
  interval_cases m <;> rfl

theorem lead?_three {m : Nat} (h : m < 16) :
    lead? (UInt8.ofNat (m + 0xE0)) =
      some ⟨m, if m = 0 then 0xA0 else 0x80, if m = 13 then 0x9F else 0xBF, 1⟩ := by
  interval_cases m <;> rfl

theorem lead?_four {m : Nat} (h : m < 5) :
    lead? (UInt8.ofNat (m + 0xF0)) =
      some ⟨m, if m = 0 then 0x90 else 0x80, if m = 4 then 0x8F else 0xBF, 2⟩ := by
  interval_cases m <;> rfl

theorem toNat_ofNat {n : Nat} (h : n < 256) : (UInt8.ofNat n).toNat = n := by
  rw [UInt8.toNat_ofNat']
  exact Nat.mod_eq_of_lt h

/-- One of the octets that complete a sequence adds its six bits. -/
theorem finish_succ (n v x : Nat) (rest : Bytes) :
    finish (n + 1) v (UInt8.ofNat (x % 64 + 0x80) :: rest) = finish n (v * 64 + x % 64) rest := by
  have hx : x % 64 < 64 := Nat.mod_lt _ (by decide)
  have ht : (UInt8.ofNat (x % 64 + 0x80)).toNat = x % 64 + 0x80 := toNat_ofNat (by omega)
  rw [finish, if_pos, ht, Nat.add_sub_cancel]
  rw [UInt8.le_iff_toNat_le, UInt8.le_iff_toNat_le, ht]
  simp only [UInt8.reduceToNat]
  omega

theorem le_ofNat {a : UInt8} {n : Nat} (hn : n < 256) (h : a.toNat ≤ n) : a ≤ UInt8.ofNat n := by
  rwa [UInt8.le_iff_toNat_le, toNat_ofNat hn]

theorem ofNat_le {a : UInt8} {n : Nat} (hn : n < 256) (h : n ≤ a.toNat) : UInt8.ofNat n ≤ a := by
  rwa [UInt8.le_iff_toNat_le, toNat_ofNat hn]

/-- A first octet, and an octet after it that it admits. -/
theorem next_lead {n x : Nat} {l : Lead} {rest : Bytes} (hn : 0x80 ≤ n ∧ n < 256)
    (hl : lead? (UInt8.ofNat n) = some l) (hlow : l.low.toNat ≤ x % 64 + 0x80)
    (hhigh : x % 64 + 0x80 ≤ l.high.toNat) :
    next (UInt8.ofNat n) (UInt8.ofNat (x % 64 + 0x80) :: rest) =
      finish l.more (l.bits * 64 + x % 64) rest := by
  have hx : x % 64 < 64 := Nat.mod_lt _ (by decide)
  have hlead : ¬UInt8.ofNat n < 0x80 := UInt8.not_lt.mpr (le_ofNat hn.2 hn.1)
  rw [next, if_neg hlead, hl]
  simp only
  rw [if_pos ⟨le_ofNat (by omega) hlow, ofNat_le (by omega) hhigh⟩, toNat_ofNat (by omega),
    Nat.add_sub_cancel]

/-! ## Sequences of one to four octets -/

theorem next_one {v : Nat} (h : v ≤ 0x7f) (rest : Bytes) :
    next (UInt8.ofNat v) rest = (some (Char.ofNat v), rest) := by
  have ht : (UInt8.ofNat v).toNat = v := toNat_ofNat (by omega)
  rw [next, if_pos, ht]
  rw [UInt8.lt_iff_toNat_lt, ht]
  exact Nat.lt_succ_of_le h

theorem next_two {v : Nat} (h1 : ¬v ≤ 0x7f) (h2 : v ≤ 0x7ff) (rest : Bytes) :
    next (UInt8.ofNat (v / 64 % 0x20 + 0xc0)) (UInt8.ofNat (v % 0x40 + 0x80) :: rest) =
      (some (Char.ofNat v), rest) := by
  have hl := lead?_two (m := v / 64 % 32) (by omega) (by omega)
  rw [next_lead (by omega) hl (by simp only [UInt8.reduceToNat]; omega)
    (by simp only [UInt8.reduceToNat]; omega)]
  have hv : v / 64 % 32 * 64 + v % 64 = v := by omega
  rw [hv]
  rfl

theorem next_three {v : Nat} (h1 : ¬v ≤ 0x7ff) (h2 : v ≤ 0xffff) (hs : v < 0xD800 ∨ 0xDFFF < v)
    (rest : Bytes) :
    next (UInt8.ofNat (v / 4096 % 0x10 + 0xe0))
        (UInt8.ofNat (v / 64 % 0x40 + 0x80) :: UInt8.ofNat (v % 0x40 + 0x80) :: rest) =
      (some (Char.ofNat v), rest) := by
  have hl := lead?_three (m := v / 4096 % 16) (by omega)
  -- the narrower limits keep out what two octets can say, and the surrogates
  rw [next_lead (by omega) hl (by simp only; split <;> simp only [UInt8.reduceToNat] <;> omega)
    (by simp only; split <;> simp only [UInt8.reduceToNat] <;> omega), finish_succ]
  have hv : (v / 4096 % 16 * 64 + v / 64 % 64) * 64 + v % 64 = v := by omega
  rw [hv]
  rfl

theorem next_four {v : Nat} (h1 : ¬v ≤ 0xffff) (h2 : v < 0x110000) (rest : Bytes) :
    next (UInt8.ofNat (v / 262144 % 0x08 + 0xf0))
        (UInt8.ofNat (v / 4096 % 0x40 + 0x80) :: UInt8.ofNat (v / 64 % 0x40 + 0x80) ::
          UInt8.ofNat (v % 0x40 + 0x80) :: rest) =
      (some (Char.ofNat v), rest) := by
  have hl := lead?_four (m := v / 262144 % 8) (by omega)
  -- the narrower limits keep out what three octets can say, and what lies beyond the last character
  rw [next_lead (by omega) hl (by simp only; split <;> simp only [UInt8.reduceToNat] <;> omega)
    (by simp only; split <;> simp only [UInt8.reduceToNat] <;> omega), finish_succ, finish_succ]
  have hv : ((v / 262144 % 8 * 64 + v / 4096 % 64) * 64 + v / 64 % 64) * 64 + v % 64 = v := by
    omega
  rw [hv]
  rfl

/-- The octets of a character are read as that character. -/
theorem next_utf8EncodeChar (c : Char) (rest : Bytes) :
    ∃ b bs, String.utf8EncodeChar c = b :: bs ∧ next b (bs ++ rest) = (some c, rest) := by
  have hvalid : c.val.toNat < 0xD800 ∨ 0xDFFF < c.val.toNat ∧ c.val.toNat < 0x110000 := c.valid
  have hc : Char.ofNat c.val.toNat = c := Char.ofNat_toNat c
  rw [String.utf8EncodeChar]
  split
  · exact ⟨_, _, rfl, by rw [List.nil_append, next_one ‹_›, hc]⟩
  split
  · exact ⟨_, _, rfl, by rw [List.cons_append, List.nil_append, next_two ‹_› ‹_›, hc]⟩
  split
  · exact ⟨_, _, rfl, (next_three ‹_› ‹_› (by omega) rest).trans (by rw [hc])⟩
  · exact ⟨_, _, rfl, (next_four ‹_› (by omega) rest).trans (by rw [hc])⟩

/-! ## Texts -/

theorem parts_encode_cons (c : Char) (rest : Bytes) :
    parts (String.utf8EncodeChar c ++ rest) = some c :: parts rest := by
  obtain ⟨b, bs, hbytes, hnext⟩ := next_utf8EncodeChar c rest
  rw [hbytes, List.cons_append, parts, hnext]

/-- The octets of characters are read as the characters. -/
theorem parts_flatMap (cs : List Char) (rest : Bytes) :
    parts (cs.flatMap String.utf8EncodeChar ++ rest) = cs.map some ++ parts rest := by
  induction cs with
  | nil => rfl
  | cons c cs ih =>
    rw [List.flatMap_cons, List.append_assoc, parts_encode_cons, ih]
    rfl

@[simp]
theorem encode_ofList (cs : List Char) :
    encode (String.ofList cs) = cs.flatMap String.utf8EncodeChar := by
  rw [encode, String.toList_ofList]

@[simp]
theorem encode_append (s t : String) : encode (s ++ t) = encode s ++ encode t := by
  rw [encode, String.toList_append, List.flatMap_append]
  rfl

theorem parts_encode (s : String) : parts (encode s) = s.toList.map some := by
  have h := parts_flatMap s.toList []
  rwa [List.append_nil, parts, List.append_nil] at h

/-- Lenient decoding gives an encoded text back. -/
theorem decodeLossy_encode (s : String) : decodeLossy (encode s) = s := by
  rw [decodeLossy, parts_encode, List.map_map]
  simp [Function.comp_def]

/-- Strict decoding gives an encoded text back. -/
theorem decode?_encode (s : String) : decode? (encode s) = some s := by
  have hall : (s.toList.map some).mapM id = some s.toList := by
    rw [List.mapM_map]
    exact (List.mapM_pure (m := Option) (f := id)).trans (congrArg some (List.map_id _))
  rw [decode?, parts_encode, hall, Option.map_some, String.ofList_toList]

end BlockCoverage.Text.Utf8
