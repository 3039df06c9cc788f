import BlockCoverage.Json.Reader
import BlockCoverage.Json.Writer
import BlockCoverage.Proofs.Text.Utf8

/-!
# Whole numbers are read as they were written

A whole number is written as its decimal digits, without leading zeros. A reader takes all digits
that follow each other, and gathers them in a significand as long as that stays below `2 ^ 64`
(`fill_digits`). So up to that bound the number is read exactly, whatever ends the digits, as long
as it does not look like a fraction or an exponent.
-/

namespace BlockCoverage.Json

open Text (Bytes)

/-- What may stand after a value of a document: nothing, a blank, a comma or a closing bracket. -/
def Ends (s : Bytes) : Prop := ∀ b ∈ s.head?, isBlank b = true ∨ b = 44 ∨ b = 93 ∨ b = 125

theorem ends_nil : Ends [] := fun b h => by cases h

theorem ends_comma (s : Bytes) : Ends (44 :: s) := fun _ h => .inr (.inl (Option.some.inj h).symm)

/-- The first of the octets after a value, if there is any. -/
theorem Ends.octet {b : UInt8} {s : Bytes} (h : Ends (b :: s)) :
    isDigit b = false ∧ b ≠ 46 ∧ b ≠ 101 ∧ b ≠ 69 := by
  have hb := h b rfl
  simp only [isBlank, Bool.or_eq_true, beq_iff_eq, or_assoc] at hb
  rcases hb with rfl | rfl | rfl | rfl | rfl | rfl | rfl <;> decide

theorem Ends.not_digit {s : Bytes} (h : Ends s) : s.takeWhile isDigit = [] ∧ dropDigits s = s := by
  cases s with
  | nil => exact ⟨rfl, rfl⟩
  | cons b s =>
    have hb := h.octet.1
    rw [dropDigits, List.takeWhile_cons_of_neg (by rw [hb]; decide),
      List.dropWhile_cons_of_neg (by rw [hb]; decide)]
    exact ⟨rfl, rfl⟩

/-! ## Digits -/

theorem ne_of_isDigit {b c : UInt8} (hb : isDigit b) (hc : isDigit c = false) : b ≠ c := by
  rintro rfl
  rw [hc] at hb
  cases hb

theorem isBlank_of_isDigit {b : UInt8} (h : isDigit b) : isBlank b = false := by
  have hne : ∀ c, isDigit c = false → (b == c) = false := fun c hc =>
    beq_false_of_ne (ne_of_isDigit h hc)
  rw [isBlank, hne 32 rfl, hne 10 rfl, hne 9 rfl, hne 13 rfl]
  rfl

/-- The octets of digits. -/
def digitOctets (cs : List Char) : Bytes := cs.map fun c => UInt8.ofNat c.toNat

theorem toNat_of_isDigit {c : Char} (h : c.isDigit) : 48 ≤ c.toNat ∧ c.toNat ≤ 57 := by
  simpa [Char.isDigit, UInt32.le_iff_toNat_le] using h

theorem toNat_digitOctet {c : Char} (h : c.isDigit) : (UInt8.ofNat c.toNat).toNat = c.toNat :=
  Text.Utf8.toNat_ofNat (Nat.lt_of_le_of_lt (toNat_of_isDigit h).2 (by decide))

theorem flatMap_digits {cs : List Char} (h : ∀ c ∈ cs, c.isDigit) :
    cs.flatMap String.utf8EncodeChar = digitOctets cs := by
  induction cs with
  | nil => rfl
  | cons c cs ih =>
    have hc : c.val.toNat ≤ 0x7f := by
      have := (toNat_of_isDigit (h c List.mem_cons_self)).2
      change c.val.toNat ≤ 57 at this
      omega
    rw [List.flatMap_cons, ih fun d hd => h d (List.mem_cons_of_mem c hd), String.utf8EncodeChar]
    simp only [if_pos hc]
    rfl

theorem isDigit_digitOctets {cs : List Char} (h : ∀ c ∈ cs, c.isDigit) :
    ∀ b ∈ digitOctets cs, isDigit b := by
  intro b hb
  obtain ⟨c, hc, rfl⟩ := List.mem_map.mp hb
  simp only [isDigit, Bool.and_eq_true, decide_eq_true_eq, UInt8.le_iff_toNat_le,
    toNat_digitOctet (h c hc)]
  exact toNat_of_isDigit (h c hc)

/-- Digits are gathered to the end if the number they make with those before them fits. -/
theorem fill_digits {cs : List Char} (h : ∀ c ∈ cs, c.isDigit) (significand : Nat)
    (hfits : Nat.ofDigitChars 10 cs significand < 18446744073709551616) :
    fill significand (digitOctets cs) = (Nat.ofDigitChars 10 cs significand, cs.length) := by
  induction cs generalizing significand with
  | nil => rfl
  | cons c cs ih =>
    rw [Nat.ofDigitChars_cons] at hfits ⊢
    have hnext : significand * 10 + (c.toNat - 48) = 10 * significand + (c.toNat - '0'.toNat) := by
      rw [Nat.mul_comm]
      rfl
    -- a significand never exceeds what the rest of the digits make of it
    have hle : 10 * significand + (c.toNat - '0'.toNat) < 18446744073709551616 := by
      refine Nat.lt_of_le_of_lt ?_ hfits
      rw [Nat.ofDigitChars_eq_ofDigitChars_zero]
      exact Nat.le_trans (Nat.le_mul_of_pos_left _ (Nat.pow_pos (by decide))) (Nat.le_add_right _ _)
    rw [digitOctets, List.map_cons, fill, toNat_digitOctet (h c List.mem_cons_self)]
    simp only [hnext]
    rw [if_pos hle, ← digitOctets, ih (fun d hd => h d (List.mem_cons_of_mem c hd)) _ hfits]
    rfl

/-- A positive number has no leading zero. -/
theorem exists_toDigits {n : Nat} (h : 0 < n) : ∃ c cs, Nat.toDigits 10 n = c :: cs ∧ c ≠ '0' := by
  induction n using Nat.strongRecOn with
  | _ n ih =>
  by_cases hsmall : n < 10
  · refine ⟨n.digitChar, [], Nat.toDigits_of_lt_base hsmall, fun hc => ?_⟩
    have hn := Nat.toNat_digitChar_sub_48_of_lt_ten hsmall
    rw [hc] at hn
    exact Nat.ne_of_lt h hn
  · obtain ⟨c, cs, hcs, hc⟩ := ih (n / 10) (by omega) (by omega)
    refine ⟨c, cs ++ [(n % 10).digitChar], ?_, hc⟩
    rw [Nat.toDigits_of_base_le (by decide) (by omega), hcs, List.cons_append]

/-! ## Numbers -/

theorem encode_repr (n : Nat) : Text.Utf8.encode n.repr = digitOctets (Nat.toDigits 10 n) := by
  rw [Text.Utf8.encode, Nat.toList_repr]
  exact flatMap_digits fun c hc => Nat.isDigit_of_mem_toDigits (by decide) (by decide) hc

theorem numberTail_ends {n : Nat} {rest : Bytes} (h : Ends rest) :
    numberTail true n 0 rest = .ok (.natural n, rest) := by
  cases rest with
  | nil => rfl
  | cons b rest =>
    obtain ⟨-, hpoint, hsmall, hlarge⟩ := h.octet
    rw [numberTail, if_neg hpoint, if_neg (not_or.mpr ⟨hsmall, hlarge⟩)]
    rfl

/-- Digits without a leading zero are all taken. -/
theorem number_digits {n : Nat} {b : UInt8} {digits rest : Bytes} (hzero : b ≠ 48)
    (hdigits : ∀ d ∈ b :: digits, isDigit d) (hfill : fill 0 (b :: digits) = (n, digits.length + 1))
    (hrest : Ends rest) : number true (b :: (digits ++ rest)) = .ok (.natural n, rest) := by
  have htake : (b :: (digits ++ rest)).takeWhile isDigit = b :: digits := by
    rw [← List.cons_append, List.takeWhile_append_of_pos hdigits, hrest.not_digit.1,
      List.append_nil]
  have hdrop : dropDigits (digits ++ rest) = rest := by
    rw [dropDigits, List.dropWhile_append_of_pos fun d hd => hdigits d (List.mem_cons_of_mem b hd)]
    exact hrest.not_digit.2
  rw [number, if_neg hzero, if_pos (hdigits b List.mem_cons_self)]
  simp only [htake, hfill, hdrop, List.length_cons, Nat.sub_self]
  exact numberTail_ends hrest

/-- A number that fits 64 bits is read from its digits. -/
theorem number_repr {n : Nat} (hn : n < 18446744073709551616) {rest : Bytes} (hrest : Ends rest) :
    ∃ b digits, Text.Utf8.encode n.repr = b :: digits ∧ isDigit b ∧
      number true (b :: (digits ++ rest)) = .ok (.natural n, rest) := by
  -- zero is the one number whose digits begin with zero, and nothing may follow that digit
  rcases Nat.eq_zero_or_pos n with rfl | hpos
  · refine ⟨48, [], rfl, rfl, ?_⟩
    have hhead : rest.head?.any isDigit = false := by
      cases rest with
      | nil => rfl
      | cons b rest => exact hrest.octet.1
    rw [List.nil_append, number, if_pos rfl, hhead]
    exact numberTail_ends hrest
  · obtain ⟨c, cs, hcs, hc⟩ := exists_toDigits hpos
    have hdigits : ∀ d ∈ c :: cs, d.isDigit := fun d hd =>
      Nat.isDigit_of_mem_toDigits (by decide) (by decide) (hcs ▸ hd)
    have hoctets := isDigit_digitOctets hdigits
    have hvalue : Nat.ofDigitChars 10 (c :: cs) 0 = n := hcs ▸ Nat.ofDigitChars_ten_toDigits
    have hfill := fill_digits hdigits 0 (by rw [hvalue]; exact hn)
    have hne : UInt8.ofNat c.toNat ≠ 48 := fun h => by
      have ht := toNat_digitOctet (hdigits c List.mem_cons_self)
      rw [h] at ht
      exact hc (Char.toNat_inj.mp ht.symm)
    refine ⟨UInt8.ofNat c.toNat, digitOctets cs, by rw [encode_repr, hcs]; rfl,
      hoctets _ List.mem_cons_self, number_digits hne hoctets ?_ hrest⟩
    rw [digitOctets, List.length_map, ← List.length_cons, ← hvalue]
    exact hfill

end BlockCoverage.Json
