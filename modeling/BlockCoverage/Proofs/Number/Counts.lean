import BlockCoverage.Number.Natural
import Mathlib.Data.List.Induction

/-!
# Counts as they are typed

A count may be typed with zeros in front of its digits and a plus sign in front of those. That is
all the freedom there is: a run of digits is the decimal form of its value after some zeros
(`exists_zeros`), so what is read as a count is one of its typed forms.
-/

namespace BlockCoverage.Number

/-- The ways to type a count. -/
def Typed (n : UInt32) (text : String) : Prop :=
  ∃ sign zeros, (sign = [] ∨ sign = ['+']) ∧
    text.toList = sign ++ (List.replicate zeros '0' ++ (Nat.repr n.toNat).toList)

theorem isDigit_eq (c : Char) : isDigit c = c.isDigit := by
  rw [isDigit, Char.isDigit, Bool.decide_and]
  rfl

theorem toNat_bounds {c : Char} (h : isDigit c = true) : 48 ≤ c.toNat ∧ c.toNat ≤ 57 := by
  simpa [isDigit, Char.le_def, UInt32.le_iff_toNat_le] using h

theorem digitChar_sub {c : Char} (h : isDigit c = true) : Nat.digitChar (c.toNat - 48) = c := by
  have hall : ∀ n < 10, Nat.digitChar n = Char.ofNat (n + 48) := by decide
  obtain ⟨hlow, hhigh⟩ := toNat_bounds h
  rw [hall _ (by omega), Nat.sub_add_cancel hlow, Char.ofNat_toNat]

theorem digitsValue_eq (acc : Nat) (ds : List Char) :
    digitsValue acc ds = Nat.ofDigitChars 10 ds acc := by
  rw [digitsValue, Nat.ofDigitChars]
  congr 1
  funext n c
  rw [Nat.mul_comm]
  rfl

theorem digitsValue_zeros (zeros : Nat) (ds : List Char) :
    digitsValue 0 (List.replicate zeros '0' ++ ds) = digitsValue 0 ds := by
  induction zeros with
  | zero => rfl
  | succ zeros ih => exact ih

/-- Digits are the decimal form of their value, with zeros in front. -/
theorem exists_zeros (ds : List Char) (hne : ds ≠ []) (hds : ∀ d ∈ ds, isDigit d = true) :
    ∃ zeros, ds = List.replicate zeros '0' ++ Nat.toDigits 10 (digitsValue 0 ds) := by
  induction ds using List.reverseRecOn with
  | nil => exact absurd rfl hne
  | append_singleton ds d ih =>
    have hd : isDigit d = true := hds d List.mem_concat_self
    obtain ⟨hlow, hhigh⟩ := toNat_bounds hd
    have hvalue : digitsValue 0 (ds ++ [d]) = digitsValue 0 ds * 10 + (d.toNat - 48) := by
      rw [digitsValue, List.foldl_append]
      rfl
    rw [hvalue]
    have hdigit : Nat.toDigits 10 (d.toNat - 48) = [d] := by
      rw [Nat.toDigits_of_lt_base (by omega), digitChar_sub hd]
    rcases eq_or_ne ds [] with rfl | hne
    · exact ⟨0, by simp [digitsValue, hdigit]⟩
    obtain ⟨zeros, hzeros⟩ := ih hne fun e he => hds e (List.mem_append_left [d] he)
    rcases Nat.eq_zero_or_pos (digitsValue 0 ds) with hzero | hpos
    · -- nothing but zeros so far
      refine ⟨zeros + 1, ?_⟩
      rw [hzero] at hzeros
      rw [hzero, Nat.zero_mul, Nat.zero_add, hdigit, List.replicate_succ']
      exact congrArg (· ++ [d]) hzeros
    · refine ⟨zeros, ?_⟩
      rw [Nat.toDigits_of_base_le (by decide) (by omega),
        show (digitsValue 0 ds * 10 + (d.toNat - 48)) / 10 = digitsValue 0 ds by omega,
        show (digitsValue 0 ds * 10 + (d.toNat - 48)) % 10 = d.toNat - 48 by omega,
          digitChar_sub hd,
        ← List.append_assoc, ← hzeros]

theorem isDigit_of_mem_typed {zeros : Nat} {n : Nat} {c : Char}
    (h : c ∈ List.replicate zeros '0' ++ Nat.toDigits 10 n) : isDigit c = true := by
  rw [isDigit_eq]
  rcases List.mem_append.mp h with hc | hc
  · rw [List.eq_of_mem_replicate hc]
    rfl
  · exact Nat.isDigit_of_mem_toDigits (by decide) (by decide) hc

/-- The digits of a typed count after its sign. -/
def afterSign : List Char → List Char
  | '+' :: ds => ds
  | ds => ds

theorem exists_sign (cs : List Char) :
    ∃ sign, (sign = [] ∨ sign = ['+']) ∧ cs = sign ++ afterSign cs := by
  rw [afterSign.eq_def]
  split
  · exact ⟨['+'], .inr rfl, rfl⟩
  · exact ⟨[], .inl rfl, rfl⟩

theorem afterSign_append {sign ds : List Char} (hsign : sign = [] ∨ sign = ['+'])
    (hds : ∀ d ∈ ds, isDigit d = true) : afterSign (sign ++ ds) = ds := by
  rcases hsign with rfl | rfl
  · rw [List.nil_append, afterSign.eq_def]
    split
    · -- a plus sign is no digit
      exact absurd (hds '+' List.mem_cons_self) (by decide)
    · rfl
  · rfl

theorem readWord?_eq (text : String) :
    readWord? text =
      if afterSign text.toList ≠ [] ∧ (afterSign text.toList).all isDigit = true ∧
          digitsValue 0 (afterSign text.toList) < 4294967296 then
        some (UInt32.ofNat (digitsValue 0 (afterSign text.toList)))
      else none := by
  change (if (afterSign text.toList).isEmpty || !(afterSign text.toList).all isDigit then none
    else if digitsValue 0 (afterSign text.toList) < 4294967296 then
      some (UInt32.ofNat (digitsValue 0 (afterSign text.toList))) else none) = _
  generalize afterSign text.toList = ds
  by_cases hdigits : ds ≠ [] ∧ ds.all isDigit = true
  · have hread : ¬(ds.isEmpty || !ds.all isDigit) = true := by simpa using hdigits
    rw [if_neg hread]
    by_cases hlt : digitsValue 0 ds < 4294967296
    · rw [if_pos hlt, if_pos ⟨hdigits.1, hdigits.2, hlt⟩]
    · rw [if_neg hlt, if_neg fun h => hlt h.2.2]
  · have hread : (ds.isEmpty || !ds.all isDigit) = true := by
      by_contra hread
      exact hdigits (by simpa using hread)
    rw [if_pos hread, if_neg fun h => hdigits ⟨h.1, h.2.1⟩]

/-- A text is read as a count just when it is one of the ways to type it. -/
theorem readWord?_eq_some_iff {text : String} {n : UInt32} :
    readWord? text = some n ↔ Typed n text := by
  rw [readWord?_eq, Typed, Nat.toList_repr]
  constructor
  · intro h
    split at h
    · rename_i hdigits
      obtain ⟨hne, hds, hlt⟩ := hdigits
      obtain ⟨sign, hsign, htext⟩ := exists_sign text.toList
      obtain ⟨zeros, hzeros⟩ := exists_zeros _ hne (List.all_eq_true.mp hds)
      have hvalue : n.toNat = digitsValue 0 (afterSign text.toList) := by
        rw [← Option.some.inj h, UInt32.toNat_ofNat', Nat.mod_eq_of_lt hlt]
      exact ⟨sign, zeros, hsign, by rw [hvalue, ← hzeros, ← htext]⟩
    · cases h
  · rintro ⟨sign, zeros, hsign, htext⟩
    have hds : ∀ d ∈ List.replicate zeros '0' ++ Nat.toDigits 10 n.toNat, isDigit d = true :=
      fun d hd => isDigit_of_mem_typed hd
    have hvalue : digitsValue 0 (List.replicate zeros '0' ++ Nat.toDigits 10 n.toNat) =
      n.toNat := by
      rw [digitsValue_zeros, digitsValue_eq, Nat.ofDigitChars_ten_toDigits]
    rw [htext, afterSign_append hsign hds, hvalue, UInt32.ofNat_toNat, if_pos]
    refine ⟨fun hnil => ?_, List.all_eq_true.mpr hds, n.toNat_lt⟩
    exact Nat.toDigits_ne_nil (List.append_eq_nil_iff.mp hnil).2

end BlockCoverage.Number
