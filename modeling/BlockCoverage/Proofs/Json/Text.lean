import BlockCoverage.Json.Reader
import BlockCoverage.Proofs.Json.Grammar
import BlockCoverage.Proofs.Text.Utf8
import BlockCoverage.Proofs.Text.Words

/-!
# Strings are read as they were written

A character of a string is escaped in one way or another or written as it is, and then none of its
octets is one that a reader would stop at. So the octets between the quotes are read character by
character (`textBody_letter`), and what comes out is the text in UTF-8.
-/

namespace BlockCoverage.Json

open Text (Bytes)

/-- An octet that stands for itself in a string. -/
def Plain (b : UInt8) : Prop := b ≠ 34 ∧ b ≠ 92 ∧ ¬b < 32

theorem textBody_plain {b : UInt8} (h : Plain b) (s : Bytes) :
    textBody (b :: s) = (textBody s).map fun r => (b :: r.1, r.2) := by
  obtain ⟨hquote, hbackslash, hcontrol⟩ := h
  rw [textBody, if_neg hquote, if_neg hbackslash, if_neg hcontrol]
  cases textBody s <;> rfl

theorem textBody_escape {s rest u : Bytes} (h : escape s = .ok (u, rest)) :
    textBody (92 :: s) = (textBody rest).map fun r => (u ++ r.1, r.2) := by
  rw [textBody, if_neg (by decide), if_pos rfl]
  split
  · rename_i he
    rw [h] at he
    cases he
  · rename_i he
    rw [h] at he
    obtain ⟨rfl, rfl⟩ := Prod.mk.inj (Except.ok.inj he)
    cases textBody rest <;> rfl

theorem textBody_append {bs : Bytes} (h : ∀ b ∈ bs, Plain b) (s : Bytes) :
    textBody (bs ++ s) = (textBody s).map fun r => (bs ++ r.1, r.2) := by
  induction bs with
  | nil => cases hs : textBody s <;> simp [hs, Except.map]
  | cons b bs ih =>
    rw [List.cons_append, textBody_plain (h b List.mem_cons_self),
      ih fun c hc => h c (List.mem_cons_of_mem b hc)]
    cases textBody s <;> rfl

theorem plain_ofNat {n : Nat} (hn : n < 256) (hquote : n ≠ 34) (hbackslash : n ≠ 92)
    (hcontrol : 32 ≤ n) : Plain (UInt8.ofNat n) := by
  have ht : (UInt8.ofNat n).toNat = n := Text.Utf8.toNat_ofNat hn
  refine ⟨fun h => ?_, fun h => ?_, fun h => ?_⟩
  · rw [h] at ht
    exact hquote ht.symm
  · rw [h] at ht
    exact hbackslash ht.symm
  · rw [UInt8.lt_iff_toNat_lt, ht] at h
    exact absurd h (Nat.not_lt.mpr hcontrol)

/-- The octets of a longer sequence are all beyond ASCII, so only the character itself matters. -/
theorem plain_utf8EncodeChar {c : Char} (hquote : c ≠ '"') (hbackslash : c ≠ '\\')
    (hcontrol : 32 ≤ c.toNat) : ∀ b ∈ String.utf8EncodeChar c, Plain b := by
  have h1 : c.val.toNat ≠ 34 := fun h => hquote (Char.toNat_inj.mp h)
  have h2 : c.val.toNat ≠ 92 := fun h => hbackslash (Char.toNat_inj.mp h)
  have h3 : 32 ≤ c.val.toNat := hcontrol
  have hvalid : c.val.toNat < 0xD800 ∨ 0xDFFF < c.val.toNat ∧ c.val.toNat < 0x110000 := c.valid
  rw [String.utf8EncodeChar]
  split
  · simp only [List.mem_singleton, forall_eq]
    exact plain_ofNat (by omega) h1 h2 h3
  split
  · simp only [List.mem_cons, List.not_mem_nil, or_false, forall_eq_or_imp, forall_eq]
    refine ⟨?_, ?_⟩ <;> exact plain_ofNat (by omega) (by omega) (by omega) (by omega)
  split
  · simp only [List.mem_cons, List.not_mem_nil, or_false, forall_eq_or_imp, forall_eq]
    refine ⟨?_, ?_, ?_⟩ <;> exact plain_ofNat (by omega) (by omega) (by omega) (by omega)
  · simp only [List.mem_cons, List.not_mem_nil, or_false, forall_eq_or_imp, forall_eq]
    refine ⟨?_, ?_, ?_, ?_⟩ <;> exact plain_ofNat (by omega) (by omega) (by omega) (by omega)

/-! ## Escapes -/

theorem hexDigit?_of_toLower {d : Char} {k : Nat} (hk : k < 16) (h : d.toLower = k.digitChar) :
    String.utf8EncodeChar d = [UInt8.ofNat d.toNat] ∧ hexDigit? (UInt8.ofNat d.toNat) = some k := by
  have hascii : ∀ k < 16, k.digitChar.toNat < 128 := by decide
  have hall : ∀ n < 128, ∀ k < 16, (Char.ofNat n).toLower = k.digitChar →
      String.utf8EncodeChar (Char.ofNat n) = [UInt8.ofNat n] ∧
        hexDigit? (UInt8.ofNat n) = some k := by
    decide +kernel
  have hd : d.toNat < 128 := Text.toNat_lt_of_toLower (h ▸ hascii k hk)
  have hself : Char.ofNat d.toNat = d := Char.ofNat_toNat d
  have hdigit := hall d.toNat hd k hk
  rw [hself] at hdigit
  exact hdigit h

/-- The four digits of a number are read as that number. -/
theorem CodeUnit.hexFour {n : Nat} {digits : List Char} (h : CodeUnit n digits) (s : Bytes) :
    Json.hexFour (digits.flatMap String.utf8EncodeChar ++ s) = .ok (n, s) := by
  obtain ⟨hn, hdigits⟩ := h
  obtain ⟨a, b, c, d, rfl⟩ : ∃ a b c d, digits = [a, b, c, d] :=
    List.length_eq_four.mp (by simpa using congrArg List.length hdigits)
  simp only [List.map_cons, List.map_nil, List.cons.injEq, and_true] at hdigits
  obtain ⟨ha, hb, hc, hd⟩ := hdigits
  obtain ⟨hencodea, hreada⟩ := hexDigit?_of_toLower (by omega) ha
  obtain ⟨hencodeb, hreadb⟩ := hexDigit?_of_toLower (by omega) hb
  obtain ⟨hencodec, hreadc⟩ := hexDigit?_of_toLower (by omega) hc
  obtain ⟨hencoded, hreadd⟩ := hexDigit?_of_toLower (by omega) hd
  have hvalue : ((n / 4096 * 16 + n / 256 % 16) * 16 + n / 16 % 16) * 16 + n % 16 = n := by omega
  simp only [List.flatMap_cons, List.flatMap_nil, hencodea, hencodeb, hencodec, hencoded,
    List.cons_append, List.nil_append, Json.hexFour, hreada, hreadb, hreadc, hreadd, hvalue]

theorem escape_unicode {c : Char} {s rest : Bytes} (h : unicodeEscape s = .ok (c.toNat, rest)) :
    escape (117 :: s) = .ok (String.utf8EncodeChar c, rest) := by
  rw [escape, h]
  simp only [Char.ofNat_toNat]
  rfl

/-- No character is half of a pair. -/
theorem unicodeEscape_unit {c : Char} {digits : List Char} (h : CodeUnit c.toNat digits)
    (s : Bytes) :
    unicodeEscape (digits.flatMap String.utf8EncodeChar ++ s) = .ok (c.toNat, s) := by
  have hvalid : c.toNat < 0xD800 ∨ 0xDFFF < c.toNat ∧ c.toNat < 0x110000 := c.valid
  rw [unicodeEscape, h.hexFour]
  simp only
  rw [if_neg (by omega), if_neg (by omega)]

theorem unicodeEscape_pair {c : Char} {high low : Nat} {digits more : List Char}
    (hhigh : 0xD800 ≤ high ∧ high ≤ 0xDBFF) (hlow : 0xDC00 ≤ low ∧ low ≤ 0xDFFF)
    (hc : c.toNat = (high - 0xD800) * 0x400 + (low - 0xDC00) + 0x10000) (h : CodeUnit high digits)
    (hmore : CodeUnit low more) (s : Bytes) :
    unicodeEscape (digits.flatMap String.utf8EncodeChar ++
      92 :: 117 :: (more.flatMap String.utf8EncodeChar ++ s)) = .ok (c.toNat, s) := by
  have hsecond : lowSurrogate high (92 :: 117 :: (more.flatMap String.utf8EncodeChar ++ s)) =
      .ok (c.toNat, s) := by
    rw [lowSurrogate, if_neg (by decide)]
    simp only [ne_eq, not_true_eq_false, if_false, hmore.hexFour]
    rw [if_neg (by omega), hc]
  rw [unicodeEscape, h.hexFour]
  simp only
  rw [if_neg (by omega), if_pos hhigh, hsecond]

/-! ## Strings -/

/-- However a character is written, it is read as its octets. -/
theorem textBody_letter {c : Char} {piece : List Char} (h : Letter c piece) (s : Bytes) :
    textBody (piece.flatMap String.utf8EncodeChar ++ s) =
      (textBody s).map fun r => (String.utf8EncodeChar c ++ r.1, r.2) := by
  cases h with
  | plain hcontrol hquote hbackslash =>
    rw [List.flatMap_singleton]
    exact textBody_append (plain_utf8EncodeChar hquote hbackslash hcontrol) s
  | @short letter c hshort =>
    have hread : ∀ e ∈ shortEscapes, ∀ s, escape (String.utf8EncodeChar e.1 ++ s) =
        .ok (String.utf8EncodeChar e.2, s) := by
      simp only [shortEscapes, List.forall_mem_cons]
      exact ⟨fun _ => rfl, fun _ => rfl, fun _ => rfl, fun _ => rfl, fun _ => rfl, fun _ => rfl,
        fun _ => rfl, fun _ => rfl, List.forall_mem_nil _⟩
    rw [List.flatMap_cons, List.flatMap_singleton, List.append_assoc]
    exact textBody_escape (hread _ hshort s)
  | unit hunit => exact textBody_escape (escape_unicode (unicodeEscape_unit hunit s))
  | pair hhigh hlow hc hunit hmore =>
    rw [List.flatMap_append, List.append_assoc]
    exact textBody_escape (escape_unicode (unicodeEscape_pair hhigh hlow hc hunit hmore s))

/-- The characters of a string are read one by one, up to its closing quote. -/
theorem textBody_pieces {cs : List Char} {pieces : List (List Char)}
    (h : List.Forall₂ Letter cs pieces) (rest : Bytes) :
    textBody (pieces.flatten.flatMap String.utf8EncodeChar ++ 34 :: rest) =
      .ok (cs.flatMap String.utf8EncodeChar, rest) := by
  induction h with
  | nil => rw [List.flatten_nil, List.flatMap_nil, List.nil_append, textBody, if_pos rfl]
  | cons hletter _ ih =>
    rw [List.flatten_cons, List.flatMap_append, List.append_assoc, textBody_letter hletter, ih]
    rfl

theorem encode_quoted (pieces : List (List Char)) (rest : Bytes) :
    Text.Utf8.encode (quoted pieces) ++ rest =
      34 :: (pieces.flatten.flatMap String.utf8EncodeChar ++ 34 :: rest) := by
  rw [quoted, Text.Utf8.encode_ofList]
  simp only [List.flatMap_cons, List.flatMap_append, List.cons_append, List.append_assoc]
  rfl

/-- A string in a document is a quote, and then what is read as its octets. -/
theorem Quotes.exists_textBody {value text : String} (h : Quotes value text) (rest : Bytes) :
    ∃ body, Text.Utf8.encode text ++ rest = 34 :: body ∧
      textBody body = .ok (Text.Utf8.encode value, rest) := by
  obtain ⟨pieces, hpieces, rfl⟩ := h
  exact ⟨_, encode_quoted pieces rest, textBody_pieces hpieces rest⟩

end BlockCoverage.Json
