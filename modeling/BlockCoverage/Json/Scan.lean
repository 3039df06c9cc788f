import BlockCoverage.Json.Fault

/-!
# Scanning

The smallest steps of reading: blanks, literals, strings and numbers. Every step takes the octets
that are left and gives back what it read with the octets after it, or a halt. Each step that
succeeds leaves fewer octets than it was given, and the lemmas beside the definitions say so: they
are what makes the loops over lists and objects end.
-/

namespace BlockCoverage.Json

open Text (Bytes)

/-- Space, line feed, tab and carriage return. -/
def isBlank (b : UInt8) : Bool := b == 32 || b == 10 || b == 9 || b == 13

/-- Drops leading blanks. -/
def skipBlank (s : Bytes) : Bytes := s.dropWhile isBlank

theorem length_skipBlank_le (s : Bytes) : (skipBlank s).length ≤ s.length :=
  (List.dropWhile_suffix _).length_le

/-- Reads the rest of a literal. -/
def literal : Bytes → Bytes → Except Halt Bytes
  | [], s => .ok s
  | _ :: _, [] => .error ⟨.endInValue, 0⟩
  | e :: es, b :: s => if b = e then literal es s else .error (.after .expectedIdent s)

theorem length_literal_le {expected s t : Bytes} (h : literal expected s = .ok t) :
    t.length ≤ s.length := by
  induction expected generalizing s with
  | nil => simp only [literal, Except.ok.injEq] at h; simp [h]
  | cons e es ih =>
    cases s with
    | nil => simp [literal] at h
    | cons b s =>
      rw [literal] at h
      split at h
      · exact Nat.le_succ_of_le (ih h)
      · simp at h

/-! ## Strings -/

/-- The value of a hexadecimal digit. -/
def hexDigit? (b : UInt8) : Option Nat :=
  if 48 ≤ b ∧ b ≤ 57 then some (b.toNat - 48)
  else if 65 ≤ b ∧ b ≤ 70 then some (b.toNat - 55)
  else if 97 ≤ b ∧ b ≤ 102 then some (b.toNat - 87)
  else none

/-- Reads the four digits after `\u`. Fewer than four octets are all consumed. -/
def hexFour : Bytes → Except Halt (Nat × Bytes)
  | a :: b :: c :: d :: rest =>
    match hexDigit? a, hexDigit? b, hexDigit? c, hexDigit? d with
    | some a, some b, some c, some d => .ok (((a * 16 + b) * 16 + c) * 16 + d, rest)
    | _, _, _, _ => .error (.after .invalidEscape rest)
  | _ => .error ⟨.endInString, 0⟩

theorem length_hexFour_le {s t : Bytes} {n : Nat} (h : hexFour s = .ok (n, t)) :
    t.length < s.length := by
  unfold hexFour at h
  split at h
  · split at h
    · simp only [Except.ok.injEq, Prod.mk.injEq] at h
      simp only [List.length_cons, ← h.2]
      omega
    · simp at h
  · simp at h

/-- The second half of a surrogate pair whose first half is `high`. -/
def lowSurrogate (high : Nat) : Bytes → Except Halt (Nat × Bytes)
  | [] => .error ⟨.endInString, 0⟩
  | b :: s =>
    if b ≠ 92 then .error (.after .endOfHexEscape s)
    else match s with
      | [] => .error ⟨.endInString, 0⟩
      | c :: s =>
        if c ≠ 117 then .error (.after .endOfHexEscape s)
        else match hexFour s with
          | .error e => .error e
          | .ok (low, rest) =>
            if low < 0xDC00 ∨ 0xDFFF < low then .error (.after .loneSurrogate rest)
            else .ok ((high - 0xD800) * 0x400 + (low - 0xDC00) + 0x10000, rest)

theorem length_lowSurrogate_le {s t : Bytes} {high n : Nat} (h : lowSurrogate high s = .ok (n, t)) :
    t.length < s.length := by
  unfold lowSurrogate at h
  split at h
  · simp at h
  · split at h
    · simp at h
    · split at h
      · simp at h
      · split at h
        · simp at h
        · split at h
          · simp at h
          · rename_i heq
            split at h
            · simp at h
            · simp only [Except.ok.injEq, Prod.mk.injEq] at h
              have := length_hexFour_le heq
              simp only [List.length_cons, ← h.2]
              omega

/-- The character with a given number, after `\u` and its digits. A leading surrogate takes a second
escape with it; a trailing one may not come first. -/
def unicodeEscape (s : Bytes) : Except Halt (Nat × Bytes) :=
  match hexFour s with
  | .error e => .error e
  | .ok (n, rest) =>
    if 0xDC00 ≤ n ∧ n ≤ 0xDFFF then .error (.after .loneSurrogate rest)
    else if 0xD800 ≤ n ∧ n ≤ 0xDBFF then lowSurrogate n rest
    else .ok (n, rest)

theorem length_unicodeEscape_le {s t : Bytes} {n : Nat} (h : unicodeEscape s = .ok (n, t)) :
    t.length < s.length := by
  unfold unicodeEscape at h
  split at h
  · simp at h
  · rename_i heq
    have := length_hexFour_le heq
    split at h
    · simp at h
    · split at h
      · have := length_lowSurrogate_le h
        omega
      · simp only [Except.ok.injEq, Prod.mk.injEq] at h
        rw [← h.2]
        exact this

/-- The character that a one-letter escape stands for. -/
def simpleEscape? (b : UInt8) : Option UInt8 :=
  if b = 34 then some 34
  else if b = 92 then some 92
  else if b = 47 then some 47
  else if b = 98 then some 8
  else if b = 102 then some 12
  else if b = 110 then some 10
  else if b = 114 then some 13
  else if b = 116 then some 9
  else none

/-- Reads what follows a backslash and gives the octets it stands for. -/
def escape : Bytes → Except Halt (Bytes × Bytes)
  | [] => .error ⟨.endInString, 0⟩
  | b :: s =>
    match simpleEscape? b with
    | some c => .ok ([c], s)
    | none =>
      if b = 117 then
        match unicodeEscape s with
        | .error e => .error e
        | .ok (n, rest) => .ok (String.utf8EncodeChar (Char.ofNat n), rest)
      else .error (.after .invalidEscape s)

theorem length_escape_lt {s t u : Bytes} (h : escape s = .ok (u, t)) : t.length < s.length := by
  unfold escape at h
  split at h
  · simp at h
  · split at h
    · simp only [Except.ok.injEq, Prod.mk.injEq] at h
      simp [← h.2]
    · split at h
      · split at h
        · simp at h
        · rename_i heq
          simp only [Except.ok.injEq, Prod.mk.injEq] at h
          have := length_unicodeEscape_le heq
          simp only [List.length_cons, ← h.2]
          omega
      · simp at h

/-- Reads a string after its opening quote and gives the octets it stands for. -/
def textBody : Bytes → Except Halt (Bytes × Bytes)
  | [] => .error ⟨.endInString, 0⟩
  | b :: s =>
    if b = 34 then .ok ([], s)
    else if b = 92 then
      match _h : escape s with
      | .error e => .error e
      | .ok (u, rest) =>
        match textBody rest with
        | .error e => .error e
        | .ok (more, rest) => .ok (u ++ more, rest)
    else if b < 32 then .error (.after .controlInString s)
    else
      match textBody s with
      | .error e => .error e
      | .ok (more, rest) => .ok (b :: more, rest)
termination_by s => s.length
decreasing_by
  · have := length_escape_lt _h
    simp only [List.length_cons]
    omega
  · simp

theorem length_textBody_lt {s t u : Bytes} (h : textBody s = .ok (u, t)) : t.length < s.length := by
  fun_induction textBody s generalizing u t with
  | case1 => simp at h
  | case2 s =>
    simp only [Except.ok.injEq, Prod.mk.injEq] at h
    simp [← h.2]
  | case3 => simp at h
  | case4 => simp at h
  | case5 s v rest he more rest' hmore _ ih =>
    simp only [Except.ok.injEq, Prod.mk.injEq] at h
    have h1 := ih hmore
    have h2 := length_escape_lt he
    rw [← h.2]
    simp only [List.length_cons]
    omega
  | case6 => simp at h
  | case7 => simp at h
  | case8 b s hb hq hc more rest hmore ih =>
    simp only [Except.ok.injEq, Prod.mk.injEq] at h
    have h1 := ih hmore
    rw [← h.2]
    simp only [List.length_cons]
    omega

/-! ## Numbers -/

/-- A number as it was written. -/
inductive Numeral where
  /-- A whole number that fits 64 bits. -/
  | natural (n : Nat)
  /-- A negative whole number that fits 64 bits, by its magnitude. -/
  | negative (n : Nat)
  /-- Any other number, by the bits of its double. -/
  | real (bits : UInt64)
deriving DecidableEq, Repr

/-- Whether an octet is a digit. -/
def isDigit (b : UInt8) : Bool := 48 ≤ b && b ≤ 57

/-- Drops leading digits. -/
def dropDigits (s : Bytes) : Bytes := s.dropWhile isDigit

theorem length_dropDigits_le (s : Bytes) : (dropDigits s).length ≤ s.length :=
  (List.dropWhile_suffix _).length_le

/-- Drops one sign. -/
def dropSign : Bytes → Bytes
  | [] => []
  | b :: s => if b = 43 ∨ b = 45 then s else b :: s

theorem length_dropSign_le (s : Bytes) : (dropSign s).length ≤ s.length := by
  cases s with
  | nil => simp [dropSign]
  | cons b s => rw [dropSign]; split <;> simp

/-- Appends digits to a significand as long as it stays below `2 ^ 64`; also how many were taken. -/
def fill (significand : Nat) : Bytes → Nat × Nat
  | [] => (significand, 0)
  | d :: ds =>
    let next := significand * 10 + (d.toNat - 48)
    if next < 18446744073709551616 then
      let (n, taken) := fill next ds
      (n, taken + 1)
    else (significand, 0)

/-- Divides by a power of ten, in steps that the double range allows. -/
def scaleDown (x : Float) (n : Nat) : Float :=
  if n ≤ 308 then x / Float.ofScientific 1 false n
  else if x == 0.0 then x
  else scaleDown (x / Float.ofScientific 1 false 308) (n - 308)
termination_by n

/-- The double `significand * 10 ^ exponent`, unless it is infinite. -/
def scaled (significand : Nat) (exponent : Int) : Option Float :=
  let x := (UInt64.ofNat significand).toFloat
  if exponent < 0 then some (scaleDown x (-exponent).toNat)
  else if exponent ≤ 308 then
    let y := x * Float.ofScientific 1 false exponent.toNat
    if y.isInf then none else some y
  else if x == 0.0 then some x else none

/-- The number made of a sign, a significand and a power of ten. -/
def realNumeral (positive : Bool) (significand : Nat) (exponent : Int) (rest : Bytes) :
    Except Halt (Numeral × Bytes) :=
  match scaled significand exponent with
  | none => .error (.after .numberOutOfRange rest)
  | some x => .ok (.real (if positive then x else -x).toBits, rest)

/-- Reads exponent digits into `acc`. The first digit that takes it past `2 ^ 31 - 1` stops the
count and is given back with the octets after it. -/
def exponentDigits (acc : Nat) : Bytes → Nat × Option Bytes × Bytes
  | [] => (acc, none, [])
  | d :: s =>
    if isDigit d then
      let next := acc * 10 + (d.toNat - 48)
      if next < 2147483648 then exponentDigits next s else (acc, some s, [])
    else (acc, none, d :: s)

theorem length_exponentDigits_le (acc : Nat) (s : Bytes) :
    (exponentDigits acc s).2.2.length ≤ s.length ∧
      ∀ r, (exponentDigits acc s).2.1 = some r → r.length ≤ s.length := by
  induction s generalizing acc with
  | nil => simp [exponentDigits]
  | cons d s ih =>
    rw [exponentDigits]
    dsimp only
    split
    · split
      · obtain ⟨h1, h2⟩ := ih (acc * 10 + (d.toNat - 48))
        exact ⟨Nat.le_succ_of_le h1, fun r hr => Nat.le_succ_of_le (h2 r hr)⟩
      · simp
    · simp

/-- Reads an exponent after its letter. -/
def exponentPart (positive : Bool) (significand : Nat) (start : Int) (s : Bytes) :
    Except Halt (Numeral × Bytes) :=
  let positiveExp := s.head? != some 45
  match dropSign s with
  | [] => .error ⟨.endInValue, 0⟩
  | d :: rest =>
    if !isDigit d then .error (.after .invalidNumber rest)
    else match exponentDigits (d.toNat - 48) rest with
      | (exp, none, rest) =>
        realNumeral positive significand (if positiveExp then start + exp else start - exp) rest
      | (_, some rest, _) =>
        if significand ≠ 0 ∧ positiveExp then .error (.after .numberOutOfRange rest)
        else .ok (.real (if positive then 0.0 else -0.0 : Float).toBits, dropDigits rest)

/-- Reads a fraction after its point. -/
def fractionPart (positive : Bool) (significand : Nat) (start : Int) (s : Bytes) :
    Except Halt (Numeral × Bytes) :=
  match s with
  | [] => .error ⟨.endInValue, 0⟩
  | d :: tail =>
    if !isDigit d then .error (.peeking .invalidNumber (d :: tail))
    else
      let filled := fill significand ((d :: tail).takeWhile isDigit)
      let exponent := start - filled.2
      match dropDigits (d :: tail) with
      | [] => realNumeral positive filled.1 exponent []
      | e :: rest =>
        if e = 101 ∨ e = 69 then exponentPart positive filled.1 exponent rest
        else realNumeral positive filled.1 exponent (e :: rest)

/-- The number without fraction and exponent; `overflow` digits of it did not fit. -/
def wholeNumeral (positive : Bool) (significand : Nat) (overflow : Nat) (rest : Bytes) :
    Except Halt (Numeral × Bytes) :=
  if overflow ≠ 0 then realNumeral positive significand overflow rest
  else if positive then .ok (.natural significand, rest)
  else if significand = 0 ∨ 9223372036854775808 < significand then
    realNumeral false significand 0 rest
  else .ok (.negative significand, rest)

/-- Reads what follows the whole part of a number. -/
def numberTail (positive : Bool) (significand : Nat) (overflow : Nat) (s : Bytes) :
    Except Halt (Numeral × Bytes) :=
  match s with
  | [] => wholeNumeral positive significand overflow []
  | b :: rest =>
    if b = 46 then fractionPart positive significand overflow rest
    else if b = 101 ∨ b = 69 then exponentPart positive significand overflow rest
    else wholeNumeral positive significand overflow (b :: rest)

/-- Reads a number after its sign. -/
def number (positive : Bool) (s : Bytes) : Except Halt (Numeral × Bytes) :=
  match s with
  | [] => .error ⟨.endInValue, 0⟩
  | d :: rest =>
    if d = 48 then
      if rest.head?.any isDigit then .error (.peeking .invalidNumber rest)
      else numberTail positive 0 0 rest
    else if isDigit d then
      let ds := (d :: rest).takeWhile isDigit
      let filled := fill 0 ds
      numberTail positive filled.1 (ds.length - filled.2) (dropDigits rest)
    else .error (.after .invalidNumber rest)

theorem length_realNumeral_le {positive : Bool} {significand : Nat} {exponent : Int} {s t : Bytes}
    {n : Numeral} (h : realNumeral positive significand exponent s = .ok (n, t)) :
    t.length ≤ s.length := by
  unfold realNumeral at h
  split at h
  · simp at h
  · simp only [Except.ok.injEq, Prod.mk.injEq] at h
    simp [h.2]

theorem length_exponentPart_le {positive : Bool} {significand : Nat} {start : Int} {s t : Bytes}
    {n : Numeral} (h : exponentPart positive significand start s = .ok (n, t)) :
    t.length ≤ s.length := by
  have hs := length_dropSign_le s
  unfold exponentPart at h
  dsimp only at h
  split at h
  · simp at h
  · rename_i d rest heq
    rw [heq, List.length_cons] at hs
    split at h
    · simp at h
    · obtain ⟨h1, h2⟩ := length_exponentDigits_le (d.toNat - 48) rest
      split at h
      · rename_i hd
        rw [hd] at h1
        have := length_realNumeral_le h
        dsimp only at h1
        omega
      · rename_i hd
        have h3 := h2 _ (by rw [hd])
        split at h
        · simp at h
        · simp only [Except.ok.injEq, Prod.mk.injEq] at h
          rw [← h.2]
          exact Nat.le_trans (length_dropDigits_le _) (by omega)

theorem length_fractionPart_le {positive : Bool} {significand : Nat} {start : Int} {s t : Bytes}
    {n : Numeral} (h : fractionPart positive significand start s = .ok (n, t)) :
    t.length ≤ s.length := by
  unfold fractionPart at h
  split at h
  · simp at h
  · rename_i d tail
    split at h
    · simp at h
    · have hd := length_dropDigits_le (d :: tail)
      dsimp only at h
      split at h
      · have := length_realNumeral_le h
        exact Nat.le_trans this (by simp)
      · rename_i e rest heq
        rw [heq, List.length_cons] at hd
        split at h
        · have := length_exponentPart_le h
          omega
        · have := length_realNumeral_le h
          rw [List.length_cons] at this
          omega

theorem length_wholeNumeral_le {positive : Bool} {significand overflow : Nat} {s t : Bytes}
    {n : Numeral} (h : wholeNumeral positive significand overflow s = .ok (n, t)) :
    t.length ≤ s.length := by
  unfold wholeNumeral at h
  split at h
  · exact length_realNumeral_le h
  · split at h
    · simp only [Except.ok.injEq, Prod.mk.injEq] at h
      simp [h.2]
    · split at h
      · exact length_realNumeral_le h
      · simp only [Except.ok.injEq, Prod.mk.injEq] at h
        simp [h.2]

theorem length_numberTail_le {positive : Bool} {significand overflow : Nat} {s t : Bytes}
    {n : Numeral} (h : numberTail positive significand overflow s = .ok (n, t)) :
    t.length ≤ s.length := by
  unfold numberTail at h
  split at h
  · exact length_wholeNumeral_le h
  · split at h
    · exact Nat.le_succ_of_le (length_fractionPart_le h)
    · split at h
      · exact Nat.le_succ_of_le (length_exponentPart_le h)
      · exact length_wholeNumeral_le h

theorem length_number_lt {positive : Bool} {s t : Bytes} {n : Numeral}
    (h : number positive s = .ok (n, t)) : t.length < s.length := by
  unfold number at h
  split at h
  · simp at h
  · split at h
    · split at h
      · simp at h
      · exact Nat.lt_succ_of_le (length_numberTail_le h)
    · split at h
      · exact Nat.lt_succ_of_le (Nat.le_trans (length_numberTail_le h) (length_dropDigits_le _))
      · simp at h

end BlockCoverage.Json
