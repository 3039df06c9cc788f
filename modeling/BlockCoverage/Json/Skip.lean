import BlockCoverage.Json.Scan

/-!
# Passing over values

The value of a field that nobody asked for is passed over: it has to be well formed, but numbers may
be of any size and surrogates need no partner. Nesting is unlimited; the brackets that are still
open are kept as a list, innermost first.
-/

namespace BlockCoverage.Json

open Text (Bytes)

/-- Passes over what follows a backslash. -/
def passEscape : Bytes → Except Halt Bytes
  | [] => .error ⟨.endInString, 0⟩
  | b :: s =>
    if (simpleEscape? b).isSome then .ok s
    else if b = 117 then
      match hexFour s with
      | .error e => .error e
      | .ok (_, rest) => .ok rest
    else .error (.after .invalidEscape s)

theorem length_passEscape_lt {s t : Bytes} (h : passEscape s = .ok t) : t.length < s.length := by
  unfold passEscape at h
  split at h
  · simp at h
  · split at h
    · simp only [Except.ok.injEq] at h
      simp [← h]
    · split at h
      · split at h
        · simp at h
        · rename_i heq
          simp only [Except.ok.injEq] at h
          have := length_hexFour_le heq
          simp only [List.length_cons, ← h]
          omega
      · simp at h

/-- Passes over a string after its opening quote. A control character is noticed before it is
consumed. -/
def passText : Bytes → Except Halt Bytes
  | [] => .error ⟨.endInString, 0⟩
  | b :: s =>
    if b = 34 then .ok s
    else if b = 92 then
      match _h : passEscape s with
      | .error e => .error e
      | .ok rest => passText rest
    else if b < 32 then .error (.after .controlInString (b :: s))
    else passText s
termination_by s => s.length
decreasing_by
  · have := length_passEscape_lt _h
    simp only [List.length_cons]
    omega
  · simp

theorem length_passText_lt {s t : Bytes} (h : passText s = .ok t) : t.length < s.length := by
  fun_induction passText s with
  | case1 => simp at h
  | case2 s =>
    simp only [Except.ok.injEq] at h
    simp [← h]
  | case3 => simp at h
  | case4 s rest he _ ih =>
    have h1 := ih h
    have h2 := length_passEscape_lt he
    simp only [List.length_cons]
    omega
  | case5 => simp at h
  | case6 b s hb hq hc ih =>
    have h1 := ih h
    simp only [List.length_cons]
    omega

/-- Passes over an exponent after its letter. -/
def passExponent (s : Bytes) : Except Halt Bytes :=
  match dropSign s with
  | [] => .error ⟨.invalidNumber, 0⟩
  | d :: rest => if isDigit d then .ok (dropDigits rest) else .error (.after .invalidNumber rest)

theorem length_passExponent_le {s t : Bytes} (h : passExponent s = .ok t) :
    t.length ≤ s.length := by
  unfold passExponent at h
  have hs := length_dropSign_le s
  split at h
  · simp at h
  · rename_i d rest heq
    rw [heq, List.length_cons] at hs
    split at h
    · simp only [Except.ok.injEq] at h
      have := length_dropDigits_le rest
      rw [← h]
      omega
    · simp at h

/-- Passes over a fraction after its point. -/
def passFraction (s : Bytes) : Except Halt Bytes :=
  match s with
  | [] => .error ⟨.invalidNumber, 0⟩
  | d :: _ =>
    if !isDigit d then .error (.peeking .invalidNumber s)
    else match dropDigits s with
      | [] => .ok []
      | e :: rest => if e = 101 ∨ e = 69 then passExponent rest else .ok (e :: rest)

theorem length_passFraction_le {s t : Bytes} (h : passFraction s = .ok t) :
    t.length ≤ s.length := by
  unfold passFraction at h
  split at h
  · simp at h
  · rename_i d tail
    split at h
    · simp at h
    · have hd := length_dropDigits_le (d :: tail)
      split at h
      · simp only [Except.ok.injEq] at h
        simp [← h]
      · rename_i e rest heq
        rw [← heq] at h
        split at h
        · have := length_passExponent_le h
          rw [heq, List.length_cons] at hd
          omega
        · simp only [Except.ok.injEq] at h
          rw [← h]
          exact hd

/-- Passes over what follows the whole part of a number. -/
def passNumberTail (s : Bytes) : Except Halt Bytes :=
  match s with
  | [] => .ok []
  | b :: rest =>
    if b = 46 then passFraction rest
    else if b = 101 ∨ b = 69 then passExponent rest
    else .ok (b :: rest)

theorem length_passNumberTail_le {s t : Bytes} (h : passNumberTail s = .ok t) :
    t.length ≤ s.length := by
  unfold passNumberTail at h
  split at h
  · simp only [Except.ok.injEq] at h
    simp [← h]
  · split at h
    · exact Nat.le_succ_of_le (length_passFraction_le h)
    · split at h
      · exact Nat.le_succ_of_le (length_passExponent_le h)
      · simp only [Except.ok.injEq] at h
        simp [← h]

/-- Passes over a number after its sign. -/
def passNumber (s : Bytes) : Except Halt Bytes :=
  match s with
  | [] => .error ⟨.invalidNumber, 0⟩
  | d :: rest =>
    if d = 48 then
      match rest with
      | [] => .ok []
      | e :: more => if isDigit e then .error (.peeking .invalidNumber (e :: more))
        else passNumberTail (e :: more)
    else if isDigit d then passNumberTail (dropDigits rest)
    else .error (.after .invalidNumber rest)

theorem length_passNumber_lt {s t : Bytes} (h : passNumber s = .ok t) : t.length < s.length := by
  unfold passNumber at h
  split at h
  · simp at h
  · split at h
    · split at h
      · simp only [Except.ok.injEq] at h
        simp [← h]
      · split at h
        · simp at h
        · exact Nat.lt_succ_of_le (length_passNumberTail_le h)
    · split at h
      · have h1 := length_passNumberTail_le h
        exact Nat.lt_succ_of_le (Nat.le_trans h1 (length_dropDigits_le _))
      · simp at h

/-- An open bracket. -/
inductive Bracket where
  /-- A list is open. -/
  | list
  /-- An object is open. -/
  | object
deriving DecidableEq, Repr

/-- What a single step over the start of a value found. -/
inductive Step where
  /-- The value is over. -/
  | done (rest : Bytes)
  /-- A bracket was opened. -/
  | opened (bracket : Bracket) (rest : Bytes)

/-- The octets after a step. -/
def Step.rest : Step → Bytes
  | done rest => rest
  | opened _ rest => rest

/-- Passes over a literal, a number or a string, or enters a bracket. -/
def passStart (s : Bytes) : Except Halt Step :=
  match skipBlank s with
  | [] => .error ⟨.endInValue, 0⟩
  | b :: rest =>
    if b = 110 then (literal [117, 108, 108] rest).map .done
    else if b = 116 then (literal [114, 117, 101] rest).map .done
    else if b = 102 then (literal [97, 108, 115, 101] rest).map .done
    else if b = 45 then (passNumber rest).map .done
    else if isDigit b then (passNumber (b :: rest)).map .done
    else if b = 34 then (passText rest).map .done
    else if b = 91 then .ok (.opened .list rest)
    else if b = 123 then .ok (.opened .object rest)
    else .error (.peeking .expectedValue (b :: rest))

theorem length_map_done_lt {r : Except Halt Bytes} {n : Nat} {t : Step}
    (hr : ∀ u, r = .ok u → u.length < n) (h : r.map Step.done = .ok t) : t.rest.length < n := by
  cases r with
  | error e => simp [Except.map] at h
  | ok u =>
    simp only [Except.map, Except.ok.injEq] at h
    subst h
    exact hr u rfl

theorem length_passStart_lt {s : Bytes} {t : Step} (h : passStart s = .ok t) :
    t.rest.length < s.length := by
  have hs := length_skipBlank_le s
  unfold passStart at h
  split at h
  · simp at h
  · rename_i b rest heq
    rw [heq, List.length_cons] at hs
    refine Nat.lt_of_lt_of_le ?_ hs
    split at h
    · exact length_map_done_lt (fun u hu => Nat.lt_succ_of_le (length_literal_le hu)) h
    split at h
    · exact length_map_done_lt (fun u hu => Nat.lt_succ_of_le (length_literal_le hu)) h
    split at h
    · exact length_map_done_lt (fun u hu => Nat.lt_succ_of_le (length_literal_le hu)) h
    split at h
    · exact length_map_done_lt (fun u hu => Nat.lt_succ_of_lt (length_passNumber_lt hu)) h
    split at h
    · exact length_map_done_lt (fun u hu => by simpa using length_passNumber_lt hu) h
    split at h
    · exact length_map_done_lt (fun u hu => Nat.lt_succ_of_lt (length_passText_lt hu)) h
    split at h
    · simp only [Except.ok.injEq] at h
      simp [← h, Step.rest]
    split at h
    · simp only [Except.ok.injEq] at h
      simp [← h, Step.rest]
    · simp at h

/-- Passes over a key and its colon; the octets start at the key or at blanks before it. -/
def passKey (s : Bytes) : Except Halt Bytes :=
  match skipBlank s with
  | [] => .error ⟨.endInObject, 0⟩
  | b :: rest =>
    if b ≠ 34 then .error (.peeking .keyNotString (b :: rest))
    else match passText rest with
      | .error e => .error e
      | .ok rest =>
        match skipBlank rest with
        | [] => .error ⟨.endInObject, 0⟩
        | c :: rest => if c = 58 then .ok rest else .error (.peeking .expectedColon (c :: rest))

theorem length_passKey_lt {s t : Bytes} (h : passKey s = .ok t) : t.length < s.length := by
  have hs := length_skipBlank_le s
  unfold passKey at h
  split at h
  · simp at h
  · rename_i b rest heq
    rw [heq, List.length_cons] at hs
    split at h
    · simp at h
    · split at h
      · simp at h
      · rename_i rest' htext
        have h1 := length_passText_lt htext
        have h2 := length_skipBlank_le rest'
        split at h
        · simp at h
        · rename_i c rest'' hcolon
          rw [hcolon, List.length_cons] at h2
          split at h
          · simp only [Except.ok.injEq] at h
            rw [← h]
            omega
          · simp at h

/-- Leaves the brackets that close here. `comma` says whether an element has just ended, so that a
comma may follow. The result is `none` when everything is closed, else the brackets still open. -/
def passClosing (comma : Bool) : List Bracket → Bytes → Except Halt (Option (List Bracket) × Bytes)
  | [], s => .ok (none, s)
  | b :: opened, s =>
    match skipBlank s with
    | [] => .error ⟨match b with | .list => .endInList | .object => .endInObject, 0⟩
    | c :: rest =>
      if comma ∧ c = 44 then .ok (some (b :: opened), rest)
      else if (b = .list ∧ c = 93) ∨ (b = .object ∧ c = 125) then passClosing true opened rest
      else if comma then
        .error (.peeking (match b with | .list => .expectedListEnd | .object => .expectedObjectEnd)
          (c :: rest))
      else .ok (some (b :: opened), c :: rest)

theorem length_passClosing_le {comma : Bool} {frames : List Bracket} {s t : Bytes}
    {o : Option (List Bracket)} (h : passClosing comma frames s = .ok (o, t)) :
    t.length ≤ s.length := by
  induction frames generalizing comma s with
  | nil =>
    simp only [passClosing, Except.ok.injEq, Prod.mk.injEq] at h
    simp [← h.2]
  | cons b opened ih =>
    have hs := length_skipBlank_le s
    rw [passClosing.eq_def] at h
    dsimp only at h
    split at h
    · simp at h
    · rename_i c rest heq
      rw [heq, List.length_cons] at hs
      split at h
      · simp only [Except.ok.injEq, Prod.mk.injEq] at h
        rw [← h.2]
        omega
      · split at h
        · have := ih h
          omega
        · split at h
          · simp at h
          · simp only [Except.ok.injEq, Prod.mk.injEq] at h
            rw [← h.2, List.length_cons]
            exact hs

/-- Passes over a value inside the given open brackets, and everything up to their closing. -/
def passValue (opened : List Bracket) (s : Bytes) : Except Halt Bytes :=
  match _h1 : passStart s with
  | .error e => .error e
  | .ok step =>
    let (comma, opened) := match step with
      | .done _ => (true, opened)
      | .opened b _ => (false, b :: opened)
    match _h2 : passClosing comma opened step.rest with
    | .error e => .error e
    | .ok (none, rest) => .ok rest
    | .ok (some opened, rest) =>
      if opened.head? = some .object then
        match _h3 : passKey rest with
        | .error e => .error e
        | .ok rest => passValue opened rest
      else passValue opened rest
termination_by s.length
decreasing_by
  · have h1 := length_passStart_lt _h1
    have h2 := length_passClosing_le _h2
    have h3 := length_passKey_lt _h3
    omega
  · have h1 := length_passStart_lt _h1
    have h2 := length_passClosing_le _h2
    omega

/-- Passes over one value. -/
def skip (s : Bytes) : Except Halt Bytes := passValue [] s

theorem length_passValue_lt {opened : List Bracket} {s t : Bytes} (h : passValue opened s = .ok t) :
    t.length < s.length := by
  induction hn : s.length using Nat.strongRecOn generalizing opened s with
  | _ n ih =>
    subst hn
    unfold passValue at h
    split at h
    · simp at h
    · rename_i step h1
      have l1 := length_passStart_lt h1
      split at h
      split at h
      · simp at h
      · rename_i h2
        simp only [Except.ok.injEq] at h
        have l2 := length_passClosing_le h2
        rw [← h]
        omega
      · rename_i rest h2
        have l2 := length_passClosing_le h2
        split at h
        · split at h
          · simp at h
          · rename_i h3
            have l3 := length_passKey_lt h3
            have := ih _ (by omega) h rfl
            omega
        · have := ih _ (by omega) h rfl
          omega

theorem length_skip_lt {s t : Bytes} (h : skip s = .ok t) : t.length < s.length :=
  length_passValue_lt h

end BlockCoverage.Json
