import BlockCoverage.Json.Scan
import BlockCoverage.Ordered.Map

/-!
# Readers

A reader takes a value of one kind from the front of the octets that are left. It is driven by the
kind that is wanted: a value of another kind is a fault at the place where that value has been read.
Every reader consumes something, and carries the proof, so a list or an object can be read element
by element with any reader for its elements.
-/

namespace BlockCoverage.Json

open Text (Bytes)

/-- Reads one value and gives back the octets after it. -/
structure Reader (α : Type) where
  /-- The reading. -/
  run : Bytes → Except Halt (α × Bytes)
  /-- A value takes at least one octet. -/
  shrinks : ∀ {s t : Bytes} {a : α}, run s = .ok (a, t) → t.length < s.length

/-- The number that a numeral stands for, as it is named in messages. -/
def Numeral.found : Numeral → Found
  | natural n => .integer n
  | negative n => .integer (-n)
  | real bits => .real bits

/-- A fault for the value at the front of `s`, whose kind is not the expected one. The value is read
first, and a fault inside it comes before. -/
def mismatch (expected : String) (s : Bytes) : Halt :=
  match s with
  | [] => ⟨.endInValue, 0⟩
  | b :: rest =>
    let afterLiteral := fun (spelling : Bytes) (found : Found) =>
      match literal spelling rest with
      | .error e => e
      | .ok rest => .after (.wrongType found expected) rest
    let afterNumber := fun (r : Except Halt (Numeral × Bytes)) =>
      match r with
      | .error e => e
      | .ok (n, rest) => .after (.wrongType n.found expected) rest
    if b = 110 then afterLiteral [117, 108, 108] .null
    else if b = 116 then afterLiteral [114, 117, 101] (.boolean true)
    else if b = 102 then afterLiteral [97, 108, 115, 101] (.boolean false)
    else if b = 45 then afterNumber (number false rest)
    else if isDigit b then afterNumber (number true (b :: rest))
    else if b = 34 then
      match textBody rest with
      | .error e => e
      | .ok (u, rest) => .after (.wrongType (.text (Text.Utf8.decodeLossy u)) expected) rest
    else if b = 91 then .after (.wrongType .sequence expected) (b :: rest)
    else if b = 123 then .after (.wrongType .map expected) (b :: rest)
    else .peeking .expectedValue (b :: rest)

namespace Reader

variable {α β : Type}

/-- Changes what a reader gives. -/
def map (f : α → β) (r : Reader α) : Reader β where
  run s :=
    match r.run s with
    | .error e => .error e
    | .ok (a, t) => .ok (f a, t)
  shrinks := by
    intro s t b h
    split at h
    · simp at h
    · rename_i hr
      simp only [Except.ok.injEq, Prod.mk.injEq] at h
      rw [← h.2]
      exact r.shrinks hr

/-- Reads a string. -/
def text : Reader String where
  run s :=
    match skipBlank s with
    | [] => .error ⟨.endInValue, 0⟩
    | b :: rest =>
      if b = 34 then
        match textBody rest with
        | .error e => .error e
        | .ok (u, t) => .ok (Text.Utf8.decodeLossy u, t)
      else .error (mismatch "a string" (b :: rest))
  shrinks := by
    intro s t a h
    have hs := length_skipBlank_le s
    split at h
    · simp at h
    · rename_i b rest heq
      rw [heq, List.length_cons] at hs
      split at h
      · split at h
        · simp at h
        · rename_i hb
          simp only [Except.ok.injEq, Prod.mk.injEq] at h
          rw [← h.2]
          exact Nat.lt_of_lt_of_le (Nat.lt_succ_of_lt (length_textBody_lt hb)) hs
      · simp at h

/-- The whole number that a numeral stands for, if it lies below `limit`. -/
def checkBelow (limit : Nat) (expected : String) (rest : Bytes) :
    Numeral → Except Halt (Nat × Bytes)
  | .natural n => if n < limit then .ok (n, rest) else .error (.after (.wrongValue n expected) rest)
  | .negative n => .error (.after (.wrongValue (-n) expected) rest)
  | .real bits => .error (.after (.wrongType (.real bits) expected) rest)

theorem checkBelow_rest {limit n : Nat} {expected : String} {rest t : Bytes} {m : Numeral}
    (h : checkBelow limit expected rest m = .ok (n, t)) : t = rest := by
  cases m with
  | natural k =>
    rw [checkBelow] at h
    split at h
    · simp only [Except.ok.injEq, Prod.mk.injEq] at h
      exact h.2.symm
    · simp at h
  | negative k => simp [checkBelow] at h
  | real bits => simp [checkBelow] at h

/-- Reads a whole number below `limit`. -/
def below (limit : Nat) (expected : String) : Reader Nat where
  run s :=
    match skipBlank s with
    | [] => .error ⟨.endInValue, 0⟩
    | b :: rest =>
      if b = 45 then
        match number false rest with
        | .error e => .error e
        | .ok (n, t) => checkBelow limit expected t n
      else if isDigit b then
        match number true (b :: rest) with
        | .error e => .error e
        | .ok (n, t) => checkBelow limit expected t n
      else .error (mismatch expected (b :: rest))
  shrinks := by
    intro s t a h
    have hs := length_skipBlank_le s
    split at h
    · simp at h
    · rename_i b rest heq
      rw [heq] at hs
      split at h
      · split at h
        · simp at h
        · rename_i hn
          have h1 := checkBelow_rest h
          have h2 := length_number_lt hn
          rw [List.length_cons] at hs
          rw [h1]
          omega
      · split at h
        · split at h
          · simp at h
          · rename_i hn
            have h1 := checkBelow_rest h
            have h2 := length_number_lt hn
            rw [h1]
            exact Nat.lt_of_lt_of_le h2 hs
        · simp at h

/-- Reads a number of 32 bits. -/
def word32 : Reader UInt32 := (below 4294967296 "u32").map UInt32.ofNat

/-- Reads a number of 64 bits. -/
def word64 : Reader UInt64 := (below 18446744073709551616 "u64").map UInt64.ofNat

end Reader

/-! ## Lists -/

/-- Where the next element of a list starts, or `none` at its closing bracket, which is not
consumed. -/
def nextElement (first : Bool) (s : Bytes) : Except Halt (Bool × Bytes) :=
  match skipBlank s with
  | [] => .error ⟨.endInList, 0⟩
  | b :: rest =>
    if b = 93 then .ok (false, b :: rest)
    else if first then .ok (true, b :: rest)
    else if b = 44 then
      match skipBlank rest with
      | [] => .error ⟨.endInValue, 0⟩
      | c :: rest =>
        if c = 93 then .error (.peeking .trailingComma (c :: rest)) else .ok (true, c :: rest)
    else .error (.peeking .expectedListEnd (b :: rest))

theorem length_nextElement_le {first more : Bool} {s t : Bytes}
    (h : nextElement first s = .ok (more, t)) : t.length ≤ s.length := by
  have hs := length_skipBlank_le s
  unfold nextElement at h
  split at h
  · simp at h
  · rename_i b rest heq
    rw [heq] at hs
    split at h
    · simp only [Except.ok.injEq, Prod.mk.injEq] at h
      rw [← h.2]
      exact hs
    · split at h
      · simp only [Except.ok.injEq, Prod.mk.injEq] at h
        rw [← h.2]
        exact hs
      · split at h
        · have hr := length_skipBlank_le rest
          split at h
          · simp at h
          · rename_i c rest' heq'
            rw [heq'] at hr
            split at h
            · simp at h
            · simp only [Except.ok.injEq, Prod.mk.injEq] at h
              rw [← h.2]
              exact Nat.le_trans hr (Nat.le_of_succ_le hs)
        · simp at h

/-- Reads the elements of a list up to its closing bracket, which is not consumed. -/
def elements {α : Type} (item : Reader α) (first : Bool) (s : Bytes) :
    Except Halt (List α × Bytes) :=
  match _hn : nextElement first s with
  | .error e => .error e
  | .ok (false, t) => .ok ([], t)
  | .ok (true, t) =>
    match _hr : item.run t with
    | .error e => .error e
    | .ok (a, u) =>
      match elements item false u with
      | .error e => .error e
      | .ok (as, v) => .ok (a :: as, v)
termination_by s.length
decreasing_by
  have h1 := length_nextElement_le _hn
  have h2 := item.shrinks _hr
  omega

theorem length_elements_le {α : Type} {item : Reader α} {first : Bool} {s t : Bytes} {as : List α}
    (h : elements item first s = .ok (as, t)) : t.length ≤ s.length := by
  fun_induction elements item first s generalizing as t with
  | case1 => simp at h
  | case2 first s t' hn =>
    simp only [Except.ok.injEq, Prod.mk.injEq] at h
    rw [← h.2]
    exact length_nextElement_le hn
  | case3 => simp at h
  | case4 => simp at h
  | case5 first s t' hn a u hr as' v hv ih =>
    simp only [Except.ok.injEq, Prod.mk.injEq] at h
    have h1 := length_nextElement_le hn
    have h2 := item.shrinks hr
    have h3 := ih hv
    rw [← h.2]
    omega

/-! ## Objects -/

/-- Where the next key of an object starts, or `none` at its closing brace, which is not
consumed. -/
def nextKey (first : Bool) (s : Bytes) : Except Halt (Bool × Bytes) :=
  match skipBlank s with
  | [] => .error ⟨.endInObject, 0⟩
  | b :: rest =>
    if b = 125 then .ok (false, b :: rest)
    else if first then
      if b = 34 then .ok (true, rest) else .error (.peeking .keyNotString (b :: rest))
    else if b = 44 then
      match skipBlank rest with
      | [] => .error ⟨.endInValue, 0⟩
      | c :: rest =>
        if c = 34 then .ok (true, rest)
        else if c = 125 then .error (.peeking .trailingComma (c :: rest))
        else .error (.peeking .keyNotString (c :: rest))
    else .error (.peeking .expectedObjectEnd (b :: rest))

theorem length_nextKey_le {first more : Bool} {s t : Bytes}
    (h : nextKey first s = .ok (more, t)) : t.length ≤ s.length := by
  have hs := length_skipBlank_le s
  unfold nextKey at h
  split at h
  · simp at h
  · rename_i b rest heq
    rw [heq] at hs
    split at h
    · simp only [Except.ok.injEq, Prod.mk.injEq] at h
      rw [← h.2]
      exact hs
    · split at h
      · split at h
        · simp only [Except.ok.injEq, Prod.mk.injEq] at h
          rw [← h.2]
          exact Nat.le_of_succ_le hs
        · simp at h
      · split at h
        · have hr := length_skipBlank_le rest
          split at h
          · simp at h
          · rename_i c rest' heq'
            rw [heq', List.length_cons] at hr
            rw [List.length_cons] at hs
            split at h
            · simp only [Except.ok.injEq, Prod.mk.injEq] at h
              rw [← h.2]
              omega
            · split at h
              · simp at h
              · simp at h
        · simp at h

/-- Passes over the colon between a key and its value. -/
def colon (s : Bytes) : Except Halt Bytes :=
  match skipBlank s with
  | [] => .error ⟨.endInObject, 0⟩
  | b :: rest => if b = 58 then .ok rest else .error (.peeking .expectedColon (b :: rest))

theorem length_colon_le {s t : Bytes} (h : colon s = .ok t) : t.length ≤ s.length := by
  have hs := length_skipBlank_le s
  unfold colon at h
  split at h
  · simp at h
  · rename_i b rest heq
    rw [heq, List.length_cons] at hs
    split at h
    · simp only [Except.ok.injEq] at h
      rw [← h]
      omega
    · simp at h

/-- Reads the members of an object up to its closing brace, which is not consumed. -/
def members {α : Type} (item : Reader α) (first : Bool) (s : Bytes) :
    Except Halt (List (String × α) × Bytes) :=
  match _hn : nextKey first s with
  | .error e => .error e
  | .ok (false, t) => .ok ([], t)
  | .ok (true, t) =>
    match _hk : textBody t with
    | .error e => .error e
    | .ok (key, u) =>
      match _hc : colon u with
      | .error e => .error e
      | .ok v =>
        match _hr : item.run v with
        | .error e => .error e
        | .ok (a, w) =>
          match members item false w with
          | .error e => .error e
          | .ok (as, x) => .ok ((Text.Utf8.decodeLossy key, a) :: as, x)
termination_by s.length
decreasing_by
  have h1 := length_nextKey_le _hn
  have h2 := length_textBody_lt _hk
  have h3 := length_colon_le _hc
  have h4 := item.shrinks _hr
  omega

theorem length_members_le {α : Type} {item : Reader α} {first : Bool} {s t : Bytes}
    {as : List (String × α)} (h : members item first s = .ok (as, t)) : t.length ≤ s.length := by
  fun_induction members item first s generalizing as t with
  | case1 => simp at h
  | case2 first s t' hn =>
    simp only [Except.ok.injEq, Prod.mk.injEq] at h
    rw [← h.2]
    exact length_nextKey_le hn
  | case3 => simp at h
  | case4 => simp at h
  | case5 => simp at h
  | case6 => simp at h
  | case7 first s t' hn key u hk v hc a w hr as' x hx ih =>
    simp only [Except.ok.injEq, Prod.mk.injEq] at h
    have h1 := length_nextKey_le hn
    have h2 := length_textBody_lt hk
    have h3 := length_colon_le hc
    have h4 := item.shrinks hr
    have h5 := ih hx
    rw [← h.2]
    omega

namespace Reader

variable {α : Type}

/-- Reads a list. -/
def list (item : Reader α) : Reader (List α) where
  run s :=
    match skipBlank s with
    | [] => .error ⟨.endInValue, 0⟩
    | b :: rest =>
      if b = 91 then
        match elements item true rest with
        | .error e => .error e
        | .ok (as, t) => .ok (as, t.tail)
      else .error (mismatch "a sequence" (b :: rest))
  shrinks := by
    intro s t a h
    have hs := length_skipBlank_le s
    split at h
    · simp at h
    · rename_i b rest heq
      rw [heq, List.length_cons] at hs
      split at h
      · split at h
        · simp at h
        · rename_i he
          simp only [Except.ok.injEq, Prod.mk.injEq] at h
          have := length_elements_le he
          rw [← h.2, List.length_tail]
          omega
      · simp at h

/-- Reads an object with keys of any name; a key that comes twice keeps its last value. -/
def table (item : Reader α) : Reader (OrderedMap String α) where
  run s :=
    match skipBlank s with
    | [] => .error ⟨.endInValue, 0⟩
    | b :: rest =>
      if b = 123 then
        match members item true rest with
        | .error e => .error e
        | .ok (as, t) => .ok (OrderedMap.ofList as, t.tail)
      else .error (mismatch "a map" (b :: rest))
  shrinks := by
    intro s t a h
    have hs := length_skipBlank_le s
    split at h
    · simp at h
    · rename_i b rest heq
      rw [heq, List.length_cons] at hs
      split at h
      · split at h
        · simp at h
        · rename_i he
          simp only [Except.ok.injEq, Prod.mk.injEq] at h
          have := length_members_le he
          rw [← h.2, List.length_tail]
          omega
      · simp at h

/-- Reads a whole document: one value, and nothing but blanks after it. -/
def document (r : Reader α) (text : String) : Except Fault α :=
  let all := Text.Utf8.encode text
  match r.run all with
  | .error e => .error (e.locate all)
  | .ok (a, rest) =>
    match skipBlank rest with
    | [] => .ok a
    | more => .error ((Halt.peeking .trailingCharacters more).locate all)

end Reader

end BlockCoverage.Json
