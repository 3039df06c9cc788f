import BlockCoverage.Json.Reader
import BlockCoverage.Json.Skip

/-!
# Records

A record has named fields. It is written as an object, where fields come in any order and unknown
ones are passed over, or as a list of the field values in declaration order. The fields that have
been read are gathered in a draft; when the record ends, the draft is finished, or the first
required field that is missing is named.
-/

namespace BlockCoverage.Json

open Text (Bytes)

/-- A field of records drafted as `σ`. -/
structure Field (σ : Type) where
  /-- The key of the field. -/
  name : String
  /-- Reads the value and says how it enters the draft. -/
  value : Reader (σ → σ)
  /-- Whether the draft already holds the field. -/
  given : σ → Bool

/-- A kind of record. -/
structure Format (σ α : Type) where
  /-- The name of the kind in messages. -/
  name : String
  /-- The fields in declaration order. -/
  fields : List (Field σ)
  /-- The draft with no field given. -/
  blank : σ
  /-- The record, or the name of the first required field that is missing. -/
  finish : σ → Except String α

namespace Format

variable {σ α : Type}

/-- The octets left once a record that already failed is closed: blanks are consumed, and the
closing bracket if it comes next. -/
def closeAfterFault (bracket : UInt8) (s : Bytes) : Bytes :=
  match skipBlank s with
  | [] => []
  | b :: rest => if b = bracket then rest else b :: rest

/-- Reads the members of a record into a draft, up to its closing brace, which is not consumed. -/
def members (fields : List (Field σ)) (first : Bool) (draft : σ) (s : Bytes) :
    Except Halt (σ × Bytes) :=
  match _hn : nextKey first s with
  | .error e => .error e
  | .ok (false, t) => .ok (draft, t)
  | .ok (true, t) =>
    match _hk : textBody t with
    | .error e => .error e
    | .ok (key, u) =>
      let name := Text.Utf8.decodeLossy key
      match fields.find? (fun f => f.name == name) with
      | none =>
        match _hc : colon u with
        | .error e => .error e
        | .ok v =>
          match _hr : skip v with
          | .error e => .error e
          | .ok w => members fields false draft w
      | some f =>
        if f.given draft then
          .error (.after (.duplicateField name) (closeAfterFault 125 u))
        else
          match _hc : colon u with
          | .error e => .error e
          | .ok v =>
            match _hr : f.value.run v with
            | .error e => .error e
            | .ok (enter, w) => members fields false (enter draft) w
termination_by s.length
decreasing_by
  · have h1 := length_nextKey_le _hn
    have h2 := length_textBody_lt _hk
    have h3 := length_colon_le _hc
    have h4 := length_skip_lt _hr
    omega
  · have h1 := length_nextKey_le _hn
    have h2 := length_textBody_lt _hk
    have h3 := length_colon_le _hc
    have h4 := f.value.shrinks _hr
    omega

theorem length_members_le {fields : List (Field σ)} {first : Bool} {draft d : σ} {s t : Bytes}
    (h : members fields first draft s = .ok (d, t)) : t.length ≤ s.length := by
  induction hn : s.length using Nat.strongRecOn generalizing first draft s with
  | _ n ih =>
    subst hn
    unfold members at h
    split at h
    · simp at h
    · rename_i hn
      simp only [Except.ok.injEq, Prod.mk.injEq] at h
      rw [← h.2]
      exact length_nextKey_le hn
    · rename_i hn
      have l1 := length_nextKey_le hn
      split at h
      · simp at h
      · rename_i hk
        have l2 := length_textBody_lt hk
        dsimp only at h
        split at h
        · split at h
          · simp at h
          · rename_i hc
            have l3 := length_colon_le hc
            split at h
            · simp at h
            · rename_i hr
              have l4 := length_skip_lt hr
              have := ih _ (by omega) h rfl
              omega
        · rename_i f _
          split at h
          · simp at h
          · split at h
            · simp at h
            · rename_i hc
              have l3 := length_colon_le hc
              split at h
              · simp at h
              · rename_i hr
                have l4 := f.value.shrinks hr
                have := ih _ (by omega) h rfl
                omega

/-- Reads list elements as the given fields, up to the closing bracket or the last field. -/
def items : List (Field σ) → Bool → σ → Bytes → Except Halt (σ × Bytes)
  | [], _, draft, s => .ok (draft, s)
  | f :: fields, first, draft, s =>
    match nextElement first s with
    | .error e => .error e
    | .ok (false, t) => .ok (draft, t)
    | .ok (true, t) =>
      match f.value.run t with
      | .error e => .error e
      | .ok (enter, u) => items fields false (enter draft) u

theorem length_items_le {fields : List (Field σ)} {first : Bool} {draft d : σ} {s t : Bytes}
    (h : items fields first draft s = .ok (d, t)) : t.length ≤ s.length := by
  induction fields generalizing first draft s with
  | nil =>
    simp only [items, Except.ok.injEq, Prod.mk.injEq] at h
    simp [h.2]
  | cons f fields ih =>
    rw [items] at h
    split at h
    · simp at h
    · rename_i hn
      simp only [Except.ok.injEq, Prod.mk.injEq] at h
      rw [← h.2]
      exact length_nextElement_le hn
    · rename_i hn
      have l1 := length_nextElement_le hn
      split at h
      · simp at h
      · rename_i hr
        have l2 := f.value.shrinks hr
        have := ih h
        omega

/-- Passes over the closing bracket of a record written as a list. -/
def closeList (s : Bytes) : Except Halt Bytes :=
  match skipBlank s with
  | [] => .error ⟨.endInList, 0⟩
  | b :: rest =>
    if b = 93 then .ok rest
    else if b = 44 then
      match skipBlank rest with
      | [] => .error ⟨.trailingCharacters, 0⟩
      | c :: rest =>
        if c = 93 then .error (.peeking .trailingComma (c :: rest))
        else .error (.peeking .trailingCharacters (c :: rest))
    else .error (.peeking .trailingCharacters (b :: rest))

theorem length_closeList_le {s t : Bytes} (h : closeList s = .ok t) : t.length ≤ s.length := by
  have hs := length_skipBlank_le s
  unfold closeList at h
  split at h
  · simp at h
  · rename_i b rest heq
    rw [heq, List.length_cons] at hs
    split at h
    · simp only [Except.ok.injEq] at h
      rw [← h]
      omega
    · split at h
      · split at h
        · simp at h
        · split at h <;> simp at h
      · simp at h

/-- The cause for a list of values that ends before the field `name`. -/
def tooShort (f : Format σ α) (name : String) : Cause :=
  .wrongLength (f.fields.findIdx (fun g => g.name == name))
    ("struct " ++ f.name ++ " with " ++ Nat.repr f.fields.length ++ " elements")

/-- Reads a record. -/
def reader (f : Format σ α) : Reader α where
  run s :=
    match skipBlank s with
    | [] => .error ⟨.endInValue, 0⟩
    | b :: rest =>
      if b = 123 then
        match members f.fields true f.blank rest with
        | .error e => .error e
        | .ok (draft, t) =>
          match f.finish draft with
          | .error name => .error (.after (.missingField name) t.tail)
          | .ok a => .ok (a, t.tail)
      else if b = 91 then
        match items f.fields true f.blank rest with
        | .error e => .error e
        | .ok (draft, t) =>
          match f.finish draft with
          | .error name => .error (.after (f.tooShort name) (closeAfterFault 93 t))
          | .ok a =>
            match closeList t with
            | .error e => .error e
            | .ok u => .ok (a, u)
      else .error (mismatch ("struct " ++ f.name) (b :: rest))
  shrinks := by
    intro s t a h
    have hs := length_skipBlank_le s
    split at h
    · simp at h
    · rename_i b rest heq
      rw [heq, List.length_cons] at hs
      split at h
      · split at h
        · simp at h
        · rename_i hm
          have := length_members_le hm
          split at h
          · simp at h
          · simp only [Except.ok.injEq, Prod.mk.injEq] at h
            rw [← h.2, List.length_tail]
            omega
      · split at h
        · split at h
          · simp at h
          · rename_i hm
            have h1 := length_items_le hm
            split at h
            · simp at h
            · split at h
              · simp at h
              · rename_i hc
                simp only [Except.ok.injEq, Prod.mk.injEq] at h
                have h2 := length_closeList_le hc
                rw [← h.2]
                omega
        · simp at h

end Format

end BlockCoverage.Json
