import BlockCoverage.Proofs.Json.Grammar
import BlockCoverage.Proofs.Json.Numeral

/-!
# The lines between brackets

The parts of a list or an object may stand on lines of their own or have other blanks around them. A
reader does not see the blanks: it passes over them wherever it looks. `Lines` says what stands
between two brackets up to blanks, so the loops of a reader are followed along `Lines`, and
`Brackets.encloses` is the only place that knows where blanks may stand.
-/

namespace BlockCoverage.Json

open Text (Bytes)

theorem skipBlank_cons {b : UInt8} (h : isBlank b = false) (s : Bytes) :
    skipBlank (b :: s) = b :: s :=
  List.dropWhile_cons_of_neg (by rw [h]; decide)

/-- Octets that begin with something that a reader looks for. -/
def Visible (p : Bytes) : Prop := ∃ b t, p = b :: t ∧ isBlank b = false

theorem Visible.skipBlank {p : Bytes} (h : Visible p) (s : Bytes) :
    skipBlank (p ++ s) = p ++ s := by
  obtain ⟨b, t, rfl, hb⟩ := h
  exact skipBlank_cons hb (t ++ s)

/-- What stands after an opening bracket: parts with commas between them, and the closing bracket.
Only the first part has no comma before it. -/
inductive Lines (closing : UInt8) : Bool → List Bytes → Bytes → Bytes → Prop where
  | close {first : Bool} {s rest : Bytes} (h : skipBlank s = closing :: rest) :
      Lines closing first [] s rest
  | first {p : Bytes} {ps : List Bytes} {s t rest : Bytes} (h : skipBlank s = p ++ t)
      (hends : Ends t) (hrest : Lines closing false ps t rest) : Lines closing true (p :: ps) s rest
  | next {p : Bytes} {ps : List Bytes} {s u t rest : Bytes} (hcomma : skipBlank s = 44 :: u)
      (h : skipBlank u = p ++ t) (hends : Ends t) (hrest : Lines closing false ps t rest) :
      Lines closing false (p :: ps) s rest

/-- Octets that hold the given parts between brackets. -/
def Encloses (opening closing : UInt8) (parts : List Bytes) (p : Bytes) : Prop :=
  ∀ rest, ∃ s, p ++ rest = opening :: s ∧ Lines closing true parts s rest

/-! ## Blanks -/

theorem Gap.isBlank {gap : String} (h : Gap gap) :
    ∀ b ∈ Text.Utf8.encode gap, Json.isBlank b = true := by
  intro b hb
  obtain ⟨c, hc, hb⟩ := List.mem_flatMap.mp hb
  rcases h c hc with rfl | rfl | rfl | rfl <;>
    · rw [List.mem_singleton.mp hb]
      rfl

theorem Gap.skipBlank {gap : String} (h : Gap gap) (s : Bytes) :
    Json.skipBlank (Text.Utf8.encode gap ++ s) = Json.skipBlank s :=
  List.dropWhile_append_of_pos h.isBlank

theorem Gap.ends {gap : String} (h : Gap gap) {s : Bytes} (hs : Ends s) :
    Ends (Text.Utf8.encode gap ++ s) := by
  intro b hb
  cases hgap : Text.Utf8.encode gap with
  | nil => exact hs b (by rwa [hgap, List.nil_append] at hb)
  | cons c cs =>
    rw [hgap, List.cons_append, List.head?_cons, Option.mem_some_iff] at hb
    exact .inl (hb ▸ h.isBlank c (by rw [hgap]; exact List.mem_cons_self))

/-! ## Brackets -/

section Brackets

variable {closing : UInt8} (hclosing : closing = 93 ∨ closing = 125)

include hclosing

theorem isBlank_closing : isBlank closing = false := by
  rcases hclosing with rfl | rfl <;> rfl

theorem ends_closing (rest : Bytes) : Ends (closing :: rest) := by
  intro b hb
  obtain rfl := Option.some.inj hb
  exact .inr (.inr hclosing)

/-- The first of some parts, and the lines after it. -/
theorem Commas.exists_first {parts : List String} {s : String} (h : Commas parts s)
    (hparts : ∀ p ∈ parts, Visible (Text.Utf8.encode p)) (rest : Bytes) :
    ∃ p ps t, parts.map Text.Utf8.encode = p :: ps ∧
      skipBlank (Text.Utf8.encode s ++ closing :: rest) = p ++ t ∧ Ends t ∧
      Lines closing false ps t rest := by
  -- blanks in front of a part go with its own line, those behind it with the next one
  induction h with
  | @last before p after hbefore hafter =>
    refine ⟨_, _, Text.Utf8.encode after ++ closing :: rest, rfl, ?_, ?_, .close ?_⟩
    · simp only [Text.Utf8.encode_append, List.append_assoc]
      rw [hbefore.skipBlank, (hparts p List.mem_cons_self).skipBlank]
    · exact hafter.ends (ends_closing hclosing rest)
    · rw [hafter.skipBlank, skipBlank_cons (isBlank_closing hclosing)]
  | @more before p after s ps hbefore hafter _ ih =>
    obtain ⟨q, qs, t, hps, hfirst, hends, hlines⟩ :=
      ih fun r hr => hparts r (List.mem_cons_of_mem p hr)
    refine ⟨_, _, Text.Utf8.encode after ++ 44 :: (Text.Utf8.encode s ++ closing :: rest), rfl,
      ?_, hafter.ends (ends_comma _), ?_⟩
    · have hcomma : Text.Utf8.encode "," = [44] := rfl
      simp only [Text.Utf8.encode_append, List.append_assoc, hcomma, List.cons_append,
        List.nil_append]
      rw [hbefore.skipBlank, (hparts p List.mem_cons_self).skipBlank]
    · rw [hps]
      exact .next ((hafter.skipBlank _).trans (skipBlank_cons rfl _)) hfirst hends hlines

/-- Parts between brackets in a text are enclosed by the octets of the brackets. -/
theorem Brackets.encloses {left right : String} {opening : UInt8} {parts : List String}
    {text : String} (h : Brackets left right parts text) (hleft : Text.Utf8.encode left = [opening])
    (hright : Text.Utf8.encode right = [closing])
    (hparts : ∀ p ∈ parts, Visible (Text.Utf8.encode p)) :
    Encloses opening closing (parts.map Text.Utf8.encode) (Text.Utf8.encode text) := by
  intro rest
  cases h with
  | @empty gap hgap =>
    refine ⟨Text.Utf8.encode gap ++ closing :: rest, ?_, .close ?_⟩
    · simp only [Text.Utf8.encode_append, hleft, hright, List.append_assoc, List.cons_append,
        List.nil_append]
    · rw [hgap.skipBlank, skipBlank_cons (isBlank_closing hclosing)]
  | @parts s ps hcommas =>
    obtain ⟨p, ps, t, hps, hfirst, hends, hlines⟩ := hcommas.exists_first hclosing hparts rest
    refine ⟨Text.Utf8.encode s ++ closing :: rest, ?_, hps ▸ .first hfirst hends hlines⟩
    simp only [Text.Utf8.encode_append, hleft, hright, List.append_assoc, List.cons_append,
        List.nil_append]

end Brackets

/-- What holds of all that is written in some way holds of every part. -/
theorem forall_mem_parts {α : Type} {R : α → String → Prop} {P : String → Prop} {as : List α}
    {parts : List String} (h : List.Forall₂ R as parts) (hP : ∀ a p, R a p → P p) :
    ∀ p ∈ parts, P p :=
  ((List.forall₂_and_left parts as).mp (h.imp fun a p hR => ⟨hP a p hR, hR⟩).flip).1

theorem Brackets.encloses_list {parts : List String} {text : String}
    (h : Brackets "[" "]" parts text) (hparts : ∀ p ∈ parts, Visible (Text.Utf8.encode p)) :
    Encloses 91 93 (parts.map Text.Utf8.encode) (Text.Utf8.encode text) :=
  h.encloses (.inl rfl) rfl rfl hparts

theorem Brackets.encloses_object {parts : List String} {text : String}
    (h : Brackets "\x7b" "\x7d" parts text) (hparts : ∀ p ∈ parts, Visible (Text.Utf8.encode p)) :
    Encloses 123 125 (parts.map Text.Utf8.encode) (Text.Utf8.encode text) :=
  h.encloses (.inr rfl) rfl rfl hparts

end BlockCoverage.Json
