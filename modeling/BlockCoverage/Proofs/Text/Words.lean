import BlockCoverage.Proofs.Text.Lines
import BlockCoverage.Text.Letter.Lower

/-!
# The words of a text

A text is spaced if it is some words with blanks around and between them, at least one blank between
two words. Cutting a text at its blanks gives just the words that it is spaced of:
`splitBlank_eq_cons` for the cutting, `exists_spaced` for the way back.

The letters A to Z are lowered one by one, so a word that is spelled like a word of small ASCII
letters up to case is lowered to that word (`toLower_eq_of_toLowerAscii`).
-/

namespace BlockCoverage.Text

/-- A word is not empty and has no blank in it. -/
def IsWord (w : String) : Prop := w ≠ "" ∧ ∀ c ∈ w.toList, isBlank c = false

instance : DecidablePred IsWord := fun w =>
  decidable_of_iff (w ≠ "" ∧ w.toList.all (fun c => !isBlank c) = true) (by simp [IsWord])

/-- What stands after a word of a spaced text: further words, each after at least one blank, and
blanks at the end. -/
inductive Spaced : List String → String → Prop where
  | ending {gap : String} (hgap : isBlankText gap = true) : Spaced [] gap
  | word {gap w rest : String} {ws : List String} (hne : gap ≠ "") (hgap : isBlankText gap = true)
      (hrest : Spaced ws rest) : Spaced (w :: ws) (gap ++ w ++ rest)

/-! ## Cutting at separators -/

section Words

variable {α : Type} {cut : α → Bool}

theorem words_append_of_cut {gap : List α} (h : gap.all cut = true) (s : List α) :
    words cut (gap ++ s) = words cut s := by
  induction gap with
  | nil => rfl
  | cons c gap ih =>
    obtain ⟨hc, hgap⟩ := Bool.and_eq_true_iff.mp (List.all_cons ▸ h)
    rw [List.cons_append, words_cons_cut hc, ih hgap]

/-- What has no separator lengthens the first piece of what it is put before. -/
theorem pieces_append_of_not_cut {w s p : List α} {ps : List (List α)} (h : ∀ c ∈ w, cut c = false)
    (hs : pieces cut s = p :: ps) : pieces cut (w ++ s) = (w ++ p) :: ps := by
  induction w with
  | nil => exact hs
  | cons c w ih =>
    obtain ⟨hc, hw⟩ := List.forall_mem_cons.mp h
    rw [List.cons_append, pieces, hc, if_neg Bool.false_ne_true, ih hw, List.cons_append]

theorem pieces_of_not_cut {w : List α} (h : ∀ c ∈ w, cut c = false) : pieces cut w = [w] := by
  have hlonger := pieces_append_of_not_cut (s := []) h rfl
  rwa [List.append_nil] at hlonger

/-- The first piece begins as the whole does, unless it is empty. -/
theorem head?_of_pieces_eq_cons {s p : List α} {ps : List (List α)} (h : pieces cut s = p :: ps) :
    p = [] ∨ p.head? = s.head? := by
  cases s with
  | nil =>
    obtain ⟨rfl, -⟩ := List.cons.inj h
    exact .inl rfl
  | cons c s =>
    rw [pieces] at h
    split at h
    · exact .inl (List.cons.inj h).1.symm
    · split at h
      · obtain ⟨rfl, -⟩ := List.cons.inj h
        exact .inr rfl
      · obtain ⟨rfl, -⟩ := List.cons.inj h
        exact .inr rfl

theorem words_of_not_cut {w : List α} (h : ∀ c ∈ w, cut c = false) (hne : w ≠ []) :
    words cut w = [w] := by
  rw [words, pieces_of_not_cut h]
  cases w with
  | nil => exact absurd rfl hne
  | cons c w => rfl

/-- A word that is followed by nothing or by a separator is the first one. -/
theorem words_append {w rest : List α} (h : ∀ c ∈ w, cut c = false) (hne : w ≠ [])
    (hrest : ∀ c ∈ rest.head?, cut c = true) : words cut (w ++ rest) = w :: words cut rest := by
  cases rest with
  | nil =>
    rw [List.append_nil, words_of_not_cut h hne]
    rfl
  | cons c rest =>
    have hc : cut c = true := hrest c rfl
    rw [words_cons_cut hc, words, pieces_append_cut hc, List.filter_append, ← words, ← words,
      words_of_not_cut h hne]
    rfl

end Words

/-! ## Spaced texts -/

theorem splitBlank_append_gap {gap : String} (h : isBlankText gap = true) (s : String) :
    splitBlank (gap ++ s) = splitBlank s := by
  rw [splitBlank, String.toList_append, words_append_of_cut h, splitBlank]

theorem splitBlank_append {w rest : String} (hw : IsWord w)
    (hrest : ∀ c ∈ rest.toList.head?, isBlank c = true) :
    splitBlank (w ++ rest) = w :: splitBlank rest := by
  have hne : w.toList ≠ [] := fun h => hw.1 (String.toList_eq_nil_iff.mp h)
  rw [splitBlank, String.toList_append, words_append hw.2 hne hrest, List.map_cons,
    String.ofList_toList, splitBlank]

theorem Spaced.head_blank {ws : List String} {rest : String} (h : Spaced ws rest) :
    ∀ c ∈ rest.toList.head?, isBlank c = true := by
  cases h with
  | ending hgap => exact fun c hc => List.all_eq_true.mp hgap c (List.mem_of_mem_head? hc)
  | @word gap w rest ws hne hgap hrest =>
    intro c hc
    rw [String.append_assoc, String.toList_append, List.head?_append] at hc
    cases hhead : gap.toList.head? with
    | none => exact absurd (String.toList_eq_nil_iff.mp (List.head?_eq_none_iff.mp hhead)) hne
    | some b =>
      rw [hhead, Option.some_or] at hc
      obtain rfl := Option.some.inj hc
      exact List.all_eq_true.mp hgap b (List.mem_of_mem_head? hhead)

theorem Spaced.splitBlank {ws : List String} {rest : String} (h : Spaced ws rest)
    (hws : ∀ w ∈ ws, IsWord w) : Text.splitBlank rest = ws := by
  induction h with
  | ending hgap => exact splitBlank_of_isBlankText hgap
  | word hne hgap hrest ih =>
    rw [String.append_assoc, splitBlank_append_gap hgap,
      splitBlank_append (hws _ List.mem_cons_self) hrest.head_blank,
      ih fun w hw => hws w (List.mem_cons_of_mem _ hw)]

/-- A spaced text is cut into its words. -/
theorem splitBlank_eq_cons {lead w rest : String} {ws : List String}
    (hlead : isBlankText lead = true)
    (hw : IsWord w) (hws : ∀ w ∈ ws, IsWord w) (hrest : Spaced ws rest) :
    splitBlank (lead ++ w ++ rest) = w :: ws := by
  rw [String.append_assoc, splitBlank_append_gap hlead, splitBlank_append hw hrest.head_blank,
    hrest.splitBlank hws]

theorem isBlankText_append {gap more : String} (hgap : isBlankText gap = true)
    (hmore : isBlankText more = true) : isBlankText (gap ++ more) = true := by
  rw [isBlankText, String.toList_append, List.all_append, ← isBlankText, ← isBlankText, hgap, hmore]
  rfl

/-- A blank in front of what stands after a word widens the gap. -/
theorem Spaced.prepend {ws : List String} {rest blank : String} (h : Spaced ws rest)
    (hne : blank ≠ "") (hblank : isBlankText blank = true) : Spaced ws (blank ++ rest) := by
  cases h with
  | ending hgap => exact .ending (isBlankText_append hblank hgap)
  | @word gap w rest ws _ hgap hrest =>
    rw [← String.append_assoc, ← String.append_assoc]
    refine .word (fun hempty => hne ?_) (isBlankText_append hblank hgap) hrest
    exact (String.append_eq_empty_iff.mp hempty).1

theorem isWord_ofList {part : List Char} (hne : part ≠ []) (h : ∀ c ∈ part, isBlank c = false) :
    IsWord (String.ofList part) := by
  refine ⟨fun hempty => hne ?_, by rwa [String.toList_ofList]⟩
  rw [← String.toList_ofList (l := part), hempty]
  rfl

/-- Every text begins with the part of a word, maybe none of it, and is spaced after that. -/
theorem exists_part (cs : List Char) :
    ∃ part ws rest, String.ofList cs = String.ofList part ++ rest ∧
      (∀ c ∈ part, isBlank c = false) ∧
      Spaced ws rest ∧ ∀ w ∈ ws, IsWord w := by
  induction cs with
  | nil =>
    exact ⟨[], [], "", rfl, fun c hc => absurd hc List.not_mem_nil, .ending rfl,
      fun w hw => absurd hw List.not_mem_nil⟩
  | cons c cs ih =>
    obtain ⟨part, ws, rest, htext, hpart, hspaced, hws⟩ := ih
    have hcons : String.ofList (c :: cs) = String.ofList [c] ++ String.ofList part ++ rest := by
      rw [String.append_assoc, ← htext, ← String.ofList_append]
      rfl
    cases hc : isBlank c with
    | false =>
      refine ⟨c :: part, ws, rest, ?_, ?_, hspaced, hws⟩
      · rw [hcons, ← String.ofList_append]
        rfl
      · exact List.forall_mem_cons.mpr ⟨hc, hpart⟩
    | true =>
      -- the part that follows the blank, if there is any, is a word
      have hblank : isBlankText (String.ofList [c]) = true := by
        rw [isBlankText, String.toList_ofList, List.all_cons, hc]
        rfl
      have hne : String.ofList [c] ≠ "" := fun h => by simpa using congrArg String.toList h
      rw [hcons]
      cases part with
      | nil =>
        refine ⟨[], ws, String.ofList [c] ++ rest, ?_, fun d hd => absurd hd List.not_mem_nil,
          hspaced.prepend hne hblank, hws⟩
        simp
      | cons d part =>
        have hword := isWord_ofList (List.cons_ne_nil d part) hpart
        exact ⟨[], _, _, by simp, fun d hd => absurd hd List.not_mem_nil,
          .word hne hblank hspaced, List.forall_mem_cons.mpr ⟨hword, hws⟩⟩

/-- A text that is cut into words is spaced of them. -/
theorem exists_spaced {text w : String} {ws : List String} (h : splitBlank text = w :: ws) :
    ∃ lead rest, text = lead ++ w ++ rest ∧ isBlankText lead = true ∧ IsWord w ∧
      Spaced ws rest ∧ ∀ w ∈ ws, IsWord w := by
  obtain ⟨part, ws', rest, htext, hpart, hspaced, hws⟩ := exists_part text.toList
  rw [String.ofList_toList] at htext
  cases part with
  | nil =>
    rw [show text = rest by simpa using htext] at h ⊢
    rw [hspaced.splitBlank hws] at h
    subst h
    cases hspaced with
    | word _ hgap hrest =>
      obtain ⟨hw, hws⟩ := List.forall_mem_cons.mp hws
      exact ⟨_, _, rfl, hgap, hw, hrest, hws⟩
  | cons c part =>
    have hword := isWord_ofList (List.cons_ne_nil c part) hpart
    rw [htext, splitBlank_append hword hspaced.head_blank, hspaced.splitBlank hws] at h
    obtain ⟨rfl, rfl⟩ := List.cons.inj h
    exact ⟨"", rest, by rw [htext, String.empty_append], rfl, hword, hspaced, hws⟩

/-! ## Small letters -/

/-- Only the first row of the table has ASCII letters. -/
theorem lowerChar_of_ascii {c : Char} (h : c.toNat < 128) : lowerChar c = c.toLower := by
  have hrows : ∀ r ∈ lowerRows.tail, 128 ≤ r.first := by decide +kernel
  have htail : lowerRows.tail.find? (fun r => r.first ≤ c.toNat && c.toNat ≤ r.last &&
      (c.toNat - r.first) % r.step == 0) = none := by
    refine List.find?_eq_none.mpr fun r hr hfound => ?_
    simp only [Bool.and_eq_true, decide_eq_true_eq] at hfound
    have := hrows r hr
    omega
  have hcons : lowerRows = ⟨0x41, 0x5A, 1, 32⟩ :: lowerRows.tail := rfl
  have hfirst : ∀ n < 128, (Char.ofNat n).toLower =
      if 65 ≤ n && n ≤ 90 && (n - 65) % 1 == 0 then Char.ofNat ((n : Int) + 32).toNat
      else Char.ofNat n := by decide +kernel
  have hc := hfirst c.toNat h
  rw [Char.ofNat_toNat] at hc
  rw [lowerChar, hcons, List.find?_cons, htail, hc]
  cases 65 ≤ c.toNat && c.toNat ≤ 90 && (c.toNat - 65) % 1 == 0 <;> rfl

theorem lowerFrom_of_ascii {cs : List Char} (h : ∀ c ∈ cs, c.toNat < 128) (before : List Char) :
    lowerFrom before cs = cs.map Char.toLower := by
  induction cs generalizing before with
  | nil => rfl
  | cons c cs ih =>
    obtain ⟨hc, hcs⟩ := List.forall_mem_cons.mp h
    -- the two exceptions are no ASCII letters
    have hne : ∀ d : Char, 128 ≤ d.toNat → c ≠ d := fun d hd hcd => by
      rw [hcd] at hc
      omega
    rw [lowerFrom, if_neg (hne 'Σ' (by decide)), if_neg (hne 'İ' (by decide)), ih hcs,
      lowerChar_of_ascii hc]
    rfl

theorem toNat_lt_of_toLower {c : Char} (h : c.toLower.toNat < 128) : c.toNat < 128 := by
  unfold Char.toLower at h
  split at h
  · rename_i hupper
    have hle : c.val.toNat ≤ 90 := UInt32.le_iff_toNat_le.mp hupper.2
    exact Nat.lt_of_le_of_lt hle (by decide)
  · exact h

/-- A word that is spelled with letters of either case is lowered to the one with small letters. -/
theorem toLower_eq_of_toLowerAscii {s : String} (h : ∀ c ∈ (toLowerAscii s).toList, c.toNat < 128) :
    toLower s = toLowerAscii s := by
  rw [toLowerAscii, String.toList_ofList] at h
  rw [toLower, lowerFrom_of_ascii, toLowerAscii]
  exact fun c hc => toNat_lt_of_toLower (h _ (List.mem_map_of_mem hc))

end BlockCoverage.Text
