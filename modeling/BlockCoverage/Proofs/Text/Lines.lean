import BlockCoverage.Text.Blank
import BlockCoverage.Text.Lines

/-!
# Lines and words of a text cut in two

A separator cuts a sequence in two whose pieces are the pieces of the whole (`pieces_append_cut`).
Everything about lines and words here follows from this one equation: what comes after a line feed
does not change the lines before it, and a text of blanks has no words.
-/

namespace BlockCoverage.Text

variable {α : Type}

/-- The pieces before a separator and after it are the pieces of the whole. -/
theorem pieces_append_cut {cut : α → Bool} {c : α} (hc : cut c = true) (head tail : List α) :
    pieces cut (head ++ c :: tail) = pieces cut head ++ pieces cut tail := by
  induction head with
  | nil =>
    show pieces cut (c :: tail) = [] :: pieces cut tail
    rw [pieces, if_pos hc]
  | cons d head ih =>
    rw [List.cons_append, pieces, pieces, ih]
    by_cases hd : cut d = true
    · rw [if_pos hd, if_pos hd, List.cons_append]
    · rw [if_neg hd, if_neg hd]
      -- the first piece of the whole is the first piece of the head
      cases hpieces : pieces cut head with
      | nil => exact absurd hpieces (pieces_ne_nil cut head)
      | cons p ps => rfl

theorem words_cons_cut {cut : α → Bool} {c : α} (hc : cut c = true) (s : List α) :
    words cut (c :: s) = words cut s := by
  have hpieces := pieces_append_cut hc [] s
  rw [List.nil_append] at hpieces
  rw [words, hpieces, List.filter_append]
  rfl

theorem words_eq_nil {cut : α → Bool} {s : List α} (h : s.all cut = true) : words cut s = [] := by
  induction s with
  | nil => rfl
  | cons c s ih =>
    obtain ⟨hc, hs⟩ := Bool.and_eq_true_iff.mp (List.all_cons ▸ h)
    rw [words_cons_cut hc, ih hs]

theorem splitBlank_of_isBlankText {s : String} (h : isBlankText s = true) : splitBlank s = [] := by
  rw [splitBlank, words_eq_nil h, List.map_nil]

/-! ## Lines -/

section Lines

variable [DecidableEq α] (feed ret : α)

theorem linesOf_append_feed (head tail : List α) :
    linesOf feed ret (head ++ feed :: tail) =
      (pieces (fun c => decide (c = feed)) head).map (dropLastIf ret) ++ linesOf feed ret tail := by
  have hpieces : pieces (fun c => decide (c = feed)) (head ++ feed :: tail) =
      pieces (fun c => decide (c = feed)) head ++ pieces (fun c => decide (c = feed)) tail :=
    pieces_append_cut (by rw [decide_eq_true_iff]) head tail
  have htail := pieces_ne_nil (fun c => decide (c = feed)) tail
  rw [linesOf, linesOf, hpieces, List.dropLast_append_of_ne_nil htail, List.map_append,
    List.getLast?_append, List.getLast?_eq_some_getLast htail, Option.some_or]
  -- whether there is a line after the last line feed is up to the tail alone
  cases List.getLast _ htail with
  | nil => rfl
  | cons c last => exact List.append_assoc _ _ _

/-- What follows a line feed leaves the lines before it as they are. -/
theorem linesOf_append (head tail : List α) :
    linesOf feed ret (head ++ feed :: tail) =
      linesOf feed ret (head ++ [feed]) ++ linesOf feed ret tail := by
  have hnil : linesOf feed ret [] = [] := rfl
  rw [linesOf_append_feed, linesOf_append_feed, hnil, List.append_nil]

end Lines

theorem byteLines_append (head tail : Bytes) :
    byteLines (head ++ 10 :: tail) = byteLines (head ++ [10]) ++ byteLines tail :=
  linesOf_append 10 13 head tail

end BlockCoverage.Text
