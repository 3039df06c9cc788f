import BlockCoverage.Path
import BlockCoverage.Proofs.Text.Words
import Mathlib.Logic.Relation

/-!
# Spellings of a path

What a path names is decided by its components, and one list of components can be spelled in many
ways. Three things can be tidied without touching it (`Tidied`): a doubled slash, a slash at the
end, and a dot between slashes. These are all there are: paths have the same components just when
tidying, there and back, leads from one to the other (`respelled_iff`). The reason is that every
path can be tidied to the plain spelling of its components (`respelled_spell`), which is a walk
along the stretches between its slashes.
-/

namespace BlockCoverage.Path

/-! ## Stretches -/

theorem doubled_slash (s : String) : "//" ++ s = "/" ++ ("/" ++ s) := by
  rw [← String.append_assoc]
  rfl

theorem slashed_dot (s : String) : "/./" ++ s = "/" ++ ("." ++ ("/" ++ s)) := by
  rw [← String.append_assoc, ← String.append_assoc]
  rfl

theorem stretches_append (a b : String) :
    stretches (a ++ "/" ++ b) = stretches a ++ stretches b := by
  have hlist : (a ++ "/" ++ b).toList = a.toList ++ '/' :: b.toList := by
    rw [String.toList_append, String.toList_append, List.append_assoc]
    rfl
  have hpieces : Text.pieces (fun c => decide (c = '/')) (a.toList ++ '/' :: b.toList) =
      Text.pieces (fun c => decide (c = '/')) a.toList ++
        Text.pieces (fun c => decide (c = '/')) b.toList :=
    Text.pieces_append_cut (by rw [decide_eq_true_iff]) _ _
  rw [stretches, hlist, Text.words, hpieces, List.filter_append, List.map_append]
  rfl

theorem stretches_append_slash (a : String) : stretches (a ++ "/") = stretches a := by
  have hend := stretches_append a ""
  rwa [String.append_empty, show stretches "" = [] from rfl, List.append_nil] at hend

/-- A text without a slash. -/
def IsStretch (s : String) : Prop := ∀ c ∈ s.toList, c ≠ '/'

instance (s : String) : Decidable (IsStretch s) :=
  decidable_of_iff (s.toList.all (· != '/') = true) (by simp [IsStretch])

theorem stretches_of_isStretch {s : String} (h : IsStretch s) :
    stretches s = if s = "" then [] else [s] := by
  split
  · rename_i hempty
    rw [hempty]
    rfl
  · rename_i hne
    have hcut : ∀ c ∈ s.toList, decide (c = '/') = false := fun c hc => decide_eq_false (h c hc)
    rw [stretches, Text.words_of_not_cut hcut fun hnil => hne (String.toList_eq_nil_iff.mp hnil),
      List.map_singleton, String.ofList_toList]

/-- Stretches, each with a slash in front. -/
def tail : List String → String
  | [] => ""
  | s :: rest => "/" ++ s ++ tail rest

theorem append_tail_cons (a s : String) (rest : List String) :
    a ++ tail (s :: rest) = a ++ "/" ++ (s ++ tail rest) := by
  simp only [tail, String.append_assoc]

/-- Every path is a stretch with further ones behind slashes. -/
theorem exists_tail (cs : List Char) :
    ∃ s rest, String.ofList cs = s ++ tail rest ∧ IsStretch s ∧ ∀ t ∈ rest, IsStretch t := by
  induction cs with
  | nil =>
    exact ⟨"", [], rfl, fun c hc => absurd hc List.not_mem_nil,
      fun t ht => absurd ht List.not_mem_nil⟩
  | cons c cs ih =>
    obtain ⟨s, rest, htext, hs, hrest⟩ := ih
    have hcons : String.ofList (c :: cs) = String.ofList [c] ++ (s ++ tail rest) := by
      rw [← htext, ← String.ofList_append]
      rfl
    by_cases hc : c = '/'
    · refine ⟨"", s :: rest, ?_, fun d hd => absurd hd List.not_mem_nil, ?_⟩
      · rw [hcons, hc, append_tail_cons]
        rfl
      · exact List.forall_mem_cons.mpr ⟨hs, hrest⟩
    · refine ⟨String.ofList [c] ++ s, rest, ?_, ?_, hrest⟩
      · rw [hcons, String.append_assoc]
      · intro d hd
        rw [String.toList_append, String.toList_ofList] at hd
        rcases List.mem_cons.mp hd with rfl | hd
        · exact hc
        · exact hs d hd

theorem stretches_tail {s : String} {rest : List String} (hs : IsStretch s)
    (hrest : ∀ t ∈ rest, IsStretch t) :
    stretches (s ++ tail rest) = (s :: rest).filter (· ≠ "") := by
  induction rest generalizing s with
  | nil =>
    rw [tail, String.append_empty, stretches_of_isStretch hs]
    by_cases hempty : s = "" <;> simp [hempty]
  | cons t rest ih =>
    obtain ⟨ht, hrest⟩ := List.forall_mem_cons.mp hrest
    rw [append_tail_cons, stretches_append, ih ht hrest, stretches_of_isStretch hs]
    by_cases hempty : s = "" <;> simp [hempty]

/-! ## Absolute and relative paths -/

theorem isAbsolute_append {a : String} (h : a ≠ "") (b : String) :
    isAbsolute (a ++ b) = isAbsolute a := by
  rw [isAbsolute, isAbsolute, String.toList_append]
  cases hlist : a.toList with
  | nil => exact absurd (String.toList_eq_nil_iff.mp hlist) h
  | cons c cs => rfl

theorem isAbsolute_slash (b : String) : isAbsolute ("/" ++ b) = true := by
  rw [isAbsolute, String.toList_append]
  rfl

/-- What stands behind a slash does not matter. -/
theorem isAbsolute_append_slash (a b : String) :
    isAbsolute (a ++ "/" ++ b) = isAbsolute (a ++ "/") :=
  isAbsolute_append (fun h => absurd (String.append_eq_empty_iff.mp h).2 (by decide)) b

theorem isAbsolute_of_isStretch {s : String} (h : IsStretch s) : isAbsolute s = false := by
  rw [isAbsolute]
  cases hlist : s.toList with
  | nil => rfl
  | cons c cs =>
    have hc : c ≠ '/' := h c (hlist ▸ List.mem_cons_self)
    simpa using hc

/-- A relative path that is not empty has a stretch before its first slash. -/
theorem stretches_ne_nil {a : String} (hne : a ≠ "") (hrelative : isAbsolute a = false) :
    stretches a ≠ [] := by
  obtain ⟨s, rest, htext, hs, hrest⟩ := exists_tail a.toList
  rw [String.ofList_toList] at htext
  have hfirst : s ≠ "" := by
    rintro rfl
    cases rest with
    | nil => exact hne htext
    | cons t rest =>
      rw [htext, append_tail_cons, String.append_assoc, String.empty_append, isAbsolute_slash]
        at hrelative
      cases hrelative
  rw [htext, stretches_tail hs hrest, List.filter_cons_of_pos (by simpa using hfirst)]
  exact List.cons_ne_nil _ _

theorem components_of_isAbsolute {p : String} (h : isAbsolute p = true) :
    components p = .root :: (stretches p).filterMap component? := by
  simp [components, h]

theorem components_of_relative {p s : String} {rest : List String} (h : isAbsolute p = false)
    (hstretches : stretches p = s :: rest) :
    components p = (if s = "." then .current else if s = ".." then .parent else .name s) ::
      rest.filterMap component? := by
  rw [components, h, hstretches]
  by_cases hdot : s = "."
  · simp [hdot, component?]
  · by_cases hdots : s = ".." <;> simp [hdot, hdots, component?]

theorem components_congr {p q : String} (habsolute : isAbsolute p = isAbsolute q)
    (hstretches : stretches p = stretches q) : components p = components q := by
  rw [components, components, habsolute, hstretches]

/-- Behind a path a dot between slashes counts for nothing. -/
theorem components_dot (a b : String) :
    components (a ++ "/./" ++ b) = components (a ++ "/" ++ b) := by
  have hslash : a ++ "/./" ++ b = a ++ "/" ++ ("." ++ "/" ++ b) := by
    simp only [String.append_assoc, slashed_dot]
  have hdot : stretches (a ++ "/./" ++ b) = stretches a ++ "." :: stretches b := by
    rw [hslash, stretches_append, stretches_append]
    rfl
  have hplain := stretches_append a b
  have hsame : isAbsolute (a ++ "/./" ++ b) = isAbsolute (a ++ "/" ++ b) := by
    rw [hslash, isAbsolute_append_slash, isAbsolute_append_slash]
  cases habsolute : isAbsolute (a ++ "/" ++ b) with
  | true =>
    rw [components_of_isAbsolute habsolute, components_of_isAbsolute (hsame.trans habsolute), hdot,
      hplain]
    simp [component?]
  | false =>
    have hempty : a ≠ "" := by
      rintro rfl
      rw [String.append_assoc, String.empty_append, isAbsolute_slash] at habsolute
      cases habsolute
    have ha : isAbsolute a = false := by
      rwa [String.append_assoc, isAbsolute_append hempty] at habsolute
    -- the path has a first stretch already, so the dot is not a leading one
    cases hstretches : stretches a with
    | nil => exact absurd hstretches (stretches_ne_nil hempty ha)
    | cons s rest =>
      rw [hstretches, List.cons_append] at hdot hplain
      rw [components_of_relative habsolute hplain,
        components_of_relative (hsame.trans habsolute) hdot]
      simp [component?]

/-! ## Tidying -/

/-- The second path is the first one with one thing tidied that names nothing. -/
inductive Tidied : String → String → Prop where
  /-- A doubled slash. -/
  | slashes (a b : String) : Tidied (a ++ "//" ++ b) (a ++ "/" ++ b)
  /-- A slash at the end. -/
  | ending {a : String} (hne : a ≠ "") : Tidied (a ++ "/") a
  /-- A dot between slashes. -/
  | dot (a b : String) : Tidied (a ++ "/./" ++ b) (a ++ "/" ++ b)

/-- Tidying, there and back, leads from one path to the other. -/
abbrev Respelled : String → String → Prop := Relation.EqvGen Tidied

theorem Tidied.components_eq {p q : String} (h : Tidied p q) : components p = components q := by
  cases h with
  | slashes a b =>
    have hslash : a ++ "//" ++ b = a ++ "/" ++ ("" ++ "/" ++ b) := by
      simp only [String.append_assoc, doubled_slash, String.empty_append]
    refine components_congr ?_ ?_
    · rw [hslash, isAbsolute_append_slash, isAbsolute_append_slash]
    · rw [hslash, stretches_append, stretches_append, stretches_append]
      rfl
  | ending hne => exact components_congr (isAbsolute_append hne "/") (stretches_append_slash q)
  | dot a b => exact components_dot a b

theorem Respelled.components_eq {p q : String} (h : Respelled p q) :
    components p = components q := by
  induction h with
  | rel p q h => exact h.components_eq
  | refl p => rfl
  | symm p q _ ih => exact ih.symm
  | trans p q r _ _ ih ih' => exact ih.trans ih'

/-! ## The plain spelling -/

/-- A component as it stands between slashes; the root is the nothing before the first slash. -/
def componentText : Component → String
  | .root => ""
  | .current => "."
  | .parent => ".."
  | .name s => s

/-- The plain spelling of components. -/
def spell : List Component → String
  | [] => ""
  | [.root] => "/"
  | c :: rest => componentText c ++ tail (rest.map componentText)

theorem spell_relative {c : Component} (h : c ≠ .root) (rest : List Component) :
    spell (c :: rest) = componentText c ++ tail (rest.map componentText) := by
  cases c <;> first | rfl | exact absurd rfl h

theorem spell_root {rest : List Component} (h : rest ≠ []) :
    spell (.root :: rest) = tail (rest.map componentText) := by
  cases rest with
  | nil => exact absurd rfl h
  | cons c rest => exact String.empty_append

/-- The components that stretches behind a slash stand for. -/
def kept (ss : List String) : List Component := (ss.filter (· ≠ "")).filterMap component?

theorem kept_cons_empty (rest : List String) : kept ("" :: rest) = kept rest := rfl

theorem kept_cons_dot (rest : List String) : kept ("." :: rest) = kept rest := rfl

theorem exists_kept_cons {s : String} (hempty : s ≠ "") (hdot : s ≠ ".") (rest : List String) :
    ∃ c, componentText c = s ∧ kept (s :: rest) = c :: kept rest := by
  by_cases hdots : s = ".."
  · exact ⟨.parent, hdots.symm, by simp [kept, hdots, component?]⟩
  · exact ⟨.name s, rfl, by simp [kept, hempty, hdot, hdots, component?]⟩

/-- A stretch of nothing can go, unless it leaves nothing at all. -/
theorem respelled_cons_empty {a : String} {rest : List String} (h : a ≠ "" ∨ rest ≠ []) :
    Respelled (a ++ tail ("" :: rest)) (a ++ tail rest) := by
  cases rest with
  | nil =>
    have hne : a ≠ "" := h.resolve_right fun hne => hne rfl
    have hstep := Tidied.ending hne
    simpa [tail] using Relation.EqvGen.rel _ _ hstep
  | cons t rest =>
    have hslashes : a ++ tail ("" :: t :: rest) = a ++ "//" ++ (t ++ tail rest) := by
      simp only [tail, String.append_assoc, String.empty_append, doubled_slash]
    rw [hslashes, append_tail_cons]
    exact .rel _ _ (.slashes a _)

/-- A dot at the end can go: with a slash behind it, it stands between slashes. -/
theorem respelled_dot_end (a : String) : Respelled (a ++ "/.") (a ++ "/") := by
  have hne : a ++ "/." ≠ "" := fun h => absurd (String.append_eq_empty_iff.mp h).2 (by decide)
  have hend : Respelled (a ++ "/." ++ "/") (a ++ "/.") := .rel _ _ (.ending hne)
  have hdot : Respelled (a ++ "/./" ++ "") (a ++ "/" ++ "") := .rel _ _ (.dot a "")
  have hslashed : a ++ "/." ++ "/" = a ++ "/./" ++ "" := by
    rw [String.append_empty, String.append_assoc]
    rfl
  rw [hslashed] at hend
  rw [String.append_empty (s := a ++ "/")] at hdot
  exact hend.symm.trans _ _ _ hdot

/-- A dot behind a slash can go, unless it leaves nothing at all. -/
theorem respelled_cons_dot {a : String} {rest : List String} (h : a ≠ "" ∨ rest ≠ []) :
    Respelled (a ++ tail ("." :: rest)) (a ++ tail rest) := by
  cases rest with
  | nil =>
    have hne : a ≠ "" := h.resolve_right fun hne => hne rfl
    have hslash : Respelled (a ++ "/") a := .rel _ _ (.ending hne)
    simpa [tail] using (respelled_dot_end a).trans _ _ _ hslash
  | cons t rest =>
    have hdot : a ++ tail ("." :: t :: rest) = a ++ "/./" ++ (t ++ tail rest) := by
      simp only [tail, String.append_assoc, slashed_dot]
    rw [hdot, append_tail_cons]
    exact .rel _ _ (.dot a _)

/-- Behind a path, stretches can be tidied to the components that they stand for. -/
theorem respelled_tail {a : String} (ha : a ≠ "") (rest : List String) :
    Respelled (a ++ tail rest) (a ++ tail ((kept rest).map componentText)) := by
  induction rest generalizing a with
  | nil => exact .refl _
  | cons s rest ih =>
    by_cases hempty : s = ""
    · rw [hempty, kept_cons_empty]
      exact (respelled_cons_empty (.inl ha)).trans _ _ _ (ih ha)
    by_cases hdot : s = "."
    · rw [hdot, kept_cons_dot]
      exact (respelled_cons_dot (.inl ha)).trans _ _ _ (ih ha)
    obtain ⟨c, htext, hkept⟩ := exists_kept_cons hempty hdot rest
    have hne : a ++ "/" ++ s ≠ "" := fun h =>
      ha (String.append_eq_empty_iff.mp (String.append_eq_empty_iff.mp h).1).1
    rw [hkept, List.map_cons, htext, append_tail_cons, append_tail_cons, ← String.append_assoc,
      ← String.append_assoc]
    exact ih hne

/-- At the root, stretches can be tidied to the components that they stand for. -/
theorem respelled_root {rest : List String} (hne : rest ≠ []) :
    Respelled (tail rest) (spell (.root :: kept rest)) := by
  induction rest with
  | nil => exact absurd rfl hne
  | cons s rest ih =>
    by_cases hempty : s = ""
    · rw [hempty, kept_cons_empty]
      cases rest with
      | nil => exact .refl _
      | cons t rest =>
        have hgone := respelled_cons_empty (a := "") (.inr (List.cons_ne_nil t rest))
        rw [String.empty_append, String.empty_append] at hgone
        exact hgone.trans _ _ _ (ih (List.cons_ne_nil t rest))
    by_cases hdot : s = "."
    · rw [hdot, kept_cons_dot]
      cases rest with
      | nil => exact respelled_dot_end ""
      | cons t rest =>
        have hgone := respelled_cons_dot (a := "") (.inr (List.cons_ne_nil t rest))
        rw [String.empty_append, String.empty_append] at hgone
        exact hgone.trans _ _ _ (ih (List.cons_ne_nil t rest))
    -- from the first component on it is a path behind which stretches are tidied
    obtain ⟨c, htext, hkept⟩ := exists_kept_cons hempty hdot rest
    have hslash : "/" ++ s ≠ "" := fun h => hempty (String.append_eq_empty_iff.mp h).2
    rw [hkept, spell_root (List.cons_ne_nil _ _), List.map_cons, htext, tail, tail]
    exact respelled_tail hslash rest

/-- Every path can be tidied to the plain spelling of its components. -/
theorem respelled_spell (p : String) : Respelled p (spell (components p)) := by
  obtain ⟨s, rest, htext, hs, hrest⟩ := exists_tail p.toList
  rw [String.ofList_toList] at htext
  have hstretches := stretches_tail hs hrest
  rw [← htext] at hstretches
  by_cases hempty : s = ""
  · rw [hempty, String.empty_append] at htext
    cases rest with
    | nil =>
      rw [htext]
      exact .refl _
    | cons t rest =>
      have habsolute : isAbsolute p = true := by
        rw [htext, tail, String.append_assoc, isAbsolute_slash]
      have hcomponents : components p = .root :: kept (t :: rest) := by
        rw [components_of_isAbsolute habsolute, hstretches, hempty]
        rfl
      rw [hcomponents, htext]
      exact respelled_root (List.cons_ne_nil t rest)
  · have hrelative : isAbsolute p = false := by
      rw [htext, isAbsolute_append hempty, isAbsolute_of_isStretch hs]
    rw [List.filter_cons_of_pos (by simpa using hempty)] at hstretches
    have hfirst : ∃ c, componentText c = s ∧ c ≠ .root ∧ components p = c :: kept rest := by
      refine ⟨_, ?_, ?_, components_of_relative hrelative hstretches⟩
      · split
        · exact Eq.symm ‹s = "."›
        · split
          · exact Eq.symm ‹s = ".."›
          · rfl
      · grind
    obtain ⟨c, hspelled, hroot, hcomponents⟩ := hfirst
    rw [hcomponents, spell_relative hroot, hspelled, htext]
    exact respelled_tail hempty rest

/-- Paths have the same components just when they are spellings of each other. -/
theorem respelled_iff {p q : String} : Respelled p q ↔ components p = components q := by
  constructor
  · exact Respelled.components_eq
  · intro h
    have hq := respelled_spell q
    rw [← h] at hq
    exact (respelled_spell p).trans _ _ _ hq.symm

end BlockCoverage.Path
