import BlockCoverage.Model.Lines
import BlockCoverage.Snapshot
import BlockCoverage.Proofs.Model.Addressing
import BlockCoverage.Proofs.Path.Spelling
import Mathlib.Data.List.Basic

/-!
# Matching files by their last components

A declared file matches a wanted one when its components end with the other's. So matching is a
preorder, it never falls inside a component, and a wanted file counts only for its components, which
is to say up to its spelling (`respelled_iff_matchesFile`).

Lookups with a file, the functions at a line and the denylist all ask whether a file matches. What
they select can only shrink when the wanted file is lengthened by leading components, because it
shrinks for every file (`matchesFile_mono`) and each of them filters a list by it.
-/

namespace BlockCoverage

namespace Path

theorem matchesFile_refl (d : String) : matchesFile d d = true :=
  matchesFile_iff.mpr (List.suffix_refl _)

theorem matchesFile_trans {d w v : String} (hdw : matchesFile d w = true)
    (hwv : matchesFile w v = true) : matchesFile d v = true :=
  matchesFile_iff.mpr ((matchesFile_iff.mp hwv).trans (matchesFile_iff.mp hdw))

/-- A match does not fall inside a component: it has the last one in common. -/
theorem getLast?_of_matchesFile {d w : String} {c : Component} (h : matchesFile d w = true)
    (hlast : (components w).getLast? = some c) : (components d).getLast? = some c := by
  obtain ⟨lead, hlead⟩ := matchesFile_iff.mp h
  rw [← hlead, List.getLast?_append, hlast]
  rfl

/-- Lengthening the wanted file leaves only files that match already. -/
theorem matchesFile_mono {w w' d : String} (hlonger : components w <:+ components w')
    (h : matchesFile d w' = true) : matchesFile d w = true :=
  matchesFile_iff.mpr (hlonger.trans (matchesFile_iff.mp h))

/-- Two wanted files match the same files just when one is a spelling of the other: each matches
itself, so each ends with the other. -/
theorem respelled_iff_matchesFile {w w' : String} :
    Respelled w w' ↔ ∀ d, matchesFile d w = matchesFile d w' := by
  rw [respelled_iff]
  constructor
  · intro hcomponents d
    rw [Bool.eq_iff_iff, matchesFile_iff, matchesFile_iff, hcomponents]
  · intro hsame
    have hle : components w' <:+ components w := by
      rw [← matchesFile_iff, ← hsame]
      exact matchesFile_refl w
    have hge : components w <:+ components w' := by
      rw [← matchesFile_iff, hsame]
      exact matchesFile_refl w'
    exact hge.sublist.antisymm hle.sublist

/-- A path without a root or a leading dot is the components of its stretches. -/
theorem components_of_plain {p : String} (hroot : .root ∉ components p)
    (hdot : .current ∉ components p) : components p = (stretches p).filterMap component? := by
  have hrelative : ¬isAbsolute p = true := by
    intro habsolute
    rw [components_of_isAbsolute habsolute] at hroot
    exact hroot List.mem_cons_self
  have hplain : ¬(stretches p).head? = some "." := by
    intro hhead
    rw [components, if_neg hrelative, if_pos hhead] at hdot
    exact hdot List.mem_cons_self
  rw [components, if_neg hrelative, if_neg hplain, List.nil_append]

/-- Such a path is lengthened by what is put before it, up to a slash. -/
theorem components_append_plain {w : String} (lead : String) (hroot : .root ∉ components w)
    (hdot : .current ∉ components w) :
    components (lead ++ "/" ++ w) = components (lead ++ "/") ++ components w := by
  rw [components_of_plain hroot hdot, components, components, isAbsolute_append_slash,
    stretches_append, stretches_append_slash, List.filterMap_append, List.append_assoc]
  by_cases hlead : isAbsolute (lead ++ "/") = true
  · rw [if_pos hlead, if_pos hlead]
  · -- a relative path has a first stretch, so what decides on a leading dot stands before the slash
    have hne : lead ≠ "" := by
      rintro rfl
      exact hlead rfl
    rw [isAbsolute_append hne, Bool.not_eq_true] at hlead
    rw [List.head?_append_of_ne_nil _ (stretches_ne_nil hne hlead)]

end Path

namespace Model

/-- The functions that a lookup selects: the one it found, or those it could not decide between. -/
def selected : Except Fault FunctionId → List FunctionId
  | .ok f => [f]
  | .error (.ambiguousFunction _ several) => several
  | .error _ => []

theorem selected_resolve (m : Model) (name : String) (hint : Option String) :
    selected (m.resolve name hint) = m.candidates name hint := by
  rw [resolve]
  cases h : m.candidates name hint with
  | nil => rfl
  | cons f rest => cases rest <;> rfl

theorem candidates_mono {w w' : String} (hlonger : Path.components w <:+ Path.components w')
    (m : Model) (name : String) :
    (m.candidates name (some w')).Sublist (m.candidates name (some w)) :=
  List.monotone_filter_right _ fun _ => Path.matchesFile_mono hlonger

theorem functionsAt_mono {w w' : String} (hlonger : Path.components w <:+ Path.components w')
    (m : Model) (line : UInt32) : (m.functionsAt w' line).Sublist (m.functionsAt w line) := by
  refine (List.monotone_filter_right _ ?_).map Prod.fst
  intro e hmatches
  simp only [List.any_eq_true, Bool.and_eq_true] at hmatches ⊢
  obtain ⟨b, hb, l, hl, hline, hfile⟩ := hmatches
  exact ⟨b, hb, l, hl, hline, Path.matchesFile_mono hlonger hfile⟩

end Model

theorem Denylist.denies_mono {w w' : String} (hlonger : Path.components w <:+ Path.components w')
    (before after : List String) {file : String}
    (h : (⟨before ++ w' :: after⟩ : Denylist).denies file = true) :
    (⟨before ++ w :: after⟩ : Denylist).denies file = true := by
  simp only [denies, List.any_append, List.any_cons, Bool.or_eq_true] at h ⊢
  obtain hbefore | hentry | hafter := h
  · exact .inl hbefore
  · exact .inr (.inl (Path.matchesFile_mono hlonger hentry))
  · exact .inr (.inr hafter)

/-- Matching is to have the components of the wanted file at the end. So it is a preorder that keeps
the last component, and it knows a wanted file up to its spelling. Putting something before a plain
wanted file lengthens it, and what lookups, views by line and denylists select with a longer one is
among what they select with the shorter one. -/
theorem matching_by_components :
    (∀ d w, Path.matchesFile d w = true ↔ Path.components w <:+ Path.components d) ∧
    (∀ d, Path.matchesFile d d = true) ∧
    (∀ d w v, Path.matchesFile d w = true → Path.matchesFile w v = true →
      Path.matchesFile d v = true) ∧
    (∀ d w c, Path.matchesFile d w = true → (Path.components w).getLast? = some c →
      (Path.components d).getLast? = some c) ∧
    (∀ w w', Path.Respelled w w' ↔ ∀ d, Path.matchesFile d w = Path.matchesFile d w') ∧
    (∀ lead w, .root ∉ Path.components w → .current ∉ Path.components w →
      Path.components w <:+ Path.components (lead ++ "/" ++ w)) ∧
    ∀ w w', Path.components w <:+ Path.components w' →
      (∀ d, Path.matchesFile d w' = true → Path.matchesFile d w = true) ∧
      (∀ (m : Model) name, (Model.selected (m.resolve name (some w'))).Sublist
        (Model.selected (m.resolve name (some w)))) ∧
      (∀ (m : Model) line, (m.functionsAt w' line).Sublist (m.functionsAt w line)) ∧
      ∀ before after file, (⟨before ++ w' :: after⟩ : Denylist).denies file = true →
        (⟨before ++ w :: after⟩ : Denylist).denies file = true := by
  refine ⟨fun d w => Path.matchesFile_iff, Path.matchesFile_refl,
    fun d w v => Path.matchesFile_trans,
    fun d w c => Path.getLast?_of_matchesFile, fun w w' => Path.respelled_iff_matchesFile, ?_, ?_⟩
  · intro lead w hroot hdot
    rw [Path.components_append_plain lead hroot hdot]
    exact List.suffix_append _ _
  · intro w w' hlonger
    refine ⟨fun d => Path.matchesFile_mono hlonger, ?_, fun m => Model.functionsAt_mono hlonger m,
      fun before after file => Denylist.denies_mono hlonger before after⟩
    intro m name
    rw [Model.selected_resolve, Model.selected_resolve]
    exact Model.candidates_mono hlonger m name

/-- Two functions of a name in files of a name: the longer hint finds one of them, the shorter one
cannot decide, and a tidied spelling of the longer one is as good. -/
theorem matching_by_components_two :
    let f : FunctionId := ⟨"src/x.c", "f"⟩
    let g : FunctionId := ⟨"lib/x.c", "f"⟩
    let m : Model := .ofList [(f, []), (g, [])]
    Model.selected (m.resolve "f" (some "src/x.c")) = [f] ∧
      Model.selected (m.resolve "f" (some "x.c")) = [g, f] ∧
      (Model.selected (m.resolve "f" (some "src/x.c"))).Sublist
        (Model.selected (m.resolve "f" (some "x.c"))) ∧
      Path.matchesFile "/p/src/x.c" "x.c" = true ∧ Path.matchesFile "src/xx.c" "x.c" = false ∧
      (∀ d, Path.matchesFile d "src//./x.c/" = Path.matchesFile d "src/x.c") ∧
      (⟨["x.c"]⟩ : Denylist).denies "lib/src/x.c" = true := by
  intro f g m
  obtain ⟨hiff, -, htrans, hlast, hspelling, hlead, hlonger⟩ := matching_by_components
  have hsuffix : Path.components "x.c" <:+ Path.components "src/x.c" :=
    hlead "src" "x.c" (by decide +kernel) (by decide +kernel)
  obtain ⟨hmatch, hresolve, -, hdeny⟩ := hlonger "x.c" "src/x.c" hsuffix
  refine ⟨by decide +kernel, by decide +kernel, hresolve m "f", ?_, ?_, ?_, ?_⟩
  · have hsource : Path.matchesFile "/p/src/x.c" "src/x.c" = true :=
      (hiff _ _).mpr (by decide +kernel)
    exact htrans _ _ _ hsource (hmatch _ (by decide +kernel))
  · rw [← Bool.not_eq_true]
    intro h
    have hsame := hlast "src/xx.c" "x.c" (.name "x.c") h (by decide +kernel)
    revert hsame
    decide +kernel
  · exact (hspelling _ _).mp (Path.respelled_iff.mpr (by decide +kernel))
  · exact hdeny [] [] "lib/src/x.c" (by decide +kernel)

end BlockCoverage
