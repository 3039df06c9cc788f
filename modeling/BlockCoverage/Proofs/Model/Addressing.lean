import BlockCoverage.Proofs.Model.NameIndex

/-!
# Addressing a function by its name and file

A function is asked for by a name and a file, and a file is matched by its last components, so a
function may answer to the file of another one (`FunctionId.AnswersTo`). A lookup succeeds just when
one function answers (`resolve_eq_ok_iff`), and if several do it lists them all
(`resolve_eq_ambiguous_iff`). A function answers to its own name and file, but its own file does not
single it out: `x.c` is the end of `dir/x.c` as well, and being the same text counts for no more
than being the same end.
-/

namespace BlockCoverage

theorem two_le_length_of_mem {α : Type} {l : List α} {a b : α} (ha : a ∈ l) (hb : b ∈ l)
    (hne : a ≠ b) : 2 ≤ l.length := by
  match l with
  | [] => cases ha
  | [c] => exact absurd ((List.mem_singleton.mp ha).trans (List.mem_singleton.mp hb).symm) hne
  | _ :: _ :: l => exact Nat.le_add_left 2 l.length

/-- A match is a matter of components alone: paths of the same text have the same ones. -/
theorem Path.matchesFile_iff {declared wanted : String} :
    matchesFile declared wanted = true ↔ components wanted <:+ components declared := by
  rw [matchesFile, Bool.or_eq_true, beq_iff_eq, endsWith, List.isSuffixOf_iff_suffix]
  constructor
  · rintro (rfl | hends)
    · exact List.suffix_refl _
    · exact hends
  · exact .inr

/-- The function has this name, and its file ends with the components of this file. -/
def FunctionId.AnswersTo (f : FunctionId) (name file : String) : Prop :=
  f.name = name ∧ Path.components file <:+ Path.components f.file

namespace FunctionId

instance (f : FunctionId) (name file : String) : Decidable (f.AnswersTo name file) :=
  inferInstanceAs (Decidable (_ ∧ _))

theorem answersTo_self (f : FunctionId) : f.AnswersTo f.name f.file := ⟨rfl, List.suffix_refl _⟩

end FunctionId

namespace Model

theorem mem_candidates {m : Model} {name file : String} {f : FunctionId} :
    f ∈ m.candidates name (some file) ↔ f ∈ m.functions.keys ∧ f.AnswersTo name file := by
  simp only [candidates, named_eq, List.mem_filter, beq_iff_eq, Path.matchesFile_iff, and_assoc,
    FunctionId.AnswersTo]

/-- Candidates are listed by file. -/
theorem ordered_candidates (m : Model) (name : String) (hint : Option String) :
    (m.candidates name hint).Pairwise fun f g => compare f g = .lt := by
  have hnamed : (m.named name).Pairwise fun f g => compare f g = .lt :=
    m.index.ordered_functionsOf name
  cases hint with
  | none => exact hnamed
  | some file => exact hnamed.filter _

theorem nodup_candidates (m : Model) (name : String) (hint : Option String) :
    (m.candidates name hint).Nodup :=
  OrderedMap.nodup_of_ordered (m.ordered_candidates name hint)

theorem resolve_eq_ok_iff {m : Model} {name : String} {hint : Option String} {f : FunctionId} :
    m.resolve name hint = .ok f ↔ m.candidates name hint = [f] := by
  rw [resolve]
  split
  · rename_i h
    simp [h]
  · rename_i g h
    simp [h]
  · rename_i hnil hone
    constructor
    · intro h
      cases h
    · intro h
      exact absurd h (hone f)

theorem resolve_eq_ambiguous_iff {m : Model} {name : String} {hint : Option String}
    {several : List FunctionId} :
    m.resolve name hint = .error (.ambiguousFunction name several) ↔
      m.candidates name hint = several ∧ 2 ≤ several.length := by
  rw [resolve]
  cases h : m.candidates name hint with
  | nil =>
    constructor
    · intro hresolve
      cases hresolve
    · rintro ⟨rfl, hlength⟩
      cases hlength
  | cons g rest =>
    cases rest with
    | nil =>
      constructor
      · intro hresolve
        cases hresolve
      · rintro ⟨rfl, hlength⟩
        exact absurd hlength (Nat.not_succ_le_self 1)
    | cons g' rest =>
      constructor
      · intro hresolve
        cases hresolve
        exact ⟨rfl, Nat.le_add_left 2 rest.length⟩
      · rintro ⟨rfl, -⟩
        rfl

/-- A function is found under its own name and file just when no other function answers to them;
when another one does, the lookup is ambiguous, and lists in order all functions that answer. -/
theorem resolve_own_file {m : Model} {f : FunctionId} (hf : f ∈ m.functions.keys) :
    (m.resolve f.name (some f.file) = .ok f ↔
      ∀ g ∈ m.functions.keys, g.AnswersTo f.name f.file → g = f) ∧
    ((∃ g ∈ m.functions.keys, g.AnswersTo f.name f.file ∧ g ≠ f) → ∃ several,
      m.resolve f.name (some f.file) = .error (.ambiguousFunction f.name several) ∧
      several.Pairwise (fun g h => compare g h = .lt) ∧
      ∀ g, g ∈ several ↔ g ∈ m.functions.keys ∧ g.AnswersTo f.name f.file) := by
  have hself : f ∈ m.candidates f.name (some f.file) := mem_candidates.mpr ⟨hf, f.answersTo_self⟩
  constructor
  · rw [resolve_eq_ok_iff]
    constructor
    · intro hone g hg hanswers
      have hmem : g ∈ m.candidates f.name (some f.file) := mem_candidates.mpr ⟨hg, hanswers⟩
      rw [hone] at hmem
      exact List.mem_singleton.mp hmem
    · intro honly
      have hperm : (m.candidates f.name (some f.file)).Perm [f] := by
        refine (List.perm_ext_iff_of_nodup (m.nodup_candidates _ _)
          (List.pairwise_singleton _ f)).mpr ?_
        intro g
        rw [List.mem_singleton]
        constructor
        · intro hg
          obtain ⟨hmem, hanswers⟩ := mem_candidates.mp hg
          exact honly g hmem hanswers
        · rintro rfl
          exact hself
      exact List.perm_singleton.mp hperm
  · rintro ⟨g, hg, hanswers, hne⟩
    have hmem : g ∈ m.candidates f.name (some f.file) := mem_candidates.mpr ⟨hg, hanswers⟩
    have htwo : 2 ≤ (m.candidates f.name (some f.file)).length :=
      two_le_length_of_mem hmem hself hne
    exact ⟨_, resolve_eq_ambiguous_iff.mpr ⟨rfl, htwo⟩, m.ordered_candidates _ _,
      fun _ => mem_candidates⟩

/-- Three functions share a name, and the file of the first is the end of the file of the second,
but not of the third: the second is found by its file, and the first could be the second as well. -/
theorem resolve_own_file_three :
    let f : FunctionId := ⟨"x.c", "f"⟩
    let g : FunctionId := ⟨"dir/x.c", "f"⟩
    let h : FunctionId := ⟨"dir/xx.c", "f"⟩
    let m : Model := .ofList [(f, []), (g, []), (h, [])]
    f ∈ m.functions.keys ∧ g ∈ m.functions.keys ∧ m.resolve "f" (some "dir/x.c") = .ok g ∧
      m.resolve "f" (some "x.c") = .error (.ambiguousFunction "f" [g, f]) := by
  intro f g h m
  have hf : f ∈ m.functions.keys := by decide +kernel
  have hg : g ∈ m.functions.keys := by decide +kernel
  obtain ⟨several, hambiguous, -, -⟩ :=
    (resolve_own_file hf).2 ⟨g, hg, by decide +kernel, by decide⟩
  have hcandidates : m.candidates f.name (some f.file) = [g, f] := by decide +kernel
  rw [← (resolve_eq_ambiguous_iff.mp hambiguous).1, hcandidates] at hambiguous
  exact ⟨hf, hg, (resolve_own_file hg).1.mpr (by decide +kernel), hambiguous⟩

/-- The file of a function is the end of the file of another function of that name, and asking for
the first by its own name and file does not give it. -/
theorem resolve_own_file_ambiguous :
    let f : FunctionId := ⟨"x.c", "f"⟩
    let g : FunctionId := ⟨"dir/x.c", "f"⟩
    let m : Model := .ofList [(f, []), (g, [])]
    f ∈ m.functions.keys ∧ m.resolve f.name (some f.file) ≠ .ok f ∧
      m.resolve f.name (some f.file) = .error (.ambiguousFunction "f" [g, f]) := by
  intro f g m
  have hambiguous : m.resolve f.name (some f.file) = .error (.ambiguousFunction "f" [g, f]) :=
    resolve_eq_ambiguous_iff.mpr ⟨by decide +kernel, by decide⟩
  refine ⟨by decide +kernel, ?_, hambiguous⟩
  rw [hambiguous]
  intro h
  cases h

end Model

end BlockCoverage
