import BlockCoverage.Corpus
import BlockCoverage.Proofs.Ordered.Members
import Mathlib.Data.List.Induction

/-!
# Loads are additions

Every way to load a corpus comes down to a list of paths that are tried in turn: up to the first
that cannot be used, each file is added with what reading it gives. The list does not depend on the
corpus that is loaded into (`perform_eq`), so after any loads a new corpus is what `addAll` makes of
the files that the loads added. What it keeps are files among those, each with the digest of its
contents (`mem_entries_addAll`).
-/

namespace BlockCoverage

open Text (Bytes)

namespace Corpus

/-! ## Tries -/

/-- What a load tries in turn: a file, or something that makes it fail. -/
abbrev Tries := List (Except CorpusFault String)

/-- The files that are added when paths are tried, with their contents, and whether none failed. -/
def addedBy (fs : Files) : Tries → List (String × Bytes) × Bool
  | [] => ([], true)
  | .error _ :: _ => ([], false)
  | .ok path :: rest =>
    match fs.read path with
    | .error _ => ([], false)
    | .ok contents => ((path, contents) :: (addedBy fs rest).1, (addedBy fs rest).2)

theorem addedBy_append (fs : Files) (l r : Tries) :
    addedBy fs (l ++ r) =
      if (addedBy fs l).2 then ((addedBy fs l).1 ++ (addedBy fs r).1, (addedBy fs r).2)
      else addedBy fs l := by
  induction l with
  | nil => rfl
  | cons t l ih =>
    cases t with
    | error fault => rfl
    | ok path =>
      rw [List.cons_append, addedBy, addedBy]
      cases fs.read path with
      | error cause => rfl
      | ok contents =>
        rw [ih]
        cases h : (addedBy fs l).2 <;> simp [h]

/-- What is added has been read. -/
theorem read_of_mem_addedBy {fs : Files} {tries : Tries} {file : String × Bytes}
    (h : file ∈ (addedBy fs tries).1) : fs.read file.1 = .ok file.2 := by
  induction tries with
  | nil => cases h
  | cons t tries ih =>
    cases t with
    | error fault => cases h
    | ok path =>
      rw [addedBy] at h
      cases hread : fs.read path with
      | error cause =>
        rw [hread] at h
        cases h
      | ok contents =>
        rw [hread] at h
        rcases List.mem_cons.mp h with rfl | h
        · exact hread
        · exact ih h

/-! ## Loads -/

/-- A request to load files into a corpus. -/
inductive Load where
  /-- Add a file. -/
  | file (path : String)
  /-- Add files and the files right inside directories. -/
  | several (paths : List String)
  /-- Add the queue and the crashes of every fuzzer instance in a directory. -/
  | fuzzerOutput (dir : String)
deriving DecidableEq, Repr

/-- The corpus after a load. -/
def Load.perform (fs : Files) (c : Corpus) : Load → Corpus
  | .file path => (c.addFile fs path).2
  | .several paths => (loadPaths fs c paths).2
  | .fuzzerOutput dir => (loadFuzzerOutput fs c dir).2

/-- The tries for the files right inside a directory. -/
def directoryTries (fs : Files) (keep : String → Bool) (dir : String) : Tries :=
  match children fs dir with
  | .error fault => [.error fault]
  | .ok paths => (paths.filter (fun p => fs.isFile p && keep p)).map .ok

/-- The tries for a file or the files right inside a directory. -/
def pathTries (fs : Files) (path : String) : Tries :=
  if fs.isFile path then [.ok path]
  else if fs.isDirectory path then directoryTries fs (fun _ => true) path
  else [.error (.neither path)]

/-- The tries of a load. -/
def Load.tries (fs : Files) : Load → Tries
  | .file path => [.ok path]
  | .several paths => paths.flatMap (pathTries fs)
  | .fuzzerOutput dir =>
    match fuzzerInstances fs dir with
    | .error fault => [.error fault]
    | .ok instances =>
      ((instances.flatMap (fun i => [Path.join i "queue", Path.join i "crashes"])).filter
        fs.isDirectory).flatMap (directoryTries fs isFuzzerInput)

/-- The files that a load adds, in order, with their contents. -/
def Load.added (fs : Files) (load : Load) : List (String × Bytes) := (addedBy fs (load.tries fs)).1

theorem read_of_mem_added {fs : Files} {loads : List Load} {file : String × Bytes}
    (h : file ∈ loads.flatMap (Load.added fs)) : fs.read file.1 = .ok file.2 := by
  obtain ⟨load, -, hfile⟩ := List.mem_flatMap.mp h
  exact read_of_mem_addedBy hfile

/-- Adds files with the given contents, one after the other. -/
def addAll (c : Corpus) (files : List (String × Bytes)) : Corpus :=
  files.foldl (fun c file => (c.addContents file.1 file.2).2) c

theorem addAll_append (c : Corpus) (l r : List (String × Bytes)) :
    c.addAll (l ++ r) = (c.addAll l).addAll r :=
  List.foldl_append

theorem addAll_singleton (c : Corpus) (file : String × Bytes) :
    c.addAll [file] = (c.addContents file.1 file.2).2 := rfl

/-- A loader does to any corpus what trying these paths does. -/
def Follows (fs : Files) (load : Corpus → Except CorpusFault Nat × Corpus) (tries : Tries) : Prop :=
  ∀ c, (load c).2 = c.addAll (addedBy fs tries).1 ∧ (load c).1.isOk = (addedBy fs tries).2

variable {fs : Files}

theorem follows_countFile (path : String) : Follows fs (countFile fs · path) [.ok path] := by
  intro c
  simp only [countFile, addFile, addedBy]
  cases fs.read path <;> exact ⟨rfl, rfl⟩

/-- Loaders one after the other try their paths one after the other. -/
theorem follows_loadEach {α : Type} {load : Corpus → α → Except CorpusFault Nat × Corpus}
    {tries : α → Tries} (h : ∀ a, Follows fs (load · a) (tries a)) (l : List α) :
    Follows fs (loadEach load · l) (l.flatMap tries) := by
  induction l with
  | nil => exact fun c => ⟨rfl, rfl⟩
  | cons a l ih =>
    intro c
    have hfirst : (load c a).2 = c.addAll (addedBy fs (tries a)).1 ∧
        (load c a).1.isOk = (addedBy fs (tries a)).2 := h a c
    rw [List.flatMap_cons, addedBy_append]
    simp only [loadEach]
    generalize load c a = r at hfirst ⊢
    obtain ⟨result, d⟩ := r
    obtain ⟨hcorpus, hok⟩ := hfirst
    rw [← hok]
    cases result with
    -- the rest is loaded only after a success, as only then it is tried
    | error fault => exact ⟨hcorpus, hok⟩
    | ok n =>
      simp only at hcorpus
      have hrest : (loadEach load d l).2 = d.addAll (addedBy fs (l.flatMap tries)).1 ∧
          (loadEach load d l).1.isOk = (addedBy fs (l.flatMap tries)).2 := ih d
      have hsucceeds : (Except.ok n : Except CorpusFault Nat).isOk = true := rfl
      rw [if_pos hsucceeds]
      simp only [addAll_append, ← hcorpus, ← hrest.1, ← hrest.2]
      rcases loadEach load d l with ⟨_ | k, e⟩ <;> exact ⟨rfl, rfl⟩

theorem follows_loadDirectory (keep : String → Bool) (dir : String) :
    Follows fs (loadDirectory fs keep · dir) (directoryTries fs keep dir) := by
  intro c
  simp only [loadDirectory, directoryTries]
  cases children fs dir with
  | error fault => exact ⟨rfl, rfl⟩
  | ok paths =>
    simp only [List.map_eq_flatMap]
    exact follows_loadEach follows_countFile _ c

theorem follows_loadPath (path : String) : Follows fs (loadPath fs · path) (pathTries fs path) := by
  intro c
  simp only [loadPath, pathTries]
  by_cases hfile : fs.isFile path = true
  · rw [if_pos hfile, if_pos hfile]
    exact follows_countFile path c
  by_cases hdir : fs.isDirectory path = true
  · rw [if_neg hfile, if_pos hdir, if_neg hfile, if_pos hdir]
    exact follows_loadDirectory _ path c
  · rw [if_neg hfile, if_neg hdir, if_neg hfile, if_neg hdir]
    exact ⟨rfl, rfl⟩

theorem follows_loadFuzzerOutput (dir : String) :
    Follows fs (loadFuzzerOutput fs · dir) (Load.tries fs (.fuzzerOutput dir)) := by
  intro c
  simp only [loadFuzzerOutput, Load.tries]
  cases fuzzerInstances fs dir with
  | error fault => exact ⟨rfl, rfl⟩
  | ok instances => exact follows_loadEach (follows_loadDirectory isFuzzerInput) _ c

/-- A load adds the same files to every corpus. -/
theorem perform_eq (fs : Files) (c : Corpus) (load : Load) :
    load.perform fs c = c.addAll (load.added fs) := by
  cases load with
  | file path =>
    simp only [Load.perform, addFile, Load.added, Load.tries, addedBy]
    cases fs.read path <;> rfl
  | several paths => exact (follows_loadEach follows_loadPath paths c).1
  | fuzzerOutput dir => exact (follows_loadFuzzerOutput dir c).1

/-- Loads add what each of them adds. -/
theorem foldl_perform (fs : Files) (c : Corpus) (loads : List Load) :
    loads.foldl (fun c load => load.perform fs c) c = c.addAll (loads.flatMap (Load.added fs)) := by
  induction loads generalizing c with
  | nil => rfl
  | cons load loads ih => rw [List.foldl_cons, ih, perform_eq, List.flatMap_cons, addAll_append]

/-! ## What is kept -/

theorem entries_addContents (c : Corpus) (path : String) (contents : Bytes) :
    (c.addContents path contents).2.entries =
      if c.knows (Digest.md5 contents) then c.entries
      else c.entries ++ [⟨path, Digest.md5 contents⟩] := by
  rw [addContents]
  split <;> rfl

theorem knows_addContents {c : Corpus} {path : String} {contents digest : Bytes} :
    (c.addContents path contents).2.knows digest = true ↔
      digest = Digest.md5 contents ∨ c.knows digest = true := by
  rw [addContents]
  by_cases hknown : c.knows (Digest.md5 contents) = true
  · rw [if_pos hknown]
    constructor
    · exact .inr
    · rintro (rfl | h)
      · exact hknown
      · exact h
  · rw [if_neg hknown]
    exact OrderedSet.mem_insert

/-- Contents are known that were, or that one of the added files has. -/
theorem knows_addAll {c : Corpus} {files : List (String × Bytes)} {digest : Bytes} :
    (c.addAll files).knows digest = true ↔
      c.knows digest = true ∨ ∃ file ∈ files, Digest.md5 file.2 = digest := by
  induction files using List.reverseRecOn with
  | nil => simp [addAll]
  | append_singleton files file ih =>
    rw [addAll_append, addAll_singleton, knows_addContents, ih]
    simp only [List.mem_append, List.mem_singleton, or_and_right, exists_or, exists_eq_left]
    rw [eq_comm, or_comm, or_assoc]

/-- What is kept of files that were added to a new corpus. -/
theorem mem_entries_addAll {files : List (String × Bytes)} {e : CorpusEntry}
    (h : e ∈ (empty.addAll files).entries) :
    ∃ file ∈ files, e = ⟨file.1, Digest.md5 file.2⟩ := by
  induction files using List.reverseRecOn with
  | nil => cases h
  | append_singleton files file ih =>
    have hkept : e ∈ (empty.addAll files).entries →
        ∃ f ∈ files ++ [file], e = ⟨f.1, Digest.md5 f.2⟩ := fun he => by
      obtain ⟨f, hf, heq⟩ := ih he
      exact ⟨f, List.mem_append_left _ hf, heq⟩
    rw [addAll_append, addAll_singleton, entries_addContents] at h
    split at h
    · exact hkept h
    · rcases List.mem_append.mp h with h | h
      · exact hkept h
      · exact ⟨file, by simp, List.mem_singleton.mp h⟩

end Corpus

end BlockCoverage
