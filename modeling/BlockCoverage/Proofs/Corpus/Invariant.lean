import BlockCoverage.Proofs.Corpus.Loading
import Mathlib.Data.List.Basic

/-!
# What a corpus is after any calls

A corpus is made by calls, each of which finds files of its own and may fail half-way. All that a
call does is to add the files that it could read, one after the other (`perform_eq`), so the corpus
is described by the list of files that were read so far. `Holds` is that description, and adding a
file keeps it (`Holds.add`).

How many inputs a load brings is counted along the way, in a sum over the loads it is made of.
`Counts` says that the sum is right, one loader at a time.
-/

namespace BlockCoverage

open Text (Bytes)

namespace Corpus

/-! ## The files that were read -/

/-- The entry of a file with its contents. -/
def entryOf (file : String × Bytes) : CorpusEntry := ⟨file.1, Digest.md5 file.2⟩

/-- The files of which none before has the digest, in the order of reading. -/
def firstReads (reads : List (String × Bytes)) : List CorpusEntry :=
  (reads.zipIdx.filter fun r =>
    (reads.take r.2).all fun earlier => Digest.md5 earlier.2 != Digest.md5 r.1.2).map
      fun r => entryOf r.1

theorem firstReads_append_singleton (reads : List (String × Bytes)) (file : String × Bytes) :
    firstReads (reads ++ [file]) = firstReads reads ++
      if ∃ earlier ∈ reads, Digest.md5 earlier.2 = Digest.md5 file.2 then []
      else [entryOf file] := by
  have hbefore : (reads.zipIdx.filter fun r =>
      ((reads ++ [file]).take r.2).all fun earlier => Digest.md5 earlier.2 != Digest.md5 r.1.2) =
      reads.zipIdx.filter fun r =>
        (reads.take r.2).all fun earlier => Digest.md5 earlier.2 != Digest.md5 r.1.2 := by
    apply List.filter_congr
    intro r hr
    have hplace : r.2 < reads.length := by
      have h := List.snd_lt_of_mem_zipIdx hr
      omega
    rw [List.take_append_of_le_length (Nat.le_of_lt hplace)]
  rw [firstReads, List.zipIdx_append, List.filter_append, List.map_append, hbefore, firstReads]
  congr 1
  simp only [List.zipIdx_cons, List.zipIdx_nil, Nat.zero_add, List.filter_cons, List.filter_nil,
    List.take_left, List.all_eq_true, bne_iff_ne]
  by_cases h : ∃ earlier ∈ reads, Digest.md5 earlier.2 = Digest.md5 file.2
  · obtain ⟨earlier, hearlier, hsame⟩ := h
    rw [if_neg fun hall => hall earlier hearlier hsame, if_pos ⟨earlier, hearlier, hsame⟩]
    rfl
  · rw [if_pos fun earlier hearlier hsame => h ⟨earlier, hearlier, hsame⟩, if_neg h]
    rfl

/-- What a corpus is when these files have been read, in this order. -/
structure Holds (c : Corpus) (reads : List (String × Bytes)) : Prop where
  /-- No two inputs have one digest. -/
  distinct : (c.entries.map CorpusEntry.digest).Nodup
  /-- The known digests are those of the inputs. -/
  known : ∀ digest, c.known.mem digest = true ↔ digest ∈ c.entries.map CorpusEntry.digest
  /-- Every file that was read is an input or was left out. -/
  count : c.entries.length + c.duplicates = reads.length
  /-- The inputs are the files that were the first to have their digest, in order. -/
  first : c.entries = firstReads reads

theorem holds_empty : empty.Holds [] where
  distinct := .nil
  known := fun _ => ⟨nofun, nofun⟩
  count := rfl
  first := rfl

/-- One more file is read. -/
theorem Holds.add {c : Corpus} {reads : List (String × Bytes)} (h : c.Holds reads)
    (hreads : ∀ digest, c.knows digest = true ↔ ∃ file ∈ reads, Digest.md5 file.2 = digest)
    (file : String × Bytes) : (c.addContents file.1 file.2).2.Holds (reads ++ [file]) := by
  rw [addContents]
  by_cases hknown : c.knows (Digest.md5 file.2) = true
  · rw [if_pos hknown]
    refine ⟨h.distinct, h.known, ?_, ?_⟩
    · have hcount := h.count
      simp only [List.length_append, List.length_singleton]
      omega
    · rw [firstReads_append_singleton, if_pos ((hreads _).mp hknown), List.append_nil]
      exact h.first
  · have hnew : Digest.md5 file.2 ∉ c.entries.map CorpusEntry.digest := fun hmem =>
      hknown ((h.known _).mpr hmem)
    rw [if_neg hknown]
    refine ⟨?_, ?_, ?_, ?_⟩
    · simp only [List.map_append, List.map_cons, List.map_nil]
      exact List.nodup_append.mpr ⟨h.distinct, List.pairwise_singleton _ _, fun a ha b hb hab => by
        rw [List.mem_singleton] at hb
        exact hnew (hb ▸ hab ▸ ha)⟩
    · intro digest
      simp only [List.map_append, List.map_cons, List.map_nil, List.mem_append, List.mem_singleton]
      rw [OrderedSet.mem_insert, h.known, or_comm]
    · have hcount := h.count
      simp only [List.length_append, List.length_singleton]
      omega
    · rw [firstReads_append_singleton, if_neg fun hread => hknown ((hreads _).mpr hread), ← h.first]
      rfl

/-- A new corpus that files are added to. -/
theorem holds_addAll (reads : List (String × Bytes)) : (empty.addAll reads).Holds reads := by
  induction reads using List.reverseRecOn with
  | nil => exact holds_empty
  | append_singleton reads file ih =>
    rw [addAll_append, addAll_singleton]
    refine ih.add (fun digest => ?_) file
    rw [knows_addAll]
    exact or_iff_right nofun

/-! ## Counting what is new -/

/-- The number that a loader gives is by how much it made the corpus longer. -/
def Counts (load : Corpus → Except CorpusFault Nat × Corpus) : Prop :=
  ∀ c n, (load c).1 = .ok n → (load c).2.entries.length = c.entries.length + n

theorem counts_countFile (fs : Files) (path : String) : Counts (countFile fs · path) := by
  intro c n h
  simp only [countFile, addFile] at h ⊢
  cases hread : fs.read path with
  | error cause =>
    rw [hread] at h
    cases h
  | ok contents =>
    simp only [hread, addContents] at h ⊢
    by_cases hknown : c.knows (Digest.md5 contents) = true
    · simp only [if_pos hknown] at h ⊢
      cases h
      rfl
    · simp only [if_neg hknown] at h ⊢
      cases h
      rw [List.length_append]
      rfl

/-- The numbers of loaders that run one after the other are added up. -/
theorem counts_loadEach {α : Type} {load : Corpus → α → Except CorpusFault Nat × Corpus}
    (hload : ∀ a, Counts (load · a)) (l : List α) : Counts (loadEach load · l) := by
  induction l with
  | nil =>
    intro c n h
    cases h
    rfl
  | cons a l ih =>
    intro c n h
    have hfirst := hload a c
    simp only [loadEach] at h hfirst ⊢
    generalize load c a = first at h hfirst ⊢
    obtain ⟨result, d⟩ := first
    cases result with
    | error fault => cases h
    | ok k =>
      have hrest := ih d
      simp only at h hfirst hrest ⊢
      generalize loadEach load d l = rest at h hrest ⊢
      obtain ⟨result, e⟩ := rest
      cases result with
      | error fault => cases h
      | ok j =>
        cases h
        have hk := hfirst k rfl
        have hj := hrest j rfl
        simp only at hj ⊢
        omega

theorem counts_loadDirectory (fs : Files) (keep : String → Bool) (dir : String) :
    Counts (loadDirectory fs keep · dir) := by
  intro c n h
  simp only [loadDirectory] at h ⊢
  cases hchildren : children fs dir with
  | error fault =>
    rw [hchildren] at h
    cases h
  | ok paths =>
    rw [hchildren] at h
    exact counts_loadEach (counts_countFile fs) _ c n h

theorem counts_loadPath (fs : Files) (path : String) : Counts (loadPath fs · path) := by
  intro c n h
  simp only [loadPath] at h ⊢
  by_cases hfile : fs.isFile path = true
  · rw [if_pos hfile] at h ⊢
    exact counts_countFile fs path c n h
  by_cases hdir : fs.isDirectory path = true
  · rw [if_neg hfile, if_pos hdir] at h ⊢
    exact counts_loadDirectory fs _ path c n h
  · rw [if_neg hfile, if_neg hdir] at h
    cases h

theorem counts_loadFuzzerOutput (fs : Files) (dir : String) :
    Counts (loadFuzzerOutput fs · dir) := by
  intro c n h
  simp only [loadFuzzerOutput] at h ⊢
  cases hinstances : fuzzerInstances fs dir with
  | error fault =>
    rw [hinstances] at h
    cases h
  | ok instances =>
    rw [hinstances] at h
    exact counts_loadEach (counts_loadDirectory fs isFuzzerInput) _ c n h

/-! ## Calls -/

/-- What a load answers: how many inputs were new, or why it failed. Adding a file answers whether
it was new. -/
def Load.answer (fs : Files) (c : Corpus) : Load → Except CorpusFault Nat
  | .file path => (c.addFile fs path).1.map Bool.toNat
  | .several paths => (loadPaths fs c paths).1
  | .fuzzerOutput dir => (loadFuzzerOutput fs c dir).1

/-- Adding a file is counting it. -/
theorem countFile_eq (fs : Files) (c : Corpus) (path : String) :
    countFile fs c path = ((Load.file path).answer fs c, (Load.file path).perform fs c) := by
  simp only [countFile, Load.answer, Load.perform]
  rcases c.addFile fs path with ⟨_ | new, d⟩
  · rfl
  · cases new <;> rfl

theorem length_perform {fs : Files} {c : Corpus} {load : Load} {n : Nat}
    (h : load.answer fs c = .ok n) :
    (load.perform fs c).entries.length = c.entries.length + n := by
  cases load with
  | file path =>
    have hcount := counts_countFile fs path c n
    simp only [countFile_eq] at hcount
    exact hcount h
  | several paths => exact counts_loadEach (counts_loadPath fs) paths c n h
  | fuzzerOutput dir => exact counts_loadFuzzerOutput fs dir c n h

/-- Whether a load fails depends on the files only. -/
theorem isOk_answer (fs : Files) (c : Corpus) (load : Load) :
    (load.answer fs c).isOk = (addedBy fs (load.tries fs)).2 := by
  cases load with
  | file path =>
    have hcount : (countFile fs c path).1.isOk = (addedBy fs [.ok path]).2 :=
      (follows_countFile path c).2
    rwa [countFile_eq] at hcount
  | several paths => exact (follows_loadEach follows_loadPath paths c).2
  | fuzzerOutput dir => exact (follows_loadFuzzerOutput dir c).2

/-- Inputs are only ever put behind the others. -/
theorem entries_addAll (c : Corpus) (files : List (String × Bytes)) :
    c.entries <+: (c.addAll files).entries := by
  induction files generalizing c with
  | nil => exact List.prefix_refl _
  | cons file files ih =>
    refine List.IsPrefix.trans ?_ (ih (c.addContents file.1 file.2).2)
    rw [entries_addContents]
    split
    · exact List.prefix_refl _
    · exact List.prefix_append _ _

/-- Files with known contents bring nothing. -/
theorem entries_addAll_of_known {c : Corpus} {files : List (String × Bytes)}
    (h : ∀ file ∈ files, c.knows (Digest.md5 file.2) = true) :
    (c.addAll files).entries = c.entries := by
  induction files using List.reverseRecOn with
  | nil => rfl
  | append_singleton files file ih =>
    have hbefore := ih fun f hf => h f (List.mem_append_left _ hf)
    have hknown : (c.addAll files).knows (Digest.md5 file.2) = true :=
      knows_addAll.mpr (.inl (h file (by simp)))
    rw [addAll_append, addAll_singleton, entries_addContents, if_pos hknown, hbefore]

/-- A new corpus after calls, each with the files that it finds. -/
def afterCalls (calls : List (Files × Load)) : Corpus :=
  calls.foldl (fun c call => call.2.perform call.1 c) empty

/-- The files that calls have read, in order. -/
def readBy (calls : List (Files × Load)) : List (String × Bytes) :=
  calls.flatMap fun call => call.2.added call.1

theorem afterCalls_eq (calls : List (Files × Load)) :
    afterCalls calls = empty.addAll (readBy calls) := by
  induction calls using List.reverseRecOn with
  | nil => rfl
  | append_singleton calls call ih =>
    have hlast : afterCalls (calls ++ [call]) = call.2.perform call.1 (afterCalls calls) :=
      List.foldl_append
    have hread : readBy (calls ++ [call]) = readBy calls ++ call.2.added call.1 := by
      rw [readBy, List.flatMap_append, List.flatMap_singleton, readBy]
    rw [hlast, ih, perform_eq, hread, addAll_append]

/-- After any calls, with any files and whether or not they failed, a corpus holds what was read. A
call after them only puts inputs behind the others, and as many as it says. A call that succeeded
before brings nothing with the same files. -/
theorem holds_afterCalls (calls : List (Files × Load)) :
    (afterCalls calls).Holds (readBy calls) ∧
    (∀ fs (load : Load), (afterCalls calls).entries <+:
      (load.perform fs (afterCalls calls)).entries ∧
      ∀ n, load.answer fs (afterCalls calls) = .ok n →
        (load.perform fs (afterCalls calls)).entries.length =
          (afterCalls calls).entries.length + n) ∧
    ∀ before fs (load : Load) later n, calls = before ++ (fs, load) :: later →
      load.answer fs (afterCalls before) = .ok n →
      load.answer fs (afterCalls calls) = .ok 0 ∧
        (load.perform fs (afterCalls calls)).entries = (afterCalls calls).entries := by
  refine ⟨?_, ?_, ?_⟩
  · rw [afterCalls_eq]
    exact holds_addAll _
  · intro fs load
    refine ⟨?_, fun n => length_perform⟩
    rw [perform_eq]
    exact entries_addAll _ _
  · rintro before fs load later n rfl hbefore
    have hentries : (load.perform fs (afterCalls (before ++ (fs, load) :: later))).entries =
        (afterCalls (before ++ (fs, load) :: later)).entries := by
      rw [perform_eq]
      refine entries_addAll_of_known fun file hfile => ?_
      rw [afterCalls_eq, knows_addAll]
      exact .inr ⟨file, List.mem_flatMap.mpr ⟨(fs, load), by simp, hfile⟩, rfl⟩
    -- whether a load succeeds does not depend on the corpus, and what it answers is by how much it
    -- grows
    have hok : (load.answer fs (afterCalls (before ++ (fs, load) :: later))).isOk = true := by
      rw [isOk_answer, ← isOk_answer fs (afterCalls before), hbefore]
      rfl
    cases hanswer : load.answer fs (afterCalls (before ++ (fs, load) :: later)) with
    | error fault =>
      rw [hanswer] at hok
      cases hok
    | ok k =>
      have hlength := length_perform hanswer
      rw [hentries] at hlength
      exact ⟨congrArg Except.ok (by omega), hentries⟩

/-- A load that fails inside a directory, at the second of three files, which may not be opened; a
load of the directory whose listing then breaks off; and a load of everything once nothing is in the
way. -/
theorem holds_afterCalls_overlapping :
    let denied : Inode := { Inode.ofBytes [1] with obstacle := some (.opening .permissionDenied) }
    let broken : Inode :=
      { Inode.ofDirectory with obstacle := some (.reading (.reported "broken")) }
    let names : OrderedMap Location Entry := .ofList [(["c"], .file 1), (["d"], .directory 2),
      (["d", "a"], .file 3), (["d", "b"], .file 4), (["d", "e"], .file 5)]
    let contents : Inode → Inode → Array Inode := fun d b =>
      #[.ofDirectory, .ofBytes [2], d, .ofBytes [1], b, .ofBytes [3]]
    let fs : Files := ⟨names, contents .ofDirectory denied, 0⟩
    let gs : Files := ⟨names, contents broken denied, 0⟩
    let hs : Files := ⟨names, contents .ofDirectory (.ofBytes [1]), 0⟩
    let load : Load := .several ["/c", "/d"]
    let failed := [(fs, .several ["/d", "/c"]), (gs, load)]
    let calls := failed ++ [(hs, load)]
    (fs.isFile "/d/b" ∧ gs.isDirectory "/d") ∧
      (afterCalls failed).entries.map CorpusEntry.path = ["/d/a", "/c"] ∧
      load.answer hs (afterCalls failed) = .ok 1 ∧
      (afterCalls calls).entries.map CorpusEntry.path = ["/d/a", "/c", "/d/e"] ∧
      (afterCalls calls).duplicates = 3 ∧ (readBy calls).length = 6 ∧
      (afterCalls calls).Holds (readBy calls) ∧ load.answer hs (afterCalls calls) = .ok 0 := by
  intro denied broken names contents fs gs hs load failed calls
  have hone : load.answer hs (afterCalls failed) = .ok 1 := by
    have hvalue : (load.answer hs (afterCalls failed)).toOption = some 1 := by decide +kernel
    generalize load.answer hs (afterCalls failed) = answer at hvalue ⊢
    cases answer <;> cases hvalue
    rfl
  obtain ⟨hholds, -, hagain⟩ := holds_afterCalls calls
  exact ⟨by decide +kernel, by decide +kernel, hone, by decide +kernel, by decide +kernel,
    by decide +kernel, hholds, (hagain failed hs load [] 1 rfl hone).1⟩

end Corpus

end BlockCoverage
