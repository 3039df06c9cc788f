import BlockCoverage.Proofs.Ordered.Lookup
import BlockCoverage.Proofs.Path.Spelling
import BlockCoverage.Files.Tree

/-!
# Paths seen from several directories

Two processes can share a tree of files and not the directory that relative paths start from. An
absolute path names the same file for both, and so does every path if both start at the same
location. A relative path that is a single name tells locations apart: from each it leads to the
name below it (`reach_seenFrom`), so it names the same file just when the locations are the same
(`sameFile_iff_of_isName`).

Nothing but the start of a relative path depends on the directory (`walk_seenFrom`), which is what
all of this comes down to.
-/

namespace BlockCoverage

/-- A path that is a single name, short enough to be one. -/
structure Path.IsName (s : String) : Prop where
  /-- It has no slash. -/
  stretch : IsStretch s
  /-- It is not empty. -/
  ne_empty : s ≠ ""
  /-- It is not the directory itself. -/
  ne_dot : s ≠ "."
  /-- It is not the parent. -/
  ne_dots : s ≠ ".."
  /-- It has no zero character. -/
  noZero : Char.ofNat 0 ∉ s.toList
  /-- It is not too long. -/
  short : s.utf8ByteSize ≤ Files.maxName

namespace Path.IsName

variable {s : String}

theorem stretches (h : IsName s) : Path.stretches s = [s] := by
  rw [stretches_of_isStretch h.stretch, if_neg h.ne_empty]

theorem isAbsolute (h : IsName s) : Path.isAbsolute s = false := isAbsolute_of_isStretch h.stretch

end Path.IsName

namespace Files

variable {fs : Files} {a b : Nat} {path : String}

/-- The same tree, with relative paths starting from the directory of a number. -/
def seenFrom (fs : Files) (dir : Nat) : Files := { fs with here := dir }

theorem entryAt?_seenFrom (fs : Files) (dir : Nat) (loc : Location) :
    (fs.seenFrom dir).entryAt? loc = fs.entryAt? loc := rfl

theorem locationOf?_seenFrom (fs : Files) (dir n : Nat) :
    (fs.seenFrom dir).locationOf? n = fs.locationOf? n := rfl

theorem walkWith_seenFrom (fs : Files) (dir : Nat) (follow : Bool)
    (jump : Location → List String → Except IoCause Location) (loc : Location) (l : List String) :
    (fs.seenFrom dir).walkWith follow jump loc l = fs.walkWith follow jump loc l := by
  induction l generalizing loc with
  | nil => rfl
  | cons part rest ih => simp only [walkWith, entryAt?_seenFrom, ih]

theorem walk_seenFrom (fs : Files) (dir : Nat) (follow : Bool) (n : Nat) :
    (fs.seenFrom dir).walk follow n = fs.walk follow n := by
  induction n with
  | zero =>
    funext loc l
    exact walkWith_seenFrom ..
  | succ n ih =>
    funext loc l
    rw [walk, walk, ih]
    exact walkWith_seenFrom ..

/-! ## The same file from two directories -/

/-- From two directories a path names the same file, whatever is done with it. -/
structure SameFile (fs : Files) (a b : Nat) (path : String) : Prop where
  /-- To remove it, a link at its end not followed. -/
  reach : (fs.seenFrom a).reach path = (fs.seenFrom b).reach path
  /-- To read it. -/
  locate : (fs.seenFrom a).locate path = (fs.seenFrom b).locate path
  /-- To write it. -/
  locateForWriting : (fs.seenFrom a).locateForWriting path = (fs.seenFrom b).locateForWriting path

theorem follow_seenFrom (h : Path.isAbsolute path = true ∨ fs.locationOf? a = fs.locationOf? b)
    (last : Bool) (l : List String) :
    (fs.seenFrom a).follow last path l = (fs.seenFrom b).follow last path l := by
  have hstart : (if Path.isAbsolute path then some [] else fs.locationOf? a) =
      if Path.isAbsolute path then some [] else fs.locationOf? b := by
    obtain habsolute | hsame := h
    · rw [if_pos habsolute, if_pos habsolute]
    · rw [hsame]
  have hhere : ∀ n, (fs.seenFrom n).locationOf? (fs.seenFrom n).here = fs.locationOf? n :=
    fun n => fs.locationOf?_seenFrom n n
  simp only [follow, walk_seenFrom, hhere, hstart]

theorem sameFile_of_start (h : Path.isAbsolute path = true ∨ fs.locationOf? a = fs.locationOf? b) :
    fs.SameFile a b path where
  reach := follow_seenFrom h ..
  locate := by simp only [locate, follow_seenFrom h, entryAt?_seenFrom]
  locateForWriting := by simp only [locateForWriting, follow_seenFrom h, entryAt?_seenFrom]

theorem entryAt?_of_locationOf? {n : Nat} {loc : Location} (h : fs.locationOf? n = some loc) :
    ∃ m, fs.entryAt? loc = some (.directory m) := by
  rw [entryAt?]
  by_cases hroot : loc = []
  · rw [if_pos hroot]
    exact ⟨0, rfl⟩
  rw [if_neg hroot]
  rw [locationOf?] at h
  split at h
  · exact absurd (Option.some.inj h).symm hroot
  · obtain ⟨e, hfind, rfl⟩ := Option.map_eq_some_iff.mp h
    have hdir : e.2 = .directory n := by simpa using List.find?_some hfind
    refine ⟨n, ?_⟩
    rw [← hdir]
    exact OrderedMap.get?_eq_some_iff.mpr (List.mem_of_find?_eq_some hfind)

/-- From a directory a single name leads to the name below it. -/
theorem reach_seenFrom {loc : Location} (hname : Path.IsName path)
    (hloc : fs.locationOf? a = some loc) : (fs.seenFrom a).reach path = .ok (loc ++ [path]) := by
  obtain ⟨m, hdir⟩ := entryAt?_of_locationOf? hloc
  have hzero : ¬path.toList.contains (Char.ofNat 0) = true := by
    rw [List.contains_iff_mem]
    exact hname.noZero
  have hshort : ¬pathLimit ≤ path.utf8ByteSize := by
    have hmax := hname.short
    rw [maxName] at hmax
    rw [pathLimit]
    omega
  have hstart : (fs.seenFrom a).locationOf? (fs.seenFrom a).here = some loc := hloc
  have hwalk : fs.walk false maxLinks loc [path] = .ok (loc ++ [path]) := by
    rw [maxLinks, walk, walkWith, hdir]
    simp only [hname.ne_dot, hname.ne_dots, hname.short, Nat.not_lt.mpr, if_false]
    split <;> rfl
  rw [reach, follow, if_neg hname.ne_empty, if_neg hzero, if_neg hshort, hname.isAbsolute, hstart,
    hname.stretches, walk_seenFrom]
  exact hwalk

/-- A single name names the same file just from the same location. -/
theorem sameFile_iff_of_isName {here there : Location} (hname : Path.IsName path)
    (ha : fs.locationOf? a = some here) (hb : fs.locationOf? b = some there) :
    fs.SameFile a b path ↔ here = there := by
  constructor
  · intro h
    have hreach := h.reach
    rw [reach_seenFrom hname ha, reach_seenFrom hname hb] at hreach
    exact List.append_cancel_right (Except.ok.inj hreach)
  · rintro rfl
    exact sameFile_of_start (.inr (ha.trans hb.symm))

end Files

end BlockCoverage
