import BlockCoverage.Files.Tree
import BlockCoverage.Proofs.Ordered.Lookup
import Mathlib.Data.List.Find

/-!
# Reading and removing what is at a path

`Files.Holds` says what a path names without following a link at its end: nothing, or a regular file
with contents that can be read. It decides what reading and removing the path do (`Holds.read`,
`Holds.remove_none`, `Holds.remove_some`), although the first follows a link at the end of a path
and the second does not: the two walks part only at such a link (`walk_follow`).

With a name gone that stood for no directory, every path leads where it led before or breaks off
(`reach_unbind`): it may have led through a link of that name. So removing one path leaves at most what
it held at another (`Holds.unbind`), and nothing at all at the path itself (`read_remove`).
-/

namespace BlockCoverage

open Text (Bytes)

namespace Files

variable {fs : Files}

/-- A location whose name can be removed: whatever it stands for, it is no directory. -/
def Clearable (fs : Files) (loc : Location) : Prop :=
  ∀ n, fs.entryAt? loc ≠ some (.directory n)

/-- The root is a directory, so what is anything else has a name. -/
theorem Clearable.ne_nil {loc : Location} (h : fs.Clearable loc) : loc ≠ [] :=
  fun he => h 0 (by rw [he, entryAt?, if_pos rfl])

theorem entryAt?_unbind {loc : Location} (h : fs.Clearable loc) (l : Location) :
    (fs.unbind loc).entryAt? l = if l = loc then none else fs.entryAt? l := by
  have hloc := h.ne_nil
  rw [entryAt?, entryAt?, unbind, OrderedMap.erase, OrderedMap.get?_filter]
  by_cases hl : l = []
  · rw [if_pos hl, if_pos hl, if_neg (fun h => hloc (h.symm.trans hl))]
  · rw [if_neg hl, if_neg hl]
    by_cases h : l = loc
    · rw [if_pos h, h]
      cases fs.names.get? loc <;> simp
    · have hne : loc ≠ l := fun he => h he.symm
      rw [if_neg h]
      cases fs.names.get? l <;> simp [hne]

/-! ## Links at the end of a path -/

/-- A walk that stops at a link, with the walk that follows it. -/
def SameBeforeLink (fs : Files) (stopping following : Except IoCause Location) : Prop :=
  stopping = following ∨ ∃ loc target, stopping = .ok loc ∧ fs.entryAt? loc = some (.link target)

theorem walkWith_follow {stop jump : Location → List String → Except IoCause Location}
    (hjump : ∀ loc l, fs.SameBeforeLink (stop loc l) (jump loc l)) (loc : Location)
    (l : List String) :
    fs.SameBeforeLink (fs.walkWith false stop loc l) (fs.walkWith true jump loc l) := by
  induction l generalizing loc with
  | nil => exact .inl rfl
  | cons part rest ih =>
    rw [walkWith, walkWith]
    split
    · exact .inl rfl
    · exact .inl rfl
    · exact .inl rfl
    · exact .inl rfl
    by_cases hdot : part = "."
    · rw [if_pos hdot, if_pos hdot]
      exact ih _
    by_cases hdots : part = ".."
    · rw [if_neg hdot, if_pos hdots, if_neg hdot, if_pos hdots]
      exact ih _
    by_cases hlong : maxName < part.utf8ByteSize
    · rw [if_neg hdot, if_neg hdots, if_pos hlong, if_neg hdot, if_neg hdots, if_pos hlong]
      exact .inl rfl
    rw [if_neg hdot, if_neg hdots, if_neg hlong, if_neg hdot, if_neg hdots, if_neg hlong]
    split
    · rename_i target hlink
      by_cases hlast : rest.isEmpty
      · -- the only place where the two differ
        rw [if_pos (by simp [hlast])]
        exact .inr ⟨_, target, rfl, hlink⟩
      · have hstop : ¬(!false && rest.isEmpty) = true := by simp [hlast]
        have hgo : ¬(!true && rest.isEmpty) = true := by simp
        rw [if_neg hstop, if_neg hgo]
        by_cases htarget : target = ""
        · rw [if_pos htarget, if_pos htarget]
          exact .inl rfl
        · rw [if_neg htarget, if_neg htarget]
          exact hjump _ _
    · exact ih _

theorem walk_follow (n : Nat) (loc : Location) (l : List String) :
    fs.SameBeforeLink (fs.walk false n loc l) (fs.walk true n loc l) := by
  induction n generalizing loc l with
  | zero => exact walkWith_follow (fun _ _ => .inl rfl) loc l
  | succ n ih => exact walkWith_follow ih loc l

/-- Where a path leads, and where it leads with a link at its end followed. -/
theorem reach_follow (fs : Files) (path : String) :
    fs.SameBeforeLink (fs.reach path) (fs.follow true path (Path.stretches path)) := by
  rw [reach, follow, follow]
  by_cases hempty : path = ""
  · rw [if_pos hempty, if_pos hempty]
    exact .inl rfl
  by_cases hzero : path.toList.contains (Char.ofNat 0)
  · rw [if_neg hempty, if_pos hzero, if_neg hempty, if_pos hzero]
    exact .inl rfl
  by_cases hlong : pathLimit ≤ path.utf8ByteSize
  · rw [if_neg hempty, if_neg hzero, if_pos hlong, if_neg hempty, if_neg hzero, if_pos hlong]
    exact .inl rfl
  rw [if_neg hempty, if_neg hzero, if_neg hlong, if_neg hempty, if_neg hzero, if_neg hlong]
  cases if Path.isAbsolute path then some [] else fs.locationOf? fs.here with
  | none => exact .inl rfl
  | some start => exact walk_follow ..

/-! ## What is at a path -/

/-- What is at a path: nothing, or a regular file from which these contents can be read. -/
inductive Holds (fs : Files) (path : String) : Option Bytes → Prop where
  /-- The path breaks off. -/
  | missing (hreach : fs.reach path = .error .notFound) : Holds fs path none
  /-- The path leads to a name that stands for nothing. -/
  | free {loc : Location} (hreach : fs.reach path = .ok loc) (hentry : fs.entryAt? loc = none) :
      Holds fs path none
  /-- The path leads to the name of a file. -/
  | file {loc : Location} {n : Nat} (hreach : fs.reach path = .ok loc)
      (hentry : fs.entryAt? loc = some (.file n)) (hopen : (fs.inode n).obstacle = none)
      (hslash : endsWithSlash path = false) : Holds fs path (some (fs.inode n).contents)

namespace Holds

variable {path : String} {contents : Option Bytes}

theorem read (h : fs.Holds path contents) :
    fs.read path = contents.elim (.error .notFound) .ok := by
  rw [Files.read, locate]
  cases h with
  | missing hreach =>
    rcases fs.reach_follow path with hsame | ⟨loc, target, hlink, -⟩
    · rw [← hsame, hreach]
      rfl
    · rw [hreach] at hlink
      cases hlink
  | free hreach hentry =>
    rcases fs.reach_follow path with hsame | ⟨loc, target, hlink, hentry'⟩
    · simp [← hsame, hreach, Bind.bind, Except.bind, hentry, node?]
    · obtain rfl := Except.ok.inj (hreach.symm.trans hlink)
      rw [hentry] at hentry'
      cases hentry'
  | file hreach hentry hopen hslash =>
    rcases fs.reach_follow path with hsame | ⟨loc, target, hlink, hentry'⟩
    · simp [← hsame, hreach, Bind.bind, Except.bind, hentry, hopen, hslash, node?, obstacle?]
    · obtain rfl := Except.ok.inj (hreach.symm.trans hlink)
      rw [hentry] at hentry'
      cases hentry'

theorem remove_none (h : fs.Holds path none) : fs.remove path = .error .notFound := by
  rw [remove]
  cases h with
  | missing hreach => simp [hreach, Bind.bind, Except.bind]
  | free hreach hentry => simp [hreach, Bind.bind, Except.bind, hentry]

theorem remove_some {bytes : Bytes} (h : fs.Holds path (some bytes)) :
    ∃ gs, fs.remove path = .ok gs := by
  rw [remove]
  cases h with
  | @file loc n hreach hentry _ hslash =>
    exact ⟨fs.unbind loc, by simp [hreach, Bind.bind, Except.bind, hentry, hslash]⟩

end Holds

/-! ## Removing and reading -/

/-- What has been removed is a name that does not stand for a directory. -/
theorem remove_ok {gs : Files} {path : String} (h : fs.remove path = .ok gs) :
    ∃ loc, fs.reach path = .ok loc ∧ fs.Clearable loc ∧ gs = fs.unbind loc := by
  rw [remove] at h
  cases hreach : fs.reach path with
  | error cause => simp [hreach, Bind.bind, Except.bind] at h
  | ok loc =>
    simp only [hreach, Bind.bind, Except.bind] at h
    split at h
    · cases h
    · cases h
    · rename_i e hnot hentry
      split at h
      · cases h
      · have hclear : fs.Clearable loc := fun n hn =>
          hnot n (Option.some.inj (hentry.symm.trans hn))
        exact ⟨loc, rfl, hclear, (Except.ok.inj h).symm⟩

/-- With a name gone that stood for no directory, a walk goes where it went, or breaks off. -/
theorem walkWith_unbind {loc : Location} (hclear : fs.Clearable loc)
    {jump jump' : Location → List String → Except IoCause Location}
    (hjump : ∀ l s, jump' l s = jump l s ∨ jump' l s = .error .notFound)
    (l : Location) (s : List String) :
    (fs.unbind loc).walkWith false jump' l s = fs.walkWith false jump l s ∨
      (fs.unbind loc).walkWith false jump' l s = .error .notFound := by
  induction s generalizing l with
  | nil => exact .inl rfl
  | cons part rest ih =>
    rw [walkWith, walkWith, entryAt?_unbind hclear]
    by_cases hl : l = loc
    · rw [if_pos hl]
      exact .inr rfl
    rw [if_neg hl]
    split
    · exact .inl rfl
    · exact .inl rfl
    · exact .inl rfl
    · exact .inl rfl
    by_cases hdot : part = "."
    · rw [if_pos hdot, if_pos hdot]
      exact ih _
    by_cases hdots : part = ".."
    · rw [if_neg hdot, if_pos hdots, if_neg hdot, if_pos hdots]
      exact ih _
    by_cases hlong : maxName < part.utf8ByteSize
    · rw [if_neg hdot, if_neg hdots, if_pos hlong, if_neg hdot, if_neg hdots, if_pos hlong]
      exact .inl rfl
    rw [if_neg hdot, if_neg hdots, if_neg hlong, if_neg hdot, if_neg hdots, if_neg hlong,
      entryAt?_unbind hclear]
    by_cases hnext : l ++ [part] = loc
    · -- at the name itself: the end of the path, or a link that is gone
      rw [if_pos hnext, hnext]
      cases rest with
      | nil =>
        cases fs.entryAt? loc with
        | none => exact .inl rfl
        | some e => cases e <;> exact .inl rfl
      | cons part' rest' =>
        refine .inr ?_
        dsimp only
        rw [walkWith, entryAt?_unbind hclear, if_pos rfl]
    · rw [if_neg hnext]
      split
      · by_cases hlast : (!false && rest.isEmpty) = true
        · rw [if_pos hlast, if_pos hlast]
          exact .inl rfl
        rw [if_neg hlast, if_neg hlast]
        split
        · exact .inl rfl
        · exact hjump _ _
      · exact ih _

theorem walk_unbind {loc : Location} (hclear : fs.Clearable loc) (n : Nat) (l : Location)
    (s : List String) :
    (fs.unbind loc).walk false n l s = fs.walk false n l s ∨
      (fs.unbind loc).walk false n l s = .error .notFound := by
  induction n generalizing l s with
  | zero => exact walkWith_unbind hclear (fun _ _ => .inl rfl) l s
  | succ n ih => exact walkWith_unbind hclear ih l s

theorem locationOf?_unbind {loc : Location} (hclear : fs.Clearable loc) (n : Nat) :
    (fs.unbind loc).locationOf? n = fs.locationOf? n := by
  have hfind : (fs.unbind loc).names.entries.find? (fun d => d.2 == .directory n) =
      fs.names.entries.find? (fun d => d.2 == .directory n) := by
    rw [unbind, OrderedMap.erase, OrderedMap.filter, List.find?_filter]
    refine List.find?_congr fun d hd => ?_
    by_cases hdir : d.2 = .directory n
    · -- a directory is not what has been removed
      have hne : d.1 ≠ loc := fun hd1 => by
        refine hclear n ?_
        rw [entryAt?, if_neg hclear.ne_nil, ← hd1, ← hdir]
        exact OrderedMap.get?_eq_some_iff.mpr hd
      simp [hne.symm, hdir]
    · simp [hdir]
  rw [locationOf?, locationOf?, hfind]

theorem reach_unbind {loc : Location} (hclear : fs.Clearable loc) (path : String) :
    (fs.unbind loc).reach path = fs.reach path ∨
      (fs.unbind loc).reach path = .error .notFound := by
  have hhere : (fs.unbind loc).locationOf? (fs.unbind loc).here = fs.locationOf? fs.here :=
    locationOf?_unbind hclear _
  rw [reach, reach, follow, follow, hhere]
  split
  · exact .inl rfl
  split
  · exact .inl rfl
  split
  · exact .inl rfl
  cases if Path.isAbsolute path then some [] else fs.locationOf? fs.here with
  | none => exact .inl rfl
  | some start => exact walk_unbind hclear _ start _

/-- At a path there is what there was before, or nothing. -/
theorem Holds.unbind {loc : Location} (hclear : fs.Clearable loc) {path : String}
    {contents : Option Bytes} (h : fs.Holds path contents) :
    (fs.unbind loc).Holds path contents ∨ (fs.unbind loc).Holds path none := by
  rcases reach_unbind hclear path with hsame | hmissing
  · cases h with
    | missing hreach => exact .inl (.missing (hsame.trans hreach))
    | @free l hreach hentry =>
      have hnone : (fs.unbind loc).entryAt? l = none := by
        rw [entryAt?_unbind hclear, hentry, ite_self]
      exact .inl (.free (hsame.trans hreach) hnone)
    | @file l n hreach hentry hopen hslash =>
      by_cases hl : l = loc
      · have hnone : (fs.unbind loc).entryAt? l = none := by
          rw [entryAt?_unbind hclear, if_pos hl]
        exact .inr (.free (hsame.trans hreach) hnone)
      · have hkept : (fs.unbind loc).entryAt? l = some (.file n) := by
          rw [entryAt?_unbind hclear, if_neg hl, hentry]
        exact .inl (.file (hsame.trans hreach) hkept hopen hslash)
  · exact .inr (.missing hmissing)

/-- Removing a path, if it can be removed, leaves at another what there was, or nothing. -/
theorem Holds.remove {path : String} {contents : Option Bytes} (h : fs.Holds path contents)
    (other : String) :
    ∃ contents', ((fs.remove other).toOption.getD fs).Holds path contents' := by
  cases hremove : fs.remove other with
  | error cause => exact ⟨contents, h⟩
  | ok gs =>
    obtain ⟨loc, -, hclear, rfl⟩ := remove_ok hremove
    rcases h.unbind hclear with hkept | hgone
    · exact ⟨contents, hkept⟩
    · exact ⟨none, hgone⟩

/-- What has been removed cannot be read. -/
theorem read_remove {gs : Files} {path : String} (h : fs.remove path = .ok gs) :
    gs.read path = .error .notFound := by
  obtain ⟨loc, hreach, hclear, rfl⟩ := remove_ok h
  have hgone : (fs.unbind loc).Holds path none := by
    rcases reach_unbind hclear path with hsame | hmissing
    · exact .free (hsame.trans hreach) (by rw [entryAt?_unbind hclear, if_pos rfl])
    · exact .missing hmissing
  exact hgone.read

theorem holds_none_of_remove {path : String} (h : fs.remove path = .error .notFound) :
    fs.Holds path none := by
  rw [remove] at h
  cases hreach : fs.reach path with
  | error cause =>
    simp only [hreach, Bind.bind, Except.bind, Except.error.injEq] at h
    exact .missing (h ▸ hreach)
  | ok loc =>
    simp only [hreach, Bind.bind, Except.bind] at h
    split at h
    · exact .free hreach ‹_›
    · cases h
    · split at h <;> cases h

end Files

end BlockCoverage
