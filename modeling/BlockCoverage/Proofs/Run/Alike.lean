import BlockCoverage.Proofs.Files.Numbering
import BlockCoverage.Proofs.Run.Course
import BlockCoverage.Run.Platform

/-!
# Runs on alike platforms

What a run finds of the files is what names stand for and what can be read; the numbers of files are
not among it. So a target makes alike files of alike files and ends the same way, and so does each
operation of a host. An executor of which this holds (`Executor.RespectsAlike`) takes the same
course on alike platforms, whichever way the run comes to an end.

A host that a launcher makes takes steps of its own around the process: it may write an input file,
look for the start directory and remove the input file again, and it may fail at each of them. It
respects alike platforms if the launcher does (`Launcher.RespectsAlike.host`).
-/

namespace BlockCoverage

open Text (Bytes)

variable {κ : Type}

/-- The files are alike, and the rest is the same. -/
def Platform.Alike (p q : Platform κ) : Prop := p.files.Alike q.files ∧ p.rest = q.rest

/-- An executor that cannot tell alike platforms apart: on such, the target that is called, or each
operation of the host, gives the same answer and leaves alike platforms. Where there is no target,
there is nothing to be asked. -/
def Executor.RespectsAlike (e : Executor (Platform κ)) : Prop := e.Related Platform.Alike e

/-! ## Launchers -/

namespace Launcher

/-- From alike files the launcher fails with the same cause, or its processes end the same way and
leave alike files. Files that were there keep their numbers. -/
def RespectsAlike (launch : Launcher) : Prop :=
  ∀ start r fs gs, Files.Related r fs gs →
    (∃ cause, launch start fs = .error cause ∧ launch start gs = .error cause) ∨
      ∃ ending fs' gs' s, launch start fs = .ok (ending, fs') ∧
        launch start gs = .ok (ending, gs') ∧
        (∀ a b, r a b → s a b) ∧ Files.Related s fs' gs'

variable {launch : Launcher} {r : Nat → Nat → Prop} {fs gs : Files} {p q : Platform (List Ending)}

/-- The start directory is there in both trees, or fails with the same cause. -/
theorem related_startDirectory (c : TargetCommand) (h : Files.Related r fs gs) :
    (∃ cause, c.startDirectory fs = .error cause ∧ c.startDirectory gs = .error cause) ∨
      ∃ fs' gs', c.startDirectory fs = .ok fs' ∧ c.startDirectory gs = .ok gs' ∧
        Files.Related r fs' gs' := by
  rw [TargetCommand.startDirectory, TargetCommand.startDirectory]
  cases c.workingDir with
  | none => exact .inr ⟨fs, gs, rfl, rfl, h⟩
  | some dir =>
    simp only [h.locate]
    cases gs.locate dir with
    | error cause => exact .inl ⟨cause, rfl, rfl⟩
    | ok loc =>
      simp only [h.node?]
      cases gs.node? loc with
      | none => exact .inl ⟨_, rfl, rfl⟩
      | some node =>
        cases node with
        | file contents => exact .inl ⟨_, rfl, rfl⟩
        | directory => exact .inr ⟨_, _, rfl, rfl, h.enter loc⟩

theorem RespectsAlike.start (hlaunch : launch.RespectsAlike) (c : TargetCommand)
    (extra : List String) (input : Bytes) (h : Files.Related r fs gs) :
    (∃ cause, launch.start c extra input fs = .error cause ∧
        launch.start c extra input gs = .error cause) ∨
      ∃ ending fs' gs' s, launch.start c extra input fs = .ok (ending, fs') ∧
        launch.start c extra input gs = .ok (ending, gs') ∧
        (∀ a b, r a b → s a b) ∧ Files.Related s fs' gs' := by
  rw [Launcher.start, Launcher.start]
  cases c.command with
  | nil => exact .inl ⟨_, rfl, rfl⟩
  | cons program arguments =>
    simp only
    by_cases hpassable : (!c.isPassable extra) = true
    · rw [if_pos hpassable, if_pos hpassable]
      exact .inl ⟨_, rfl, rfl⟩
    rw [if_neg hpassable, if_neg hpassable]
    rcases related_startDirectory c h with ⟨cause, hfs, hgs⟩ | ⟨fs', gs', hfs, hgs, hseen⟩
    · rw [hfs, hgs]
      exact .inl ⟨_, rfl, rfl⟩
    · rw [hfs, hgs]
      exact hlaunch _ r fs' gs' hseen

/-- Writing a file fails with the same cause, or leaves alike platforms. -/
theorem alike_write (path : String) (contents : Bytes) (h : p.Alike q) :
    (∃ cause, p.files.write path contents = .error cause ∧
        q.files.write path contents = .error cause) ∨
      ∃ fs gs, p.files.write path contents = .ok fs ∧ q.files.write path contents = .ok gs ∧
        Platform.Alike { p with files := fs } { q with files := gs } := by
  obtain ⟨⟨r, hrelated⟩, hrest⟩ := h
  rcases hrelated.write path contents with ⟨cause, hp, hq⟩ | ⟨fs, gs, s, hp, hq, -, hwritten⟩
  · exact .inl ⟨cause, hp, hq⟩
  · exact .inr ⟨fs, gs, hp, hq, ⟨s, hwritten⟩, hrest⟩

theorem alike_spawn (hlaunch : launch.RespectsAlike) (c : TargetCommand) (extra : List String)
    (stdin : Option Bytes) (h : p.Alike q) :
    Agree Platform.Alike (launch.host.spawn c extra stdin p)
      (launch.host.spawn c extra stdin q) := by
  obtain ⟨⟨r, hrelated⟩, hrest⟩ := h
  simp only [Launcher.host]
  rcases hlaunch.start c extra (stdin.getD []) hrelated with
    ⟨cause, hp, hq⟩ | ⟨ending, fs, gs, s, hp, hq, hle, hafter⟩
  · rw [hp, hq]
    exact ⟨rfl, ⟨r, hrelated⟩, hrest⟩
  · -- the process may have gone elsewhere; the files are seen again from where they were
    rw [hp, hq, ← hrest]
    exact ⟨rfl, ⟨s, hafter.withHere (hle _ _ hrelated.here)⟩, rfl⟩

/-- A temporary file is removed from both, or from neither. -/
theorem alike_discard (path : Bytes) (h : p.Alike q) :
    (launch.host.discard path p).Alike (launch.host.discard path q) := by
  obtain ⟨⟨r, hrelated⟩, hrest⟩ := h
  simp only [Launcher.host]
  rcases hrelated.remove (Text.Utf8.decodeLossy path) with
    ⟨cause, hp, hq⟩ | ⟨fs, gs, hp, hq, hremoved⟩
  · rw [hp, hq]
    exact ⟨⟨r, hrelated⟩, hrest⟩
  · rw [hp, hq]
    exact ⟨⟨r, hremoved⟩, hrest⟩

/-- The host of a launcher cannot tell platforms apart that the launcher cannot. -/
theorem RespectsAlike.host (hlaunch : launch.RespectsAlike) :
    launch.host.Related Platform.Alike launch.host where
  makeTemp := by
    intro p q h
    simp only [Launcher.host]
    rcases alike_write inputPath [] h with ⟨cause, hp, hq⟩ | ⟨fs, gs, hp, hq, hwritten⟩
    · rw [hp, hq]
      exact ⟨rfl, h⟩
    · rw [hp, hq]
      exact ⟨rfl, hwritten⟩
  fill := by
    intro path input p q h
    simp only [Launcher.host]
    rcases alike_write (Text.Utf8.decodeLossy path) input h with
      ⟨cause, hp, hq⟩ | ⟨fs, gs, hp, hq, hwritten⟩
    · rw [hp, hq]
      exact ⟨rfl, h⟩
    · rw [hp, hq]
      exact ⟨rfl, hwritten⟩
  spawn := fun c extra stdin _ _ => alike_spawn hlaunch c extra stdin
  feed := fun _ _ _ _ h => ⟨rfl, h⟩
  poll := by
    intro child p q h
    simp only [Launcher.host, h.2]
    exact ⟨rfl, h⟩
  lag := fun h => ⟨rfl, h⟩
  kill := fun _ _ _ h => ⟨rfl, h⟩
  reap := fun _ _ _ h => h
  discard := fun path _ _ => alike_discard path

end Launcher

/-- A command on the host of a launcher that cannot tell alike files apart. -/
theorem Executor.respectsAlike_command {launch : Launcher} (hlaunch : launch.RespectsAlike)
    (c : TargetCommand) : (Executor.command launch.host c).RespectsAlike := ⟨hlaunch.host, rfl⟩

end BlockCoverage
