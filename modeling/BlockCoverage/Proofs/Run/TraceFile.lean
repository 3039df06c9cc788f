import BlockCoverage.Proofs.Files.Walk
import BlockCoverage.Proofs.Run.Course
import BlockCoverage.Run.TraceFile

/-!
# A run under the observer of its trace file

Before a target runs the observer either removes what is at the trace path, or fails and the target
does not run. In the first case the target *finds* files without a trace (`Finds.read`), the run
takes its course from there, and comes to the status of the course and the octets that can be read
at the trace path at its end (`execute_of_finds`). So nothing of an earlier run takes part but the
files that the target finds. A temporary file is still there when the octets are picked up, and gone
afterwards.
-/

namespace BlockCoverage

open Text (Bytes)

namespace TraceFile

variable {κ : Type} {path : String} {w : Workbench κ} {fs : Files}

/-! ## Before the run -/

/-- The observer prepares without failure, and these are the files that the target finds. -/
def Finds (path : String) (w : Workbench κ) (fs : Files) : Prop :=
  before path w = (none, ⟨fs, w.rest, none⟩)

theorem finds_iff : Finds path w fs ↔
    w.files.remove path = .ok fs ∨ w.files.remove path = .error .notFound ∧ w.files = fs := by
  rw [Finds, before]
  simp only [Workbench.forget]
  cases h : w.files.remove path with
  | ok files => simp
  | error cause => cases cause <;> simp

/-- What the target finds has nothing to be read at the trace path. -/
theorem Finds.read (h : Finds path w fs) : fs.read path = .error .notFound := by
  rcases finds_iff.mp h with hok | ⟨hmissing, rfl⟩
  · exact Files.read_remove hok
  · exact (Files.holds_none_of_remove hmissing).read

theorem finds_of_holds {contents : Option Bytes} (h : w.files.Holds path contents) :
    ∃ fs, Finds path w fs := by
  cases contents with
  | none => exact ⟨w.files, finds_iff.mpr (.inr ⟨h.remove_none, rfl⟩)⟩
  | some bytes =>
    obtain ⟨fs, hremove⟩ := h.remove_some
    exact ⟨fs, finds_iff.mpr (.inl hremove)⟩

theorem before_of_error {cause : IoCause} (h : w.files.remove path = .error cause)
    (hcause : cause ≠ .notFound) :
    before path w =
      (some ("Failed to remove stale trace file " ++ Text.quote path ++ ": " ++ cause.message),
        w.forget) := by
  rw [before]
  simp only [Workbench.forget, h]

/-- An observer that cannot prepare leaves the files as they are. -/
theorem finds_or_fails (path : String) (w : Workbench κ) :
    (∃ fs, Finds path w fs) ∨ ∃ failure, before path w = (some failure, w.forget) := by
  cases h : w.files.remove path with
  | ok fs => exact .inl ⟨fs, finds_iff.mpr (.inl h)⟩
  | error cause =>
    by_cases hcause : cause = .notFound
    · exact .inl ⟨w.files, finds_iff.mpr (.inr ⟨hcause ▸ h, rfl⟩)⟩
    · exact .inr ⟨_, before_of_error h hcause⟩

theorem finds_congr {v : Workbench κ} (h : v.files = w.files) :
    Finds path v fs ↔ Finds path w fs := by
  rw [finds_iff, finds_iff, h]

/-- Whether the observer fails to prepare is a matter of the files. -/
theorem fails_congr {v : Workbench κ} (h : v.files = w.files) {failure : String}
    (hfails : before path w = (some failure, w.forget)) :
    before path v = (some failure, v.forget) := by
  rw [before] at hfails ⊢
  simp only [Workbench.forget, h] at hfails ⊢
  cases hremove : w.files.remove path with
  | ok files =>
    rw [hremove] at hfails
    cases hfails
  | error cause =>
    rw [hremove] at hfails
    cases cause <;> simp_all

/-! ## After the run -/

/-- What the observer says about reading the trace. -/
def readFailure (path : String) : Except IoCause Bytes → Option String
  | .ok _ | .error .notFound => none
  | .error cause =>
    some ("Failed to read trace file " ++ Text.quote path ++ ": " ++ cause.message)

theorem after_eq (path : String) (p : Platform κ) :
    after path ⟨p.files, p.rest, none⟩ =
      (readFailure path (p.files.read path),
        ⟨p.files, p.rest, (p.files.read path).toOption⟩) := by
  rw [after]
  cases p.files.read path with
  | ok bytes => rfl
  | error cause => cases cause <;> rfl

/-- The status of a run whose target ended with `status` and left `trace` to be read. -/
def statusAfter (path : String) (status : Status) (trace : Except IoCause Bytes) : Status :=
  Observer.conclude status ((readFailure path trace).map
    ("Observer 'TraceFileObserver' post_exec failed: " ++ ·))

/-- A trace that is there, or is not, leaves the status as it is. -/
theorem statusAfter_elim (path : String) (status : Status) (contents : Option Bytes) :
    statusAfter path status (contents.elim (.error .notFound) .ok) = status := by
  cases contents <;> cases status <;> rfl

/-- What collecting gives at the end of a course. -/
theorem close_eq (path : String) (status : Status) (p : Platform κ) :
    Observer.close [observer path] status ⟨p.files, p.rest, none⟩ =
      (statusAfter path status (p.files.read path),
        ⟨p.files, p.rest, (p.files.read path).toOption⟩) := by
  have hafter : (observer path).after status ⟨p.files, p.rest, none⟩ =
      (readFailure path (p.files.read path),
        ⟨p.files, p.rest, (p.files.read path).toOption⟩) := after_eq path p
  simp only [Observer.close, Observer.collect, hafter, statusAfter]
  cases readFailure path (p.files.read path) <;> rfl

/-! ## The run -/

variable {e : Executor (Platform κ)} {input : Bytes}

theorem execute_of_finds (h : Finds path w fs) {c : Course (Platform κ)}
    (hcourse : e.course input ⟨fs, w.rest⟩ = some c) :
    let left := e.clear c.temp c.state
    (e.on Workbench.platform).execute [observer path] input w =
      (statusAfter path c.status (c.state.files.read path),
        ⟨left.files, left.rest, (c.state.files.read path).toOption⟩) := by
  have hprepare : Observer.prepare [observer path] w = (none, ⟨fs, w.rest, none⟩) := by
    have hbefore : (observer path).before w = (none, ⟨fs, w.rest, none⟩) := h
    simp only [Observer.prepare, hbefore]
  have hlifted : (e.on Workbench.platform).course input ⟨fs, w.rest, none⟩ =
      some ⟨c.status, ⟨c.state.files, c.state.rest, none⟩, c.temp⟩ := Executor.course_on hcourse
  simp only [Executor.execute_of_prepared hprepare hlifted, close_eq, Executor.clear_on]
  rfl

/-- The status of a run whose observer failed to prepare. -/
def refusal (failure : String) : Status :=
  .observerError ("Observer 'TraceFileObserver' pre_exec failed: " ++ failure)

theorem execute_of_fails (he : e ≠ .idle) {failure : String}
    (h : before path w = (some failure, w.forget)) :
    (e.on Workbench.platform).execute [observer path] input w = (refusal failure, w.forget) := by
  have hbefore : (observer path).before w = (some failure, w.forget) := h
  have hprepare : Observer.prepare [observer path] w =
      (some ("Observer 'TraceFileObserver' pre_exec failed: " ++ failure), w.forget) := by
    simp only [Observer.prepare, hbefore]
    rfl
  have hon : e.on Workbench.platform ≠ .idle := by
    cases e with
    | idle => exact absurd rfl he
    | inProcess target => exact nofun
    | command host c => exact nofun
  rw [Executor.execute_of_refused hon hprepare, refusal]

end TraceFile

end BlockCoverage
