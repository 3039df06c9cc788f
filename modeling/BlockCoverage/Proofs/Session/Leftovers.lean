import BlockCoverage.Proofs.Run.Alike
import BlockCoverage.Proofs.Session.Run

/-!
# What earlier runs left behind

A run could take over evidence of an earlier one in two places: the file at the trace path, and the
octets that the observer has picked up. Neither reaches the outcome or the model
(`runInput_leftovers`). The observer forgets the octets and puts the file out of the way before the
target starts, so from situations that differ in these only, runs take their course from alike files
(`finds_alike`), whatever the executor is and whichever way it comes to an end; if the observer
cannot, no target runs, and a trace is only looked at when one did. So a target that leaves nothing
new at the trace path leaves the model as it is.
-/

namespace BlockCoverage

open Text (Bytes)

namespace Files

variable {fs gs : Files}

/-- Nothing is forgotten with a name that stands for nothing. -/
theorem unbind_of_entryAt?_none {loc : Location} (h : fs.entryAt? loc = none) :
    fs.unbind loc = fs := by
  have hclear : fs.Clearable loc := fun n hn => nomatch h.symm.trans hn
  rw [entryAt?, if_neg hclear.ne_nil] at h
  have hnames : fs.names.erase loc = fs.names := by
    refine OrderedMap.ext_get? fun k => ?_
    rw [OrderedMap.erase, OrderedMap.get?_filter]
    by_cases hk : loc = k
    · rw [← hk, h]
      rfl
    · cases fs.names.get? k <;> simp [hk]
  rw [unbind, hnames]

/-- Trees that are alike, or would be without the file at a path: the file may be in one of them
only, or have other contents. The same goes for a link, which is not followed. -/
inductive AlikeBut (path : String) (fs gs : Files) : Prop where
  /-- The trees are alike, whatever is at the path. -/
  | alike (h : fs.Alike gs)
  /-- The path leads to one location, with no directory there, and all else is alike. -/
  | file {loc : Location} (hfs : fs.reach path = .ok loc) (hgs : gs.reach path = .ok loc)
      (hclear : fs.Clearable loc) (hclear' : gs.Clearable loc)
      (hslash : endsWithSlash path = false) (h : (fs.unbind loc).Alike (gs.unbind loc))

end Files

namespace TraceFile

variable {κ : Type} {path : String} {w v : Workbench κ}

theorem finds_unbind {loc : Location} (hreach : w.files.reach path = .ok loc)
    (hclear : w.files.Clearable loc) (hslash : Files.endsWithSlash path = false) :
    Finds path w (w.files.unbind loc) := by
  rw [finds_iff, Files.remove, hreach]
  cases hentry : w.files.entryAt? loc with
  | none => exact .inr (by simp [bind, Except.bind, hentry, Files.unbind_of_entryAt?_none])
  | some e =>
    cases e with
    | directory n => exact absurd hentry (hclear n)
    | file _ | link _ | device _ => exact .inl (by simp [bind, Except.bind, hentry, hslash])

/-- From trees that are alike but for the trace file the observer fails in the same way, or targets
find alike files. -/
theorem finds_alike (h : Files.AlikeBut path w.files v.files) :
    (∃ fs gs, Finds path w fs ∧ Finds path v gs ∧ fs.Alike gs) ∨
      ∃ failure, before path w = (some failure, w.forget) ∧
        before path v = (some failure, v.forget) := by
  cases h with
  | file hw hv hclear hclear' hslash halike =>
    exact .inl ⟨_, _, finds_unbind hw hclear hslash, finds_unbind hv hclear' hslash, halike⟩
  | alike halike =>
    obtain ⟨r, hrelated⟩ := halike
    rcases hrelated.remove path with ⟨cause, hw, hv⟩ | ⟨fs, gs, hw, hv, hremoved⟩
    · by_cases hcause : cause = .notFound
      · rw [hcause] at hw hv
        exact .inl ⟨_, _, finds_iff.mpr (.inr ⟨hw, rfl⟩), finds_iff.mpr (.inr ⟨hv, rfl⟩), r,
          hrelated⟩
      · exact .inr ⟨_, before_of_error hw hcause, before_of_error hv hcause⟩
    · exact .inl ⟨fs, gs, finds_iff.mpr (.inl hw), finds_iff.mpr (.inl hv), r, hremoved⟩

end TraceFile

namespace Session

variable {κ : Type}

/-- From trees that are alike but for the trace file, a run has the same status, and leaves the same
trace if its target ran. -/
theorem yielded_alike (s : Session κ) (bench : Workbench κ) (hexecutor : s.executor.RespectsAlike)
    (hfiles : Files.AlikeBut s.traceFile s.files bench.files) (hrest : s.bench.rest = bench.rest)
    (input : Bytes) :
    let y := s.yielded input
    let z := { s with bench }.yielded input
    y.status = z.status ∧ (z.status.targetRan → y.trace = z.trace) := by
  intro y z
  by_cases hidle : s.executor = .idle
  · have hy : y = ⟨Executor.noTarget, s.bench.trace⟩ := by
      simp only [y, yielded, execution_of_idle hidle]
    have hz : z = ⟨Executor.noTarget, bench.trace⟩ := by
      simp only [z, yielded, execution_of_idle (s := { s with bench }) hidle]
    rw [hy, hz]
    exact ⟨rfl, fun hran => by cases hran⟩
  rcases TraceFile.finds_alike hfiles with ⟨fs, gs, hfs, hgs, halike⟩ | ⟨failure, hs, hbench⟩
  · obtain ⟨c, hc⟩ : ∃ c, s.executor.course input ⟨fs, s.bench.rest⟩ = some c :=
      Option.ne_none_iff_exists'.mp fun hnone => hidle (Executor.course_eq_none_iff.mp hnone)
    -- alike platforms in, alike platforms out, and reading cannot tell them apart
    have hstart : Platform.Alike ⟨fs, s.bench.rest⟩ ⟨gs, bench.rest⟩ := ⟨halike, hrest⟩
    obtain ⟨d, hd, hstatus, ⟨⟨r, hrelated⟩, -⟩, -⟩ := Executor.course_related hexecutor hstart hc
    have hsame := hrelated.read s.traceFile
    have hy : y = ⟨TraceFile.statusAfter s.traceFile c.status (c.state.files.read s.traceFile),
        (c.state.files.read s.traceFile).toOption⟩ := by
      simp only [y, yielded, execution_of_takes ⟨fs, hfs, hc⟩]
    have hz : z = ⟨TraceFile.statusAfter s.traceFile d.status (d.state.files.read s.traceFile),
        (d.state.files.read s.traceFile).toOption⟩ := by
      simp only [z, yielded, execution_of_takes (s := { s with bench }) ⟨gs, hgs, hd⟩]
    rw [hy, hz, hstatus, hsame]
    exact ⟨rfl, fun _ => rfl⟩
  · have hy : y = ⟨TraceFile.refusal failure, none⟩ := by
      simp only [y, yielded, execution_of_fails hidle hs]
      rfl
    have hz : z = ⟨TraceFile.refusal failure, none⟩ := by
      simp only [z, yielded, execution_of_fails (s := { s with bench }) hidle hbench]
      rfl
    rw [hy, hz]
    exact ⟨rfl, fun hran => by cases hran⟩

/-- The target, if one runs, leaves nothing at the trace path that it has not found there. -/
def LeavesNothing (s : Session κ) (input : Bytes) : Prop :=
  ∀ fs c, TraceFile.Finds s.traceFile s.bench fs →
    s.executor.course input ⟨fs, s.bench.rest⟩ = some c →
    ∀ bytes, c.state.files.read s.traceFile = .ok bytes → fs.read s.traceFile = .ok bytes

/-- A run whose target leaves nothing has no record to be merged. -/
theorem record?_of_leavesNothing {s : Session κ} {input : Bytes} (hleaves : s.LeavesNothing input) :
    (s.yielded input).record? s.mode = none := by
  rw [Yield.record?, yielded]
  by_cases hidle : s.executor = .idle
  · rw [execution_of_idle hidle]
    rfl
  rcases takes_or_fails hidle input with ⟨c, htakes⟩ | ⟨failure, hfails⟩
  · rw [execution_of_takes htakes]
    obtain ⟨fs, hfinds, hcourse⟩ := htakes
    cases hread : c.state.files.read s.traceFile with
    | error cause => exact ite_self _
    | ok bytes =>
      -- what can be read was there before, but nothing was
      have hbefore := hleaves fs c hfinds hcourse bytes hread
      rw [hfinds.read] at hbefore
      cases hbefore
  · rw [execution_of_fails hidle hfails]
    rfl

/-- The outcome of a run and the model after it do not depend on what is at the trace path before
the run, nor on octets that have been picked up earlier. If the target leaves nothing at the trace
path, the run is untraced and the model stays. The executor may have no target, call one, or run a
command on a host; all that is asked of it is that it cannot tell alike platforms apart. -/
theorem runInput_leftovers (s : Session κ) (bench : Workbench κ)
    (hexecutor : s.executor.RespectsAlike)
    (hfiles : Files.AlikeBut s.traceFile s.files bench.files) (hrest : s.bench.rest = bench.rest)
    (origin : String) (input : Bytes) :
    (s.runInput origin input).1 = ({ s with bench }.runInput origin input).1 ∧
      (s.runInput origin input).2.model = ({ s with bench }.runInput origin input).2.model ∧
      (s.LeavesNothing input →
        (∃ status, (s.runInput origin input).1 = .untraced origin status) ∧
          (s.runInput origin input).2.model = s.model) := by
  obtain ⟨hstatus, htrace⟩ := s.yielded_alike bench hexecutor hfiles hrest input
  have habsorb := s.model.absorb_congr s.mode s.context origin hstatus htrace
  obtain ⟨houtcome, hmodel⟩ := s.runInput_absorb origin input
  obtain ⟨houtcome', hmodel'⟩ := { s with bench }.runInput_absorb origin input
  refine ⟨?_, ?_, fun hleaves => ?_⟩
  · exact (houtcome.trans (congrArg Prod.fst habsorb)).trans houtcome'.symm
  · exact (hmodel.trans (congrArg Prod.snd habsorb)).trans hmodel'.symm
  · rw [houtcome, hmodel, Model.absorb, record?_of_leavesNothing hleaves]
    exact ⟨⟨_, rfl⟩, rfl⟩

/-- What is read is what is at the trace path while the observer collects: a target may leave a link
to its input file there, which is only removed afterwards. -/
example :
    let launch : Launcher := fun start fs =>
      .ok (.exited 0, fs.bind ["t"] (.link (start.arguments.headD "")))
    let s : Session (List Ending) := ⟨.trace, none, "/t",
      .command launch.host ⟨["link"], .file "\x7b\x7d", 1000, none, []⟩,
      .ofList [(⟨"a.c", "f"⟩, [.fresh 0 [], .fresh 1 []])],
      ⟨⟨.ofList [(["tmp"], .directory 1)], #[.ofDirectory, .ofDirectory], 0⟩, [], none⟩⟩
    (s.runInput "a" [1, 0, 0, 0]).1 = ⟨"a", .ok, true, ⟨1, 1⟩, []⟩ ∧
      (s.runInput "a" [1, 0, 0, 0]).2.files.read "/t" = .error .notFound := by
  decide +kernel

/-- A process that copies its input file to the trace file, and leaves nothing if the input is
empty; it is run where a stale trace stands under a number that the other tree has given to a
directory. -/
theorem runInput_leftovers_stale :
    let launch : Launcher := fun start fs =>
      match fs.read (start.arguments.headD "") with
      | .error cause => .error cause
      | .ok [] => .ok (.exited 1, fs)
      | .ok contents => (fs.write "/t" contents).map fun gs => (.exited 0, gs)
    let stale : Files := ⟨.ofList [(["t"], .file 1), (["tmp"], .directory 2)],
      #[.ofDirectory, .ofBytes [0, 0, 0, 0], .ofDirectory], 0⟩
    let clean : Files := ⟨.ofList [(["tmp"], .directory 1)], #[.ofDirectory, .ofDirectory], 0⟩
    let s : Session (List Ending) := ⟨.trace, none, "/t",
      .command launch.host ⟨["copy"], .file "\x7b\x7d", 1000, none, []⟩,
      .ofList [(⟨"a.c", "f"⟩, [.fresh 0 [], .fresh 1 []])], ⟨stale, [], some [0, 0, 0, 0]⟩⟩
    let t : Session (List Ending) := { s with bench := ⟨clean, [], none⟩ }
    s.executor.RespectsAlike ∧ Files.AlikeBut "/t" stale clean ∧ s.LeavesNothing [] ∧
      (s.runInput "a" [1, 0, 0, 0]).1 = (t.runInput "a" [1, 0, 0, 0]).1 ∧
      (s.runInput "a" [1, 0, 0, 0]).1.traced = true ∧
      (s.runInput "a" [1, 0, 0, 0]).2.model = (t.runInput "a" [1, 0, 0, 0]).2.model ∧
      (s.runInput "b" []).2.model = s.model := by
  intro launch stale clean s t
  have hlaunch : launch.RespectsAlike := by
    intro start r fs gs h
    simp only [launch, h.read]
    cases gs.read (start.arguments.headD "") with
    | error cause => exact .inl ⟨cause, rfl, rfl⟩
    | ok contents =>
      cases contents with
      | nil => exact .inr ⟨_, fs, gs, r, rfl, rfl, fun _ _ => id, h⟩
      | cons b more =>
        rcases h.write "/t" (b :: more) with
          ⟨cause, hfs, hgs⟩ | ⟨fs', gs', q, hfs, hgs, hle, hwritten⟩
        · exact .inl ⟨cause, by simp only [hfs]; rfl, by simp only [hgs]; rfl⟩
        · exact .inr ⟨_, fs', gs', q, by simp only [hfs]; rfl, by simp only [hgs]; rfl, hle,
            hwritten⟩
  have hexecutor : s.executor.RespectsAlike := Executor.respectsAlike_command hlaunch _
  have hfiles : Files.AlikeBut "/t" stale clean := by
    have hreach : stale.reach "/t" = .ok ["t"] := rfl
    refine .file hreach rfl (fun _ h => nomatch h) (fun _ h => nomatch h) rfl
      ⟨fun a b => a = 0 ∧ b = 0 ∨ a = 2 ∧ b = 1, ?_⟩
    exact {
      names := .cons ⟨rfl, .directory (.inr ⟨rfl, rfl⟩)⟩ .nil
      here := .inl ⟨rfl, rfl⟩
      root := .inl ⟨rfl, rfl⟩
      unique := ⟨fun a b c hac hbc => by omega, fun a b c hab hac => by omega⟩
      used := by rintro a b (⟨rfl, rfl⟩ | ⟨rfl, rfl⟩) <;> decide
      inode := by rintro a b (⟨rfl, rfl⟩ | ⟨rfl, rfl⟩) <;> rfl }
  have hleaves : s.LeavesNothing [] := by
    intro fs c hfinds hcourse bytes hread
    have hfound : TraceFile.before "/t" s.bench = (none, ⟨stale.unbind ["t"], [], none⟩) := by
      decide +kernel
    obtain rfl : stale.unbind ["t"] = fs :=
      congrArg Workbench.files (Prod.ext_iff.mp (hfound.symm.trans hfinds)).2
    have hnone : (s.executor.course [] ⟨stale.unbind ["t"], []⟩).map
        (fun c => c.state.files.read "/t") = some (.error .notFound) := by decide +kernel
    rw [hcourse] at hnone
    have hmissing : c.state.files.read "/t" = .error .notFound := Option.some.inj hnone
    exact nomatch hmissing.symm.trans hread
  obtain ⟨houtcome, hmodel, -⟩ :=
    runInput_leftovers s ⟨clean, [], none⟩ hexecutor hfiles rfl "a" [1, 0, 0, 0]
  obtain ⟨-, -, hnothing⟩ := runInput_leftovers s ⟨clean, [], none⟩ hexecutor hfiles rfl "b" []
  exact ⟨hexecutor, hfiles, hleaves, houtcome, by decide +kernel, hmodel, (hnothing hleaves).2⟩

end Session

end BlockCoverage
