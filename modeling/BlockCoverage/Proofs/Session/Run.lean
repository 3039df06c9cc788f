import BlockCoverage.Proofs.Model.Order
import BlockCoverage.Proofs.Run.TraceFile
import BlockCoverage.Proofs.Trace.Delivery
import BlockCoverage.Session
import Mathlib.Data.List.Induction

/-!
# What a session makes of its runs

A session hands an input to its executor and takes over two things from the run, its status and the
octets it left: a `Yield`. The model absorbs the yield (`Session.runInput_eq`), so the model after
any runs is the first one after the merges that their yields stand for.

A target is *deterministic* for a session if the status of its course and the file at the trace path
are determined by the input, whatever runs came before. Then every input has one yield for the whole
session (`Deterministic.yields`): the stale trace of a run is out of the way before the next.
-/

namespace BlockCoverage

open Text (Bytes)

/-- What a run hands to its session. -/
structure Yield where
  /-- How the run went. -/
  status : Status
  /-- The octets of its trace; `none` if it left none. -/
  trace : Option Bytes
deriving DecidableEq, Repr

/-- The record that a session merges for a run, if any. -/
def Yield.record? (mode : Mode) (y : Yield) : Option Record :=
  if y.status.targetRan then y.trace.map (Trace.recordOf mode) else none

namespace Model

/-- The outcome of a run with this yield, and the model with its trace merged. -/
def absorb (mode : Mode) (context : Option FunctionId) (m : Model) (origin : String) (y : Yield) :
    Outcome × Model :=
  match y.record? mode with
  | none => (.untraced origin y.status, m)
  | some record =>
    (.merged origin y.status (m.mergeRecord record context origin),
      (m.mergeRecord record context origin).model)

/-- A trace counts only if the target ran. -/
theorem absorb_congr (mode : Mode) (context : Option FunctionId) (m : Model) (origin : String)
    {y z : Yield} (hstatus : y.status = z.status) (htrace : z.status.targetRan →
      y.trace = z.trace) :
    m.absorb mode context origin y = m.absorb mode context origin z := by
  have hrecord : y.record? mode = z.record? mode := by
    rw [Yield.record?, Yield.record?, hstatus]
    split
    · rw [htrace ‹_›]
    · rfl
  rw [absorb, absorb, hrecord, hstatus]

/-- The merges that a yield stands for. -/
def callsOf (mode : Mode) (context : Option FunctionId) (run : String × Yield) : List Call :=
  ((run.2.record? mode).map (Call.ofRecord · context run.1)).toList

theorem absorb_model (mode : Mode) (context : Option FunctionId) (m : Model)
    (run : String × Yield) :
    (m.absorb mode context run.1 run.2).2 = Model.run m (callsOf mode context run) := by
  rw [absorb, callsOf]
  cases run.2.record? mode with
  | none => rfl
  | some record => exact (Call.apply_ofRecord m record context run.1).symm

end Model

namespace Session

variable {κ : Type}

/-- How the executor runs an input from the session as it is. -/
def execution (s : Session κ) (input : Bytes) : Status × Workbench κ :=
  (s.executor.on Workbench.platform).execute [TraceFile.observer s.traceFile] input s.bench

/-- What running an input from the session as it is yields. -/
def yielded (s : Session κ) (input : Bytes) : Yield :=
  ⟨(s.execution input).1, (s.execution input).2.trace⟩

/-- A run changes the platform and the model, and hands on nothing else. -/
theorem runInput_eq (s : Session κ) (origin : String) (input : Bytes) :
    let r := s.execution input
    let a := s.model.absorb s.mode s.context origin (s.yielded input)
    s.runInput origin input =
      (a.1, { s with
        model := a.2
        bench := ⟨r.2.files, r.2.rest, if r.1.targetRan then none else r.2.trace⟩ }) := by
  intro r a
  have hr : (s.executor.on Workbench.platform).execute [TraceFile.observer s.traceFile] input
      s.bench = r := rfl
  simp only [a, runInput, yielded, execution, hr, Model.absorb, Yield.record?]
  obtain ⟨status, files, rest, trace⟩ := r
  cases status.targetRan with
  | false => simp
  | true =>
    cases trace with
    | none => simp [Workbench.takeTrace, Workbench.forget]
    | some bytes =>
      simp [Workbench.takeTrace, Workbench.forget, mergeTrace, Trace.decode_ofBytes]

theorem runInput_absorb (s : Session κ) (origin : String) (input : Bytes) :
    (s.runInput origin input).1 =
        (s.model.absorb s.mode s.context origin (s.yielded input)).1 ∧
      (s.runInput origin input).2.model =
        (s.model.absorb s.mode s.context origin (s.yielded input)).2 := by
  rw [runInput_eq]
  exact ⟨rfl, rfl⟩

/-! ## The course of a run -/

/-- A run of an input takes this course: the observer can prepare, and this is what the executor
makes of the files that are there then. -/
def Takes (s : Session κ) (input : Bytes) (c : Course (Platform κ)) : Prop :=
  ∃ fs, TraceFile.Finds s.traceFile s.bench fs ∧
    s.executor.course input ⟨fs, s.bench.rest⟩ = some c

variable {s : Session κ} {input : Bytes}

theorem execution_of_idle (h : s.executor = .idle) (input : Bytes) :
    s.execution input = (Executor.noTarget, s.bench) := by
  rw [execution, h]
  rfl

theorem execution_of_fails (h : s.executor ≠ .idle) {failure : String}
    (hfails : TraceFile.before s.traceFile s.bench = (some failure, s.bench.forget))
    (input : Bytes) :
    s.execution input = (TraceFile.refusal failure, s.bench.forget) :=
  TraceFile.execute_of_fails h hfails

theorem execution_of_takes {c : Course (Platform κ)} (h : s.Takes input c) :
    let left := s.executor.clear c.temp c.state
    let trace := c.state.files.read s.traceFile
    s.execution input =
      (TraceFile.statusAfter s.traceFile c.status trace,
        ⟨left.files, left.rest, trace.toOption⟩) := by
  obtain ⟨fs, hfinds, hcourse⟩ := h
  exact TraceFile.execute_of_finds hfinds hcourse

/-- Where there is a target, the observer fails to prepare or a run takes its course. -/
theorem takes_or_fails (h : s.executor ≠ .idle) (input : Bytes) :
    (∃ c, s.Takes input c) ∨
      ∃ failure, TraceFile.before s.traceFile s.bench = (some failure, s.bench.forget) := by
  rcases TraceFile.finds_or_fails s.traceFile s.bench with ⟨fs, hfinds⟩ | hfails
  · cases hcourse : s.executor.course input ⟨fs, s.bench.rest⟩ with
    | none => exact absurd (Executor.course_eq_none_iff.mp hcourse) h
    | some c => exact .inl ⟨c, fs, hfinds, hcourse⟩
  · exact .inr hfails

/-- A target that is a function of files takes a course that can be read off the function. -/
theorem Takes.inProcess {target : Target Files} {c : Course (Platform κ)} (h : s.Takes input c)
    (hexecutor : s.executor = .inProcess (target.on Platform.tree)) :
    ∃ fs, TraceFile.Finds s.traceFile s.bench fs ∧ c.status = (target input fs).1 ∧
      c.state.files = (target input fs).2 ∧ c.temp = none := by
  obtain ⟨fs, hfinds, hcourse⟩ := h
  rw [hexecutor] at hcourse
  obtain rfl := Option.some.inj hcourse
  exact ⟨fs, hfinds, rfl, rfl, rfl⟩

/-- The files after a run are those before it, or those that its course left. -/
theorem files_execution (s : Session κ) (input : Bytes) :
    (s.execution input).2.files = s.files ∨
      ∃ c, s.Takes input c ∧
        (s.execution input).2.files = (s.executor.clear c.temp c.state).files := by
  by_cases hidle : s.executor = .idle
  · rw [execution_of_idle hidle]
    exact .inl rfl
  rcases takes_or_fails hidle input with ⟨c, htakes⟩ | ⟨failure, hfails⟩
  · rw [execution_of_takes htakes]
    exact .inr ⟨c, htakes, rfl⟩
  · rw [execution_of_fails hidle hfails]
    exact .inl rfl

/-! ## Runs one after the other -/

/-- The session after runs, given by their origins and inputs. -/
def after (s : Session κ) (runs : List (String × Bytes)) : Session κ :=
  runs.foldl (fun s run => (s.runInput run.1 run.2).2) s

theorem after_concat (s : Session κ) (runs : List (String × Bytes)) (run : String × Bytes) :
    s.after (runs ++ [run]) = ((s.after runs).runInput run.1 run.2).2 := by
  rw [after, List.foldl_append]
  rfl

/-- Runs keep the set-up of a session. -/
theorem after_setup (s : Session κ) (runs : List (String × Bytes)) :
    (s.after runs).mode = s.mode ∧ (s.after runs).context = s.context ∧
      (s.after runs).traceFile = s.traceFile ∧ (s.after runs).executor = s.executor := by
  induction runs using List.reverseRecOn with
  | nil => exact ⟨rfl, rfl, rfl, rfl⟩
  | append_singleton runs run ih =>
    rw [after_concat, runInput_eq]
    exact ih

theorem mode_after (s : Session κ) (runs : List (String × Bytes)) :
    (s.after runs).mode = s.mode :=
  (s.after_setup runs).1

theorem context_after (s : Session κ) (runs : List (String × Bytes)) :
    (s.after runs).context = s.context :=
  (s.after_setup runs).2.1

theorem traceFile_after (s : Session κ) (runs : List (String × Bytes)) :
    (s.after runs).traceFile = s.traceFile :=
  (s.after_setup runs).2.2.1

theorem executor_after (s : Session κ) (runs : List (String × Bytes)) :
    (s.after runs).executor = s.executor :=
  (s.after_setup runs).2.2.2

/-- What holds of the files at first, and of what every run leaves that takes its course, holds of
the files after any runs. Other runs leave them as they are. -/
theorem files_after {P : Files → Prop} (hstart : P s.files)
    (hstep : ∀ runs input c, P (s.after runs).files → (s.after runs).Takes input c →
      P (s.executor.clear c.temp c.state).files)
    (runs : List (String × Bytes)) : P (s.after runs).files := by
  induction runs using List.reverseRecOn with
  | nil => exact hstart
  | append_singleton runs run ih =>
    have hfiles : (s.after (runs ++ [run])).files = ((s.after runs).execution run.2).2.files := by
      rw [after_concat, runInput_eq]
      rfl
    rw [hfiles]
    rcases (s.after runs).files_execution run.2 with hsame | ⟨c, htakes, hleft⟩
    · rw [hsame]
      exact ih
    · rw [hleft, executor_after]
      exact hstep runs run.2 c ih htakes

/-! ## Deterministic targets -/

/-- Whatever has been run before, the status of a run and what is at the trace path when its
observer collects are those given for the input, and once the run is over there is a file at the
trace path or nothing. -/
structure Deterministic (s : Session κ) (status : Bytes → Status)
    (trace : Bytes → Option Bytes) : Prop where
  /-- What the observer collects is determined by the input. -/
  collected : ∀ runs input c, (s.after runs).Takes input c →
    c.status = status input ∧ c.state.files.Holds s.traceFile (trace input)
  /-- What is left can be put out of the way. -/
  left : ∀ runs input c, (s.after runs).Takes input c →
    ∃ contents, (s.executor.clear c.temp c.state).files.Holds s.traceFile contents

/-- Every input has its yield, whatever has been run before. The trace of a run whose target did not
run is not looked at. -/
def Yields (s : Session κ) (yield : Bytes → Yield) : Prop :=
  ∀ runs input, ((s.after runs).yielded input).status = (yield input).status ∧
    ((yield input).status.targetRan →
      ((s.after runs).yielded input).trace = (yield input).trace)

variable {status : Bytes → Status} {trace : Bytes → Option Bytes}

/-- A target that is a function of files is deterministic if it is on all files. -/
theorem deterministic_of_inProcess {target : Target Files}
    (hexecutor : s.executor = .inProcess (target.on Platform.tree))
    (htarget : ∀ input fs, (target input fs).1 = status input ∧
      (target input fs).2.Holds s.traceFile (trace input)) : s.Deterministic status trace where
  collected := by
    intro runs input c htakes
    obtain ⟨fs, -, hstatus, hfiles, -⟩ := htakes.inProcess ((s.executor_after runs).trans hexecutor)
    rw [hstatus, hfiles]
    exact htarget input fs
  left := by
    intro runs input c htakes
    obtain ⟨fs, -, -, hfiles, -⟩ := htakes.inProcess ((s.executor_after runs).trans hexecutor)
    have hleft : (s.executor.clear c.temp c.state).files = (target input fs).2 := by
      rw [hexecutor, ← hfiles]
      rfl
    rw [hleft]
    exact ⟨_, (htarget input fs).2⟩

/-- A command that a launcher runs is deterministic if what its observer collects is determined by
the input: all that happens afterwards is that the file of the input is removed. -/
theorem deterministic_of_launcher {s : Session (List Ending)} {launch : Launcher}
    {command : TargetCommand} (hexecutor : s.executor = .command launch.host command)
    (hcollected : ∀ runs input c, (s.after runs).Takes input c →
      c.status = status input ∧ c.state.files.Holds s.traceFile (trace input)) :
    s.Deterministic status trace where
  collected := hcollected
  left := by
    intro runs input c htakes
    obtain ⟨-, hholds⟩ := hcollected runs input c htakes
    rw [hexecutor, Executor.clear]
    cases c.temp with
    | none => exact ⟨_, hholds⟩
    | some temp => exact hholds.remove _

/-- Where the observer can prepare for the first run, it can for every run. -/
theorem Deterministic.finds_after (h : s.Deterministic status trace)
    (hstart : ∃ fs, TraceFile.Finds s.traceFile s.bench fs) (runs : List (String × Bytes)) :
    ∃ fs, TraceFile.Finds s.traceFile (s.after runs).bench fs := by
  obtain ⟨fs, hfs⟩ := hstart
  obtain ⟨gs, hgs⟩ : ∃ gs, TraceFile.Finds s.traceFile
      ⟨(s.after runs).files, s.bench.rest, none⟩ gs := by
    refine files_after (P := fun files => ∃ gs, TraceFile.Finds s.traceFile
      ⟨files, s.bench.rest, none⟩ gs) ⟨fs, (TraceFile.finds_congr rfl).mp hfs⟩
      (fun runs input c _ htakes => ?_) runs
    -- what a run leaves is nothing or a file, and either can be put out of the way
    obtain ⟨contents, hleft⟩ := h.left runs input c htakes
    exact TraceFile.finds_of_holds hleft
  have hsame := TraceFile.finds_iff.mp hgs
  exact ⟨gs, TraceFile.finds_iff.mpr hsame⟩

/-- Where the observer cannot prepare for the first run, it cannot for any run. -/
theorem fails_after {failure : String}
    (hfails : TraceFile.before s.traceFile s.bench = (some failure, s.bench.forget))
    (runs : List (String × Bytes)) :
    TraceFile.before s.traceFile (s.after runs).bench =
      (some failure, (s.after runs).bench.forget) := by
  have hfiles : (s.after runs).files = s.files := by
    refine files_after (P := (· = s.files)) rfl (fun runs input c hsame htakes => ?_) runs
    obtain ⟨fs, hfinds, -⟩ := htakes
    rw [traceFile_after, TraceFile.Finds, TraceFile.fails_congr hsame hfails] at hfinds
    cases hfinds
  exact TraceFile.fails_congr hfiles hfails

/-- Under a deterministic target every input has its yield. -/
theorem Deterministic.yields (h : s.Deterministic status trace) : ∃ yield, s.Yields yield := by
  by_cases hidle : s.executor = .idle
  · refine ⟨fun _ => ⟨Executor.noTarget, none⟩, fun runs input => ?_⟩
    rw [yielded, execution_of_idle ((s.executor_after runs).trans hidle)]
    exact ⟨rfl, fun hran => by cases hran⟩
  have hrunning : ∀ runs, (s.after runs).executor ≠ .idle := fun runs => by
    rw [executor_after]
    exact hidle
  rcases TraceFile.finds_or_fails s.traceFile s.bench with hstart | ⟨failure, hfails⟩
  · refine ⟨fun input => ⟨status input, trace input⟩, fun runs input => ?_⟩
    obtain ⟨fs, hfinds⟩ := h.finds_after hstart runs
    rcases takes_or_fails (hrunning runs) input with ⟨c, htakes⟩ | ⟨failure, hfails⟩
    · obtain ⟨hstatus, hholds⟩ := h.collected runs input c htakes
      rw [yielded, execution_of_takes htakes, traceFile_after, hholds.read, hstatus,
        TraceFile.statusAfter_elim]
      refine ⟨rfl, fun _ => ?_⟩
      show ((trace input).elim (Except.error IoCause.notFound) Except.ok).toOption = trace input
      cases trace input <;> rfl
    · rw [traceFile_after, hfinds] at hfails
      cases hfails
  · refine ⟨fun _ => ⟨TraceFile.refusal failure, none⟩, fun runs input => ?_⟩
    have hlater : TraceFile.before (s.after runs).traceFile (s.after runs).bench =
        (some failure, (s.after runs).bench.forget) := by
      rw [traceFile_after]
      exact fails_after hfails runs
    rw [yielded, execution_of_fails (hrunning runs) hlater]
    exact ⟨rfl, fun hran => by cases hran⟩

/-! ## Runs of one yield each -/

section Yields

variable {yield : Bytes → Yield}

/-- A run adds the yield of its input to the model, whatever was run before. -/
theorem Yields.runInput (h : s.Yields yield) (runs : List (String × Bytes)) (origin : String)
    (input : Bytes) :
    let a := (s.after runs).model.absorb s.mode s.context origin (yield input)
    ((s.after runs).runInput origin input).1 = a.1 ∧
      ((s.after runs).runInput origin input).2.model = a.2 := by
  obtain ⟨hstatus, htrace⟩ := h runs input
  have hrun := (s.after runs).runInput_absorb origin input
  rw [mode_after, context_after,
    Model.absorb_congr s.mode s.context _ origin hstatus htrace] at hrun
  exact hrun

/-- The model after runs is the first one after the merges of their yields. -/
theorem Yields.model_after (h : s.Yields yield) (runs : List (String × Bytes)) :
    (s.after runs).model =
      Model.run s.model (runs.flatMap fun run =>
        Model.callsOf s.mode s.context (run.1, yield run.2)) := by
  induction runs using List.reverseRecOn with
  | nil => rfl
  | append_singleton runs run ih =>
    rw [after_concat, (h.runInput runs run.1 run.2).2,
      Model.absorb_model s.mode s.context _ (run.1, yield run.2), ih, List.flatMap_append,
      List.flatMap_singleton, Model.run_append]

end Yields

end Session

end BlockCoverage
