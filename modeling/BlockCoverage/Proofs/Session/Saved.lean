import BlockCoverage.Program
import BlockCoverage.Proofs.Session.Run
import BlockCoverage.Trace.Layout

/-!
# Live and saved traces

The trace of a run is decoded from the octets that its observer picked up, a saved trace from a file
that is read through a buffer and whose name its faults are given. Neither decoding fails once the
octets are there, and both give the one record that the octets stand for (`Trace.recordOf`). What a
session makes of that record depends on its model and context only, so a run could as well be saved
and merged later: by the session, by a shell, or by the program.
-/

namespace BlockCoverage

open Text (Bytes)

/-- A file that can be read is merged as the record of its contents. -/
theorem Model.ingest_of_read (m : Model) (mode : Mode) (context : Option FunctionId) {fs : Files}
    {path : String} {b : Bytes} (h : fs.read path = .ok b) (origin : String) :
    m.ingest mode context fs path origin =
      .ok (m.mergeRecord (Trace.recordOf mode b) context origin) := by
  rw [ingest, Trace.decodeFile_of_read mode h]
  rfl

namespace Session

variable {κ : Type}

/-- A run that left a trace is merged as the record of its octets. -/
theorem runInput_of_trace {s : Session κ} {input b : Bytes}
    (hran : (s.execution input).1.targetRan = true)
    (htrace : (s.execution input).2.trace = some b) (origin : String) :
    let merged := s.model.mergeRecord (Trace.recordOf s.mode b) s.context origin
    (s.runInput origin input).1 = .merged origin (s.execution input).1 merged ∧
      (s.runInput origin input).2.model = merged.model := by
  intro merged
  obtain ⟨houtcome, hmodel⟩ := s.runInput_absorb origin input
  have hrecord : (s.yielded input).record? s.mode = some (Trace.recordOf s.mode b) := by
    rw [Yield.record?, yielded, if_pos hran, htrace, Option.map_some]
  rw [houtcome, hmodel, Model.absorb, hrecord]
  exact ⟨rfl, rfl⟩

/-- A live run and its saved trace agree. If the target ran and left the octets `b`, these can be
decoded, and what the run gains, the faults it meets and the model after it are what the session
gets from a file that holds `b`: when it ingests the file, when it merges it, when the shell is told
to, and when the program merges it among others. The last two attribute a trace to its file. -/
theorem runInput_saved {s : Session κ} {input b : Bytes}
    (hran : (s.execution input).1.targetRan = true)
    (htrace : (s.execution input).2.trace = some b) {w : Workbench κ} {path : String}
    (hfile : w.files.read path = .ok b) (origin : String) :
    let live := s.runInput origin input
    let merged : Model.Merged := ⟨live.2.model, live.1.gain, live.1.faults⟩
    let before : Session κ := { s with bench := w }
    let after : Session κ := { s with bench := w, model := live.2.model }
    live.1.traced = true ∧
    (∃ record, Trace.decode s.mode (.ofBytes b) = .ok record ∧
      s.model.mergeRecord record s.context origin = merged) ∧
    s.model.ingest s.mode s.context w.files path origin = .ok merged ∧
    before.mergeFile path origin = .ok (merged, after) ∧
    (origin = path →
      (∀ sh : Shell, sh.execute before (.merge path) =
        (⟨"New blocks: " ++ Nat.repr live.1.gain.blocks ++ ", merge errors: " ++
          Nat.repr live.1.faults.length ++ "\n", none⟩, after)) ∧
      ∀ rest, Program.mergeSaved before (path :: rest) = Program.mergeSaved after rest) := by
  intro live merged before after
  obtain ⟨houtcome, hmodel⟩ := runInput_of_trace hran htrace origin
  have hrecord : s.model.mergeRecord (Trace.recordOf s.mode b) s.context origin = merged := by
    simp only [merged, live, houtcome, hmodel, Outcome.merged]
  have hingest : s.model.ingest s.mode s.context w.files path origin = .ok merged := by
    rw [Model.ingest_of_read s.model s.mode s.context hfile, hrecord]
  have hmerge : before.mergeFile path origin = .ok (merged, after) := by
    have hbefore : before.model.ingest before.mode before.context before.files path origin =
      .ok merged := hingest
    rw [mergeFile, hbefore]
    rfl
  refine ⟨?_, ⟨_, Trace.decode_ofBytes s.mode b, hrecord⟩, hingest, hmerge, ?_⟩
  · simp only [live, houtcome, Outcome.merged]
  · rintro rfl
    refine ⟨fun sh => ?_, fun rest => ?_⟩
    · simp only [Shell.execute, Shell.mergeTrace, hmerge, merged]
    · rw [Program.mergeSaved, List.foldl_cons, hmerge]
      rfl

/-- A crash that tore its trace off in the last of three functions, of which one is not declared. -/
theorem runInput_saved_torn :
    let f : FunctionId := ⟨"a.c", "f"⟩
    let torn : Bytes :=
      (Trace.FileRecord.bytes ⟨"a.c", [("f", [1, 0]), ("g", [1]), ("h", [2])], 0⟩).dropLast
    let target : Target Files := fun _ fs => (.crash "Aborted", fs.put ["t"] (.file torn))
    let s : Session Unit := ⟨.profile, none, "/t", .inProcess (target.on Platform.tree),
      .ofList [(f, [.fresh 0 [], .fresh 1 []])], ⟨⟨.empty, #[.ofDirectory], 0⟩, (), none⟩⟩
    let w : Workbench Unit :=
      ⟨⟨.ofList [(["saved"], .file 1)], #[.ofDirectory, .ofBytes torn], 0⟩, (), none⟩
    let live := s.runInput "/saved" []
    let hit : Model := .ofList [(f, [⟨0, [], true, 1, ["/saved"]⟩, .fresh 1 []])]
    live.1 = ⟨"/saved", .crash "Aborted", true, ⟨1, 1⟩, [.unknownFunction "g" "a.c"]⟩ ∧
      live.2.model = hit ∧
      ({ s with bench := w } : Session Unit).mergeFile "/saved" "/saved" =
        .ok (⟨hit, live.1.gain, live.1.faults⟩, { s with bench := w, model := hit }) ∧
      (Program.mergeSaved { s with bench := w } ["/saved", "/gone"]).model = hit := by
  intro f torn target s w live hit
  have hran : (s.execution []).1.targetRan = true := by decide +kernel
  have htrace : (s.execution []).2.trace = some torn := by decide +kernel
  have hfile : w.files.read "/saved" = .ok torn := by decide +kernel
  obtain ⟨-, -, -, hmerge, hothers⟩ := runInput_saved hran htrace hfile "/saved"
  have hhit : live.2.model = hit := by decide +kernel
  have hrest := (hothers rfl).2 ["/gone"]
  rw [hhit] at hmerge hrest
  exact ⟨by decide +kernel, hhit, hmerge, by rw [hrest]; decide +kernel⟩

end Session

end BlockCoverage
