import BlockCoverage.Proofs.Corpus.Loading
import BlockCoverage.Proofs.Session.Entries
import Mathlib.Data.List.Basic

/-!
# Inputs with known contents

A corpus leaves out files whose contents it knows. Under a deterministic target nothing is lost by
it: the model after the corpus is the one after a run of every file that was added
(`runCorpus_performed`), to the last count and origin. A file that is left out would have given the
yield that a file before it has given, so its merge contributes what a merge before it has
contributed, and such a merge changes nothing (`Model.apply_run_of_known`).
-/

namespace BlockCoverage

open Text (Bytes)

namespace Model

variable (mode : Mode) (context : Option FunctionId)

/-- A run with the yield of a run before it changes nothing. -/
theorem run_callsOf_of_known (m : Model) {runs : List (String × Yield)} {known : String} {y : Yield}
    (hknown : (known, y) ∈ runs) (origin : String) :
    run (run m (runs.flatMap (callsOf mode context))) (callsOf mode context (origin, y)) =
      run m (runs.flatMap (callsOf mode context)) := by
  have hmem : ∀ call ∈ callsOf mode context (known, y),
      call ∈ runs.flatMap (callsOf mode context) :=
    fun call hcall => List.mem_flatMap.mpr ⟨_, hknown, hcall⟩
  simp only [callsOf] at hmem ⊢
  cases hrecord : y.record? mode with
  | none => rfl
  | some record =>
    have hfirst := hmem (Call.ofRecord record context known) (by simp [hrecord])
    exact apply_run_of_known hfirst fun f i =>
      Call.contribution_ofRecord m record context origin known f i

/-- What is kept of added files makes of a model what all of them make of it, if files with one
digest have one yield. -/
theorem run_addAll (m : Model) (yieldOf : String → Yield) {files : List (String × Bytes)}
    (hdigest : ∀ a ∈ files, ∀ b ∈ files,
      Digest.md5 a.2 = Digest.md5 b.2 → yieldOf a.1 = yieldOf b.1) :
    run m ((Corpus.empty.addAll files).entries.flatMap fun e =>
        callsOf mode context (e.path, yieldOf e.path)) =
      run m (files.flatMap fun a => callsOf mode context (a.1, yieldOf a.1)) := by
  induction files using List.reverseRecOn with
  | nil => rfl
  | append_singleton files file ih =>
    have hbefore := ih fun a ha b hb =>
      hdigest a (List.mem_append_left _ ha) b (List.mem_append_left _ hb)
    rw [Corpus.addAll_append, Corpus.addAll_singleton, Corpus.entries_addContents,
      List.flatMap_append, List.flatMap_singleton, run_append]
    by_cases hknown : (Corpus.empty.addAll files).knows (Digest.md5 file.2) = true
    · -- the contents are those of one of the files before
      obtain ⟨first, hfirst, hsame⟩ := (Corpus.knows_addAll.mp hknown).resolve_left nofun
      have hyield : yieldOf first.1 = yieldOf file.1 :=
        hdigest first (List.mem_append_left _ hfirst) file (by simp) hsame
      have hmem : (first.1, yieldOf file.1) ∈ files.map fun a => (a.1, yieldOf a.1) :=
        List.mem_map.mpr ⟨first, hfirst, by rw [hyield]⟩
      have hnothing := run_callsOf_of_known mode context m hmem file.1
      rw [List.flatMap_map] at hnothing
      rw [if_pos hknown, hbefore, hnothing]
    · rw [if_neg hknown, List.flatMap_append, run_append, hbefore, List.flatMap_singleton]

end Model

namespace Session

/-- A corpus gives the model that a run of every file would give that was added to it, if the target
is deterministic, the files that were added stay as they were, and no two of them have the same
digest and other contents. -/
theorem runCorpus_performed {κ : Type} {s : Session κ} {status : Bytes → Status}
    {trace : Bytes → Option Bytes} (hdet : s.Deterministic status trace) (fs : Files)
    (loads : List Corpus.Load)
    (hdigest : ∀ a ∈ loads.flatMap (Corpus.Load.added fs),
      ∀ b ∈ loads.flatMap (Corpus.Load.added fs), Digest.md5 a.2 = Digest.md5 b.2 → a.2 = b.2)
    (hstays : ∀ runs, ∀ a ∈ loads.flatMap (Corpus.Load.added fs),
      (s.after runs).files.read a.1 = fs.read a.1) :
    (s.runCorpus (loads.foldl (fun c load => load.perform fs c) .empty)).2.model =
      (s.after (loads.flatMap (Corpus.Load.added fs))).model := by
  obtain ⟨yield, hyields⟩ := hdet.yields
  have hinput : ∀ runs, ∀ a ∈ loads.flatMap (Corpus.Load.added fs),
      (s.after runs).files.read a.1 = .ok a.2 :=
    fun runs a ha => (hstays runs a ha).trans (Corpus.read_of_mem_added ha)
  rw [Corpus.foldl_perform]
  generalize loads.flatMap (Corpus.Load.added fs) = files at hdigest hinput ⊢
  have hyield : ∀ a ∈ files, entryYield yield (s.files.read a.1) = yield a.2 := fun a ha => by
    rw [show s.files.read a.1 = .ok a.2 from hinput [] a ha, entryYield]
  have hkeeps : s.KeepsInputs (Corpus.empty.addAll files).entries := fun runs e he => by
    obtain ⟨a, ha, rfl⟩ := Corpus.mem_entries_addAll he
    exact (hinput runs a ha).trans (hinput [] a ha).symm
  have hsame : ∀ a ∈ files, ∀ b ∈ files, Digest.md5 a.2 = Digest.md5 b.2 →
      entryYield yield (s.files.read a.1) = entryYield yield (s.files.read b.1) :=
    fun a ha b hb h => by rw [hyield a ha, hyield b hb, hdigest a ha b hb h]
  calc (s.runCorpus (Corpus.empty.addAll files)).2.model
      = Model.run s.model ((Corpus.empty.addAll files).entries.flatMap fun e =>
          Model.callsOf s.mode s.context (e.path, entryYield yield (s.files.read e.path))) := by
        rw [(runCorpus_eq hyields hkeeps).2, Model.settle_model, entryRuns, List.flatMap_map]
    _ = Model.run s.model (files.flatMap fun a =>
          Model.callsOf s.mode s.context (a.1, entryYield yield (s.files.read a.1))) :=
        Model.run_addAll s.mode s.context s.model
          (fun path => entryYield yield (s.files.read path)) hsame
    _ = Model.run s.model (files.flatMap fun a =>
          Model.callsOf s.mode s.context (a.1, yield a.2)) :=
        congrArg (Model.run s.model) (List.flatMap_congr fun a ha => by rw [hyield a ha])
    _ = (s.after files).model := (hyields.model_after files).symm

/-- A directory with two files of one contents and a file with other contents that is loaded
twice. -/
theorem runCorpus_performed_twice :
    let base : Files := ⟨.ofList [(["c"], .file 1), (["d"], .directory 2), (["d", "a"], .file 3),
      (["d", "b"], .file 4)], #[.ofDirectory, .ofBytes [0, 0, 0, 0, 1, 0, 0, 0], .ofDirectory,
        .ofBytes [1, 0, 0, 0], .ofBytes [1, 0, 0, 0]], 0⟩
    let target : Target Files := fun input _ => (.ok, base.put ["t"] (.file input))
    let s : Session Unit := ⟨.trace, none, "/t", .inProcess (target.on Platform.tree),
      .ofList [(⟨"a.c", "f"⟩, [.fresh 0 [], .fresh 1 []])], ⟨base, (), none⟩⟩
    let loads : List Corpus.Load := [.several ["/d", "/c"], .file "/c"]
    loads.flatMap (Corpus.Load.added base) =
        [("/d/a", [1, 0, 0, 0]), ("/d/b", [1, 0, 0, 0]), ("/c", [0, 0, 0, 0, 1, 0, 0, 0]),
          ("/c", [0, 0, 0, 0, 1, 0, 0, 0])] ∧
      (s.runCorpus (loads.foldl (fun c load => load.perform base c) .empty)).2.model =
        (s.after (loads.flatMap (Corpus.Load.added base))).model := by
  intro base target s loads
  have hadded : loads.flatMap (Corpus.Load.added base) =
      [("/d/a", [1, 0, 0, 0]), ("/d/b", [1, 0, 0, 0]), ("/c", [0, 0, 0, 0, 1, 0, 0, 0]),
        ("/c", [0, 0, 0, 0, 1, 0, 0, 0])] := by rfl
  have hdet : s.Deterministic (fun _ => .ok) some := by
    refine deterministic_of_inProcess rfl fun input fs => ⟨rfl, ?_⟩
    have hreach : (base.put ["t"] (.file input)).reach "/t" = .ok ["t"] := rfl
    have hentry : (base.put ["t"] (.file input)).entryAt? ["t"] = some (.file 5) := rfl
    exact .file hreach hentry rfl rfl
  have hdigest : ∀ a ∈ loads.flatMap (Corpus.Load.added base),
      ∀ b ∈ loads.flatMap (Corpus.Load.added base), Digest.md5 a.2 = Digest.md5 b.2 →
        a.2 = b.2 := by
    rw [hadded]
    decide +kernel
  have hstays : ∀ runs, ∀ a ∈ loads.flatMap (Corpus.Load.added base),
      (s.after runs).files.read a.1 = base.read a.1 := by
    intro runs
    have hfiles : s.files = base := rfl
    refine files_after (P := fun fs => ∀ a ∈ loads.flatMap (Corpus.Load.added base),
      fs.read a.1 = base.read a.1) (fun _ _ => by rw [hfiles])
      (fun runs input course _ htakes => ?_) runs
    obtain ⟨fs, -, -, hleft, -⟩ := htakes.inProcess (s.executor_after runs)
    rw [show (s.executor.clear course.temp course.state).files = (target input fs).2 from hleft,
      hadded]
    simp only [List.forall_mem_cons]
    exact ⟨rfl, rfl, rfl, rfl, fun _ h => nomatch h⟩
  exact ⟨hadded, runCorpus_performed hdet base loads hdigest hstays⟩

end Session

end BlockCoverage
