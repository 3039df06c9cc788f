import BlockCoverage.Proofs.Session.Run

/-!
# What a session makes of a corpus

If every input has its yield and the inputs of a corpus can be read alike all the time, then a
corpus is a list of origins with yields. An entry that cannot be read counts as one whose target did
not run. Running the corpus is absorbing this list from the front (`runEntries_after`), and the
model after it is the first one after the merges of the list (`settle_model`).
-/

namespace BlockCoverage

open Text (Bytes)

namespace Model

variable (mode : Mode) (context : Option FunctionId)

/-- The outcomes of runs with these origins and yields, and the model after them. -/
def settle : Model → List (String × Yield) → List Outcome × Model
  | m, [] => ([], m)
  | m, run :: rest =>
    let a := m.absorb mode context run.1 run.2
    let more := settle a.2 rest
    (a.1 :: more.1, more.2)

theorem settle_model (m : Model) (runs : List (String × Yield)) :
    (settle mode context m runs).2 = run m (runs.flatMap (callsOf mode context)) := by
  induction runs generalizing m with
  | nil => rfl
  | cons first rest ih =>
    rw [settle, ih, absorb_model, List.flatMap_cons, run_append]

end Model

namespace Session

variable {κ : Type}

/-- The yield of an entry of a corpus, given what reading its file gives. -/
def entryYield (yield : Bytes → Yield) : Except IoCause Bytes → Yield
  | .error cause => ⟨.other ("Failed to read input: " ++ cause.message), none⟩
  | .ok input => yield input

/-- The entries of a corpus with their yields, for the files as they are. -/
def entryRuns (s : Session κ) (yield : Bytes → Yield) (entries : List CorpusEntry) :
    List (String × Yield) :=
  entries.map fun e => (e.path, entryYield yield (s.files.read e.path))

/-- No run changes what reading the entries gives. -/
def KeepsInputs (s : Session κ) (entries : List CorpusEntry) : Prop :=
  ∀ runs, ∀ e ∈ entries, (s.after runs).files.read e.path = s.files.read e.path

variable {s : Session κ} {yield : Bytes → Yield}

/-- An entry adds its yield to the model, and leaves the session as some run does. -/
theorem runEntry_after (h : s.Yields yield) {e : CorpusEntry} (runs : List (String × Bytes))
    (hread : (s.after runs).files.read e.path = s.files.read e.path) :
    let a := (s.after runs).model.absorb s.mode s.context e.path
      (entryYield yield (s.files.read e.path))
    ((s.after runs).runEntry e).1 = a.1 ∧
      ∃ later, ((s.after runs).runEntry e).2 = s.after later ∧ (s.after later).model = a.2 := by
  rw [runEntry, hread]
  cases s.files.read e.path with
  | error cause => exact ⟨rfl, runs, rfl, rfl⟩
  | ok input =>
    obtain ⟨houtcome, hmodel⟩ := h.runInput runs e.path input
    refine ⟨houtcome, runs ++ [(e.path, input)], ?_, ?_⟩
    · rw [after_concat]
    · rw [after_concat]
      exact hmodel

theorem runEntries_after (h : s.Yields yield) {entries : List CorpusEntry}
    (hkeeps : s.KeepsInputs entries) (runs : List (String × Bytes)) :
    let a := Model.settle s.mode s.context (s.after runs).model (s.entryRuns yield entries)
    ((s.after runs).runEntries entries).1 = a.1 ∧
      ((s.after runs).runEntries entries).2.model = a.2 := by
  induction entries generalizing runs with
  | nil => exact ⟨rfl, rfl⟩
  | cons e entries ih =>
    -- the first entry leaves a session after some runs, from which the rest goes on
    obtain ⟨houtcome, later, hlater, hmodel⟩ :=
      runEntry_after h runs (hkeeps runs e List.mem_cons_self)
    obtain ⟨houtcomes, hfinal⟩ :=
      ih (fun runs d hd => hkeeps runs d (List.mem_cons_of_mem e hd)) later
    rw [hmodel] at houtcomes hfinal
    simp only [runEntries, entryRuns, List.map_cons, Model.settle, hlater]
    exact ⟨congrArg₂ List.cons houtcome houtcomes, hfinal⟩

/-- The report and the model of a corpus. -/
theorem runCorpus_eq (h : s.Yields yield) {c : Corpus} (hkeeps : s.KeepsInputs c.entries) :
    let a := Model.settle s.mode s.context s.model (s.entryRuns yield c.entries)
    (s.runCorpus c).1 = .ofOutcomes a.1 ∧ (s.runCorpus c).2.model = a.2 := by
  obtain ⟨houtcomes, hmodel⟩ := runEntries_after h hkeeps []
  exact ⟨congrArg Batch.ofOutcomes houtcomes, hmodel⟩

end Session

end BlockCoverage
