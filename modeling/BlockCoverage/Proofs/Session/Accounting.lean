import BlockCoverage.Proofs.Session.Order
import BlockCoverage.Trace.Layout

/-!
# The accounts of a batch

What merges and batches report adds up. A merge that reports `n` new blocks leaves a model with just
`n` more covered blocks and as many blocks altogether (`Model.GrowsBy`). Growth composes, so a batch
reports the growth of the model from before its first run to after its last, whatever the runs came
to (`runCorpus_accounts`).

Nothing is asked of the target here. Whatever a run does, its session absorbs some yield
(`runEntry_absorb`): an input that cannot be read is a run whose target did not run.
-/

namespace BlockCoverage

/-! ## Growth -/

namespace Model

/-- The later model has `n` more covered blocks than the earlier one, and as many blocks in all. -/
structure GrowsBy (earlier later : Model) (n : Nat) : Prop where
  /-- The covered blocks of the later model are those of the earlier one and `n` more. -/
  covered : later.summarize.all.covered = earlier.summarize.all.covered + n
  /-- No block is added or lost. -/
  total : later.summarize.all.total = earlier.summarize.all.total

theorem GrowsBy.refl (m : Model) : m.GrowsBy m 0 := ⟨rfl, rfl⟩

theorem GrowsBy.trans {m₁ m₂ m₃ : Model} {n k : Nat} (h : m₁.GrowsBy m₂ n) (h' : m₂.GrowsBy m₃ k) :
    m₁.GrowsBy m₃ (n + k) := by
  have hcovered := h.covered
  have hcovered' := h'.covered
  exact ⟨by omega, h'.total.trans h.total⟩

/-- Models of one skeleton have as many blocks, so growth is a matter of the covered ones. -/
theorem GrowsBy.of_reset {earlier later : Model} {n : Nat} (hskeleton : later.reset = earlier.reset)
    (hcovered : later.summarize.all.covered = earlier.summarize.all.covered + n) :
    earlier.GrowsBy later n := by
  refine ⟨hcovered, ?_⟩
  rw [← total_reset later, hskeleton, total_reset]

theorem growsBy_merge {m n : Model} {record : Record} {origin : String} {gain : Gain}
    (h : m.merge record origin = (.ok gain, n)) : m.GrowsBy n gain.blocks := by
  have hskeleton := reset_merge m record origin
  have hcovered := covered_merge m record origin
  rw [h] at hskeleton hcovered
  exact .of_reset hskeleton hcovered

theorem growsBy_mergeLenient (m : Model) (record : Record) (origin : String) :
    m.GrowsBy (m.mergeLenient record origin).model (m.mergeLenient record origin).gain.blocks :=
  .of_reset (reset_apply m (.lenient record origin)) (covered_mergeLenient m record origin)

theorem growsBy_mergeTraceInto {m n : Model} {f : FunctionId} {ids : List UInt32} {origin : String}
    {gain : Gain} (h : m.mergeTraceInto f ids origin = (.ok gain, n)) :
    m.GrowsBy n gain.blocks := by
  have hskeleton := reset_mergeTraceInto m f ids origin
  have hcovered := covered_mergeTraceInto m f ids origin
  rw [h] at hskeleton hcovered
  exact .of_reset hskeleton hcovered

variable (mode : Mode) (context : Option FunctionId)

theorem growsBy_absorb (m : Model) (origin : String) (y : Yield) :
    m.GrowsBy (m.absorb mode context origin y).2 (m.absorb mode context origin y).1.gain.blocks :=
  .of_reset (reset_absorb mode context m origin y) (covered_absorb mode context m origin y)

/-- A run without a usable trace leaves the model as it is. -/
theorem absorb_of_untraced {m : Model} {origin : String} {y : Yield}
    (h : (m.absorb mode context origin y).1.traced = false) :
    (m.absorb mode context origin y).2 = m := by
  rw [absorb] at h ⊢
  cases hrecord : y.record? mode with
  | none => rfl
  | some record =>
    rw [hrecord] at h
    cases h

end Model

/-! ## Counts -/

namespace Batch

/-- Every run counts once as merged, untraced or failed to merge, and at most once as a crash or a
timeout. -/
structure Balanced (b : Batch) : Prop where
  /-- What became of the traces accounts for all runs. -/
  traces : b.runs = b.merged + b.untraced + b.mergeFailures
  /-- No run ended badly in two ways. -/
  endings : b.crashes + b.timeouts ≤ b.runs

/-- What became of the trace of one run counts once. -/
theorem one_traces (traced whole : Bool) :
    one (traced && whole) + one (!traced) + one (traced && !whole) = 1 := by
  cases traced <;> cases whole <;> rfl

theorem Balanced.add {b : Batch} (h : b.Balanced) (o : Outcome) : (b.add o).Balanced := by
  obtain ⟨htraces, hendings⟩ := h
  constructor
  · have hone := one_traces o.traced o.faults.isEmpty
    simp only [Batch.add]
    omega
  · simp only [Batch.add]
    cases o.status <;> simp only [one, Bool.false_eq_true, if_true, if_false] <;> omega

theorem balanced_ofOutcomes (os : List Outcome) : (ofOutcomes os).Balanced := by
  have hstart : empty.Balanced := ⟨rfl, Nat.le_refl 0⟩
  rw [ofOutcomes]
  generalize empty = b at hstart
  induction os generalizing b with
  | nil => exact hstart
  | cons o os ih => exact ih _ (hstart.add o)

theorem runs_foldl_add (os : List Outcome) (b : Batch) :
    (os.foldl add b).runs = b.runs + os.length := by
  induction os generalizing b with
  | nil => rfl
  | cons o os ih =>
    have hone : (b.add o).runs = b.runs + 1 := rfl
    rw [List.foldl_cons, ih, hone, List.length_cons]
    omega

theorem runs_ofOutcomes (os : List Outcome) : (ofOutcomes os).runs = os.length := by
  rw [ofOutcomes, runs_foldl_add, empty, Nat.zero_add]

theorem newBlocks_ofOutcomes (os : List Outcome) :
    (ofOutcomes os).newBlocks = (os.map fun o => o.gain.blocks).sum := by
  rw [ofOutcomes_eq]

/-- The runs counted as untraced are those without a usable trace. -/
theorem untraced_add_lt_iff (b : Batch) (o : Outcome) :
    b.untraced < (b.add o).untraced ↔ o.traced = false := by
  cases htraced : o.traced <;> simp [add, htraced, one]

end Batch

/-! ## Batches -/

namespace Session

open Text (Bytes)
open Trace (FileRecord)

variable {κ : Type}

/-- Running an entry of a corpus makes the model absorb some yield. -/
theorem runEntry_absorb (s : Session κ) (e : CorpusEntry) :
    ∃ y, (s.runEntry e).1 = (s.model.absorb s.mode s.context e.path y).1 ∧
      (s.runEntry e).2.model = (s.model.absorb s.mode s.context e.path y).2 := by
  rw [runEntry]
  cases s.files.read e.path with
  | error cause => exact ⟨⟨.other ("Failed to read input: " ++ cause.message), none⟩, rfl, rfl⟩
  | ok input => exact ⟨s.yielded input, s.runInput_absorb e.path input⟩

theorem model_runInput_of_untraced {s : Session κ} {origin : String} {input : Bytes}
    (h : (s.runInput origin input).1.traced = false) :
    (s.runInput origin input).2.model = s.model := by
  obtain ⟨houtcome, hmodel⟩ := s.runInput_absorb origin input
  rw [houtcome] at h
  rw [hmodel, Model.absorb_of_untraced s.mode s.context h]

theorem growsBy_runEntry (s : Session κ) (e : CorpusEntry) :
    s.model.GrowsBy (s.runEntry e).2.model (s.runEntry e).1.gain.blocks := by
  obtain ⟨y, houtcome, hmodel⟩ := s.runEntry_absorb e
  rw [houtcome, hmodel]
  exact Model.growsBy_absorb s.mode s.context s.model e.path y

theorem model_runEntry_of_untraced {s : Session κ} {e : CorpusEntry}
    (h : (s.runEntry e).1.traced = false) : (s.runEntry e).2.model = s.model := by
  obtain ⟨y, houtcome, hmodel⟩ := s.runEntry_absorb e
  rw [houtcome] at h
  rw [hmodel, Model.absorb_of_untraced s.mode s.context h]

theorem length_runEntries (s : Session κ) (entries : List CorpusEntry) :
    (s.runEntries entries).1.length = entries.length := by
  induction entries generalizing s with
  | nil => rfl
  | cons e entries ih => rw [runEntries, List.length_cons, List.length_cons, ih]

/-- Over runs growth adds up. -/
theorem growsBy_runEntries (s : Session κ) (entries : List CorpusEntry) :
    s.model.GrowsBy (s.runEntries entries).2.model
      ((s.runEntries entries).1.map fun o => o.gain.blocks).sum := by
  induction entries generalizing s with
  | nil => exact .refl s.model
  | cons e entries ih =>
    have hfirst := s.growsBy_runEntry e
    have hrest := ih (s.runEntry e).2
    rw [runEntries, List.map_cons, List.sum_cons]
    exact hfirst.trans hrest

/-- What merges and batches report is what they change. A merge grows the model by the new blocks
that it reports. A batch reports as many runs as the corpus has inputs, in balance, and grows the
model by the new blocks that it reports. A run that is counted as untraced leaves the model as it
is. -/
theorem runCorpus_accounts (s : Session κ) (c : Corpus) :
    (∀ (m n : Model) (record : Record) (origin : String) (gain : Gain),
      m.merge record origin = (.ok gain, n) → m.GrowsBy n gain.blocks) ∧
    (∀ (m : Model) (record : Record) (origin : String),
      m.GrowsBy (m.mergeLenient record origin).model (m.mergeLenient record origin).gain.blocks) ∧
    (∀ (m n : Model) (f : FunctionId) (ids : List UInt32) (origin : String) (gain : Gain),
      m.mergeTraceInto f ids origin = (.ok gain, n) → m.GrowsBy n gain.blocks) ∧
    (s.runCorpus c).1.runs = c.entries.length ∧
    (s.runCorpus c).1.Balanced ∧
    s.model.GrowsBy (s.runCorpus c).2.model (s.runCorpus c).1.newBlocks ∧
    ∀ (t : Session κ) (e : CorpusEntry) (b : Batch),
      b.untraced < (b.add (t.runEntry e).1).untraced → (t.runEntry e).2.model = t.model := by
  have hgrows := s.growsBy_runEntries c.entries
  refine ⟨fun _ _ _ _ _ => Model.growsBy_merge, Model.growsBy_mergeLenient,
    fun _ _ _ _ _ _ => Model.growsBy_mergeTraceInto, ?_, ?_, ?_, fun t e b hcounted => ?_⟩
  · exact (Batch.runs_ofOutcomes _).trans (s.length_runEntries c.entries)
  · exact Batch.balanced_ofOutcomes _
  · rw [← Batch.newBlocks_ofOutcomes] at hgrows
    exact hgrows
  · exact model_runEntry_of_untraced ((b.untraced_add_lt_iff _).mp hcounted)

/-- A batch with an input that is gone, a crash whose trace fits in part, a run that hangs before it
writes anything, and a run that goes well; and a strict merge of each kind. -/
theorem runCorpus_accounts_mixed :
    let base : Files :=
      ⟨.ofList [(["crashes"], .file 1), (["hangs"], .file 2), (["works"], .file 3)],
      #[.ofDirectory, .ofBytes (FileRecord.bytes ⟨"a.c", [("f", [1, 0]), ("g", [1])], 0⟩),
        .ofBytes [], .ofBytes (FileRecord.bytes ⟨"a.c", [("f", [2, 3])], 0⟩)], 0⟩
    let target : Target Files := fun input fs =>
      if input = [] then (.timeout, fs)
      else (if input.length = 36 then .ok else .crash "Terminated by signal 11",
        fs.put ["t"] (.file input))
    let f : FunctionId := ⟨"a.c", "f"⟩
    let s : Session Unit := ⟨.profile, none, "/t", .inProcess (target.on Platform.tree),
      .ofList [(f, [.fresh 0 [], .fresh 1 []])], ⟨base, (), none⟩⟩
    let c : Corpus := ⟨[⟨"/gone", []⟩, ⟨"/crashes", []⟩, ⟨"/hangs", []⟩, ⟨"/works", []⟩], .empty, 0⟩
    let n : Model := .ofList [(f, [.fresh 0 [], ⟨1, [], true, 7, ["x"]⟩])]
    let k : Model := .ofList [(f, [⟨0, [], true, 1, ["y"]⟩, ⟨1, [], true, 7, ["x"]⟩])]
    (s.runCorpus c).1 = ⟨4, 1, 2, 1, 1, 1, 2⟩ ∧ (s.runCorpus c).1.Balanced ∧
      s.model.GrowsBy (s.runCorpus c).2.model 2 ∧
      (s.runEntry ⟨"/hangs", []⟩).2.model = s.model ∧
      s.model.merge (.profile (.ofList [(f, [0, 7])])) "x" = (.ok ⟨1, 1⟩, n) ∧
      s.model.GrowsBy n 1 ∧
      n.mergeTraceInto f [1, 0, 1] "y" = (.ok ⟨1, 1⟩, k) ∧ n.GrowsBy k 1 := by
  intro base target f s c n k
  obtain ⟨hmerge, -, hinto, -, hbalanced, hgrows, huntraced⟩ := runCorpus_accounts s c
  have hreport : (s.runCorpus c).1 = ⟨4, 1, 2, 1, 1, 1, 2⟩ := by decide +kernel
  have hcounted : Batch.empty.untraced <
      (Batch.empty.add (s.runEntry ⟨"/hangs", []⟩).1).untraced := by decide +kernel
  have hprofile : s.model.merge (.profile (.ofList [(f, [0, 7])])) "x" = (.ok ⟨1, 1⟩, n) := by
    decide +kernel
  have hvisits : n.mergeTraceInto f [1, 0, 1] "y" = (.ok ⟨1, 1⟩, k) := by decide +kernel
  rw [hreport] at hgrows
  exact ⟨hreport, hbalanced, hgrows, huntraced s ⟨"/hangs", []⟩ Batch.empty hcounted,
    hprofile, hmerge _ _ _ _ _ hprofile, hvisits, hinto _ _ _ _ _ _ hvisits⟩

end Session

end BlockCoverage
