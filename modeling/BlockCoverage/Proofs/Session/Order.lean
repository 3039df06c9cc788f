import BlockCoverage.Proofs.Model.Gains
import BlockCoverage.Proofs.Session.Entries

/-!
# The order of a corpus

Under a deterministic target the order of a corpus matters for who is named first on a block, and
for nothing else that is kept or reported (`runCorpus_perm`).

A report counts outcomes. All that it counts but the new blocks is read off an outcome without its
gain, and that part of an outcome is the same wherever the run stands (`bare_settle`). How many
blocks a run hits for the first time does depend on where it stands, but over a corpus these numbers
add up to the growth of the number of covered blocks (`covered_settle`), and the model after the
corpus is the same up to origins.
-/

namespace BlockCoverage

open Text (Bytes)

/-! ## Reports -/

/-- The outcome apart from what the run changed. -/
def Outcome.bare (o : Outcome) : Outcome := { o with gain := .none }

namespace Batch

theorem add_right_comm (b : Batch) (o p : Outcome) : (b.add o).add p = (b.add p).add o := by
  simp only [add, Nat.add_right_comm]

theorem ofOutcomes_perm {os ps : List Outcome} (h : os.Perm ps) : ofOutcomes os = ofOutcomes ps :=
  h.foldl_eq' (fun o _ p _ b => add_right_comm b o p) empty

/-- Gains count for the new blocks only. -/
theorem foldl_add_bare (os : List Outcome) (b : Batch) :
    os.foldl add b = { (os.map Outcome.bare).foldl add b with
      newBlocks := b.newBlocks + (os.map fun o => o.gain.blocks).sum } := by
  -- the new blocks counted so far do not enter the other counts
  have hframe : ∀ (ps : List Outcome) (b : Batch) (n : Nat),
      { ps.foldl add { b with newBlocks := n } with newBlocks := 0 } =
        { ps.foldl add b with newBlocks := 0 } := by
    intro ps
    induction ps with
    | nil => exact fun _ _ => rfl
    | cons p ps ih =>
      intro b n
      have hstep : add { b with newBlocks := n } p =
        { add b p with newBlocks := n + p.gain.blocks } := rfl
      rw [List.foldl_cons, List.foldl_cons, hstep, ih]
  induction os generalizing b with
  | nil => simp
  | cons o os ih =>
    have hstep : add b o = { add b o.bare with newBlocks := b.newBlocks + o.gain.blocks } := rfl
    have hrest := hframe (os.map Outcome.bare) (add b o.bare) (b.newBlocks + o.gain.blocks)
    rw [List.foldl_cons, ih, hstep, List.map_cons, List.map_cons, List.foldl_cons, List.sum_cons]
    simp only [Batch.mk.injEq] at hrest ⊢
    obtain ⟨h1, h2, h3, h4, h5, h6, -⟩ := hrest
    exact ⟨h1, h2, h3, h4, h5, h6, by omega⟩

/-- A report is the report of the bare outcomes with the gains added up. -/
theorem ofOutcomes_eq (os : List Outcome) :
    ofOutcomes os = { ofOutcomes (os.map Outcome.bare) with
      newBlocks := (os.map fun o => o.gain.blocks).sum } := by
  rw [ofOutcomes, foldl_add_bare, ofOutcomes, empty, Nat.zero_add]

end Batch

/-! ## Outcomes -/

namespace Model

variable (mode : Mode) (context : Option FunctionId)

theorem reset_absorb (m : Model) (origin : String) (y : Yield) :
    (m.absorb mode context origin y).2.reset = m.reset := by
  rw [absorb_model mode context m (origin, y), reset_run]

theorem covered_absorb (m : Model) (origin : String) (y : Yield) :
    (m.absorb mode context origin y).2.summarize.all.covered =
      m.summarize.all.covered + (m.absorb mode context origin y).1.gain.blocks := by
  rw [absorb]
  cases y.record? mode with
  | none => rfl
  | some record => exact covered_mergeRecord m record context origin

theorem bare_absorb_congr {m n : Model} (h : m.reset = n.reset) (origin : String) (y : Yield) :
    (m.absorb mode context origin y).1.bare = (n.absorb mode context origin y).1.bare := by
  rw [absorb, absorb]
  cases y.record? mode with
  | none => rfl
  | some record =>
    simp only [Outcome.merged, Outcome.bare,
      faults_mergeRecord_congr h record context origin origin]

/-- Over runs the gains add up to the growth of the covered blocks. -/
theorem covered_settle (m : Model) (runs : List (String × Yield)) :
    (settle mode context m runs).2.summarize.all.covered =
      m.summarize.all.covered +
        ((settle mode context m runs).1.map fun o => o.gain.blocks).sum := by
  induction runs generalizing m with
  | nil => rfl
  | cons run rest ih =>
    rw [settle]
    simp only [List.map_cons, List.sum_cons]
    have hfirst := covered_absorb mode context m run.1 run.2
    have hrest := ih (m.absorb mode context run.1 run.2).2
    omega

/-- Apart from its gain, the outcome of a run is the one that the first model gives it. -/
theorem bare_settle (m : Model) (runs : List (String × Yield)) :
    (settle mode context m runs).1.map Outcome.bare =
      runs.map fun run => (m.absorb mode context run.1 run.2).1.bare := by
  -- the models between the runs have the skeleton of the first
  suffices h : ∀ n : Model, n.reset = m.reset →
      (settle mode context n runs).1.map Outcome.bare =
        runs.map fun run => (m.absorb mode context run.1 run.2).1.bare from h m rfl
  induction runs with
  | nil => exact fun _ _ => rfl
  | cons run rest ih =>
    intro n hn
    rw [settle, List.map_cons, List.map_cons, bare_absorb_congr mode context hn,
      ih _ ((reset_absorb mode context n run.1 run.2).trans hn)]

/-- Blocks are covered or not whoever is named for it. -/
theorem covered_unattributed (m : Model) :
    m.unattributed.summarize.all.covered = m.summarize.all.covered := by
  have hblocks : ∀ blocks : List Block,
      (blocks.map Block.unattributed).countP Block.hit = blocks.countP Block.hit := by
    intro blocks
    rw [List.countP_map]
    rfl
  rw [covered_eq_sum, covered_eq_sum, unattributed, functions_withBlocks, OrderedMap.mapValues,
    List.map_map]
  simp only [Function.comp_def, hblocks]

/-- Runs in another order give the same report, and the same model up to origins. -/
theorem settle_perm (m : Model) {rs ts : List (String × Yield)} (h : rs.Perm ts) :
    Batch.ofOutcomes (settle mode context m rs).1 = Batch.ofOutcomes (settle mode context m ts).1 ∧
      (settle mode context m rs).2.unattributed = (settle mode context m ts).2.unattributed := by
  have hmodel : (settle mode context m rs).2.unattributed =
      (settle mode context m ts).2.unattributed := by
    rw [settle_model, settle_model]
    exact unattributed_run_perm m (h.flatMap_right _)
  refine ⟨?_, hmodel⟩
  have hbare : Batch.ofOutcomes ((settle mode context m rs).1.map Outcome.bare) =
      Batch.ofOutcomes ((settle mode context m ts).1.map Outcome.bare) := by
    rw [bare_settle, bare_settle]
    exact Batch.ofOutcomes_perm (h.map _)
  have hcovered : (settle mode context m rs).2.summarize.all.covered =
      (settle mode context m ts).2.summarize.all.covered := by
    rw [← covered_unattributed, hmodel, covered_unattributed]
  have hgains : ((settle mode context m rs).1.map fun o => o.gain.blocks).sum =
      ((settle mode context m ts).1.map fun o => o.gain.blocks).sum := by
    have hrs := covered_settle mode context m rs
    have hts := covered_settle mode context m ts
    omega
  rw [Batch.ofOutcomes_eq, hbare, hgains, ← Batch.ofOutcomes_eq]

end Model

/-! ## Corpora -/

namespace Session

/-- A corpus in another order gives the same report and the same model but for the origins of hits,
if the target is deterministic and does not change the inputs. -/
theorem runCorpus_perm {κ : Type} {s : Session κ} {status : Bytes → Status}
    {trace : Bytes → Option Bytes} (hdet : s.Deterministic status trace) {c d : Corpus}
    (hperm : c.entries.Perm d.entries) (hkeeps : s.KeepsInputs c.entries) :
    (s.runCorpus c).1 = (s.runCorpus d).1 ∧
      (s.runCorpus c).2.model.unattributed = (s.runCorpus d).2.model.unattributed := by
  obtain ⟨yield, hyields⟩ := hdet.yields
  have hkeeps' : s.KeepsInputs d.entries := fun runs e he => hkeeps runs e (hperm.mem_iff.mpr he)
  obtain ⟨hreport, hmodel⟩ := runCorpus_eq hyields hkeeps
  obtain ⟨hreport', hmodel'⟩ := runCorpus_eq hyields hkeeps'
  rw [hreport, hreport', hmodel, hmodel']
  exact Model.settle_perm s.mode s.context s.model (hperm.map _)

/-- Two inputs with a block in common, which one of them is the first to hit; the target writes its
input as its trace. -/
theorem runCorpus_perm_overlapping :
    let base : Files := ⟨.ofList [(["a"], .file 1), (["b"], .file 2)],
      #[.ofDirectory, .ofBytes [0, 0, 0, 0], .ofBytes [0, 0, 0, 0, 1, 0, 0, 0]], 0⟩
    let target : Target Files := fun input _ => (.ok, base.put ["t"] (.file input))
    let s : Session Unit := ⟨.trace, none, "/t", .inProcess (target.on Platform.tree),
      .ofList [(⟨"a.c", "f"⟩, [.fresh 0 [], .fresh 1 []])], ⟨base, (), none⟩⟩
    let c : Corpus := ⟨[⟨"/a", []⟩, ⟨"/b", []⟩], .empty, 0⟩
    let d : Corpus := ⟨[⟨"/b", []⟩, ⟨"/a", []⟩], .empty, 0⟩
    s.Deterministic (fun _ => .ok) some ∧ c.entries.Perm d.entries ∧ s.KeepsInputs c.entries ∧
      (s.runCorpus c).1 = (s.runCorpus d).1 ∧
      (s.runCorpus c).2.model.unattributed = (s.runCorpus d).2.model.unattributed := by
  intro base target s c d
  have hdet : s.Deterministic (fun _ => .ok) some := by
    refine deterministic_of_inProcess rfl fun input fs => ⟨rfl, ?_⟩
    have hreach : (base.put ["t"] (.file input)).reach "/t" = .ok ["t"] := rfl
    have hentry : (base.put ["t"] (.file input)).entryAt? ["t"] = some (.file 3) := rfl
    exact .file hreach hentry rfl rfl
  have hperm : c.entries.Perm d.entries := .swap _ _ _
  have hkeeps : s.KeepsInputs c.entries := by
    intro runs
    refine files_after (P := fun fs => ∀ e ∈ c.entries, fs.read e.path = s.files.read e.path)
      (fun e _ => rfl) (fun runs input course _ htakes e he => ?_) runs
    obtain ⟨fs, -, -, hfiles, -⟩ := htakes.inProcess (s.executor_after runs)
    rw [show (s.executor.clear course.temp course.state).files = (target input fs).2 from hfiles]
    rcases List.mem_cons.mp he with rfl | he
    · rfl
    · obtain rfl := List.mem_singleton.mp he
      rfl
  exact ⟨hdet, hperm, hkeeps, runCorpus_perm hdet hperm hkeeps⟩

end Session

end BlockCoverage
