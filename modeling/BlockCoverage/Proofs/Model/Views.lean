import BlockCoverage.Proofs.Model.Addressing
import BlockCoverage.Proofs.Model.Partition
import BlockCoverage.Proofs.Snapshot.History
import BlockCoverage.Report

/-!
# The views of a line agree

Three views are read off different fields of a block: the class of a line off the hits, the runs
that covered it off the origins, and the functions at it off the lines. They tell one story in every
model that comes from a static map by merges and by forgetting hits.

Forgetting hits leads back to the model of the map, so such a history comes to the calls since it
was last done (`foldl_step_eq_run`). After a run from a model without hits, the origins of a block
are that of the first call that counted the block, if there is one (`mem_origins_iff`). A block was
hit just when it has an origin, by `Block.Attributed`; this is where covered lines get their runs
from.
-/

namespace BlockCoverage

/-! ## Origins and the run -/

/-- Only a hit has an origin. -/
theorem Block.Attributed.hit_of_mem {b : Block} (h : b.Attributed) {origin : String}
    (horigin : origin ∈ b.origins) : b.hit = true := by
  by_contra hunhit
  rw [Attributed, if_neg hunhit] at h
  rw [List.eq_nil_of_length_eq_zero h] at horigin
  cases horigin

namespace Model

/-- The call is the first of a run to count the block at position `i` of the function. What a call
counts is measured on the model that it is made on. -/
def FirstToHit (m : Model) (calls : List Call) (f : FunctionId) (i : Nat) (call : Call) : Prop :=
  ∃ before after, calls = before ++ call :: after ∧ 0 < call.contribution (run m before) f i ∧
    ∀ c ∈ contributions f i m before, c.1 = 0

theorem find?_contributions_iff {m : Model} {calls : List Call} {f : FunctionId} {i : Nat}
    {origin : String} :
    ((contributions f i m calls).find? fun c => decide (0 < c.1)).map Prod.snd = some origin ↔
      ∃ call, FirstToHit m calls f i call ∧ call.origin = origin := by
  rw [contributions_eq_map, List.find?_map, Option.map_map, Option.map_eq_some_iff]
  refine exists_congr fun call => and_congr ?_ Iff.rfl
  rw [List.find?_eq_some_iff_append, FirstToHit]
  simp only [Function.comp_apply, decide_eq_true_eq, contribution_run, contributions_eq_map]
  constructor
  · rintro ⟨hpos, before, after, hcalls, hbefore⟩
    refine ⟨before, after, hcalls, hpos, ?_⟩
    intro c hc
    obtain ⟨earlier, hearlier, rfl⟩ := List.mem_map.mp hc
    have hnot := hbefore earlier hearlier
    simpa [UInt64.pos_iff_ne_zero] using hnot
  · rintro ⟨before, after, hcalls, hpos, hbefore⟩
    refine ⟨hpos, before, after, hcalls, ?_⟩
    intro earlier hearlier
    have hzero := hbefore _ (List.mem_map.mpr ⟨earlier, hearlier, rfl⟩)
    simp [show earlier.contribution m f i = 0 from hzero]

/-- A run from a model without hits names for a block the call that counted it first. -/
theorem mem_origins_iff {m : Model} (hm : m.reset = m) {calls : List Call} {f : FunctionId}
    {i : Nat}
    {b : Block} (hb : (run m calls).block? f i = some b) {origin : String} :
    origin ∈ b.origins ↔ ∃ call, FirstToHit m calls f i call ∧ call.origin = origin := by
  rw [block?_run, Option.map_eq_some_iff] at hb
  obtain ⟨a, ha, rfl⟩ := hb
  have hevery : m.reset.Every fun b => b.clear = b := every_reset Block.clear_clear m
  rw [hm] at hevery
  rw [← hevery f i a ha, foldl_record, ← find?_contributions_iff]
  simp [Block.clear, Block.fresh]

/-! ## Histories without declarations and snapshots -/

/-- The calls since hits were last forgotten, after one more step. -/
def Step.callsAfter (calls : List Call) : Step → List Call
  | merge call => calls ++ [call]
  | declare _ | reset => []
  | resume _ | reload _ => calls

/-- The calls of a history since its hits were last forgotten. -/
def callsSinceReset (steps : List Step) : List Call := steps.foldl Step.callsAfter []

theorem apply_run (map : StaticMap) {step : Step} (hload : step.loads = false)
    (hdeclare : step.declares = false) (calls : List Call) :
    step.apply (run map.toModel calls) = run map.toModel (step.callsAfter calls) := by
  cases step with
  | declare map => cases hdeclare
  | resume text =>
    rcases apply_resume text (run map.toModel calls) with ⟨doc, -, hloads⟩ | ⟨hsame, -⟩
    · rw [hload] at hloads
      cases hloads
    · exact hsame
  | reload deny => cases hload
  | merge call => exact (run_append map.toModel calls [call]).symm
  | reset => exact (reset_run map.toModel calls).trans map.reset_toModel

/-- A history without declarations and snapshots comes to the calls since its hits were last
forgotten, made on the model that it started from. -/
theorem foldl_step_eq_run (map : StaticMap) {steps : List Step}
    (h : ∀ step ∈ steps, step.loads = false ∧ step.declares = false) :
    steps.foldl Step.apply map.toModel = run map.toModel (callsSinceReset steps) := by
  suffices hrun : ∀ calls, steps.foldl Step.apply (run map.toModel calls) =
      run map.toModel (steps.foldl Step.callsAfter calls) from hrun []
  induction steps with
  | nil => exact fun _ => rfl
  | cons step rest ih =>
    intro calls
    obtain ⟨hload, hdeclare⟩ := h step List.mem_cons_self
    rw [List.foldl_cons, apply_run map hload hdeclare,
      ih fun later hlater => h later (List.mem_cons_of_mem step hlater), List.foldl_cons]

/-- Without snapshots every hit is attributed. -/
theorem attributed_foldl_step (map : StaticMap) {steps : List Step}
    (h : ∀ step ∈ steps, step.loads = false ∧ step.declares = false) :
    (steps.foldl Step.apply map.toModel).Every Block.Attributed := by
  have hstart : map.toModel.Every Block.Attributed :=
    every_of_clears Block.attributed_clear (rfl : (Step.declare map).clears = true) empty
  refine hstart.foldl Block.attributed_clear (fun _ count origin hb => hb.record count origin) ?_
  intro step hstep hloads
  rw [(h step hstep).1] at hloads
  cases hloads

/-! ## Views by line -/

section Views

variable {m : Model} {f : FunctionId} {blocks : List Block} {line : UInt32}

theorem mem_functionsAt (hf : m.get? f = some blocks) {file : String} :
    f ∈ m.functionsAt file line ↔
      ∃ b ∈ blocks, ∃ l ∈ b.lines, l.line = line ∧ Path.matchesFile l.file file = true := by
  rw [functionsAt, List.mem_map]
  simp only [List.mem_filter, List.any_eq_true, Bool.and_eq_true, beq_iff_eq]
  constructor
  · rintro ⟨⟨g, others⟩, ⟨hentry, hline⟩, rfl⟩
    have hothers : m.get? g = some others := OrderedMap.get?_eq_some_iff.mpr hentry
    rw [hf] at hothers
    obtain rfl := Option.some.inj hothers
    exact hline
  · intro hline
    exact ⟨(f, blocks), ⟨OrderedMap.get?_eq_some_iff.mp hf, hline⟩, rfl⟩

/-- A function is found at a line of some file just when it declares the line: the declared file is
one. -/
theorem exists_mem_functionsAt_iff (hf : m.get? f = some blocks) :
    (∃ file, f ∈ m.functionsAt file line) ↔ ∃ b ∈ blocks, b.Declares line := by
  simp only [mem_functionsAt hf]
  constructor
  · rintro ⟨file, b, hb, l, hl, hline, -⟩
    exact ⟨b, hb, l, hl, hline⟩
  · rintro ⟨b, hb, l, hl, hline⟩
    exact ⟨l.file, b, hb, l, hl, hline, Path.matchesFile_iff.mpr (List.suffix_refl _)⟩

/-- Where hits are attributed, some run is named for a line just when a hit block declares it. -/
theorem originsOfLine_ne_nil_iff (hattributed : m.Every Block.Attributed)
    (hf : m.get? f = some blocks) :
    m.originsOfLine f line ≠ [] ↔ ∃ b ∈ blocks, b.Declares line ∧ b.hit = true := by
  constructor
  · intro hne
    obtain ⟨origin, horigin⟩ := List.exists_mem_of_ne_nil _ hne
    obtain ⟨b, hb, hhit, hcovers, -⟩ := (mem_originsOfLine hf line origin).mp horigin
    exact ⟨b, hb, Block.coversLine_iff_declares.mp hcovers, hhit⟩
  · rintro ⟨b, hb, hline, hhit⟩
    obtain ⟨i, hi⟩ := List.getElem?_of_mem hb
    have hone : b.origins.length = 1 := by
      rw [hattributed f i b (Option.bind_eq_some_iff.mpr ⟨blocks, hf, hi⟩), if_pos hhit]
    have hpos : 0 < b.origins.length := by omega
    obtain ⟨origin, horigin⟩ := List.exists_mem_of_length_pos hpos
    have hcovers := Block.coversLine_iff_declares.mpr hline
    exact List.ne_nil_of_mem ((mem_originsOfLine hf line origin).mpr ⟨b, hb, hhit, hcovers,
      horigin⟩)

theorem originsOfLine_ne_nil_iff_classOf (hattributed : m.Every Block.Attributed)
    (hf : m.get? f = some blocks) :
    m.originsOfLine f line ≠ [] ↔ (LineClasses.ofBlocks blocks).classOf line = .covered ∨
      (LineClasses.ofBlocks blocks).classOf line = .mixed := by
  rw [originsOfLine_ne_nil_iff hattributed hf, ← Block.hitOn_iff, LineClasses.classOf_ofBlocks]
  cases Block.hitOn blocks line <;> cases Block.unhitOn blocks line <;> decide

/-- After a run from a model without hits, the runs named for a line are those that were the first
to hit a block of it. -/
theorem mem_originsOfLine_run {start : Model} (hstart : start.reset = start) {calls : List Call}
    (hattributed : (run start calls).Every Block.Attributed)
    (hf : (run start calls).get? f = some blocks) {origin : String} :
    origin ∈ (run start calls).originsOfLine f line ↔
      ∃ i b call, (run start calls).block? f i = some b ∧ b.Declares line ∧
        FirstToHit start calls f i call ∧ call.origin = origin := by
  rw [mem_originsOfLine hf]
  constructor
  · rintro ⟨b, hb, -, hcovers, horigin⟩
    obtain ⟨i, hi⟩ := List.getElem?_of_mem hb
    have hblock : (run start calls).block? f i = some b := by
      rw [block?, hf, Option.bind_some, hi]
    obtain ⟨call, hfirst, hcall⟩ := (mem_origins_iff hstart hblock).mp horigin
    exact ⟨i, b, call, hblock, Block.coversLine_iff_declares.mp hcovers, hfirst, hcall⟩
  · rintro ⟨i, b, call, hblock, hline, hfirst, hcall⟩
    have horigin : origin ∈ b.origins := (mem_origins_iff hstart hblock).mpr ⟨call, hfirst, hcall⟩
    have hhit : b.hit = true := (hattributed f i b hblock).hit_of_mem horigin
    rw [block?, hf, Option.bind_some] at hblock
    have hcovers := Block.coversLine_iff_declares.mpr hline
    exact ⟨b, List.mem_of_getElem? hblock, hhit, hcovers, horigin⟩

/-- The report of a line's runs says that there are none just when there are none. -/
theorem lineOrigins_isPrefix_iff :
    "No input covered".toList <+: (Report.lineOrigins m f line).text.toList ↔
      m.originsOfLine f line = [] := by
  rw [Report.lineOrigins]
  split
  · rename_i hnil
    have hstart : "No input covered line ".toList = "No input covered".toList ++
      " line ".toList := by
      decide
    simp only [String.toList_append, List.append_assoc, hstart, List.prefix_append, hnil]
  · rename_i hne
    constructor
    · rintro ⟨rest, htext⟩
      -- the two texts differ in their first letter
      have hhead := congrArg List.head? htext
      simp only [String.toList_append] at hhead
      cases hhead
    · intro hnil
      exact absurd hnil hne

end Views

/-- A model that comes from a static map by merges and by forgetting hits is what the calls since
hits were last forgotten make of the map. For every line of a declared function, some run is named
just when the line is covered or mixed, and the report says that there is none just when it is
neither. The runs that are named are those of the calls that were the first to count a block of the
line. And the line is known just when the function is found at it, in some file. -/
theorem views_agree (map : StaticMap) {steps : List Step}
    (hsteps : ∀ step ∈ steps, step.loads = false ∧ step.declares = false) {f : FunctionId}
    (hf : f ∈ (steps.foldl Step.apply map.toModel).functions.keys) (line : UInt32) :
    let m := steps.foldl Step.apply map.toModel
    m = run map.toModel (callsSinceReset steps) ∧ ∃ classes, m.classify f = .ok classes ∧
      (m.originsOfLine f line ≠ [] ↔
        classes.classOf line = .covered ∨ classes.classOf line = .mixed) ∧
      ("No input covered".toList <+: (Report.lineOrigins m f line).text.toList ↔
        classes.classOf line = .uncovered ∨ classes.classOf line = .unknown) ∧
      (∀ origin, origin ∈ m.originsOfLine f line ↔ ∃ i b call, m.block? f i = some b ∧
        b.Declares line ∧ FirstToHit map.toModel (callsSinceReset steps) f i call ∧
        call.origin = origin) ∧
      (classes.classOf line ≠ .unknown ↔ ∃ file, f ∈ m.functionsAt file line) := by
  intro m
  obtain ⟨blocks, hget⟩ := Option.isSome_iff_exists.mp (OrderedMap.mem_keys_iff.mp hf)
  have hblocks : m.get? f = some blocks := hget
  have hattributed : m.Every Block.Attributed := attributed_foldl_step map hsteps
  have hrun : m = run map.toModel (callsSinceReset steps) := foldl_step_eq_run map hsteps
  have hnamed : m.originsOfLine f line ≠ [] ↔
      (LineClasses.ofBlocks blocks).classOf line = .covered ∨
        (LineClasses.ofBlocks blocks).classOf line = .mixed :=
    originsOfLine_ne_nil_iff_classOf hattributed hblocks
  refine ⟨hrun, .ofBlocks blocks, classify_of_get? hblocks, hnamed, ?report, ?origins, ?known⟩
  case report =>
    rw [lineOrigins_isPrefix_iff, ← Decidable.not_not (p := m.originsOfLine f line = []), ← ne_eq,
      hnamed]
    cases (LineClasses.ofBlocks blocks).classOf line <;> decide
  case origins =>
    intro origin
    rw [hrun] at hattributed hblocks ⊢
    exact mem_originsOfLine_run map.reset_toModel hattributed hblocks
  case known =>
    rw [exists_mem_functionsAt_iff hblocks, Block.exists_declares_iff, LineClasses.classOf_ofBlocks]
    cases Block.hitOn blocks line <;> cases Block.unhitOn blocks line <;> decide

/-- After hits were forgotten, a run that does not fit is merged, then one that hits the first of
two blocks on line 5, then another one that hits it. -/
theorem views_agree_forgotten :
    let f : FunctionId := ⟨"a.c", "f"⟩
    let map : StaticMap := ⟨.ofList [("a.c",
      [⟨"f", [⟨0, [⟨"a.c", 5⟩]⟩, ⟨1, [⟨"a.c", 5⟩, ⟨"b.h", 6⟩]⟩]⟩])]⟩
    let steps : List Step := [.merge (.into f [0, 1] "old"), .reset, .merge (.into f [7] "bad"),
      .merge (.strict (.profile (.ofList [(f, [2, 0])])) "x"), .merge (.into f [0] "y")]
    let m := steps.foldl Step.apply map.toModel
    (∀ step ∈ steps, step.loads = false ∧ step.declares = false) ∧ f ∈ m.functions.keys ∧
      m.originsOfLine f 5 ≠ [] ∧ "x" ∈ m.originsOfLine f 5 ∧ "y" ∉ m.originsOfLine f 5 ∧
      "No input covered".toList <+: (Report.lineOrigins m f 6).text.toList ∧
      ∃ file, f ∈ m.functionsAt file 6 := by
  intro f map steps m
  have hsteps : ∀ step ∈ steps, step.loads = false ∧ step.declares = false := by decide +kernel
  have hf : f ∈ m.functions.keys := by decide +kernel
  have hclasses : (m.classify f).toOption =
      some ⟨.empty, .ofList [6], .ofList [5]⟩ := by decide +kernel
  obtain ⟨-, classes, hclassify, hnamed, -, horigins, -⟩ := views_agree map hsteps hf 5
  obtain ⟨-, classes', hclassify', -, hreport, -, hknown⟩ := views_agree map hsteps hf 6
  rw [hclassify] at hclasses
  obtain rfl := Option.some.inj hclasses
  obtain rfl := Except.ok.inj (hclassify.symm.trans hclassify')
  have hfirst : FirstToHit map.toModel (callsSinceReset steps) f 0
      (.strict (.profile (.ofList [(f, [2, 0])])) "x") :=
    ⟨[.into f [7] "bad"], [.into f [0] "y"], rfl, by decide +kernel, by decide +kernel⟩
  refine ⟨hsteps, hf, hnamed.mpr (.inr (by decide +kernel)), (horigins "x").mpr ?_,
    by decide +kernel, hreport.mpr (.inl (by decide +kernel)), hknown.mp (by decide +kernel)⟩
  exact ⟨0, ⟨0, [⟨"a.c", 5⟩], true, 2, ["x"]⟩, _, by decide +kernel,
    ⟨⟨"a.c", 5⟩, List.mem_singleton.mpr rfl, rfl⟩, hfirst, rfl⟩

end Model

end BlockCoverage
