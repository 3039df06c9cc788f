import BlockCoverage.Proofs.Snapshot.RoundTrip

/-!
# The history of a model

A model starts out empty. Then maps are declared, snapshots are taken up, runs are merged and hits
are forgotten, in any order. A block says in three fields what runs have shown about it, and every
step has to keep these in line: `Block.Sound` is what holds of a block after any history. A hit has
the one origin that it came from (`Block.Attributed`) for as long as the history since all hits were
forgotten is a history of merges, for a snapshot names no origins. Whatever is merged, the skeleton
stays the one that was declared.

A property of blocks passes from model to model by `Every.step`: it is enough that it holds of
blocks without hits and is kept by `Block.record`, and that it holds of what snapshots stand for if
one is loaded. `Every.foldl` follows by induction on the history. `Block.Sound` meets the last
condition and `Block.Attributed` does not, which is why only the former survives loading.
-/

namespace BlockCoverage

/-! ## Blocks -/

namespace Block

/-- What holds of a block in every history. -/
structure Sound (b : Block) : Prop where
  /-- The block is marked as hit just when its count is positive. -/
  counted : b.HitCounted
  /-- At most one run is named. -/
  single : b.origins.length ≤ 1
  /-- A run is named only for a hit. -/
  earned : b.origins ≠ [] → b.hit = true

/-- A block that was hit has one origin, any other has none. -/
def Attributed (b : Block) : Prop := b.origins.length = if b.hit then 1 else 0

instance : DecidablePred Attributed := fun _ => inferInstanceAs (Decidable (_ = _))

theorem sound_clear (b : Block) : b.clear.Sound :=
  ⟨rfl, Nat.zero_le 1, fun hnamed => absurd rfl hnamed⟩

theorem attributed_clear (b : Block) : b.clear.Attributed := rfl

theorem Sound.record {b : Block} (h : b.Sound) (count : UInt64) (origin : String) :
    (b.record count origin).Sound := by
  refine ⟨h.counted.record count origin, ?_, ?_⟩
  · rw [Block.record]
    split
    · exact h.single
    dsimp only
    split
    · exact h.single
    · rename_i hunhit
      -- nobody is named yet for a block that was not hit
      have hnone : b.origins = [] := by_contra fun hnamed => hunhit (h.earned hnamed)
      rw [hnone]
      exact Nat.le_refl 1
  · rw [Block.record]
    split
    · exact h.earned
    · exact fun _ => rfl

theorem Attributed.record {b : Block} (h : b.Attributed) (count : UInt64) (origin : String) :
    (b.record count origin).Attributed := by
  rw [Attributed] at h ⊢
  rw [Block.record]
  split
  · exact h
  dsimp only
  rw [if_pos rfl]
  split
  · rename_i hhit
    rw [h, if_pos hhit]
  · rename_i hunhit
    rw [List.length_append, h, if_neg hunhit, List.length_singleton]

end Block

/-- A snapshot stands for blocks without origins, so they need not be attributed. -/
theorem SnapshotBlock.sound_toBlock (b : SnapshotBlock) : b.toBlock.Sound :=
  ⟨rfl, Nat.zero_le 1, fun hnamed => absurd rfl hnamed⟩

namespace Model

/-! ## Steps -/

/-- What can happen to a model. -/
inductive Step where
  /-- A static map is declared in the place of the model. -/
  | declare (map : StaticMap)
  /-- A document is read in the place of the model, if it is a snapshot. -/
  | resume (text : String)
  /-- A snapshot is written and loaded again. -/
  | reload (deny : Denylist)
  /-- A run is merged, or fails to be. -/
  | merge (call : Call)
  /-- The hits are forgotten. -/
  | reset

namespace Step

/-- The model after a step. -/
def apply (m : Model) : Step → Model
  | declare map => map.toModel
  | resume text => (ofText text).toOption.getD m
  | reload deny => Snapshot.load (Snapshot.dump m deny)
  | merge call => call.apply m
  | reset => m.reset

/-- Whether the step loads a snapshot. -/
def loads : Step → Bool
  | resume text => (ofText text).isOk
  | reload _ => true
  | declare _ | merge _ | reset => false

/-- Whether the step declares a static map. -/
def declares : Step → Bool
  | declare _ => true
  | resume _ | reload _ | merge _ | reset => false

/-- Whether the step leaves no hits. -/
def clears : Step → Bool
  | declare _ | reset => true
  | resume _ | reload _ | merge _ => false

end Step

/-- The model after steps from the empty one. -/
def reached (steps : List Step) : Model := steps.foldl Step.apply .empty

/-- A document that is read is a snapshot that is loaded, or nothing happens. -/
theorem apply_resume (text : String) (m : Model) :
    (∃ doc, (Step.resume text).apply m = Snapshot.load doc ∧ (Step.resume text).loads = true) ∨
      (Step.resume text).apply m = m ∧ (Step.resume text).loads = false := by
  simp only [Step.apply, Step.loads, ofText]
  cases Snapshot.parse text with
  | error fault => exact .inr ⟨rfl, rfl⟩
  | ok doc => exact .inl ⟨doc, rfl, rfl⟩

/-- What holds of blocks without hits holds after hits are forgotten. -/
theorem every_of_clears {P : Block → Prop} (hclear : ∀ b : Block, P b.clear) {step : Step}
    (h : step.clears = true) (m : Model) : (step.apply m).Every P := by
  cases step with
  | declare map =>
    rw [Step.apply, ← map.reset_toModel]
    exact every_reset hclear map.toModel
  | reset => exact every_reset hclear m
  | resume text | reload deny | merge call => cases h

/-- A step keeps what holds of every block, if clearing and recording do and, should the step load a
snapshot, if it holds of what that stands for. -/
theorem Every.step {P : Block → Prop} (hclear : ∀ b : Block, P b.clear)
    (hrecord : ∀ b count origin, P b → P (b.record count origin)) {step : Step}
    (hload : step.loads = true → ∀ b : SnapshotBlock, P b.toBlock) {m : Model} (h : m.Every P) :
    (step.apply m).Every P := by
  cases step with
  | declare map => exact every_of_clears hclear rfl m
  | resume text =>
    rcases apply_resume text m with ⟨doc, hdoc, hloads⟩ | ⟨hsame, -⟩
    · rw [hdoc]
      exact Snapshot.every_load (hload hloads) doc
    · rw [hsame]
      exact h
  | reload deny => exact Snapshot.every_load (hload rfl) (Snapshot.dump m deny)
  | merge call => exact h.apply hrecord call
  | reset => exact every_of_clears hclear rfl m

/-- Merges keep the skeleton, and so does a document that is not a snapshot. -/
theorem reset_apply_step {step : Step} (hload : step.loads = false)
    (hdeclare : step.declares = false) (m : Model) : (step.apply m).reset = m.reset := by
  cases step with
  | declare map => cases hdeclare
  | resume text =>
    rcases apply_resume text m with ⟨doc, -, hloads⟩ | ⟨hsame, -⟩
    · rw [hload] at hloads
      cases hloads
    · rw [hsame]
  | reload deny => cases hload
  | merge call => exact reset_apply m call
  | reset => exact reset_reset m

/-! ## Histories -/

theorem Every.foldl {P : Block → Prop} (hclear : ∀ b : Block, P b.clear)
    (hrecord : ∀ b count origin, P b → P (b.record count origin)) {steps : List Step}
    (hload : ∀ step ∈ steps, step.loads = true → ∀ b : SnapshotBlock, P b.toBlock) {m : Model}
    (h : m.Every P) : (steps.foldl Step.apply m).Every P := by
  induction steps generalizing m with
  | nil => exact h
  | cons step rest ih =>
    have hstep := h.step hclear hrecord (hload step List.mem_cons_self)
    exact ih (fun later hlater => hload later (List.mem_cons_of_mem step hlater)) hstep

theorem every_empty (P : Block → Prop) : empty.Every P := fun _ _ _ hb => by cases hb

theorem sound_reached (steps : List Step) : (reached steps).Every Block.Sound :=
  Every.foldl Block.sound_clear (fun _ count origin hb => hb.record count origin)
    (fun _ _ _ => SnapshotBlock.sound_toBlock) (every_empty _)

/-- Hits are attributed from where all hits were forgotten until a snapshot is loaded. -/
theorem attributed_reached {before after : List Step}
    (hbefore : ∀ last ∈ before.getLast?, last.clears = true)
    (hafter : ∀ step ∈ after, step.loads = false) :
    (reached (before ++ after)).Every Block.Attributed := by
  have hstart : (reached before).Every Block.Attributed := by
    rcases before.eq_nil_or_concat with rfl | ⟨earlier, last, rfl⟩
    · exact every_empty _
    · rw [List.concat_eq_append] at hbefore ⊢
      rw [List.getLast?_concat] at hbefore
      rw [reached, List.foldl_append]
      exact every_of_clears Block.attributed_clear (hbefore last rfl) (reached earlier)
  rw [reached, List.foldl_append]
  refine Every.foldl Block.attributed_clear (fun _ count origin hb => hb.record count origin)
    (fun step hstep hloads => ?_) hstart
  rw [hafter step hstep] at hloads
  cases hloads

theorem reset_foldl_step {steps : List Step}
    (h : ∀ step ∈ steps, step.loads = false ∧ step.declares = false) (m : Model) :
    (steps.foldl Step.apply m).reset = m.reset := by
  induction steps generalizing m with
  | nil => rfl
  | cons step rest ih =>
    obtain ⟨hload, hdeclare⟩ := h step List.mem_cons_self
    rw [List.foldl_cons, ih (fun later hlater => h later (List.mem_cons_of_mem step hlater)),
      reset_apply_step hload hdeclare]

/-- Whatever happened to a model, its blocks are sound; if no snapshot was loaded since its hits
were last forgotten, every hit has its one origin. Forgetting the hits leaves the functions and
blocks in their order, each without hits, and that is the map declared last unless a snapshot was
loaded. -/
theorem reached_sound (steps : List Step) :
    (reached steps).Every Block.Sound ∧
    (∀ before after, steps = before ++ after → (∀ last ∈ before.getLast?, last.clears = true) →
      (∀ step ∈ after, step.loads = false) → (reached steps).Every Block.Attributed) ∧
    (reached steps).reset.functions.entries = (reached steps).functions.entries.map (fun e =>
      (e.1, e.2.map fun b => ⟨b.id, b.lines, false, 0, []⟩)) ∧
    ∀ before map after, steps = before ++ .declare map :: after →
      (∀ step ∈ after, step.loads = false ∧ step.declares = false) →
      (reached steps).reset = map.toModel := by
  refine ⟨sound_reached steps, ?_, rfl, ?_⟩
  · rintro before after rfl
    exact attributed_reached
  · rintro before map after rfl hafter
    have hdeclared : reached (before ++ .declare map :: after) =
        after.foldl Step.apply map.toModel := by
      rw [reached, List.foldl_append]
      rfl
    rw [hdeclared, reset_foldl_step hafter, map.reset_toModel]

/-- A visit, a run that does not fit and a document that is no snapshot leave the hit attributed to
the visit. A snapshot costs the hit its origin for good, until all hits are forgotten. -/
theorem reached_sound_reloaded :
    let f : FunctionId := ⟨"a.c", "f"⟩
    let map : StaticMap := ⟨.ofList [("a.c", [⟨"f", [⟨0, [⟨"a.c", 3⟩]⟩, ⟨1, []⟩]⟩])]⟩
    let visit := Step.merge (.into f [0, 0] "x")
    let early := [.merge (.strict (.profile (.ofList [(f, [1])])) "y"), .resume "[]", visit]
    let late := .declare map :: early ++ [.reload .standard, visit]
    (reached (.declare map :: early)).Every Block.Attributed ∧
      (reached (.declare map :: early)).reset = map.toModel ∧
      (reached late).Every Block.Sound ∧ ¬(reached late).Every Block.Attributed ∧
      (reached (late ++ [.reset, visit])).Every Block.Attributed := by
  intro f map visit early late
  have hearly : ∀ step ∈ early, step.loads = false ∧ step.declares = false := by decide +kernel
  have hvisit : ∀ step ∈ [visit], step.loads = false := by decide
  obtain ⟨-, hattributed, -, hskeleton⟩ := reached_sound (.declare map :: early)
  obtain ⟨-, hforgotten, -, -⟩ := reached_sound (late ++ [.reset, visit])
  refine ⟨hattributed [.declare map] early rfl ?_ fun step hstep => (hearly step hstep).1,
    hskeleton [] map early rfl hearly, (reached_sound late).1, by decide +kernel,
    hforgotten (late ++ [.reset]) [visit] ?_ ?_ hvisit⟩
  · rintro last ⟨⟩
    rfl
  · rw [List.append_assoc]
    rfl
  · rw [List.getLast?_concat]
    rintro last ⟨⟩
    rfl

end Model

end BlockCoverage
