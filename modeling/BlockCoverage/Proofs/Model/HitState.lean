import BlockCoverage.Proofs.Model.Aggregate
import BlockCoverage.StaticMap

/-!
# Hits and counts agree

A block says twice whether it has been hit: by its flag and by a count above zero. Both say the same
in every model that merges can reach from one where they do, such as one that was just declared. A
snapshot relies on it, since it keeps the count only.

A call records a count for every block (`Model.block?_apply`), so what recording keeps of one block,
calls keep of every block (`Model.Every.apply`).
-/

namespace BlockCoverage

/-- The block is marked as hit just when its count is positive. -/
def Block.HitCounted (b : Block) : Prop := b.hit = decide (0 < b.count)

instance (b : Block) : Decidable b.HitCounted := inferInstanceAs (Decidable (_ = _))

theorem Block.HitCounted.record {b : Block} (h : b.HitCounted) (count : UInt64) (origin : String) :
    (b.record count origin).HitCounted := by
  rw [HitCounted, Block.record]
  split
  · exact h
  · rename_i hzero
    have hpos : 0 < count := UInt64.pos_iff_ne_zero.mpr hzero
    simp only
    split
    · exact (decide_eq_true hpos).symm
    · rename_i hle
      exact (decide_eq_true (UInt64.lt_of_lt_of_le hpos (UInt64.not_lt.mp hle))).symm

namespace Model

/-! ## What holds of every block -/

/-- Every block of the model has the property. -/
def Every (P : Block → Prop) (m : Model) : Prop := ∀ f i b, m.block? f i = some b → P b

section Every

variable {P : Block → Prop}

theorem every_iff {m : Model} : m.Every P ↔ ∀ e ∈ m.functions.entries, ∀ b ∈ e.2, P b := by
  constructor
  · intro h e he b hb
    obtain ⟨i, hi⟩ := List.getElem?_of_mem hb
    refine h e.1 i b (Option.bind_eq_some_iff.mpr ⟨e.2, ?_, hi⟩)
    exact OrderedMap.get?_eq_some_iff.mpr he
  · intro h f i b hb
    obtain ⟨blocks, hblocks, hi⟩ := Option.bind_eq_some_iff.mp hb
    exact h (f, blocks) (OrderedMap.get?_eq_some_iff.mp hblocks) b (List.mem_of_getElem? hi)

/-- What recording a count keeps is kept by every call. -/
theorem Every.apply (hrecord : ∀ b count origin, P b → P (b.record count origin)) {m : Model}
    (h : m.Every P) (call : Call) : (call.apply m).Every P := by
  intro f i b hb
  rw [block?_apply] at hb
  obtain ⟨a, ha, rfl⟩ := Option.map_eq_some_iff.mp hb
  exact hrecord a _ _ (h f i a ha)

instance [DecidablePred P] (m : Model) : Decidable (m.Every P) := decidable_of_iff _ every_iff.symm

theorem every_reset (hclear : ∀ b : Block, P b.clear) (m : Model) : m.reset.Every P := by
  rw [every_iff]
  intro e he b hb
  obtain ⟨e, -, rfl⟩ := List.mem_map.mp he
  obtain ⟨b, -, rfl⟩ := List.mem_map.mp hb
  exact hclear b

end Every

/-! ## Hits and counts -/

/-- Every block of the model is marked as hit just when its count is positive. -/
def HitsCounted (m : Model) : Prop := ∀ e ∈ m.functions.entries, ∀ b ∈ e.2, b.HitCounted

instance (m : Model) : Decidable m.HitsCounted :=
  inferInstanceAs (Decidable (∀ e ∈ m.functions.entries, ∀ b ∈ e.2, b.HitCounted))

/-- A call keeps hits and counts in agreement. -/
theorem hitsCounted_apply {m : Model} (h : m.HitsCounted) (call : Call) :
    (call.apply m).HitsCounted :=
  every_iff.mp ((every_iff.mpr h).apply (fun _ count origin hb => hb.record count origin) call)

/-- Hits and counts agree after every run of merges. -/
theorem hitsCounted_run {m : Model} (h : m.HitsCounted) (calls : List Call) :
    (run m calls).HitsCounted := by
  induction calls generalizing m with
  | nil => exact h
  | cons call rest ih => exact ih (hitsCounted_apply h call)

theorem hitsCounted_reset (m : Model) : m.reset.HitsCounted :=
  every_iff.mp (every_reset (fun _ => rfl) m)

end Model

namespace StaticMap

/-- The model of a static map is its own skeleton. -/
theorem reset_toModel (map : StaticMap) : map.toModel.reset = map.toModel := by
  ext f : 1
  rw [Model.get?_reset]
  cases h : map.toModel.get? f with
  | none => rfl
  | some blocks =>
    obtain ⟨before, after, hl, -⟩ := OrderedMap.get?_ofList_eq_some_iff.mp h
    have hmem : (f, blocks) ∈ map.files.entries.flatMap fun e =>
        e.2.map fun d => ((⟨e.1, d.name⟩ : FunctionId), d.blocks.map BlockDeclaration.toBlock) := by
      rw [hl]
      exact List.mem_append_right before List.mem_cons_self
    simp only [List.mem_flatMap, List.mem_map, Prod.mk.injEq] at hmem
    obtain ⟨e, -, d, -, -, rfl⟩ := hmem
    rw [Option.map_some, List.map_map]
    rfl

theorem hitsCounted_toModel (map : StaticMap) : map.toModel.HitsCounted := by
  rw [← reset_toModel]
  exact Model.hitsCounted_reset _

end StaticMap

end BlockCoverage
