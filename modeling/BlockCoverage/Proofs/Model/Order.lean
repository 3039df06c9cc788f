import BlockCoverage.Proofs.Model.Attribution

/-!
# Calls in another order, and calls made again

Two laws on runs of merges. In another order the same calls give the same model up to origins
(`unattributed_run_perm`). A call that contributes what a call before it has contributed changes
nothing at all, origins included, whatever was merged between the two (`apply_run_of_known`).

For the second law a block *knows* a count that would tell it nothing new. It knows what it has
recorded, and it never unlearns.
-/

namespace BlockCoverage

namespace Block

/-- Recording the count would change nothing: the block has been hit as often in some run. -/
def Knows (b : Block) (count : UInt64) : Prop := count ≤ b.count ∧ (0 < count → b.hit = true)

theorem record_of_knows {b : Block} {count : UInt64} (h : b.Knows count) (origin : String) :
    b.record count origin = b := by
  by_cases hc : count = 0
  · rw [hc, record_zero]
  · have hhit := h.2 (UInt64.pos_iff_ne_zero.mpr hc)
    rw [record, if_neg hc, if_neg (UInt64.not_lt.mpr h.1), if_pos hhit]
    cases b
    simp only at hhit
    rw [hhit]

theorem le_count_record (b : Block) (count : UInt64) (origin : String) :
    b.count ≤ (b.record count origin).count ∧ count ≤ (b.record count origin).count := by
  rw [record_eq]
  simp only [UInt64.le_iff_toNat_le, toNat_max]
  omega

theorem knows_record (b : Block) (count : UInt64) (origin : String) :
    (b.record count origin).Knows count := by
  refine ⟨(b.le_count_record count origin).2, fun hpos => ?_⟩
  rw [record_eq]
  simp [hpos]

/-- What a block knows it still knows after any record. -/
theorem Knows.record {b : Block} {known : UInt64} (h : b.Knows known) (count : UInt64)
    (origin : String) : (b.record count origin).Knows known := by
  refine ⟨UInt64.le_trans h.1 (b.le_count_record count origin).1, fun hpos => ?_⟩
  rw [record_eq]
  simp [h.2 hpos]

/-- After a run of records a block knows each of them. -/
theorem knows_foldl_record {counts : List (UInt64 × String)} {c : UInt64 × String} (hc : c ∈ counts)
    (b : Block) : (counts.foldl (fun b c => b.record c.1 c.2) b).Knows c.1 := by
  have hkeep : ∀ (counts : List (UInt64 × String)) (b : Block), b.Knows c.1 →
      (counts.foldl (fun b c => b.record c.1 c.2) b).Knows c.1 := by
    intro counts
    induction counts with
    | nil => exact fun b hb => hb
    | cons d counts ih => exact fun b hb => ih _ (hb.record d.1 d.2)
  induction counts generalizing b with
  | nil => cases hc
  | cons d counts ih =>
    rw [List.foldl_cons]
    rcases List.mem_cons.mp hc with rfl | hc
    · exact hkeep counts _ (b.knows_record c.1 c.2)
    · exact ih hc _

end Block

namespace Model

/-- Calls in another order give the same model up to origins. -/
theorem unattributed_run_perm (m : Model) {cs ds : List Call} (h : cs.Perm ds) :
    (run m cs).unattributed = (run m ds).unattributed :=
  ext_get? fun _ => get?_unattributed_run rfl fun _ => h.map _

/-- A call that contributes what an earlier call has contributed changes nothing. -/
theorem apply_run_of_known {m : Model} {calls : List Call} {call known : Call}
    (hknown : known ∈ calls)
    (hsame : ∀ f i, call.contribution m f i = known.contribution m f i) :
    call.apply (run m calls) = run m calls := by
  refine ext_block? (reset_apply _ call) fun f i => ?_
  have hcall : call.contribution (run m calls) f i = known.contribution m f i := by
    rw [contribution_run, hsame]
  rw [block?_apply, hcall, block?_run, contributions_eq_map, Option.map_map]
  refine congrArg (Option.map · (m.block? f i)) (funext fun b => Block.record_of_knows ?_ _)
  exact Block.knows_foldl_record (List.mem_map.mpr ⟨known, hknown, rfl⟩) b

/-! ## Records as calls -/

namespace Call

/-- The call that merges a record, visited blocks into the named function if there is one. -/
def ofRecord (record : Record) (context : Option FunctionId) (origin : String) : Call :=
  match record, context with
  | .trace ids, some f => .into f ids origin
  | _, _ => .lenient record origin

theorem apply_ofRecord (m : Model) (record : Record) (context : Option FunctionId)
    (origin : String) :
    (ofRecord record context origin).apply m = (m.mergeRecord record context origin).model := by
  cases record with
  | profile counters => cases context <;> rfl
  | trace ids =>
    cases context with
    | some f => exact (model_ofResult _).symm
    | none => rfl

/-- What a record contributes does not depend on the run it came from. -/
theorem contribution_ofRecord (m : Model) (record : Record) (context : Option FunctionId)
    (o p : String) (f : FunctionId) (i : Nat) :
    (ofRecord record context o).contribution m f i =
      (ofRecord record context p).contribution m f i := by
  have hvisits : ∀ g ids, visitContribution m g ids o f i = visitContribution m g ids p f i :=
    fun g ids => by
      rw [visitContribution, visitContribution, isOk_mergeTraceInto, isOk_mergeTraceInto]
  cases record with
  | profile counters => cases context <;> rfl
  | trace ids =>
    cases context with
    | some g => exact hvisits g ids
    | none =>
      simp only [ofRecord, contribution, hvisits]

end Call

end Model

end BlockCoverage
