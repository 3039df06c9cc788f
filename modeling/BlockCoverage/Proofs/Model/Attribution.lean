import BlockCoverage.Proofs.Model.Aggregate

/-!
# Hits apart from who made them

A block says how often it was hit and who hit it first. Merges read the first and not the second:
what a run of calls makes of a function, up to origins, follows from what the function was up to
origins and from what the calls contribute to it. The order of the contributions does not matter.

`Model.unattributed` forgets the origins. One block after a run is `Block.raise` of what it was
(`unattributed_foldl_record`), where only the largest contribution and the presence of a positive
one count; `get?_unattributed_run` puts the blocks of a function together.
-/

namespace BlockCoverage

theorem toNat_max (a b : UInt64) : (max a b).toNat = max a.toNat b.toNat := by
  rw [max_eq_ite_lt]
  split <;> rename_i h <;> rw [UInt64.lt_iff_toNat_lt] at h <;> omega

theorem max_right_comm (a b c : UInt64) : max (max a b) c = max (max a c) b := by
  apply UInt64.toNat_inj.mp
  simp only [toNat_max]
  omega

namespace Block

/-- The block without the origin of its hits. -/
def unattributed (b : Block) : Block := { b with origins := [] }

/-- The block after counts that nobody is named for. -/
def raise (b : Block) (counts : List UInt64) : Block :=
  { b with
    hit := b.hit || counts.any fun c => decide (0 < c)
    count := counts.foldl max b.count }

/-- Counts may come in any order. -/
theorem raise_perm {cs ds : List UInt64} (h : cs.Perm ds) (b : Block) :
    b.raise cs = b.raise ds := by
  have hcount : cs.foldl max b.count = ds.foldl max b.count :=
    h.foldl_eq' (fun x _ y _ z => max_right_comm z x y) b.count
  rw [raise, raise, hcount, h.any_eq]

theorem unattributed_foldl_record (b : Block) (counts : List (UInt64 × String)) :
    (counts.foldl (fun b c => b.record c.1 c.2) b).unattributed =
      b.unattributed.raise (counts.map Prod.fst) := by
  rw [Model.foldl_record, raise, List.any_map]
  rfl

end Block

namespace Model

/-- The model without the origins of its hits. -/
def unattributed (m : Model) : Model :=
  m.withBlocks (m.functions.mapValues fun _ blocks => blocks.map Block.unattributed)
    (OrderedMap.keys_mapValues _ _)

@[simp]
theorem get?_unattributed (m : Model) (f : FunctionId) :
    m.unattributed.get? f = (m.get? f).map (List.map Block.unattributed) :=
  OrderedMap.get?_mapValues _ _ _

@[simp]
theorem block?_unattributed (m : Model) (f : FunctionId) (i : Nat) :
    m.unattributed.block? f i = (m.block? f i).map Block.unattributed := by
  rw [block?, block?, get?_unattributed]
  cases m.get? f <;> simp

@[simp]
theorem reset_unattributed (m : Model) : m.unattributed.reset = m.reset := by
  ext f : 1
  rw [get?_reset, get?_unattributed, get?_reset, Option.map_map]
  refine congrArg (Option.map · (m.get? f)) (funext fun blocks => ?_)
  rw [Function.comp_apply, List.map_map]
  rfl

/-! ## A function is its blocks -/

/-- A function that is declared alike in two models, and has the same block at every position, is
the same in both. -/
theorem get?_eq_of_block? {m n : Model} {f : FunctionId}
    (hdeclared : m.reset.get? f = n.reset.get? f) (hblock : ∀ i, m.block? f i = n.block? f i) :
    m.get? f = n.get? f := by
  rw [get?_reset, get?_reset] at hdeclared
  simp only [block?] at hblock
  cases hm : m.get? f with
  | none =>
    rw [hm, Option.map_none, eq_comm, Option.map_eq_none_iff] at hdeclared
    exact hdeclared.symm
  | some bs =>
    rw [hm, Option.map_some, eq_comm, Option.map_eq_some_iff] at hdeclared
    obtain ⟨cs, hn, -⟩ := hdeclared
    rw [hm, hn] at hblock
    rw [hn]
    exact congrArg some (List.ext_getElem? hblock)

/-- Models of one skeleton that have the same blocks are the same. -/
theorem ext_block? {m n : Model} (hskeleton : m.reset = n.reset)
    (hblock : ∀ f i, m.block? f i = n.block? f i) : m = n :=
  ext_get? fun f => get?_eq_of_block? (by rw [hskeleton]) (hblock f)

/-! ## Runs -/

/-- What two runs make of a function is the same up to origins if the function was, and if the runs
contribute the same to each of its blocks in some order. -/
theorem get?_unattributed_run {m n : Model} {f : FunctionId} {cs ds : List Call}
    (hstart : m.unattributed.get? f = n.unattributed.get? f)
    (hcalls : ∀ i, (cs.map (·.contribution m f i)).Perm (ds.map (·.contribution n f i))) :
    (run m cs).unattributed.get? f = (run n ds).unattributed.get? f := by
  apply get?_eq_of_block?
  · -- runs keep what is declared
    rw [reset_unattributed, reset_unattributed, reset_run, reset_run, ← reset_unattributed m,
      ← reset_unattributed n, get?_reset, get?_reset, hstart]
  intro i
  have hblock : m.unattributed.block? f i = n.unattributed.block? f i := by
    rw [block?, block?, hstart]
  rw [block?_unattributed, block?_unattributed] at hblock
  rw [block?_unattributed, block?_unattributed, block?_run, block?_run, contributions_eq_map,
    contributions_eq_map, Option.map_map, Option.map_map]
  have hraise : ∀ (m : Model) (cs : List Call),
      Block.unattributed ∘ (fun b =>
        (cs.map fun call => (call.contribution m f i, call.origin)).foldl
        (fun b c => b.record c.1 c.2) b) =
      (·.raise (cs.map (·.contribution m f i))) ∘ Block.unattributed := fun m cs => by
    funext b
    rw [Function.comp_apply, Block.unattributed_foldl_record, List.map_map]
    rfl
  rw [hraise, hraise, ← Option.map_map, hblock, Option.map_map]
  refine congrArg (Option.map · (n.block? f i)) (funext fun b => ?_)
  exact Block.raise_perm (hcalls i) _

end Model

end BlockCoverage
