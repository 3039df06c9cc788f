import BlockCoverage.Proofs.Model.Fitting
import BlockCoverage.Proofs.Model.Visits

/-!
# A trace as a profile

A run can be told by the blocks it visited or by how often it hit each block. If the blocks of a
function carry the numbers of their positions, both ways of telling it come to the same: the visits
fit the function just as the counters do (`checkVisits_of_placed`), and merging them is recording
the counters (`mergeTraceInto_eq`). The order of the visits is lost in the counters, so it has no
influence on what a merge of visits gives (`visitCounts_perm`).
-/

namespace BlockCoverage.Model

/-- The counters of a run do not show in which order it visited the blocks. -/
theorem visitCounts_perm {ids others : List UInt32} (h : ids.Perm others) (n : Nat) :
    visitCounts n ids = visitCounts n others := by
  have hvisits : visits ids = visits others := by
    funext i
    rw [visits, visits, h.countP_eq]
  rw [visitCounts, visitCounts, hvisits]

/-- Counters that say for every block how often it was visited are the counters of the visits. -/
theorem eq_visitCounts {counters : List UInt64} {ids : List UInt32}
    (h : ∀ (i : Nat) (_ : i < counters.length), counters[i].toNat =
      min (ids.countP fun id => id.toNat == i) 18446744073709551615) :
    counters = visitCounts counters.length ids := by
  have hlength : counters.length = (visitCounts counters.length ids).length := by
    rw [visitCounts, List.length_map, List.length_range]
  refine List.ext_getElem hlength ?_
  intro i hi hi'
  apply UInt64.toNat_inj.mp
  rw [h i hi]
  simp only [visitCounts, List.getElem_map, List.getElem_range, toNat_visits_eq_min]

section Placed

variable {m : Model} {f : FunctionId} {blocks : List Block}

/-- A visit of a position is a visit of the block that is there. -/
theorem checkVisits_of_placed
    (hplaced : ∀ (i : Nat) (_ : i < blocks.length), blocks[i].id.toNat = i)
    {ids : List UInt32} (hids : ∀ id ∈ ids, id.toNat < blocks.length) :
    checkVisits f blocks ids = .ok () := by
  rw [checkVisits_eq_ok_iff]
  intro id hid
  have hlt := hids id hid
  refine ⟨blocks[id.toNat], List.getElem?_eq_getElem hlt, ?_⟩
  exact UInt32.toNat_inj.mp (hplaced id.toNat hlt)

theorem mergeTraceInto_of_placed (hf : m.get? f = some blocks)
    (hplaced : ∀ (i : Nat) (_ : i < blocks.length), blocks[i].id.toNat = i) {ids : List UInt32}
    (hids : ∀ id ∈ ids, id.toNat < blocks.length) (origin : String) :
    m.mergeTraceInto f ids origin =
      (.ok ⟨countGains blocks (visitCounts blocks.length ids), if ids.isEmpty then 0 else 1⟩,
        (m.applyCounters f (visitCounts blocks.length ids) origin).1) := by
  have hcheck : checkVisits f blocks ids = .ok () := checkVisits_of_placed hplaced hids
  rw [mergeTraceInto_eq, Model.blocks, hf]
  simp only [hcheck, applyCounters, hf]

theorem merge_profile_of_placed (hf : m.get? f = some blocks)
    (hplaced : ∀ (i : Nat) (_ : i < blocks.length), blocks[i].id.toNat = i)
    {counters : List UInt64} (hlength : counters.length = blocks.length) (origin : String) :
    m.merge (.profile (.ofList [(f, counters)])) origin =
      (.ok ⟨countGains blocks counters, 1⟩, (m.applyCounters f counters origin).1) := by
  have hfits : m.misfit? f counters = none := by
    refine misfit?_eq_none_iff.mpr ⟨blocks, hf, hlength.symm, ?_⟩
    intro i b hb
    obtain ⟨hlt, rfl⟩ := List.getElem?_eq_some_iff.mp hb
    exact hplaced i hlt
  have hentries : (OrderedMap.ofList [(f, counters)]).entries = [(f, counters)] := rfl
  rw [merge_profile_eq, mergeProfile_eq, hentries, List.findSome?_cons, hfits]
  simp only [List.findSome?_nil, applyProfile, applyCounters, hf, Gain.add, Gain.none]
  rfl

/-- Visits of a function whose blocks carry the numbers of their positions are merged like the
profile that says how often each block was visited: both merges succeed with the same model and as
many new blocks, and both touch the function unless there are no visits. Nor does the order of the
visits matter. -/
theorem mergeTraceInto_eq_merge_profile {ids : List UInt32} {counters : List UInt64}
    (hf : m.get? f = some blocks)
    (hplaced : ∀ (i : Nat) (_ : i < blocks.length), blocks[i].id.toNat = i)
    (hids : ∀ id ∈ ids, id.toNat < blocks.length) (hlength : counters.length = blocks.length)
    (hcounters : ∀ (i : Nat) (_ : i < counters.length), counters[i].toNat =
      min (ids.countP fun id => id.toNat == i) 18446744073709551615) (origin : String) :
    ∃ n traced counted,
      m.mergeTraceInto f ids origin = (.ok traced, n) ∧
      m.merge (.profile (.ofList [(f, counters)])) origin = (.ok counted, n) ∧
      traced.blocks = counted.blocks ∧ (ids ≠ [] → traced.functions = counted.functions) ∧
      ∀ others, ids.Perm others → m.mergeTraceInto f others origin = (.ok traced, n) := by
  have hcounts : counters = visitCounts blocks.length ids := by
    rw [← hlength]
    exact eq_visitCounts hcounters
  have htrace := mergeTraceInto_of_placed hf hplaced hids origin
  have hprofile := merge_profile_of_placed hf hplaced hlength origin
  rw [← hcounts] at htrace
  refine ⟨_, _, _, htrace, hprofile, rfl, ?_, ?_⟩
  · intro hne
    exact if_neg (mt List.isEmpty_iff.mp hne)
  · intro others hperm
    have hothers : ∀ id ∈ others, id.toNat < blocks.length :=
      fun id hid => hids id (hperm.mem_iff.mpr hid)
    rw [mergeTraceInto_of_placed hf hplaced hothers, ← visitCounts_perm hperm, ← hcounts,
      hperm.isEmpty_eq]

end Placed

/-- Two of three blocks are visited, the last of them first and twice, and one of the two was hit
before. -/
theorem mergeTraceInto_eq_merge_profile_twice :
    let f : FunctionId := ⟨"a.c", "f"⟩
    let m : Model := .ofList [(f, [⟨0, [⟨"a.c", 5⟩], true, 3, ["x"]⟩, .fresh 1 [], .fresh 2 []])]
    let n : Model := .ofList
      [(f, [⟨0, [⟨"a.c", 5⟩], true, 3, ["x"]⟩, .fresh 1 [], ⟨2, [], true, 2, ["y"]⟩])]
    m.mergeTraceInto f [2, 0, 2] "y" = (.ok ⟨1, 1⟩, n) ∧
      m.merge (.profile (.ofList [(f, [1, 0, 2])])) "y" = (.ok ⟨1, 1⟩, n) ∧
      m.mergeTraceInto f [0, 2, 2] "y" = (.ok ⟨1, 1⟩, n) := by
  intro f m n
  have hf : m.get? f =
      some [⟨0, [⟨"a.c", 5⟩], true, 3, ["x"]⟩, .fresh 1 [], .fresh 2 []] := by decide +kernel
  have hids : ∀ id ∈ ([2, 0, 2] : List UInt32), id.toNat < 3 := by simp
  have hcounters : ∀ (i : Nat) (_ : i < ([1, 0, 2] : List UInt64).length),
      ([1, 0, 2] : List UInt64)[i].toNat =
        min (([2, 0, 2] : List UInt32).countP fun id => id.toNat == i) 18446744073709551615 := by
    decide
  obtain ⟨k, traced, counted, htrace, hprofile, hblocks, hfunctions, hperm⟩ :=
    mergeTraceInto_eq_merge_profile hf (by decide) hids rfl hcounters "y"
  have hn : (m.mergeTraceInto f [2, 0, 2] "y").1.toOption = some ⟨1, 1⟩ ∧
      (m.mergeTraceInto f [2, 0, 2] "y").2 = n := by decide +kernel
  rw [htrace] at hn
  obtain ⟨rfl, rfl⟩ := And.imp_left Option.some.inj hn
  have hcounted : counted = ⟨1, 1⟩ := by
    obtain ⟨gained, touched⟩ := counted
    obtain rfl : 1 = gained := hblocks
    obtain rfl : 1 = touched := hfunctions (by decide)
    rfl
  rw [hcounted] at hprofile
  exact ⟨htrace, hprofile, hperm [0, 2, 2] (by decide)⟩

end BlockCoverage.Model
