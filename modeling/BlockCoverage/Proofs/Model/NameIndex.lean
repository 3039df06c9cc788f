import BlockCoverage.Model.Lookup
import BlockCoverage.Proofs.Ordered.Members

/-!
# The name index and the functions

A lookup by name goes through the index and never sees the functions themselves. What the index
lists is said by membership: adding a function lists its file under its name and nothing else
(`mem_filesOf_add`), so an index lists the functions that it was made from
(`mem_filesOf_ofFunctions`). Both the functions of a model and what its index lists come in order,
and a list in order is determined by its members; so a lookup gives what a scan of all functions
would (`Model.named_eq`).
-/

namespace BlockCoverage

namespace NameIndex

theorem mem_filesOf_add {x : NameIndex} {f : FunctionId} {name file : String} :
    ((x.add f).filesOf name).mem file = true ↔
      (⟨file, name⟩ : FunctionId) = f ∨ (x.filesOf name).mem file = true := by
  rw [add, filesOf, OrderedMap.get?_insert]
  by_cases hname : name = f.name
  · rw [if_pos hname, Option.getD_some, OrderedSet.mem_insert, FunctionId.mk.injEq, hname]
    simp only [and_true]
  · rw [if_neg hname, FunctionId.mk.injEq]
    simp only [hname, and_false, false_or]
    rfl

/-- An index lists the functions that it was made from. -/
theorem mem_filesOf_ofFunctions {functions : List FunctionId} {name file : String} :
    ((ofFunctions functions).filesOf name).mem file = true ↔ ⟨file, name⟩ ∈ functions := by
  -- functions that are already listed stay so
  suffices h : ∀ x : NameIndex, ((functions.foldl add x).filesOf name).mem file = true ↔
      ⟨file, name⟩ ∈ functions ∨ (x.filesOf name).mem file = true by
    rw [ofFunctions, h]
    exact or_iff_left (fun hmem => by cases hmem)
  induction functions with
  | nil => simp
  | cons f rest ih =>
    intro x
    rw [List.foldl_cons, ih, mem_filesOf_add, List.mem_cons, ← or_assoc, or_comm (a := _ ∈ rest)]

theorem mem_functionsOf {x : NameIndex} {name : String} {f : FunctionId} :
    f ∈ x.functionsOf name ↔ f.name = name ∧ (x.filesOf name).mem f.file = true := by
  rw [functionsOf, List.mem_map]
  constructor
  · rintro ⟨file, hfile, rfl⟩
    exact ⟨rfl, OrderedSet.mem_toList_iff.mp hfile⟩
  · rintro ⟨rfl, hmem⟩
    exact ⟨f.file, OrderedSet.mem_toList_iff.mpr hmem, rfl⟩

/-- Functions of one name are ordered by their files. -/
theorem ordered_functionsOf (x : NameIndex) (name : String) :
    (x.functionsOf name).Pairwise fun f g => compare f g = .lt := by
  refine List.pairwise_map.mpr ((OrderedMap.ordered_keys (x.filesOf name)).imp ?_)
  intro a b hab
  show (compare a b).then (compare name name) = .lt
  rw [hab]
  rfl

end NameIndex

namespace Model

/-- A lookup by name gives what a scan of all functions would. -/
theorem named_eq (m : Model) (name : String) :
    m.named name = m.functions.keys.filter fun f => f.name == name := by
  refine OrderedMap.eq_of_ordered_of_mem_iff (m.index.ordered_functionsOf name)
    (m.functions.ordered_keys.filter _) fun f => ?_
  rw [named, NameIndex.mem_functionsOf, m.indexed, List.mem_filter, beq_iff_eq, and_comm]
  refine and_congr_left fun hname => ?_
  rw [← hname, NameIndex.mem_filesOf_ofFunctions]

end Model

end BlockCoverage
