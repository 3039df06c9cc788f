import BlockCoverage.Proofs.Ordered.Lookup

/-!
# What an ordered set holds

`OrderedSet.mem` is the meaning of a set: sets with the same elements are equal
(`OrderedSet.ext_mem`), and each operation is described by what it does to `mem`.
-/

namespace BlockCoverage.OrderedSet

variable {κ : Type} [Ord κ]

section LawfulEq

variable [Std.LawfulEqOrd κ]

theorem mem_toList_iff {s : OrderedSet κ} {k : κ} : k ∈ s.toList ↔ s.mem k = true :=
  OrderedMap.mem_keys_iff

/-- Keeping the elements of one kind. -/
theorem mem_filter (p : κ → Bool) (s : OrderedSet κ) (k : κ) :
    mem (OrderedMap.filter (fun k _ => p k) s) k = (s.mem k && p k) := by
  rw [mem, mem, OrderedMap.contains, OrderedMap.contains, OrderedMap.get?_filter]
  cases OrderedMap.get? s k with
  | none => rfl
  | some u => cases p k <;> rfl

@[simp]
theorem mem_inter (s t : OrderedSet κ) (k : κ) : (s.inter t).mem k = (s.mem k && t.mem k) :=
  mem_filter t.mem s k

@[simp]
theorem mem_diff (s t : OrderedSet κ) (k : κ) : (s.diff t).mem k = (s.mem k && !t.mem k) :=
  mem_filter (fun k => !t.mem k) s k

end LawfulEq

section TransOrd

variable [Std.TransOrd κ] [Std.LawfulEqOrd κ]

/-- Sets with the same elements are equal. -/
theorem ext_mem {s t : OrderedSet κ} (h : ∀ k, s.mem k = t.mem k) : s = t := by
  apply OrderedMap.ext_get?
  intro k
  have hk : (OrderedMap.get? s k).isSome = (OrderedMap.get? t k).isSome := h k
  -- there is only one thing that an element can be bound to
  cases hs : OrderedMap.get? s k <;> cases ht : OrderedMap.get? t k <;> simp [hs, ht] at hk ⊢

variable [DecidableEq κ]

theorem mem_insert {s : OrderedSet κ} {k j : κ} :
    mem (OrderedMap.insert s k ()) j = true ↔ j = k ∨ s.mem j = true := by
  rw [mem, OrderedMap.contains, OrderedMap.get?_insert]
  by_cases hj : j = k
  · simp [hj]
  · simp [hj, mem, OrderedMap.contains]

theorem mem_ofList {l : List κ} {k : κ} : (ofList l).mem k = true ↔ k ∈ l := by
  rw [← mem_toList_iff, toList, ofList, OrderedMap.mem_keys_ofList, List.map_map]
  simp [Function.comp_def]

theorem mem_toList_ofList {l : List κ} {k : κ} : k ∈ (ofList l).toList ↔ k ∈ l :=
  mem_toList_iff.trans mem_ofList

end TransOrd

end BlockCoverage.OrderedSet
