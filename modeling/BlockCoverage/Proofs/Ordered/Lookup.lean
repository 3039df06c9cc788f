import BlockCoverage.Ordered.Set

/-!
# What an ordered map binds

`OrderedMap.get?` is the meaning of a map: two maps that bind every key alike are equal
(`OrderedMap.ext_get?`), and each operation is described by what it does to `get?`. The order of the
entries enters once, in `get?_eq_some_iff`; after that a map is treated as a function from keys.
-/

namespace BlockCoverage.OrderedMap

variable {κ α β : Type} [Ord κ]

theorem lookup_append (k : κ) (l r : List (κ × α)) :
    lookup k (l ++ r) = (lookup k l).or (lookup k r) := by
  induction l with
  | nil => rfl
  | cons e l ih =>
    rw [List.cons_append, lookup, lookup, ih]
    split <;> rfl

@[simp]
theorem get?_empty (k : κ) : (empty : OrderedMap κ α).get? k = none := rfl

theorem ordered_keys (m : OrderedMap κ α) : m.keys.Pairwise (fun a b => compare a b = .lt) :=
  List.pairwise_map.mpr m.ordered

/-- What is listed in order is listed once. -/
theorem nodup_of_ordered [Std.ReflOrd κ] {l : List κ}
    (h : l.Pairwise fun a b => compare a b = .lt) : l.Nodup :=
  h.imp fun hlt heq => by simp [heq, Std.ReflCmp.compare_self] at hlt

/-- Lists in order with the same members are equal. -/
theorem eq_of_ordered_of_mem_iff [Std.OrientedOrd κ] {l r : List κ}
    (hl : l.Pairwise fun a b => compare a b = .lt) (hr : r.Pairwise fun a b => compare a b = .lt)
    (h : ∀ k, k ∈ l ↔ k ∈ r) : l = r := by
  have hperm : l.Perm r :=
    (List.perm_ext_iff_of_nodup (nodup_of_ordered hl) (nodup_of_ordered hr)).mpr h
  refine hperm.eq_of_pairwise (fun a b _ _ hab hba => ?_) hl hr
  exact absurd hba (Std.OrientedCmp.not_lt_of_lt hab)

section LawfulEq

variable [Std.LawfulEqOrd κ]

theorem lookup_eq_none {k : κ} {l : List (κ × α)} (h : k ∉ l.map Prod.fst) : lookup k l = none := by
  induction l with
  | nil => rfl
  | cons e l ih =>
    rw [List.map_cons, List.mem_cons, not_or] at h
    rw [lookup, if_neg (fun he => h.1 (Std.LawfulEqCmp.eq_of_compare he))]
    exact ih h.2

theorem lookup_eq_some_iff {k : κ} {a : α} {l : List (κ × α)} (hl : (l.map Prod.fst).Nodup) :
    lookup k l = some a ↔ (k, a) ∈ l := by
  induction l with
  | nil => simp [lookup]
  | cons e l ih =>
    obtain ⟨hhead, htail⟩ := List.nodup_cons.mp hl
    rw [lookup, List.mem_cons]
    split
    · rename_i hk
      obtain rfl : k = e.1 := Std.LawfulEqCmp.eq_of_compare hk
      -- the head binds the key, and no later entry does
      have hnot : (e.1, a) ∉ l := fun hm => hhead (List.mem_map.mpr ⟨_, hm, rfl⟩)
      simp [hnot, Prod.ext_iff, eq_comm]
    · rename_i hk
      have hne : (k, a) ≠ e := fun h => hk (by simp [← h])
      simp [hne, ih htail]

/-- Where no key is repeated, the order of the bindings does not matter. -/
theorem lookup_perm {k : κ} {l r : List (κ × α)} (hlr : l.Perm r) (hl : (l.map Prod.fst).Nodup) :
    lookup k l = lookup k r := by
  ext a
  rw [lookup_eq_some_iff hl, lookup_eq_some_iff ((hlr.map Prod.fst).nodup_iff.mp hl), hlr.mem_iff]

theorem isSome_lookup_iff {k : κ} {l : List (κ × α)} :
    (lookup k l).isSome ↔ k ∈ l.map Prod.fst := by
  induction l with
  | nil => simp [lookup]
  | cons e l ih =>
    rw [lookup, List.map_cons, List.mem_cons, ← ih]
    split
    · rename_i hk
      simp [Std.LawfulEqCmp.eq_of_compare hk]
    · rename_i hk
      have hne : k ≠ e.1 := fun h => hk (by simp [h])
      simp [hne]

/-- A list binds a key by its first entry for the key. -/
theorem lookup_eq_some_iff_append {k : κ} {a : α} {l : List (κ × α)} :
    lookup k l = some a ↔
      ∃ before after, l = before ++ (k, a) :: after ∧ ∀ e ∈ before, e.1 ≠ k := by
  constructor
  · intro h
    induction l with
    | nil => simp [lookup] at h
    | cons e l ih =>
      rw [lookup] at h
      split at h
      · rename_i hk
        obtain rfl := Option.some.inj h
        obtain rfl : k = e.1 := Std.LawfulEqCmp.eq_of_compare hk
        exact ⟨[], l, rfl, by simp⟩
      · rename_i hk
        obtain ⟨before, after, rfl, hbefore⟩ := ih h
        refine ⟨e :: before, after, rfl, fun d hd => ?_⟩
        rcases List.mem_cons.mp hd with rfl | hd
        · exact fun he => hk (by simp [he])
        · exact hbefore d hd
  · rintro ⟨before, after, rfl, hbefore⟩
    have hnone : lookup k before = none := lookup_eq_none fun hk => by
      obtain ⟨e, he, rfl⟩ := List.mem_map.mp hk
      exact hbefore e he rfl
    rw [lookup_append, hnone, Option.none_or, lookup, if_pos Std.ReflCmp.compare_self]

theorem nodup_keys (m : OrderedMap κ α) : m.keys.Nodup := nodup_of_ordered m.ordered_keys

theorem nodup_entries (m : OrderedMap κ α) : m.entries.Nodup :=
  (List.pairwise_map.mp m.nodup_keys).imp fun hab h => hab (congrArg Prod.fst h)

/-- A map binds a key to a value just when the pair is among its entries. -/
theorem get?_eq_some_iff {m : OrderedMap κ α} {k : κ} {a : α} :
    m.get? k = some a ↔ (k, a) ∈ m.entries :=
  lookup_eq_some_iff m.nodup_keys

theorem mem_keys_iff {m : OrderedMap κ α} {k : κ} : k ∈ m.keys ↔ (m.get? k).isSome :=
  isSome_lookup_iff.symm

theorem lookup_map (k : κ) (f : κ → α → β) (l : List (κ × α)) :
    lookup k (l.map fun e => (e.1, f e.1 e.2)) = (lookup k l).map (f k) := by
  induction l with
  | nil => rfl
  | cons e l ih =>
    simp only [List.map_cons, lookup]
    split
    · rename_i he
      rw [← Std.LawfulEqCmp.eq_of_compare he]
      rfl
    · exact ih

@[simp]
theorem get?_mapValues (f : κ → α → β) (m : OrderedMap κ α) (k : κ) :
    (m.mapValues f).get? k = (m.get? k).map (f k) :=
  lookup_map k f m.entries

@[simp]
theorem get?_filter (p : κ → α → Bool) (m : OrderedMap κ α) (k : κ) :
    (m.filter p).get? k = (m.get? k).filter (p k) := by
  ext a
  rw [get?_eq_some_iff, Option.filter_eq_some_iff, get?_eq_some_iff]
  simp [filter]

end LawfulEq

section DecidableEq

variable [Std.LawfulEqOrd κ] [DecidableEq κ]

theorem lookup_place (j k : κ) (a : α) (l : List (κ × α)) :
    lookup j (place k a l) = if j = k then some a else lookup j l := by
  induction l with
  | nil => simp [place, lookup]
  | cons e l ih =>
    rw [place]
    split
    · simp [lookup]
    · rename_i hk
      obtain rfl : k = e.1 := Std.LawfulEqCmp.eq_of_compare hk
      by_cases hj : j = e.1 <;> simp [lookup, hj]
    · rename_i hk
      have hne : k ≠ e.1 := fun h => by simp [h, Std.ReflCmp.compare_self] at hk
      simp only [lookup, ih, Std.LawfulEqCmp.compare_eq_iff_eq]
      by_cases hj : j = k
      · simp [hj, hne]
      · simp [hj]

theorem get?_modify (m : OrderedMap κ α) (k j : κ) (f : α → α) :
    (m.modify k f).get? j = if k = j then (m.get? j).map f else m.get? j := by
  rw [modify, get?_mapValues]
  by_cases hj : k = j <;> simp [hj]

end DecidableEq

section TransOrd

variable [Std.TransOrd κ] [Std.LawfulEqOrd κ]

/-- Maps that bind every key alike are equal. -/
theorem ext_get? {m n : OrderedMap κ α} (h : ∀ k, m.get? k = n.get? k) : m = n := by
  have hmem : ∀ e, e ∈ m.entries ↔ e ∈ n.entries := fun e => by
    rw [← Prod.eta e, ← get?_eq_some_iff, ← get?_eq_some_iff, h]
  have hperm : m.entries.Perm n.entries :=
    (List.perm_ext_iff_of_nodup m.nodup_entries n.nodup_entries).mpr hmem
  refine OrderedMap.ext (hperm.eq_of_pairwise (fun a b _ _ hab hba => ?_) m.ordered n.ordered)
  rw [Std.OrientedOrd.eq_swap, hba] at hab
  cases hab

/-- The first entry that has an answer is the one of the least key that has one. -/
theorem findSome?_entries_eq_some_iff {m : OrderedMap κ α} {g : κ → α → Option β} {b : β} :
    m.entries.findSome? (fun e => g e.1 e.2) = some b ↔
      ∃ k a, m.get? k = some a ∧ g k a = some b ∧
        ∀ j c, m.get? j = some c → compare j k = .lt → g j c = none := by
  rw [List.findSome?_eq_some_iff]
  constructor
  · rintro ⟨before, ⟨k, a⟩, after, hentries, hb, hbefore⟩
    have hmem : (k, a) ∈ m.entries := by
      rw [hentries]
      exact List.mem_append_right before List.mem_cons_self
    refine ⟨k, a, get?_eq_some_iff.mpr hmem, hb, ?_⟩
    intro j c hj hlt
    rw [get?_eq_some_iff, hentries, List.mem_append, List.mem_cons] at hj
    rcases hj with hj | hj | hj
    · exact hbefore (j, c) hj
    · -- the key itself is not below itself
      obtain rfl : j = k := congrArg Prod.fst hj
      have heq : compare j j = .eq := Std.ReflCmp.compare_self
      rw [heq] at hlt
      cases hlt
    · -- what comes after the key is above it
      have hordered := m.ordered
      rw [hentries] at hordered
      have hafter := (List.pairwise_cons.mp (List.pairwise_append.mp hordered).2.1).1 (j, c) hj
      rw [Std.OrientedOrd.eq_swap, hafter] at hlt
      cases hlt
  · rintro ⟨k, a, hk, hb, hleast⟩
    obtain ⟨before, after, hentries⟩ := List.append_of_mem (get?_eq_some_iff.mp hk)
    refine ⟨before, (k, a), after, hentries, hb, ?_⟩
    intro e he
    have hmem : e ∈ m.entries := by
      rw [hentries]
      exact List.mem_append_left _ he
    have hordered := m.ordered
    rw [hentries] at hordered
    have hlt := (List.pairwise_append.mp hordered).2.2 e he (k, a) List.mem_cons_self
    exact hleast e.1 e.2 (get?_eq_some_iff.mpr hmem) hlt

variable [DecidableEq κ]

@[simp]
theorem get?_insert (m : OrderedMap κ α) (k j : κ) (a : α) :
    (m.insert k a).get? j = if j = k then some a else m.get? j :=
  lookup_place j k a m.entries

/-- The last binding of a key in a list decides what the map of the list binds. -/
theorem get?_foldl_insert (k : κ) (l : List (κ × α)) (m : OrderedMap κ α) :
    (l.foldl (fun m e => m.insert e.1 e.2) m).get? k = (lookup k l.reverse).or (m.get? k) := by
  induction l generalizing m with
  | nil => simp [lookup]
  | cons e l ih =>
    rw [List.foldl_cons, ih, get?_insert, List.reverse_cons, lookup_append, Option.or_assoc]
    by_cases hk : k = e.1 <;> simp [hk, lookup]

theorem get?_ofList (k : κ) (l : List (κ × α)) : (ofList l).get? k = lookup k l.reverse := by
  rw [ofList, get?_foldl_insert, get?_empty, Option.or_none]

/-- Gathering a list keeps the last entry for a key. -/
theorem get?_ofList_eq_some_iff {k : κ} {a : α} {l : List (κ × α)} :
    (ofList l).get? k = some a ↔
      ∃ before after, l = before ++ (k, a) :: after ∧ ∀ e ∈ after, e.1 ≠ k := by
  rw [get?_ofList, lookup_eq_some_iff_append]
  constructor
  · rintro ⟨after, before, hl, hafter⟩
    refine ⟨before.reverse, after.reverse, ?_, fun e he => hafter e (List.mem_reverse.mp he)⟩
    simpa using congrArg List.reverse hl
  · rintro ⟨before, after, rfl, hafter⟩
    exact ⟨after.reverse, before.reverse, by simp, fun e he => hafter e (List.mem_reverse.mp he)⟩

theorem mem_keys_ofList {k : κ} {l : List (κ × α)} :
    k ∈ (ofList l).keys ↔ k ∈ l.map Prod.fst := by
  rw [mem_keys_iff, get?_ofList, isSome_lookup_iff, List.map_reverse, List.mem_reverse]

/-- A list that lists a function is gathered to that function. -/
theorem get?_ofList_eq {l : List (κ × α)} {g : κ → Option α}
    (h : ∀ k a, (k, a) ∈ l ↔ g k = some a) (k : κ) : (ofList l).get? k = g k := by
  have hmem : ∀ {a}, (ofList l).get? k = some a → g k = some a := fun {a} ha => by
    obtain ⟨before, after, hl, -⟩ := get?_ofList_eq_some_iff.mp ha
    exact (h k a).mp (hl ▸ List.mem_append_right before List.mem_cons_self)
  ext a
  refine ⟨hmem, fun ha => ?_⟩
  have hkey : k ∈ (ofList l).keys :=
    mem_keys_ofList.mpr (List.mem_map.mpr ⟨(k, a), (h k a).mpr ha, rfl⟩)
  obtain ⟨b, hb⟩ := Option.isSome_iff_exists.mp (mem_keys_iff.mp hkey)
  rw [hb, ← ha, ← hmem hb]

/-- Listing a map in any order and gathering the list again gives the map. -/
theorem ofList_perm {l : List (κ × α)} {m : OrderedMap κ α} (h : l.Perm m.entries) : ofList l = m :=
  ext_get? (get?_ofList_eq fun k a => by rw [h.mem_iff, get?_eq_some_iff])

theorem ofList_entries (m : OrderedMap κ α) : ofList m.entries = m := ofList_perm (List.Perm.refl _)

end TransOrd

end BlockCoverage.OrderedMap
