import BlockCoverage.Proofs.Snapshot.RoundTrip

/-!
# Documents survive a load

Loading a snapshot takes the functions out of their files, and writing the model puts them back
under the files that they name. A file without functions has nothing that could name it, so it is
lost on the way, and it is all that is lost: a snapshot in which every file has a function is known
by its functions (`ext_find`), and both ways keep every function as it was.
-/

namespace BlockCoverage

/-- A block in a snapshot has no more than what a snapshot keeps of a block. -/
theorem SnapshotBlock.ofBlock_toBlock (b : SnapshotBlock) : ofBlock b.toBlock = b := rfl

namespace Snapshot

/-- Every file that is listed has a function. -/
def Populated (doc : Snapshot) : Prop :=
  ∀ file functions, doc.get? file = some functions → functions.isEmpty = false

theorem exists_get?_of_isEmpty_eq_false {functions : OrderedMap String (List SnapshotBlock)}
    (h : functions.isEmpty = false) : ∃ name blocks, functions.get? name = some blocks := by
  obtain ⟨e, he⟩ := List.exists_mem_of_ne_nil _ (List.isEmpty_eq_false_iff.mp h)
  exact ⟨e.1, e.2, OrderedMap.get?_eq_some_iff.mpr he⟩

theorem get?_of_isEmpty {functions : OrderedMap String (List SnapshotBlock)}
    (h : functions.isEmpty = true) (name : String) : functions.get? name = none := by
  rw [OrderedMap.get?, List.isEmpty_iff.mp h]
  rfl

/-- Where two snapshots have the same functions, a file with functions is the same in both. -/
theorem get?_eq_some_of_find {doc other : Snapshot} (h : ∀ f, doc.find f = other.find f)
    {file : String} {functions : OrderedMap String (List SnapshotBlock)}
    (hfile : doc.get? file = some functions) (hne : functions.isEmpty = false) :
    other.get? file = some functions := by
  have hfind : ∀ name, functions.get? name = other.find ⟨file, name⟩ := fun name => by
    rw [← h, find, hfile, Option.bind_some]
  obtain ⟨name, blocks, hname⟩ := exists_get?_of_isEmpty_eq_false hne
  rw [hfind] at hname
  obtain ⟨functions', hfile', -⟩ := Option.bind_eq_some_iff.mp hname
  have hsame : functions' = functions := OrderedMap.ext_get? fun name => by
    rw [hfind, find, hfile', Option.bind_some]
  rw [hfile', hsame]

/-- Snapshots whose files all have functions are equal if they have the same functions. -/
theorem ext_find {doc other : Snapshot} (hdoc : doc.Populated) (hother : other.Populated)
    (h : ∀ f, doc.find f = other.find f) : doc = other := by
  refine OrderedMap.ext_get? fun file => Option.ext fun functions => ?_
  constructor
  · intro hfile
    exact get?_eq_some_of_find h hfile (hdoc file functions hfile)
  · intro hfile
    exact get?_eq_some_of_find (fun f => (h f).symm) hfile (hother file functions hfile)

/-! ## What is written -/

theorem Populated.add {doc : Snapshot} (h : doc.Populated) (f : FunctionId)
    (blocks : List SnapshotBlock) : (doc.add f blocks).Populated := by
  intro file functions hfile
  rw [Snapshot.add, OrderedMap.get?_insert] at hfile
  split at hfile
  · -- the file of the function has that function at least
    obtain rfl := Option.some.inj hfile
    by_contra hempty
    have hnone := get?_of_isEmpty (Bool.eq_true_of_not_eq_false hempty) f.name
    rw [OrderedMap.get?_insert, if_pos rfl] at hnone
    cases hnone
  · exact h file functions hfile

theorem populated_dump (m : Model) (deny : Denylist) : (dump m deny).Populated := by
  have hfold : ∀ (l : List (FunctionId × List Block)) {doc : Snapshot}, doc.Populated →
      (l.foldl (fun doc e => doc.add e.1 (e.2.map SnapshotBlock.ofBlock)) doc).Populated := by
    intro l
    induction l with
    | nil => exact fun h => h
    | cons e l ih => exact fun h => ih (h.add e.1 _)
  refine hfold _ fun file functions hfile => ?_
  cases hfile

/-! ## What is left of a snapshot -/

/-- The snapshot without denied files and without files that have no functions. -/
def kept (doc : Snapshot) (deny : Denylist) : Snapshot :=
  doc.filter fun file functions => !deny.denies file && !functions.isEmpty

theorem get?_kept (doc : Snapshot) (deny : Denylist) (file : String) :
    (doc.kept deny).get? file =
      (doc.get? file).filter fun functions => !deny.denies file && !functions.isEmpty :=
  OrderedMap.get?_filter _ doc file

theorem populated_kept (doc : Snapshot) (deny : Denylist) : (doc.kept deny).Populated := by
  intro file functions hfile
  rw [get?_kept, Option.filter_eq_some_iff, Bool.and_eq_true, Bool.not_eq_true',
    Bool.not_eq_true'] at hfile
  exact hfile.2.2

theorem find_kept (doc : Snapshot) (deny : Denylist) (f : FunctionId) :
    (doc.kept deny).find f = if deny.denies f.file then none else doc.find f := by
  rw [find, get?_kept, find]
  cases deny.denies f.file with
  | true => cases doc.get? f.file <;> rfl
  | false =>
    cases doc.get? f.file with
    | none => rfl
    | some functions =>
      -- a file that is dropped for having no functions did not have this one
      rw [Option.filter_some]
      cases hempty : functions.isEmpty with
      | true => exact (get?_of_isEmpty hempty f.name).symm
      | false => rfl

theorem find_dump_load (doc : Snapshot) (deny : Denylist) (f : FunctionId) :
    (dump (load doc) deny).find f = if deny.denies f.file then none else doc.find f := by
  have hblocks : ∀ blocks : List SnapshotBlock,
      (blocks.map SnapshotBlock.toBlock).map SnapshotBlock.ofBlock = blocks := by
    simp [Function.comp_def, SnapshotBlock.ofBlock_toBlock]
  rw [find_dump, get?_load]
  cases doc.find f <;> simp only [Option.map_some, Option.map_none, hblocks]

/-- What is written of a loaded snapshot is the snapshot itself, without denied files and without
the files that have no functions. A snapshot that was written from a model has neither, so it is
written again as it is. -/
theorem dump_load (deny : Denylist) :
    (∀ doc : Snapshot, dump (load doc) deny = doc.kept deny) ∧
    ∀ m : Model, dump (load (dump m deny)) deny = dump m deny := by
  refine ⟨fun doc => ?_, fun m => ?_⟩
  · refine ext_find (populated_dump _ deny) (populated_kept doc deny) fun f => ?_
    rw [find_dump_load, find_kept]
  · refine ext_find (populated_dump _ deny) (populated_dump m deny) fun f => ?_
    rw [find_dump_load, find_dump]
    split <;> rfl

/-- A file without functions and a denied file are left out; the number of a block, a line that is
listed twice and the greatest count are kept. -/
example :
    let block : SnapshotBlock := ⟨7, [⟨"a.c", 2⟩, ⟨"a.c", 2⟩], 18446744073709551615⟩
    let doc : Snapshot := .ofList [("a.c", .ofList [("f", [block]), ("g", [])]), ("b.c", .empty),
      ("lib/runtimelib.c", .ofList [("h", [])])]
    dump (load doc) .standard = .ofList [("a.c", .ofList [("f", [block]), ("g", [])])] := by
  decide +kernel

end Snapshot

end BlockCoverage
