import BlockCoverage.Proofs.Model.HitState
import BlockCoverage.Proofs.Snapshot.Document

/-!
# A model and its snapshot

A snapshot groups the functions of a model by file, and loading it puts file and name together
again. `Snapshot.find` reads a snapshot by function, so both directions are described function by
function (`find_dump`, `get?_load`) and the grouping disappears. What comes back is the model
without denied files and without origins, and its snapshot is the same document.
-/

namespace BlockCoverage

namespace Snapshot

/-- The blocks of a function in a snapshot. -/
def find (doc : Snapshot) (f : FunctionId) : Option (List SnapshotBlock) :=
  (doc.get? f.file).bind (·.get? f.name)

theorem find_add (doc : Snapshot) (f g : FunctionId) (blocks : List SnapshotBlock) :
    (doc.add g blocks).find f = if f = g then some blocks else doc.find f := by
  obtain ⟨file, name⟩ := f
  rw [find, add, OrderedMap.get?_insert]
  by_cases hfile : file = g.file
  · rw [if_pos hfile, Option.bind_some, OrderedMap.get?_insert, find]
    by_cases hname : name = g.name
    · rw [if_pos hname, if_pos (by rw [hfile, hname])]
    · rw [if_neg hname, if_neg (fun h => hname (congrArg FunctionId.name h)), hfile]
      cases doc.get? g.file <;> rfl
  · rw [if_neg hfile, if_neg (fun h => hfile (congrArg FunctionId.file h))]
    rfl

theorem find_foldl_add (f : FunctionId) (l : List (FunctionId × List Block)) (doc : Snapshot) :
    (l.foldl (fun doc e => doc.add e.1 (e.2.map SnapshotBlock.ofBlock)) doc).find f =
      ((OrderedMap.lookup f l.reverse).map fun blocks => blocks.map SnapshotBlock.ofBlock).or
        (doc.find f) := by
  induction l generalizing doc with
  | nil => rfl
  | cons e l ih =>
    rw [List.foldl_cons, ih, find_add, List.reverse_cons, OrderedMap.lookup_append]
    cases OrderedMap.lookup f l.reverse with
    | some blocks => rfl
    | none => by_cases hf : f = e.1 <;> simp [hf, OrderedMap.lookup]

/-- A snapshot has the functions of the model that are not denied. -/
theorem find_dump (m : Model) (deny : Denylist) (f : FunctionId) :
    (dump m deny).find f =
      if deny.denies f.file then none
      else (m.get? f).map fun blocks => blocks.map SnapshotBlock.ofBlock := by
  -- no function comes twice, so that the last one added counts is no matter
  have hkept := (m.functions.filter fun f _ => !deny.denies f.file).nodup_keys
  have hlookup := OrderedMap.get?_filter (fun f _ => !deny.denies f.file) m.functions f
  rw [OrderedMap.get?, OrderedMap.lookup_perm (List.reverse_perm _).symm hkept] at hlookup
  have hempty : find .empty f = none := rfl
  rw [dump, find_foldl_add, hempty, Option.or_none]
  refine (congrArg (Option.map _) hlookup).trans ?_
  rw [Model.get?]
  cases deny.denies f.file <;> cases m.functions.get? f <;> simp

/-- Loading a snapshot gives every function the blocks that the snapshot has for it. -/
theorem get?_load (doc : Snapshot) (f : FunctionId) :
    (load doc).get? f = (doc.find f).map fun blocks => blocks.map SnapshotBlock.toBlock := by
  refine OrderedMap.get?_ofList_eq
    (g := fun f => (doc.find f).map fun blocks => blocks.map SnapshotBlock.toBlock)
    (fun f blocks => ?_) f
  simp only [List.mem_flatMap, List.mem_map, Option.map_eq_some_iff, find,
    Option.bind_eq_some_iff, OrderedMap.get?_eq_some_iff, Prod.mk.injEq]
  -- a file and a name in it are the same as a function of that file and name
  constructor
  · rintro ⟨file, hfile, e, he, rfl, rfl⟩
    exact ⟨e.2, ⟨file.2, hfile, he⟩, rfl⟩
  · rintro ⟨blocks, ⟨functions, hfile, he⟩, rfl⟩
    exact ⟨(f.file, functions), hfile, (f.name, blocks), he, rfl, rfl⟩

/-- What holds of every block that a snapshot stands for holds of what is loaded from it. -/
theorem every_load {P : Block → Prop} (hblock : ∀ b : SnapshotBlock, P b.toBlock) (doc : Snapshot) :
    (load doc).Every P := by
  intro f i b hb
  obtain ⟨blocks, hblocks, hi⟩ := Option.bind_eq_some_iff.mp hb
  rw [get?_load] at hblocks
  obtain ⟨kept, -, rfl⟩ := Option.map_eq_some_iff.mp hblocks
  obtain ⟨b, -, rfl⟩ := List.mem_map.mp (List.mem_of_getElem? hi)
  exact hblock b

end Snapshot

namespace Model

/-- What a snapshot keeps of a model: all but denied files and origins. -/
def kept (m : Model) (deny : Denylist) : Model :=
  .ofMap ((m.functions.filter fun f _ => !deny.denies f.file).mapValues fun _ blocks =>
    blocks.map fun b => { b with origins := [] })

theorem get?_kept (m : Model) (deny : Denylist) (f : FunctionId) :
    (m.kept deny).get? f =
      if deny.denies f.file then none
      else (m.get? f).map fun blocks => blocks.map fun b => { b with origins := [] } := by
  rw [get?, kept, functions_ofMap, OrderedMap.get?_mapValues, OrderedMap.get?_filter, get?]
  cases deny.denies f.file <;> cases m.functions.get? f <;> simp

/-- Only the agreement of hits and counts lets a count stand for a block. -/
theorem toBlock_ofBlock {b : Block} (h : b.HitCounted) :
    (SnapshotBlock.ofBlock b).toBlock = { b with origins := [] } := by
  rw [SnapshotBlock.toBlock, SnapshotBlock.ofBlock, ← h]

theorem load_dump {m : Model} (hm : m.HitsCounted) (deny : Denylist) :
    Snapshot.load (Snapshot.dump m deny) = m.kept deny := by
  refine ext_get? fun f => ?_
  rw [Snapshot.get?_load, Snapshot.find_dump, get?_kept]
  split
  · rfl
  rw [Option.map_map]
  refine Option.map_congr fun blocks hblocks => ?_
  rw [Function.comp_apply, List.map_map]
  refine List.map_congr_left fun b hb => toBlock_ofBlock ?_
  exact hm (f, blocks) (OrderedMap.get?_eq_some_iff.mp hblocks) b hb

theorem dump_kept (m : Model) (deny : Denylist) :
    Snapshot.dump (m.kept deny) deny = Snapshot.dump m deny := by
  -- denied files are gone already, and origins are not written
  have hentries : (m.kept deny).functions.entries.filter (fun e => !deny.denies e.1.file) =
      (m.functions.entries.filter fun e => !deny.denies e.1.file).map fun e =>
        (e.1, e.2.map fun b => { b with origins := [] }) := by
    rw [kept, functions_ofMap, OrderedMap.mapValues, OrderedMap.filter, List.filter_map,
      List.filter_filter]
    simp
  have hblocks : ∀ blocks : List Block,
      (blocks.map fun b => { b with origins := [] }).map SnapshotBlock.ofBlock =
        blocks.map SnapshotBlock.ofBlock := fun blocks => by
    rw [List.map_map]
    rfl
  rw [Snapshot.dump, hentries, List.foldl_map, Snapshot.dump]
  simp only [hblocks]

/-- Reading back the document of a model gives the model without denied files and without origins,
and that is written as the same document. -/
theorem ofText_toText {m : Model} (hm : m.HitsCounted) (deny : Denylist) :
    ofText (m.toText deny) = .ok (m.kept deny) ∧
    (∀ f, (m.kept deny).get? f =
      if deny.denies f.file then none
      else (m.get? f).map fun blocks => blocks.map fun b => { b with origins := [] }) ∧
    (m.kept deny).toText deny = m.toText deny := by
  refine ⟨?_, get?_kept m deny, ?_⟩
  · rw [ofText, toText, Snapshot.parse_render, Except.map, load_dump hm]
  · rw [toText, dump_kept, toText]

/-- Names that need every kind of escape, the largest numbers, and a file that is left out. -/
theorem ofText_toText_escapes :
    let m := ofList [
      (⟨"a\"\\\n\x01.c", "λ😀"⟩,
        [⟨4294967295, [⟨"", 7⟩, ⟨"", 7⟩], true, 18446744073709551615, ["t1"]⟩, Block.fresh 0 []]),
      (⟨"tracepc_runtime.c", "trace"⟩, [])]
    m.HitsCounted ∧ ofText (m.toText .standard) = .ok (m.kept .standard) ∧
      (m.kept .standard).toText .standard = m.toText .standard := by
  intro m
  have hm : m.HitsCounted := by decide
  obtain ⟨hread, -, hagain⟩ := ofText_toText hm .standard
  exact ⟨hm, hread, hagain⟩

end Model

end BlockCoverage
