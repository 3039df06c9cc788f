import BlockCoverage.Proofs.StaticMap.Rendering
import BlockCoverage.Snapshot

/-!
# Documents of snapshots

The reader of a snapshot undoes its writer, layer by layer: source lines, blocks, the blocks of a
function, the functions of a file, the files. So every snapshot is read back from its document.
-/

namespace BlockCoverage

namespace SnapshotBlock

theorem inverts_line : SourceLine.reader.Inverts lineWriter := fun l depth =>
  SourceLine.reads_rendered ⟨_, Json.quotes_stringText l.file,
    Json.Writer.recordText_object ["File", "Line"]
      [("File", .text l.file), ("Line", .number l.line.toNat)] depth⟩

theorem independent : Json.Format.Independent format.fields where
  given := by
    simp only [format, List.forall_mem_cons]
    exact ⟨Json.Format.given_map fun _ _ => rfl, Json.Format.given_map fun _ _ => rfl,
      Json.Format.given_map fun _ _ => rfl, List.forall_mem_nil _⟩
  disjoint := by
    simp only [format, List.pairwise_cons, List.forall_mem_cons]
    have hrest := fun f : Json.Field Draft => List.forall_mem_nil (Json.Field.Disjoint f)
    exact ⟨⟨Json.Format.disjoint_map fun _ _ _ => ⟨rfl, rfl, rfl⟩,
        Json.Format.disjoint_map fun _ _ _ => ⟨rfl, rfl, rfl⟩, hrest _⟩,
      ⟨Json.Format.disjoint_map fun _ _ _ => ⟨rfl, rfl, rfl⟩, hrest _⟩, hrest _, .nil⟩

theorem inverts_block : reader.Inverts writer := by
  intro b depth
  have hlines := Json.Reader.inverts_list inverts_line b.lines (depth + 1)
  refine Json.Format.reads_reader (d := ⟨some b.id, some b.lines, some b.count⟩)
    (Json.Writer.recordText_object ["Id", "CovInfo", "CovIndex"] _ depth) independent ?_ rfl
  refine .field rfl rfl ((Json.Reader.reads_word32 b.id).map _) ?_
  refine .field rfl rfl (hlines.map _) ?_
  exact .field rfl rfl ((Json.Reader.reads_word64 b.count).map _) .done

end SnapshotBlock

namespace Snapshot

/-- Every snapshot is read back from its document. -/
theorem parse_render (doc : Snapshot) : parse doc.render = .ok doc := by
  have h := Json.Reader.inverts_table
    (Json.Reader.inverts_table (Json.Reader.inverts_list SnapshotBlock.inverts_block))
  rw [parse, render, h.document doc]

end Snapshot

end BlockCoverage
