import BlockCoverage.Proofs.Model.Resolution

/-!
# The colours of a listing

A listing shows lines of the file that a function is declared in, and colours each by its class. The
class of a line goes by its number, so blocks take part that declare a line of that number in
another file, such as an inlined header. The colour that the file by itself would give is the class
of the line among the blocks cut down to their lines in that file (`Block.within`).

A colour tells its class (`Listing.paint_injective`), and a class tells whether hit blocks and
whether other blocks declare the line. So the listing shows the colour of the file itself just when
every block that declares the number, in any file, has a companion in the file that is hit like it
(`classOf_within_iff`).
-/

namespace BlockCoverage

/-! ## Colours -/

namespace Listing

/-- One line of a listing in the colour of a class. -/
def paint (c : LineClass) (r : SourceRow) : String :=
  let text := Nat.repr r.line.toNat ++ ":\t" ++ trimLineEnd r.text
  match c.colour with
  | some colour => colour ++ text ++ "\x1b[0m\n"
  | none => text ++ "\n"

theorem row_eq_paint (classes : LineClasses) (r : SourceRow) :
    row classes r = paint (classes.classOf r.line) r := rfl

/-- What is printed for a line tells its class: colours differ in a letter, and a plain line is
shorter than a coloured one. -/
theorem paint_injective {c d : LineClass} {r : SourceRow} (h : paint c r = paint d r) : c = d := by
  have hletters : (paint c r).toList = (paint d r).toList := congrArg String.toList h
  have hlength := congrArg List.length hletters
  cases c <;> cases d <;> simp [paint, LineClass.colour] at hletters hlength ⊢ <;> omega

end Listing

/-! ## Lines in one file -/

namespace Block

/-- The block with its lines in a file only. -/
def within (file : String) (b : Block) : Block :=
  { b with lines := b.lines.filter fun l => Path.matchesFile file l.file }

theorem hit_within (file : String) (b : Block) : (b.within file).hit = b.hit := rfl

/-- The block stands for the line of this number in the file. -/
def DeclaresIn (b : Block) (file : String) (line : UInt32) : Prop :=
  ∃ l ∈ b.lines, l.line = line ∧ Path.matchesFile file l.file = true

instance (b : Block) (file : String) (line : UInt32) : Decidable (b.DeclaresIn file line) :=
  inferInstanceAs (Decidable (∃ l ∈ b.lines, l.line = line ∧ Path.matchesFile file l.file = true))

theorem DeclaresIn.declares {b : Block} {file : String} {line : UInt32}
    (h : b.DeclaresIn file line) : b.Declares line := by
  obtain ⟨l, hl, hline, -⟩ := h
  exact ⟨l, hl, hline⟩

theorem declares_within {b : Block} {file : String} {line : UInt32} :
    (b.within file).Declares line ↔ b.DeclaresIn file line := by
  rw [Declares, within, DeclaresIn]
  refine exists_congr fun l => ?_
  rw [List.mem_filter, and_assoc, and_comm (a := _ = true)]

variable {blocks : List Block} {file : String} {line : UInt32}

theorem hitOn_within :
    hitOn (blocks.map (within file)) line = true ↔
      ∃ b ∈ blocks, b.DeclaresIn file line ∧ b.hit = true := by
  rw [hitOn, List.any_map, List.any_eq_true]
  simp only [Function.comp_apply, Bool.and_eq_true, coversLine_iff_declares, declares_within,
    hit_within, and_comm]

theorem unhitOn_within :
    unhitOn (blocks.map (within file)) line = true ↔
      ∃ b ∈ blocks, b.DeclaresIn file line ∧ b.hit = false := by
  rw [unhitOn, List.any_map, List.any_eq_true]
  simp only [Function.comp_apply, Bool.and_eq_true, Bool.not_eq_true', coversLine_iff_declares,
    declares_within, hit_within, and_comm]

end Block

open Block

theorem LineClass.ofWitnesses_eq_iff {hit unhit hit' unhit' : Bool} :
    ofWitnesses hit unhit = ofWitnesses hit' unhit' ↔ hit = hit' ∧ unhit = unhit' := by
  cases hit <;> cases unhit <;> cases hit' <;> cases unhit' <;> decide

/-- A line has the class that a file by itself gives just when every block that declares the number
has a companion that declares it in the file and is hit or not like the block. -/
theorem LineClasses.classOf_within_iff {blocks : List Block} {file : String} {line : UInt32} :
    (ofBlocks blocks).classOf line = (ofBlocks (blocks.map (within file))).classOf line ↔
      ∀ b ∈ blocks, b.Declares line → ∃ c ∈ blocks, c.DeclaresIn file line ∧ c.hit = b.hit := by
  rw [classOf_ofBlocks, classOf_ofBlocks, LineClass.ofWitnesses_eq_iff,
    Bool.eq_iff_iff (a := hitOn blocks line), Bool.eq_iff_iff (a := unhitOn blocks line),
    hitOn_iff, unhitOn_iff, hitOn_within, unhitOn_within]
  constructor
  · rintro ⟨hhit, hunhit⟩ b hb hline
    cases h : b.hit with
    | true => exact hhit.mp ⟨b, hb, hline, h⟩
    | false => exact hunhit.mp ⟨b, hb, hline, h⟩
  · intro hcompanion
    -- a block that declares the line in the file declares the number
    refine ⟨⟨?_, ?_⟩, ⟨?_, ?_⟩⟩
    · rintro ⟨b, hb, hline, hhit⟩
      obtain ⟨c, hc, hown, hsame⟩ := hcompanion b hb hline
      exact ⟨c, hc, hown, hsame.trans hhit⟩
    · rintro ⟨c, hc, hown, hhit⟩
      exact ⟨c, hc, hown.declares, hhit⟩
    · rintro ⟨b, hb, hline, hunhit⟩
      obtain ⟨c, hc, hown, hsame⟩ := hcompanion b hb hline
      exact ⟨c, hc, hown, hsame.trans hunhit⟩
    · rintro ⟨c, hc, hown, hunhit⟩
      exact ⟨c, hc, hown.declares, hunhit⟩

namespace Report

/-! ## The listing of a function -/

variable {m : Model} {fs : Files} {root : String} {f : FunctionId} {blocks : List Block}

theorem listing_eq {rows : List SourceRow} (hf : m.get? f = some blocks)
    (hrows : m.sourceRows fs root f = .ok rows) (hne : rows ≠ []) :
    listing m fs root f = ⟨String.join (rows.map (Listing.row (.ofBlocks blocks))), none⟩ := by
  rw [listing, Model.classify_of_get? hf, hrows]
  cases rows with
  | nil => exact absurd rfl hne
  | cons r rows => rfl

/-- The rows of a listing are lines of the function's own file. -/
theorem path_of_mem_sourceRows {rows : List SourceRow} {r : SourceRow}
    (hrows : m.sourceRows fs root f = .ok rows) (hr : r ∈ rows) :
    r.path = Path.join root f.file := by
  rw [Model.sourceRows] at hrows
  cases hblocks : m.blocks f with
  | error fault =>
    rw [hblocks] at hrows
    cases hrows
  | ok blocks =>
    simp only [hblocks, bind, Except.bind, pure, Except.pure] at hrows
    split at hrows
    · cases hrows
      cases hr
    · split at hrows
      · cases hrows
      · cases hrows
        obtain ⟨e, -, rfl⟩ := List.mem_map.mp (List.mem_filter.mp hr).1
        rfl

/-- The report on a function lists lines of its own file, each in the colour of what the blocks say
of its number that declare it in any file. That is the colour of the file by itself just when every
block that declares the number has a companion in the file that is hit or not like the block. -/
theorem function_colours {rows : List SourceRow} (hf : m.get? f = some blocks)
    (hrows : m.sourceRows fs root f = .ok rows) (hne : rows ≠ []) :
    function m fs root f =
        ⟨(ratio m f).text ++ String.join (rows.map (Listing.row (.ofBlocks blocks))), none⟩ ∧
      ∀ r ∈ rows, r.path = Path.join root f.file ∧
        (∀ c, Listing.row (.ofBlocks blocks) r = Listing.paint c r ↔ c.Says blocks r.line) ∧
        ((∀ c, c.Says (blocks.map (within f.file)) r.line →
            Listing.row (.ofBlocks blocks) r = Listing.paint c r) ↔
          ∀ b ∈ blocks, b.Declares r.line →
            ∃ o ∈ blocks, o.DeclaresIn f.file r.line ∧ o.hit = b.hit) := by
  constructor
  · simp only [function, (Model.viewable_of_get? hf).reported, listing_eq hf hrows hne,
      Written.after]
  intro r hr
  have hpaint : ∀ c, Listing.row (.ofBlocks blocks) r = Listing.paint c r ↔
      (LineClasses.ofBlocks blocks).classOf r.line = c :=
    fun c => ⟨Listing.paint_injective, fun h => by rw [Listing.row_eq_paint, h]⟩
  refine ⟨path_of_mem_sourceRows hrows hr, fun c => ?_, ?_⟩
  · rw [hpaint, LineClasses.classOf_eq_iff]
  · -- just one class says the truth about the file, so its colour is the one to compare with
    rw [← LineClasses.classOf_within_iff]
    simp only [hpaint, ← LineClasses.classOf_eq_iff, forall_eq']

/-- A header takes the colour of a line: the block that declares the first line of the file is hit,
and one that declares a first line in the header is not, so the line is listed in yellow. The second
line is listed in its own colour. -/
theorem function_colours_header :
    let f : FunctionId := ⟨"k.c", "f"⟩
    let blocks : List Block :=
      [⟨0, [⟨"k.c", 1⟩], true, 1, ["s"]⟩, .fresh 1 [⟨"h.h", 1⟩, ⟨"k.c", 2⟩]]
    let m : Model := .ofList [(f, blocks)]
    let fs : Files := ⟨.ofList [(["k.c"], .file 1)], #[.ofDirectory, .ofBytes [97, 10, 98]], 0⟩
    let first : SourceRow := ⟨1, "a", "/k.c"⟩
    let second : SourceRow := ⟨2, "b", "/k.c"⟩
    function m fs "/" f =
        ⟨(ratio m f).text ++ (Listing.paint .mixed first ++ Listing.paint .uncovered second),
          none⟩ ∧
      (¬∀ c, c.Says (blocks.map (within f.file)) 1 →
        Listing.row (.ofBlocks blocks) first = Listing.paint c first) ∧
      ∀ c, c.Says (blocks.map (within f.file)) 2 →
        Listing.row (.ofBlocks blocks) second = Listing.paint c second := by
  intro f blocks m fs first second
  have hf : m.get? f = some blocks := by decide +kernel
  have hread : (m.sourceRows fs "/" f).toOption = some [first, second] := by decide +kernel
  have hrows : m.sourceRows fs "/" f = .ok [first, second] := by
    generalize m.sourceRows fs "/" f = result at hread ⊢
    cases result <;> cases hread
    rfl
  obtain ⟨htext, hcolours⟩ := function_colours hf hrows (by decide)
  obtain ⟨-, hclass, hheader⟩ := hcolours first (by decide)
  obtain ⟨-, hclass', hown⟩ := hcolours second (by decide)
  have hfirst := (hclass .mixed).mpr (LineClass.says_iff.mpr (by decide +kernel))
  have hsecond := (hclass' .uncovered).mpr (LineClass.says_iff.mpr (by decide +kernel))
  refine ⟨?_, ?_, ?_⟩
  · rw [htext, List.map_cons, List.map_cons, hfirst, hsecond]
    rfl
  · rw [hheader]
    decide +kernel
  · rw [hown]
    decide +kernel

end Report

end BlockCoverage
