import BlockCoverage.Proofs.Json.Fields
import BlockCoverage.StaticMap

/-!
# The texts of static maps

A static map may be written in many ways: the files and the fields of every record in any order,
with other fields among them that hold any value, with blanks and escapes wherever they may stand,
and without the lists that are empty. Every one of these texts is read as the map, record by record.
-/

namespace BlockCoverage

open Json (Quotes ListText RecordText TableText)

/-- A field that holds a list and need not be given when the list is empty. -/
def OptionalList {α : Type} (name : String) (element : α → String → Prop) (as : List α)
    (given : List (String × String)) : Prop :=
  as = [] ∧ given = [] ∨ ∃ text, ListText element as text ∧ given = [(name, text)]

/-- A list that is given enters the draft, and one that is not leaves the draft as it is. -/
theorem OptionalList.fills {σ α : Type} {name : String} {element : α → String → Prop} {as : List α}
    {given : List (String × String)} (h : OptionalList name element as given)
    {fields : List (Json.Field σ)} {item : Json.Reader α} {set : List α → σ → σ}
    {isGiven : σ → Bool} {d : σ} (hitem : ∀ a p, element a p → item.Reads p a)
    (hfind : fields.find? (fun f => f.name == name) = some ⟨name, item.list.map set, isGiven⟩)
    (hgiven : isGiven d = false) :
    as = [] ∧ Json.Format.Fills fields d given d ∨ Json.Format.Fills fields d given (set as d) := by
  obtain ⟨hnil, rfl⟩ | ⟨text, htext, rfl⟩ := h
  · exact .inl ⟨hnil, .done⟩
  · have hlist := Json.Reader.reads_list (htext.imp hitem)
    exact .inr (.field hfind hgiven (hlist.map set) .done)

namespace SourceLine

/-- The texts of a source line. -/
def Rendered (l : SourceLine) (text : String) : Prop :=
  ∃ file, Quotes l.file file ∧
    RecordText ["File", "Line"] [("File", file), ("Line", l.line.toNat.repr)] text

theorem independent : Json.Format.Independent format.fields :=
  Json.Format.independent_pair (fun _ _ => rfl) (fun _ _ => rfl) fun _ _ _ => ⟨rfl, rfl, rfl⟩

theorem reads_rendered {l : SourceLine} {text : String} (h : l.Rendered text) :
    reader.Reads text l := by
  obtain ⟨file, hfile, htext⟩ := h
  refine Json.Format.reads_reader (d := ⟨some l.file, some l.line⟩) htext independent ?_ rfl
  refine .field rfl rfl ((Json.Reader.reads_text hfile).map _) ?_
  exact .field rfl rfl ((Json.Reader.reads_word32 l.line).map _) .done

end SourceLine

namespace BlockDeclaration

/-- The texts of a declared block. -/
def Rendered (b : BlockDeclaration) (text : String) : Prop :=
  ∃ lines, OptionalList "Coverage" SourceLine.Rendered b.lines lines ∧
    RecordText ["Id", "Coverage"] (("Id", b.id.toNat.repr) :: lines) text

theorem independent : Json.Format.Independent format.fields :=
  Json.Format.independent_pair (fun _ _ => rfl) (fun _ _ => rfl) fun _ _ _ => ⟨rfl, rfl, rfl⟩

theorem reads_rendered {b : BlockDeclaration} {text : String} (h : b.Rendered text) :
    reader.Reads text b := by
  obtain ⟨id, lines⟩ := b
  obtain ⟨given, hgiven, htext⟩ := h
  have hid := (Json.Reader.reads_word32 id).map fun v (d : Draft) => { d with id := some v }
  have hlist := hgiven.fills (d := Draft.mk (some id) none) (fun _ _ => SourceLine.reads_rendered)
    (show format.fields.find? (fun f => f.name == "Coverage") = some _ from rfl) rfl
  -- a list that is not given is finished as an empty one
  obtain ⟨rfl, hlines⟩ | hlines := hlist
  · exact Json.Format.reads_reader htext independent (.field rfl rfl hid hlines) rfl
  · exact Json.Format.reads_reader htext independent (.field rfl rfl hid hlines) rfl

end BlockDeclaration

namespace FunctionDeclaration

/-- The texts of a declared function. -/
def Rendered (f : FunctionDeclaration) (text : String) : Prop :=
  ∃ name blocks, Quotes f.name name ∧
    OptionalList "BasicBlocks" BlockDeclaration.Rendered f.blocks blocks ∧
    RecordText ["Function", "BasicBlocks"] (("Function", name) :: blocks) text

theorem independent : Json.Format.Independent format.fields :=
  Json.Format.independent_pair (fun _ _ => rfl) (fun _ _ => rfl) fun _ _ _ => ⟨rfl, rfl, rfl⟩

theorem reads_rendered {f : FunctionDeclaration} {text : String} (h : f.Rendered text) :
    reader.Reads text f := by
  obtain ⟨name, blocks⟩ := f
  obtain ⟨written, given, hwritten, hgiven, htext⟩ := h
  have hname := (Json.Reader.reads_text hwritten).map fun v (d : Draft) => { d with name := some v }
  have hlist := hgiven.fills (d := Draft.mk (some name) none)
    (fun _ _ => BlockDeclaration.reads_rendered)
    (show format.fields.find? (fun f => f.name == "BasicBlocks") = some _ from rfl) rfl
  obtain ⟨rfl, hblocks⟩ | hblocks := hlist
  · exact Json.Format.reads_reader htext independent (.field rfl rfl hname hblocks) rfl
  · exact Json.Format.reads_reader htext independent (.field rfl rfl hname hblocks) rfl

end FunctionDeclaration

namespace StaticMap

/-- The texts of a static map. -/
def Renders (map : StaticMap) (text : String) : Prop :=
  ∃ before body after entries, text = before ++ body ++ after ∧ Json.Gap before ∧ Json.Gap after ∧
    entries.Perm map.files.entries ∧ TableText (ListText FunctionDeclaration.Rendered) entries body

theorem parse_renders {map : StaticMap} {text : String} (h : map.Renders text) :
    parse text = .ok map := by
  obtain ⟨before, body, after, entries, rfl, hbefore, hafter, hperm, hbody⟩ := h
  have htable := Json.Reader.reads_table (hbody.imp fun _ _ hlist =>
    Json.Reader.reads_list (hlist.imp fun _ _ => FunctionDeclaration.reads_rendered))
  rw [parse, htable.document hbefore hafter, OrderedMap.ofList_perm hperm]

/-! ## The model of a map -/

/-- The last declaration of a name. -/
def LastNamed (name : String) (ds : List FunctionDeclaration) (d : FunctionDeclaration) : Prop :=
  ∃ before after, ds = before ++ d :: after ∧ d.name = name ∧ ∀ e ∈ after, e.name ≠ name

theorem exists_lastNamed {name : String} {ds : List FunctionDeclaration}
    (h : ∃ d ∈ ds, d.name = name) : ∃ d, LastNamed name ds d := by
  induction ds with
  | nil =>
    obtain ⟨d, hd, -⟩ := h
    cases hd
  | cons e ds ih =>
    by_cases hmore : ∃ d ∈ ds, d.name = name
    · obtain ⟨d, before, after, rfl, hd, hafter⟩ := ih hmore
      exact ⟨d, e :: before, after, rfl, hd, hafter⟩
    · have hafter : ∀ d ∈ ds, d.name ≠ name := fun d hd hname => hmore ⟨d, hd, hname⟩
      obtain ⟨d, hd, hname⟩ := h
      rcases List.mem_cons.mp hd with rfl | hd
      · exact ⟨d, [], ds, rfl, hname, hafter⟩
      · exact absurd hname (hafter d hd)

theorem get?_toModel_of_lastNamed {map : StaticMap} {f : FunctionId} {ds : List FunctionDeclaration}
    {d : FunctionDeclaration} (hds : map.files.get? f.file = some ds) (hd : LastNamed f.name ds d) :
    map.toModel.get? f = some (d.blocks.map BlockDeclaration.toBlock) := by
  obtain ⟨before, after, rfl, hname, hafter⟩ := hd
  obtain ⟨early, late, hentries⟩ := List.append_of_mem (OrderedMap.get?_eq_some_iff.mp hds)
  -- no other entry is about the file
  have hfile : f.file ∉ late.map Prod.fst := by
    have hnodup := map.files.nodup_keys
    rw [OrderedMap.keys, hentries, List.map_append, List.map_cons] at hnodup
    exact (List.nodup_cons.mp (List.nodup_append.mp hnodup).2.1).1
  refine OrderedMap.get?_ofList_eq_some_iff.mpr ?_
  have hf : f = ⟨f.file, d.name⟩ := by rw [hname]
  rw [hentries, List.flatMap_append, List.flatMap_cons, List.map_append, List.map_cons, ← hf]
  refine ⟨_ ++ _, _ ++ _, by simp only [List.append_assoc, List.cons_append]; rfl, ?_⟩
  intro e he hef
  rcases List.mem_append.mp he with he | he
  · obtain ⟨later, hlater, rfl⟩ := List.mem_map.mp he
    exact hafter later hlater (congrArg FunctionId.name hef)
  · obtain ⟨entry, hentry, he⟩ := List.mem_flatMap.mp he
    obtain ⟨other, -, rfl⟩ := List.mem_map.mp he
    exact hfile (List.mem_map.mpr ⟨entry, hentry, congrArg FunctionId.file hef⟩)

/-- A function has the blocks of its last declaration. -/
theorem get?_toModel_eq_some_iff {map : StaticMap} {f : FunctionId} {blocks : List Block} :
    map.toModel.get? f = some blocks ↔
      ∃ ds d, map.files.get? f.file = some ds ∧ LastNamed f.name ds d ∧
        blocks = d.blocks.map BlockDeclaration.toBlock := by
  constructor
  · intro h
    -- some declaration there must be, so there is a last one
    obtain ⟨before, after, hlist, -⟩ := OrderedMap.get?_ofList_eq_some_iff.mp h
    have hmem := hlist ▸ List.mem_append_right before List.mem_cons_self
    obtain ⟨entry, hentry, hmem⟩ := List.mem_flatMap.mp hmem
    obtain ⟨other, hother, heq⟩ := List.mem_map.mp hmem
    obtain ⟨rfl, -⟩ := Prod.mk.inj heq
    obtain ⟨d, hd⟩ := exists_lastNamed ⟨other, hother, rfl⟩
    have hds : map.files.get? entry.1 = some entry.2 := OrderedMap.get?_eq_some_iff.mpr hentry
    refine ⟨entry.2, d, hds, hd, ?_⟩
    rw [get?_toModel_of_lastNamed (f := ⟨entry.1, other.name⟩) hds hd] at h
    exact (Option.some.inj h).symm
  · rintro ⟨ds, d, hds, hd, rfl⟩
    exact get?_toModel_of_lastNamed hds hd

/-- Every text of a static map is read as that map, and the model of the map has just the functions
that are declared: each with the blocks of its last declaration in its file, none of them hit. -/
theorem parse_rendered {map : StaticMap} {text : String} (h : map.Renders text) :
    parse text = .ok map ∧
      ∀ f blocks, map.toModel.get? f = some blocks ↔
        ∃ ds d, map.files.get? f.file = some ds ∧ LastNamed f.name ds d ∧
          blocks = d.blocks.map fun b => ⟨b.id, b.lines, false, 0, []⟩ :=
  ⟨parse_renders h, fun _ _ => get?_toModel_eq_some_iff⟩

open Json Writer in
/-- A function that is declared twice, first without blocks and then among other fields in another
order; a letter of the file is escaped. -/
theorem parse_rendered_twice :
    let line := "\x7b\"Line\": 3,\"File\": \"a.h\"\x7d"
    let block := "\x7b\"Coverage\": [" ++ line ++ "],\"Id\": 7\x7d"
    let first := "\x7b\"Function\": \"f\"\x7d"
    let note := "[-1.5e3,\x7b\"\":null\x7d]"
    let second := "\x7b\"Note\": " ++ note ++ ",\"BasicBlocks\": [" ++ block ++
      "],\"Function\": \"f\"\x7d"
    let text := "\t\x7b\"a\\u002Ec\" : [" ++ first ++ " ,\n" ++ second ++ "]\x7d\r\n"
    let blocks : List BlockDeclaration := [⟨7, [⟨"a.h", 3⟩]⟩]
    let map : StaticMap := ⟨.ofList [("a.c", [⟨"f", []⟩, ⟨"f", blocks⟩])]⟩
    map.Renders text ∧ parse text = .ok map ∧
      map.toModel.get? ⟨"a.c", "f"⟩ = some [⟨7, [⟨"a.h", 3⟩], false, 0, []⟩] := by
  intro line block first note second text blocks map
  obtain ⟨_, hline, rfl⟩ : ∃ t, SourceLine.Rendered ⟨"a.h", 3⟩ t ∧ t = line :=
    ⟨_, ⟨_, quotes_stringText "a.h", [], [("Line", _), ("File", _)], _, List.forall_mem_nil _,
      .swap _ _ _, .cons (memberText _ _) (.cons (memberText _ _) .nil),
      .parts (.more gap_empty gap_empty (.last gap_empty gap_empty))⟩, by decide +kernel⟩
  obtain ⟨_, hblock, rfl⟩ : ∃ t, BlockDeclaration.Rendered ⟨7, [⟨"a.h", 3⟩]⟩ t ∧ t = block :=
    ⟨_, ⟨_, .inr ⟨_, ⟨_, .cons hline .nil, .parts (.last gap_empty gap_empty)⟩, rfl⟩, [],
      [("Coverage", _), ("Id", _)], _, List.forall_mem_nil _, .swap _ _ _,
      .cons (memberText _ _) (.cons (memberText _ _) .nil),
      .parts (.more gap_empty gap_empty (.last gap_empty gap_empty))⟩, by decide +kernel⟩
  obtain ⟨_, hfirst, rfl⟩ : ∃ t, FunctionDeclaration.Rendered ⟨"f", []⟩ t ∧ t = first :=
    ⟨_, ⟨_, _, quotes_stringText "f", .inl ⟨rfl, rfl⟩, [], [("Function", _)], _,
      List.forall_mem_nil _, .refl _, .cons (memberText _ _) .nil,
      .parts (.last gap_empty gap_empty)⟩, by decide +kernel⟩
  have hdigits : ∀ c : Char, c.isDigit = true → Digits [c] := fun c hc =>
    ⟨List.cons_ne_nil c [], List.forall_mem_singleton.mpr hc⟩
  have hnumber : NumberText "-1.5e3" :=
    ⟨['-'], ['1'], ['.', '5'], ['e', '3'], .inr rfl, ⟨hdigits '1' rfl, by decide +kernel⟩,
      .some (hdigits '5' rfl), @Exponent.some 'e' [] ['3'] (.inl rfl) (.inl rfl) (hdigits '3' rfl),
      rfl⟩
  have hobject : WellFormed "\x7b\"\":null\x7d" :=
    @WellFormed.object [("\"\"", "null")] _ _
      (List.forall_mem_singleton.mpr ⟨[], rfl, List.forall_mem_nil _⟩)
      (List.forall_mem_singleton.mpr .null) (.cons ⟨"", "", gap_empty, gap_empty, rfl⟩ .nil)
      (.parts (.last gap_empty gap_empty))
  have hnote : WellFormed note :=
    .list (List.forall_mem_cons.mpr ⟨.number hnumber, List.forall_mem_singleton.mpr hobject⟩)
      (.parts (.more gap_empty gap_empty (.last gap_empty gap_empty)))
  obtain ⟨_, hsecond, rfl⟩ : ∃ t, FunctionDeclaration.Rendered ⟨"f", blocks⟩ t ∧ t = second :=
    ⟨_, ⟨_, _, quotes_stringText "f",
      .inr ⟨_, ⟨_, .cons hblock .nil, .parts (.last gap_empty gap_empty)⟩, rfl⟩,
      [("Note", note)], _, _, List.forall_mem_singleton.mpr ⟨by decide +kernel, hnote⟩,
      List.reverse_perm _,
      .cons (memberText _ _) (.cons (memberText _ _) (.cons (memberText _ _) .nil)),
      .parts (.more gap_empty gap_empty (.more gap_empty gap_empty (.last gap_empty gap_empty)))⟩,
      by decide +kernel⟩
  have hfile : Quotes "a.c" "\"a\\u002Ec\"" :=
    ⟨[['a'], ['\\', 'u', '0', '0', '2', 'E'], ['c']],
      .cons (.plain (by decide +kernel) (by decide +kernel) (by decide +kernel))
        (.cons (.unit ⟨by decide +kernel, by decide +kernel⟩)
          (.cons (.plain (by decide +kernel) (by decide +kernel) (by decide +kernel)) .nil)), rfl⟩
  obtain ⟨_, hmap, rfl⟩ : ∃ t, map.Renders t ∧ t = text :=
    ⟨_, ⟨"\t", _, "\r\n", _, rfl, by decide +kernel, by decide +kernel, .refl _, _,
      .cons ⟨_, ⟨_, .cons hfirst (.cons hsecond .nil),
        .parts (@Commas.more "" first " " _ _ (by decide +kernel) (by decide +kernel)
          (@Commas.last "\n" second "" (by decide +kernel) (by decide +kernel)))⟩,
        ⟨_, hfile, " ", " ", by decide +kernel, by decide +kernel, rfl⟩⟩ .nil,
      .parts (.last gap_empty gap_empty)⟩, by decide +kernel⟩
  obtain ⟨hparse, hmodel⟩ := parse_rendered hmap
  refine ⟨hmap, hparse, (hmodel ⟨"a.c", "f"⟩ _).mpr ?_⟩
  exact ⟨[⟨"f", []⟩, ⟨"f", blocks⟩], ⟨"f", blocks⟩, by decide +kernel,
    ⟨[⟨"f", []⟩], [], rfl, rfl, List.forall_mem_nil _⟩, rfl⟩

end StaticMap

end BlockCoverage
