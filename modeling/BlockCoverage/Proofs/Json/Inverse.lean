import BlockCoverage.Proofs.Json.Lines
import BlockCoverage.Proofs.Json.Text
import BlockCoverage.Proofs.Ordered.Lookup

/-!
# Readers that undo writers

A reader reads a value from a text if it takes the value from the octets of the text, after any
blanks and before anything that may stand after a value (`Reader.Reads`). Strings and numbers are
read by what is known of their octets. Lists and tables are read if their elements are: the loop of
the reader follows the parts between the brackets, one at a time. A reader undoes a writer if it
reads every value from what is written for it, at any depth (`Reader.Inverts`).
-/

namespace BlockCoverage.Json

open Text (Bytes)

/-- A value begins with something visible, and not with what closes a list. -/
def Starts (text : String) : Prop :=
  ∃ b t, Text.Utf8.encode text = b :: t ∧ isBlank b = false ∧ b ≠ 93

theorem Encloses.starts {opening closing : UInt8} {parts : List Bytes} {text : String}
    (h : Encloses opening closing parts (Text.Utf8.encode text))
      (hvisible : isBlank opening = false)
    (hclose : opening ≠ 93) : Starts text := by
  obtain ⟨s, hs, -⟩ := h []
  rw [List.append_nil] at hs
  exact ⟨opening, s, hs, hvisible, hclose⟩

theorem Starts.visible {text : String} (h : Starts text) : Visible (Text.Utf8.encode text) := by
  obtain ⟨b, t, htext, hb, -⟩ := h
  exact ⟨b, t, htext, hb⟩

namespace Reader

variable {α β : Type}

/-- The reader takes `a` from a text. -/
structure Reads (r : Reader α) (text : String) (a : α) : Prop where
  starts : Starts text
  takes : ∀ ⦃s rest : Bytes⦄, Ends rest → skipBlank s = Text.Utf8.encode text ++ rest →
    r.run s = .ok (a, rest)

/-- The reader takes every value from what is written for it. -/
def Inverts (r : Reader α) (w : α → Writer) : Prop := ∀ (a : α) (depth : Nat), r.Reads (w a depth) a

theorem Reads.map {r : Reader α} {text : String} {a : α} (h : r.Reads text a) (f : α → β) :
    (r.map f).Reads text (f a) where
  starts := h.starts
  takes s rest hends hs := by
    rw [Reader.map]
    simp only [h.takes hends hs]

/-- A value that is read is what the reader of some octets gives. -/
theorem Reads.exists_run {r : Reader α} {text : String} {a : α} (h : r.Reads text a) :
    ∃ s t, r.run s = .ok (a, t) :=
  ⟨_, [], h.takes ends_nil ((h.starts.visible.skipBlank []).trans rfl)⟩

/-! ## Strings and numbers -/

theorem reads_text {value written : String} (h : Quotes value written) :
    text.Reads written value where
  starts := by
    obtain ⟨body, hbody, -⟩ := h.exists_textBody []
    rw [List.append_nil] at hbody
    exact ⟨34, body, hbody, rfl, by decide⟩
  takes s rest hends hs := by
    obtain ⟨body, hbody, hread⟩ := h.exists_textBody rest
    rw [hbody] at hs
    rw [text]
    simp only [hs, if_pos, hread, Text.Utf8.decodeLossy_encode]

theorem reads_below {limit n : Nat} (hlimit : limit ≤ 18446744073709551616) (h : n < limit)
    (expected : String) : (below limit expected).Reads n.repr n where
  starts := by
    obtain ⟨b, digits, hn, hb, -⟩ := number_repr (Nat.lt_of_lt_of_le h hlimit) ends_nil
    exact ⟨b, digits, hn, isBlank_of_isDigit hb, ne_of_isDigit hb rfl⟩
  takes s rest hends hs := by
    obtain ⟨b, digits, hn, hb, hread⟩ := number_repr (Nat.lt_of_lt_of_le h hlimit) hends
    rw [hn, List.cons_append] at hs
    have hsign : b ≠ 45 := ne_of_isDigit hb rfl
    rw [below]
    simp only [hs, if_neg hsign, if_pos hb, hread, checkBelow, if_pos h]

theorem reads_word32 (v : UInt32) : word32.Reads v.toNat.repr v := by
  have h := (reads_below (by decide) v.toNat_lt "u32").map UInt32.ofNat
  rwa [UInt32.ofNat_toNat] at h

theorem reads_word64 (v : UInt64) : word64.Reads v.toNat.repr v := by
  have h := (reads_below (Nat.le_refl _) v.toNat_lt "u64").map UInt64.ofNat
  rwa [UInt64.ofNat_toNat] at h

end Reader

/-! ## Lists -/

theorem elements_end {α : Type} (item : Reader α) {first : Bool} {s t : Bytes}
    (hnext : nextElement first s = .ok (false, t)) : elements item first s = .ok ([], t) := by
  rw [elements]
  split <;> rename_i h <;> rw [hnext] at h <;> cases h
  rfl

theorem elements_step {α : Type} {item : Reader α} {first : Bool} {s t u v : Bytes} {a : α}
    {as : List α} (hnext : nextElement first s = .ok (true, t)) (hitem : item.run t = .ok (a, u))
    (hrest : elements item false u = .ok (as, v)) : elements item first s = .ok (a :: as, v) := by
  rw [elements]
  split <;> rename_i h <;> rw [hnext] at h <;> cases h
  split <;> rename_i h <;> rw [hitem] at h <;> cases h
  rw [hrest]

theorem nextElement_close {first : Bool} {s rest : Bytes} (h : skipBlank s = 93 :: rest) :
    nextElement first s = .ok (false, 93 :: rest) := by
  rw [nextElement, h]
  rfl

/-- The reader of a list finds the element that the next line holds. -/
theorem exists_nextElement {first : Bool} {part : String} {ps : List Bytes} {s rest : Bytes}
    (hpart : Starts part) (h : Lines 93 first (Text.Utf8.encode part :: ps) s rest) :
    ∃ t u, nextElement first s = .ok (true, t) ∧ skipBlank t = Text.Utf8.encode part ++ u ∧
      Ends u ∧ Lines 93 false ps u rest := by
  have hvisible := hpart.visible
  -- only the first octet of the element tells it from the closing bracket
  obtain ⟨b, more, hb, -, hclose⟩ := hpart
  cases h with
  | first hs hends hrest =>
    refine ⟨_, _, ?_, hvisible.skipBlank _, hends, hrest⟩
    rw [nextElement, hs, hb]
    exact if_neg hclose
  | next hcomma hs hends hrest =>
    refine ⟨_, _, ?_, hvisible.skipBlank _, hends, hrest⟩
    rw [nextElement, hcomma]
    simp only [hs, hb, List.cons_append, if_neg hclose]
    rfl

theorem elements_lines {α : Type} {item : Reader α} {as : List α} {parts : List String}
    (h : List.Forall₂ (fun a p => item.Reads p a) as parts) {first : Bool} {s rest : Bytes}
    (hlines : Lines 93 first (parts.map Text.Utf8.encode) s rest) :
    elements item first s = .ok (as, 93 :: rest) := by
  induction h generalizing first s with
  | nil =>
    cases hlines with
    | close hs => exact elements_end item (nextElement_close hs)
  | cons hread _ ih =>
    obtain ⟨t, u, hnext, ht, hends, hrest⟩ := exists_nextElement hread.starts hlines
    exact elements_step hnext (hread.takes hends ht) (ih hrest)

theorem Reader.reads_list {α : Type} {item : Reader α} {as : List α} {text : String}
    (h : ListText (fun a p => item.Reads p a) as text) : item.list.Reads text as := by
  obtain ⟨parts, hparts, hbrackets⟩ := h
  have hencloses := hbrackets.encloses_list
    (forall_mem_parts hparts fun _ _ hread => hread.starts.visible)
  refine ⟨hencloses.starts rfl (by decide), ?_⟩
  intro s rest _ hs
  obtain ⟨t, ht, hlines⟩ := hencloses rest
  rw [ht] at hs
  rw [list]
  simp only [hs, if_true, elements_lines hparts hlines, List.tail_cons]

/-! ## Objects -/

theorem nextKey_close {first : Bool} {s rest : Bytes} (h : skipBlank s = 125 :: rest) :
    nextKey first s = .ok (false, 125 :: rest) := by
  rw [nextKey, h]
  rfl

theorem nextKey_first {s body : Bytes} (h : skipBlank s = 34 :: body) :
    nextKey true s = .ok (true, body) := by
  rw [nextKey, h]
  rfl

theorem nextKey_next {s t body : Bytes} (hcomma : skipBlank s = 44 :: t)
    (h : skipBlank t = 34 :: body) : nextKey false s = .ok (true, body) := by
  rw [nextKey, hcomma]
  simp only [h]
  rfl

/-- Between a key and its value stands a colon. -/
theorem PairText.exists_colon {key value text : String} (h : PairText key value text)
    (hvalue : Starts value) (x : Bytes) :
    ∃ u v, Text.Utf8.encode text ++ x = Text.Utf8.encode key ++ u ∧ skipBlank u = 58 :: v ∧
      skipBlank v = Text.Utf8.encode value ++ x := by
  obtain ⟨before, after, hbefore, hafter, rfl⟩ := h
  refine ⟨Text.Utf8.encode before ++
    58 :: (Text.Utf8.encode after ++ (Text.Utf8.encode value ++ x)), _, ?_,
    (hbefore.skipBlank _).trans (skipBlank_cons rfl _),
    (hafter.skipBlank _).trans (hvalue.visible.skipBlank x)⟩
  simp only [Text.Utf8.encode_append, List.append_assoc]
  rfl

theorem MemberText.exists_key {name value text : String} (h : MemberText name value text)
    (hvalue : Starts value) (x : Bytes) :
    ∃ body u v, Text.Utf8.encode text ++ x = 34 :: body ∧
      textBody body = .ok (Text.Utf8.encode name, u) ∧ colon u = .ok v ∧
      skipBlank v = Text.Utf8.encode value ++ x := by
  obtain ⟨key, hkey, hpair⟩ := h
  obtain ⟨u, v, htext, hcolon, hv⟩ := hpair.exists_colon hvalue x
  obtain ⟨body, hbody, hread⟩ := hkey.exists_textBody u
  exact ⟨body, u, v, htext.trans hbody, hread, by rw [colon, hcolon]; rfl, hv⟩

theorem MemberText.visible {name value text : String} (h : MemberText name value text)
    (hvalue : Starts value) : Visible (Text.Utf8.encode text) := by
  obtain ⟨body, -, -, hbody, -⟩ := h.exists_key hvalue []
  rw [List.append_nil] at hbody
  exact ⟨34, body, hbody, rfl⟩

/-- The reader of an object finds the key that the next line holds, and the value after the
colon. -/
theorem exists_nextKey {first : Bool} {name value part : String} {ps : List Bytes} {s rest : Bytes}
    (hpart : MemberText name value part) (hvalue : Starts value)
    (h : Lines 125 first (Text.Utf8.encode part :: ps) s rest) :
    ∃ t u v x, nextKey first s = .ok (true, t) ∧ textBody t = .ok (Text.Utf8.encode name, u) ∧
      colon u = .ok v ∧ skipBlank v = Text.Utf8.encode value ++ x ∧ Ends x ∧
      Lines 125 false ps x rest := by
  cases h with
  | @first _ _ _ x _ hs hends hrest =>
    obtain ⟨body, u, v, hbody, hread, hcolon, hv⟩ := hpart.exists_key hvalue x
    exact ⟨body, u, v, x, nextKey_first (hs.trans hbody), hread, hcolon, hv, hends, hrest⟩
  | @next _ _ _ _ x _ hcomma hs hends hrest =>
    obtain ⟨body, u, v, hbody, hread, hcolon, hv⟩ := hpart.exists_key hvalue x
    exact ⟨body, u, v, x, nextKey_next hcomma (hs.trans hbody), hread, hcolon, hv, hends, hrest⟩

theorem members_end {α : Type} (item : Reader α) {first : Bool} {s t : Bytes}
    (hnext : nextKey first s = .ok (false, t)) : members item first s = .ok ([], t) := by
  rw [members]
  split <;> rename_i h <;> rw [hnext] at h <;> cases h
  rfl

theorem members_step {α : Type} {item : Reader α} {first : Bool} {s t u v w x : Bytes}
    {key : String} {a : α} {as : List (String × α)} (hnext : nextKey first s = .ok (true, t))
    (hkey : textBody t = .ok (Text.Utf8.encode key, u)) (hcolon : colon u = .ok v)
    (hitem : item.run v = .ok (a, w)) (hrest : members item false w = .ok (as, x)) :
    members item first s = .ok ((key, a) :: as, x) := by
  rw [members]
  split <;> rename_i h <;> rw [hnext] at h <;> cases h
  split <;> rename_i h <;> rw [hkey] at h <;> cases h
  split <;> rename_i h <;> rw [hcolon] at h <;> cases h
  split <;> rename_i h <;> rw [hitem] at h <;> cases h
  rw [hrest, Text.Utf8.decodeLossy_encode]

theorem members_lines {α : Type} {item : Reader α} {ms : List (String × α)} {parts : List String}
    (h : List.Forall₂ (fun m p => ∃ value, item.Reads value m.2 ∧ MemberText m.1 value p) ms parts)
    {first : Bool} {s rest : Bytes}
    (hlines : Lines 125 first (parts.map Text.Utf8.encode) s rest) :
    members item first s = .ok (ms, 125 :: rest) := by
  induction h generalizing first s with
  | nil =>
    cases hlines with
    | close hs => exact members_end item (nextKey_close hs)
  | cons hmember _ ih =>
    obtain ⟨value, hread, hpart⟩ := hmember
    obtain ⟨t, u, v, x, hnext, hkey, hcolon, hv, hends, hrest⟩ :=
      exists_nextKey hpart hread.starts hlines
    exact members_step hnext hkey hcolon (hread.takes hends hv) (ih hrest)

theorem Reader.reads_table {α : Type} {item : Reader α} {entries : List (String × α)}
    {text : String}
    (h : TableText (fun a p => item.Reads p a) entries text) :
    item.table.Reads text (.ofList entries) := by
  obtain ⟨parts, hparts, hbrackets⟩ := h
  have hencloses := hbrackets.encloses_object
    (forall_mem_parts hparts fun _ _ ⟨_, hread, hmember⟩ => hmember.visible hread.starts)
  refine ⟨hencloses.starts rfl (by decide), ?_⟩
  intro s rest _ hs
  obtain ⟨t, ht, hlines⟩ := hencloses rest
  rw [ht] at hs
  rw [table]
  simp only [hs, if_true, members_lines hparts hlines, List.tail_cons]

/-- A whole document is read, with blanks around its value. -/
theorem Reader.Reads.document {α : Type} {r : Reader α} {before text after : String} {a : α}
    (h : r.Reads text a) (hbefore : Gap before) (hafter : Gap after) :
    r.document (before ++ text ++ after) = .ok a := by
  have hs : skipBlank (Text.Utf8.encode (before ++ text ++ after)) =
      Text.Utf8.encode text ++ Text.Utf8.encode after := by
    simp only [Text.Utf8.encode_append, List.append_assoc]
    rw [hbefore.skipBlank, h.starts.visible.skipBlank]
  have hrest : skipBlank (Text.Utf8.encode after) = [] := by
    have hblank := hafter.skipBlank []
    rwa [List.append_nil] at hblank
  have hends : Ends (Text.Utf8.encode after) := by
    have hends := hafter.ends ends_nil
    rwa [List.append_nil] at hends
  rw [Reader.document]
  simp only [h.takes hends hs, hrest]

/-! ## Writers -/

theorem Reader.inverts_list {α : Type} {item : Reader α} {w : α → Writer} (h : item.Inverts w) :
    item.list.Inverts fun as => .list (as.map w) :=
  fun _ depth => reads_list (Writer.listText_list fun a _ => h a (depth + 1))

theorem Reader.inverts_table {α : Type} {item : Reader α} {w : α → Writer} (h : item.Inverts w) :
    item.table.Inverts fun m => .object (m.entries.map fun e => (e.1, w e.2)) := by
  intro m depth
  have hentries : ∀ e ∈ m.entries, item.Reads (w e.2 (depth + 1)) e.2 :=
    fun e _ => h e.2 (depth + 1)
  have hreads := reads_table (Writer.tableText_object hentries)
  rwa [OrderedMap.ofList_entries] at hreads

/-- A document that is written is read back. -/
theorem Reader.Inverts.document {α : Type} {r : Reader α} {w : α → Writer} (h : r.Inverts w)
    (a : α) : r.document (w a).document = .ok a := by
  have hdocument := (h a 0).document gap_empty gap_empty
  rwa [String.append_empty, String.empty_append] at hdocument

end BlockCoverage.Json
