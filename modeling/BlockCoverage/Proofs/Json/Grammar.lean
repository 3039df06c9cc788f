import BlockCoverage.Json.Writer
import Mathlib.Data.List.Forall2

/-!
# The texts of documents

The grammar of documents, on texts and apart from any reader or writer. Blanks may stand around
every part of a list or an object and on both sides of a colon. A character of a string may be
written in several ways, and members of a record may come in any order, among others that do not
belong to it. What a writer lays out is one text of many: `bracketed_layout`, `letter_escapeChar`.
-/

namespace BlockCoverage.Json

/-! ## Lists and objects -/

/-- Blanks that mean nothing. -/
def Gap (s : String) : Prop := ∀ c ∈ s.toList, c = ' ' ∨ c = '\n' ∨ c = '\t' ∨ c = '\r'

instance (s : String) : Decidable (Gap s) :=
  List.decidableBAll (fun c => c = ' ' ∨ c = '\n' ∨ c = '\t' ∨ c = '\r') s.toList

/-- Parts with commas between them. -/
inductive Commas : List String → String → Prop where
  | last {before p after : String} (hbefore : Gap before) (hafter : Gap after) :
      Commas [p] (before ++ p ++ after)
  | more {before p after s : String} {ps : List String} (hbefore : Gap before) (hafter : Gap after)
      (hrest : Commas ps s) : Commas (p :: ps) (before ++ p ++ after ++ "," ++ s)

/-- Parts between brackets. -/
inductive Brackets (opening closing : String) : List String → String → Prop where
  | empty {gap : String} (h : Gap gap) : Brackets opening closing [] (opening ++ gap ++ closing)
  | parts {s : String} {ps : List String} (h : Commas ps s) :
      Brackets opening closing ps (opening ++ s ++ closing)

/-- A list whose elements are written in the given ways. -/
def ListText {α : Type} (element : α → String → Prop) (as : List α) (text : String) : Prop :=
  ∃ parts, List.Forall₂ element as parts ∧ Brackets "[" "]" parts text

theorem ListText.imp {α : Type} {element other : α → String → Prop} {as : List α} {text : String}
    (h : ListText element as text) (himp : ∀ a p, element a p → other a p) :
    ListText other as text := by
  obtain ⟨parts, hparts, hbrackets⟩ := h
  exact ⟨parts, hparts.imp himp, hbrackets⟩

/-- A key and a value with a colon between them. -/
def PairText (key value text : String) : Prop :=
  ∃ before after, Gap before ∧ Gap after ∧ text = key ++ before ++ ":" ++ after ++ value

/-! ## Strings -/

/-- Four hexadecimal digits in letters of either case. -/
def CodeUnit (n : Nat) (digits : List Char) : Prop :=
  n < 65536 ∧ digits.map Char.toLower =
    [n / 4096, n / 256 % 16, n / 16 % 16, n % 16].map Nat.digitChar

/-- The letters that stand for a character after a backslash. -/
def shortEscapes : List (Char × Char) :=
  [('"', '"'), ('\\', '\\'), ('/', '/'), ('b', Char.ofNat 8), ('f', Char.ofNat 12), ('n', '\n'),
    ('r', '\r'), ('t', '\t')]

/-- The ways to write a character of a string: as it is unless it is a quote, a backslash or a
control character, by a letter after a backslash, by its number, or by a pair of numbers if it has
no number of four digits. -/
inductive Letter : Char → List Char → Prop where
  | plain {c : Char} (hcontrol : 32 ≤ c.toNat) (hquote : c ≠ '"') (hbackslash : c ≠ '\\') :
      Letter c [c]
  | short {letter c : Char} (h : (letter, c) ∈ shortEscapes) : Letter c ['\\', letter]
  | unit {c : Char} {digits : List Char} (h : CodeUnit c.toNat digits) :
      Letter c ('\\' :: 'u' :: digits)
  | pair {c : Char} {high low : Nat} {digits more : List Char}
      (hhigh : 0xD800 ≤ high ∧ high ≤ 0xDBFF)
      (hlow : 0xDC00 ≤ low ∧ low ≤ 0xDFFF)
      (hc : c.toNat = (high - 0xD800) * 0x400 + (low - 0xDC00) + 0x10000) (h : CodeUnit high digits)
      (hmore : CodeUnit low more) : Letter c ('\\' :: 'u' :: digits ++ '\\' :: 'u' :: more)

/-- Pieces of a string between quotes. -/
def quoted (pieces : List (List Char)) : String := String.ofList ('"' :: pieces.flatten ++ ['"'])

/-- The ways to write a string. -/
def Quotes (value text : String) : Prop :=
  ∃ pieces, List.Forall₂ Letter value.toList pieces ∧ text = quoted pieces

/-- A string by its grammar alone: a number after a backslash need not be that of a character. -/
def StringText (text : String) : Prop :=
  ∃ pieces, text = quoted pieces ∧ ∀ p ∈ pieces,
    (∃ c, Letter c p) ∨ ∃ n digits, CodeUnit n digits ∧ p = '\\' :: 'u' :: digits

/-! ## Numbers -/

/-- One or more digits. -/
def Digits (ds : List Char) : Prop := ds ≠ [] ∧ ∀ d ∈ ds, d.isDigit

/-- The digits before the point, without leading zeros. -/
def Whole (ds : List Char) : Prop := Digits ds ∧ (ds.head? = some '0' → ds = ['0'])

/-- Nothing, or a point and digits. -/
inductive Fraction : List Char → Prop where
  | none : Fraction []
  | some {ds : List Char} (h : Digits ds) : Fraction ('.' :: ds)

/-- Nothing, or a letter, perhaps a sign, and digits. -/
inductive Exponent : List Char → Prop where
  | none : Exponent []
  | some {letter : Char} {sign ds : List Char} (hletter : letter = 'e' ∨ letter = 'E')
      (hsign : sign = [] ∨ sign = ['+'] ∨ sign = ['-']) (h : Digits ds) :
      Exponent (letter :: (sign ++ ds))

/-- Any number. -/
def NumberText (text : String) : Prop :=
  ∃ sign whole fraction exponent, (sign = [] ∨ sign = ['-']) ∧ Whole whole ∧ Fraction fraction ∧
    Exponent exponent ∧ text.toList = sign ++ (whole ++ (fraction ++ exponent))

/-! ## Values -/

/-- Any value. -/
inductive WellFormed : String → Prop where
  | null : WellFormed "null"
  | true : WellFormed "true"
  | false : WellFormed "false"
  | number {text : String} (h : NumberText text) : WellFormed text
  | string {text : String} (h : StringText text) : WellFormed text
  | list {parts : List String} {text : String} (hparts : ∀ p ∈ parts, WellFormed p)
      (h : Brackets "[" "]" parts text) : WellFormed text
  | object {members : List (String × String)} {parts : List String} {text : String}
      (hkeys : ∀ m ∈ members, StringText m.1) (hvalues : ∀ m ∈ members, WellFormed m.2)
      (hparts : List.Forall₂ (fun m p => PairText m.1 m.2 p) members parts)
      (h : Brackets "\x7b" "\x7d" parts text) : WellFormed text

/-- A member of an object, by its name and the text of its value. -/
def MemberText (name value text : String) : Prop := ∃ key, Quotes name key ∧ PairText key value text

/-- An object with members of any names, whose values are written in the given ways. -/
def TableText {α : Type} (value : α → String → Prop) (entries : List (String × α)) (text : String) :
    Prop :=
  ∃ parts, List.Forall₂ (fun e p => ∃ written, value e.2 written ∧ MemberText e.1 written p)
    entries parts ∧ Brackets "\x7b" "\x7d" parts text

theorem TableText.imp {α : Type} {value other : α → String → Prop} {entries : List (String × α)}
    {text : String} (h : TableText value entries text) (himp : ∀ a p, value a p → other a p) :
    TableText other entries text := by
  obtain ⟨parts, hparts, hbrackets⟩ := h
  refine ⟨parts, hparts.imp ?_, hbrackets⟩
  rintro e part ⟨written, hvalue, hmember⟩
  exact ⟨written, himp e.2 written hvalue, hmember⟩

/-- An object with the given members and any others whose names are not among `names`, in any
order. -/
def RecordText (names : List String) (given : List (String × String)) (text : String) : Prop :=
  ∃ others members parts, (∀ o ∈ others, o.1 ∉ names ∧ WellFormed o.2) ∧
    members.Perm (given ++ others) ∧
    List.Forall₂ (fun m p => MemberText m.1 m.2 p) members parts ∧ Brackets "\x7b" "\x7d" parts text

/-! ## What writers write -/

theorem gap_empty : Gap "" := fun _ hc => absurd hc List.not_mem_nil

theorem gap_lineStart (depth : Nat) : Gap (lineStart depth) := by
  intro c hc
  rw [lineStart, String.toList_append, String.toList_ofList (l := List.replicate _ _)] at hc
  rcases List.mem_append.mp hc with hc | hc
  · exact .inr (.inl (List.mem_singleton.mp hc))
  · exact .inl (List.eq_of_mem_replicate hc)

theorem commas_intercalate {gap after : String} (hgap : Gap gap) (hafter : Gap after) (p : String)
    (ps : List String) :
    Commas (p :: ps) (gap ++ String.intercalate ("," ++ gap) (p :: ps) ++ after) := by
  induction ps generalizing p with
  | nil => exact .last hgap hafter
  | cons q ps ih =>
    have hmore := Commas.more (p := p) hgap gap_empty (ih q)
    rw [String.intercalate_cons_cons]
    simpa only [String.append_empty, String.append_assoc] using hmore

/-- Lines between brackets are parts between brackets. -/
theorem bracketed_layout (opening closing : String) (depth : Nat) (parts : List String) :
    Brackets opening closing parts (bracketed opening closing depth parts) := by
  cases parts with
  | nil =>
    have hempty : Brackets opening closing [] (opening ++ "" ++ closing) := .empty gap_empty
    rwa [String.append_empty] at hempty
  | cons p ps =>
    have hcommas := commas_intercalate (gap_lineStart (depth + 1)) (gap_lineStart depth) p ps
    have hparts : Brackets opening closing (p :: ps) _ := .parts hcommas
    rw [bracketed, if_neg (by simp)]
    simpa only [String.append_assoc] using hparts

theorem letter_escapeChar (c : Char) : Letter c (escapeChar c) := by
  have hunit : ∀ n < 16, CodeUnit n ('0' :: '0' :: '0' :: Text.hex n) := by
    unfold CodeUnit
    decide +kernel
  have hunits : ∀ n < 32, 16 ≤ n → CodeUnit n ('0' :: '0' :: Text.hex n) := by
    unfold CodeUnit
    decide +kernel
  -- a slash has a letter of its own too, but is written as it is
  have hshort : ∀ d ∈ ['"', '\\', Char.ofNat 8, Char.ofNat 12, '\n', '\r', '\t'],
      Letter d (escapeChar d) := by
    simp only [List.forall_mem_cons]
    exact ⟨.short (by decide), .short (by decide), .short (by decide), .short (by decide),
      .short (by decide), .short (by decide), .short (by decide), List.forall_mem_nil _⟩
  by_cases hc : c ∈ ['"', '\\', Char.ofNat 8, Char.ofNat 12, '\n', '\r', '\t']
  · exact hshort c hc
  simp only [List.mem_cons, not_or] at hc
  obtain ⟨hquote, hbackslash, hback, hfeed, hline, hreturn, htab, -⟩ := hc
  rw [escapeChar, if_neg hquote, if_neg hbackslash, if_neg hback, if_neg hfeed, if_neg hline,
    if_neg hreturn, if_neg htab]
  by_cases hlow : c.toNat < 16
  · rw [if_pos hlow]
    exact .unit (hunit c.toNat hlow)
  by_cases hcontrol : c.toNat < 32
  · rw [if_neg hlow, if_pos hcontrol]
    exact .unit (hunits c.toNat hcontrol (Nat.not_lt.mp hlow))
  · rw [if_neg hlow, if_neg hcontrol]
    exact .plain (Nat.not_lt.mp hcontrol) hquote hbackslash

/-- Every character is written in one of its ways. -/
theorem quotes_stringText (s : String) : Quotes s (stringText s) := by
  refine ⟨s.toList.map escapeChar, ?_, ?_⟩
  · exact List.forall₂_map_right_iff.mpr (List.forall₂_same.mpr fun c _ => letter_escapeChar c)
  · rw [quoted, stringText, List.flatMap_def]

namespace Writer

variable {α : Type}

theorem listText_list {element : α → String → Prop} {w : α → Writer} {as : List α} {depth : Nat}
    (h : ∀ a ∈ as, element a (w a (depth + 1))) : ListText element as (list (as.map w) depth) := by
  refine ⟨_, ?_, bracketed_layout "[" "]" depth _⟩
  rw [List.map_map]
  exact List.forall₂_map_right_iff.mpr (List.forall₂_same.mpr h)

theorem memberText (name value : String) :
    MemberText name value (stringText name ++ ": " ++ value) := by
  refine ⟨_, quotes_stringText name, "", " ", gap_empty, ?_, ?_⟩
  · intro c hc
    exact .inl (List.mem_singleton.mp hc)
  · rw [String.append_empty, @String.append_assoc (stringText name) ":" " "]
    rfl

theorem tableText_object {value : α → String → Prop} {w : α → Writer}
    {entries : List (String × α)} {depth : Nat}
    (h : ∀ e ∈ entries, value e.2 (w e.2 (depth + 1))) :
    TableText value entries (object (entries.map fun e => (e.1, w e.2)) depth) := by
  refine ⟨_, ?_, bracketed_layout "\x7b" "\x7d" depth _⟩
  rw [List.map_map]
  exact List.forall₂_map_right_iff.mpr
    (List.forall₂_same.mpr fun e he => ⟨_, h e he, memberText e.1 _⟩)

theorem recordText_object (names : List String) (members : List (String × Writer)) (depth : Nat) :
    RecordText names (members.map fun m => (m.1, m.2 (depth + 1))) (object members depth) := by
  refine ⟨[], members.map fun m => (m.1, m.2 (depth + 1)), _, List.forall_mem_nil _, ?_, ?_,
    bracketed_layout "\x7b" "\x7d" depth _⟩
  · rw [List.append_nil]
  · rw [List.forall₂_map_left_iff, List.forall₂_map_right_iff]
    exact List.forall₂_same.mpr fun m _ => memberText m.1 _

end Writer

end BlockCoverage.Json
