import BlockCoverage.Json.Skip
import BlockCoverage.Proofs.Json.Inverse

/-!
# Values that are passed over

A field that a record does not know may hold any value at all. The value is passed over without
being read: only brackets are kept, innermost first. Whatever brackets are open around it, a
well-formed value is passed over as a whole, and what stands after it is gone on with as if a
literal had stood there (`WellFormed.skips`). The induction is on the value, with the open brackets
arbitrary.
-/

namespace BlockCoverage.Json

open Text (Bytes)

/-! ## Strings -/

theorem passText_append {bs : Bytes} (h : ∀ b ∈ bs, Plain b) (s : Bytes) :
    passText (bs ++ s) = passText s := by
  induction bs with
  | nil => rfl
  | cons b bs ih =>
    obtain ⟨hquote, hbackslash, hcontrol⟩ := h b List.mem_cons_self
    rw [List.cons_append, passText, if_neg hquote, if_neg hbackslash, if_neg hcontrol,
      ih fun c hc => h c (List.mem_cons_of_mem b hc)]

theorem passText_escape {s t : Bytes} (h : passEscape s = .ok t) :
    passText (92 :: s) = passText t := by
  rw [passText, if_neg (by decide), if_pos rfl]
  split <;> rename_i he <;> rw [h] at he <;> cases he
  rfl

theorem passText_unit {n : Nat} {digits : List Char} (h : CodeUnit n digits) (s : Bytes) :
    passText (('\\' :: 'u' :: digits).flatMap String.utf8EncodeChar ++ s) = passText s := by
  have hescape : passEscape (117 :: (digits.flatMap String.utf8EncodeChar ++ s)) = .ok s := by
    rw [passEscape, h.hexFour]
    rfl
  exact passText_escape hescape

/-- However a character is written, it is passed over. -/
theorem passText_letter {c : Char} {piece : List Char} (h : Letter c piece) (s : Bytes) :
    passText (piece.flatMap String.utf8EncodeChar ++ s) = passText s := by
  cases h with
  | plain hcontrol hquote hbackslash =>
    rw [List.flatMap_singleton]
    exact passText_append (plain_utf8EncodeChar hquote hbackslash hcontrol) s
  | @short letter c hshort =>
    have hpass : ∀ e ∈ shortEscapes, ∀ s, passEscape (String.utf8EncodeChar e.1 ++ s) = .ok s := by
      simp only [shortEscapes, List.forall_mem_cons]
      exact ⟨fun _ => rfl, fun _ => rfl, fun _ => rfl, fun _ => rfl, fun _ => rfl, fun _ => rfl,
        fun _ => rfl, fun _ => rfl, List.forall_mem_nil _⟩
    rw [List.flatMap_cons, List.flatMap_singleton, List.append_assoc]
    exact passText_escape (hpass _ hshort s)
  | unit hunit => exact passText_unit hunit s
  | pair _ _ _ hunit hmore =>
    rw [List.flatMap_append, List.append_assoc, passText_unit hunit, passText_unit hmore]

/-- A string in a document is a quote, and then what is passed over. -/
theorem StringText.exists_passText {text : String} (h : StringText text) (rest : Bytes) :
    ∃ body, Text.Utf8.encode text ++ rest = 34 :: body ∧ passText body = .ok rest := by
  obtain ⟨pieces, rfl, hpieces⟩ := h
  refine ⟨_, encode_quoted pieces rest, ?_⟩
  induction pieces with
  | nil => rw [List.flatten_nil, List.flatMap_nil, List.nil_append, passText, if_pos rfl]
  | cons piece pieces ih =>
    obtain ⟨hpiece, hmore⟩ := List.forall_mem_cons.mp hpieces
    rw [List.flatten_cons, List.flatMap_append, List.append_assoc]
    obtain ⟨c, hletter⟩ | ⟨n, digits, hunit, hpiece⟩ := hpiece
    · rw [passText_letter hletter, ih hmore]
    · rw [hpiece, passText_unit hunit, ih hmore]

/-! ## Numbers -/

/-- Octets before which a run of digits ends. -/
def Stops (s : Bytes) : Prop := ∀ b ∈ s.head?, isDigit b = false

theorem dropDigits_append {ds : List Char} (h : ∀ d ∈ ds, d.isDigit) {s : Bytes} (hs : Stops s) :
    dropDigits (ds.flatMap String.utf8EncodeChar ++ s) = s := by
  rw [flatMap_digits h, dropDigits, List.dropWhile_append_of_pos (isDigit_digitOctets h)]
  cases s with
  | nil => rfl
  | cons b s => exact List.dropWhile_cons_of_neg (by rw [hs b rfl]; decide)

/-- Digits are a digit and more of them. -/
theorem Digits.exists_cons {ds : List Char} (h : Digits ds) (s : Bytes) :
    ∃ d more, ds.flatMap String.utf8EncodeChar ++ s = UInt8.ofNat d.toNat :: more ∧
      d ∈ ds.head? ∧ isDigit (UInt8.ofNat d.toNat) = true ∧ (Stops s → dropDigits more = s) := by
  obtain ⟨hne, hds⟩ := h
  obtain ⟨d, ds, rfl⟩ := List.exists_cons_of_ne_nil hne
  refine ⟨d, ds.flatMap String.utf8EncodeChar ++ s, ?_, rfl, ?_, ?_⟩
  · rw [flatMap_digits hds, flatMap_digits fun e he => hds e (List.mem_cons_of_mem d he)]
    rfl
  · exact isDigit_digitOctets hds _ (List.mem_map_of_mem List.mem_cons_self)
  · exact dropDigits_append fun e he => hds e (List.mem_cons_of_mem d he)

theorem Ends.stops {s : Bytes} (h : Ends s) : Stops s := by
  cases s with
  | nil => exact fun b hb => by cases hb
  | cons b s => exact fun c hc => Option.some.inj hc ▸ h.octet.1

theorem passNumberTail_ends {rest : Bytes} (h : Ends rest) : passNumberTail rest = .ok rest := by
  cases rest with
  | nil => rfl
  | cons b rest =>
    obtain ⟨-, hpoint, hsmall, hlarge⟩ := h.octet
    rw [passNumberTail, if_neg hpoint, if_neg (not_or.mpr ⟨hsmall, hlarge⟩)]

theorem passExponent_digits {sign ds : List Char} (hsign : sign = [] ∨ sign = ['+'] ∨ sign = ['-'])
    (h : Digits ds) {rest : Bytes} (hends : Ends rest) :
    passExponent ((sign ++ ds).flatMap String.utf8EncodeChar ++ rest) = .ok rest := by
  obtain ⟨d, more, hmore, -, hd, hdrop⟩ := h.exists_cons rest
  have hdropSign : dropSign ((sign ++ ds).flatMap String.utf8EncodeChar ++ rest) =
      UInt8.ofNat d.toNat :: more := by
    rw [List.flatMap_append, List.append_assoc, hmore]
    rcases hsign with rfl | rfl | rfl
    · -- a digit is no sign
      exact if_neg (not_or.mpr ⟨ne_of_isDigit hd rfl, ne_of_isDigit hd rfl⟩)
    · rfl
    · rfl
  rw [passExponent, hdropSign]
  simp only [hd, if_true, hdrop hends.stops]

theorem passFraction_digits {ds : List Char} (h : Digits ds) {t : Bytes} (ht : Stops t)
    (hpoint : ∀ b ∈ t.head?, b ≠ 46) :
    passFraction (ds.flatMap String.utf8EncodeChar ++ t) = passNumberTail t := by
  obtain ⟨d, more, hmore, -, hd, -⟩ := h.exists_cons t
  have hdrop := dropDigits_append h.2 ht
  rw [hmore] at hdrop ⊢
  rw [passFraction]
  simp only [hd, Bool.not_true, Bool.false_eq_true, if_false, hdrop]
  -- the tail of a number may have a point, but not after the one that has been passed
  cases t with
  | nil => rfl
  | cons b t => rw [passNumberTail, if_neg (hpoint b rfl)]

theorem passNumber_whole {whole : List Char} (h : Whole whole) {t : Bytes} (ht : Stops t) :
    passNumber (whole.flatMap String.utf8EncodeChar ++ t) = passNumberTail t := by
  obtain ⟨d, more, hmore, hhead, hd, hdrop⟩ := h.1.exists_cons t
  by_cases hzero : d = '0'
  · -- a zero stands alone
    have hwhole : whole = ['0'] := h.2 (hzero ▸ hhead)
    have hnumber : passNumber (48 :: t) = passNumberTail t := by
      cases t with
      | nil => rfl
      | cons b t =>
        rw [passNumber.eq_def]
        simp only [if_true, ht b rfl, Bool.false_eq_true, if_false]
    rwa [hwhole]
  · have hne : UInt8.ofNat d.toNat ≠ 48 := by
      intro hd48
      have hdigit := h.1.2 d (List.mem_of_mem_head? hhead)
      have ht := toNat_digitOctet hdigit
      rw [hd48] at ht
      exact hzero (Char.toNat_inj.mp ht.symm)
    rw [hmore, passNumber.eq_def]
    simp only [if_neg hne, if_pos hd, hdrop ht]

/-- What may follow the digits before the point, or those after it. -/
theorem Exponent.passNumberTail {exponent : List Char} (h : Exponent exponent) {rest : Bytes}
    (hends : Ends rest) :
    let t := exponent.flatMap String.utf8EncodeChar ++ rest
    Stops t ∧ (∀ b ∈ t.head?, b ≠ 46) ∧ Json.passNumberTail t = .ok rest := by
  cases h with
  | none =>
    refine ⟨hends.stops, ?_, passNumberTail_ends hends⟩
    cases rest with
    | nil => exact fun b hb => by cases hb
    | cons b rest => exact fun c hc => Option.some.inj hc ▸ hends.octet.2.1
  | @some letter sign ds hletter hsign hdigits =>
    have hexponent := passExponent_digits hsign hdigits hends
    rcases hletter with rfl | rfl <;>
      refine ⟨fun b hb => ?_, fun b hb => ?_, hexponent⟩ <;>
      · obtain rfl := Option.some.inj hb
        decide

theorem Fraction.passNumberTail {fraction exponent : List Char} (h : Fraction fraction)
    (hexponent : Exponent exponent) {rest : Bytes} (hends : Ends rest) :
    let t := fraction.flatMap String.utf8EncodeChar ++
      (exponent.flatMap String.utf8EncodeChar ++ rest)
    Stops t ∧ Json.passNumberTail t = .ok rest := by
  obtain ⟨hstops, hpoint, htail⟩ := hexponent.passNumberTail hends
  cases h with
  | none => exact ⟨hstops, htail⟩
  | some hdigits =>
    refine ⟨fun b hb => ?_, ?_⟩
    · obtain rfl := Option.some.inj hb
      decide
    · exact (passFraction_digits hdigits hstops hpoint).trans htail

/-- A number is a minus sign or a digit, and passed over to its end. -/
theorem NumberText.exists_passNumber {text : String} (h : NumberText text) {rest : Bytes}
    (hends : Ends rest) :
    ∃ b s, Text.Utf8.encode text ++ rest = b :: s ∧
      (b = 45 ∧ passNumber s = .ok rest ∨ isDigit b = true ∧ passNumber (b :: s) = .ok rest) := by
  obtain ⟨sign, whole, fraction, exponent, hsign, hwhole, hfraction, hexponent, htext⟩ := h
  obtain ⟨hstops, htail⟩ := hfraction.passNumberTail hexponent hends
  have hnumber := (passNumber_whole hwhole hstops).trans htail
  rw [Text.Utf8.encode, htext]
  simp only [List.flatMap_append, List.append_assoc]
  rcases hsign with rfl | rfl
  · obtain ⟨d, more, hmore, -, hd, -⟩ := hwhole.1.exists_cons
      (fraction.flatMap String.utf8EncodeChar ++ (exponent.flatMap String.utf8EncodeChar ++ rest))
    rw [hmore] at hnumber
    exact ⟨_, more, hmore, .inr ⟨hd, hnumber⟩⟩
  · exact ⟨45, _, rfl, .inl ⟨rfl, hnumber⟩⟩

/-! ## Starts of values -/

theorem passStart_literal {text : String} (h : text = "null" ∨ text = "true" ∨ text = "false")
    {s rest : Bytes} (hs : skipBlank s = Text.Utf8.encode text ++ rest) :
    passStart s = .ok (.done rest) := by
  rcases h with rfl | rfl | rfl <;>
  · rw [passStart, hs]
    rfl

theorem passStart_number {text : String} (h : NumberText text) {s rest : Bytes} (hends : Ends rest)
    (hs : skipBlank s = Text.Utf8.encode text ++ rest) : passStart s = .ok (.done rest) := by
  obtain ⟨b, t, htext, hnumber⟩ := h.exists_passNumber hends
  rw [htext] at hs
  rw [passStart, hs]
  simp only
  obtain ⟨rfl, hnumber⟩ | ⟨hdigit, hnumber⟩ := hnumber
  · rw [hnumber]
    rfl
  · have hne : ∀ c, isDigit c = false → b ≠ c := fun c hc => ne_of_isDigit hdigit hc
    rw [if_neg (hne 110 rfl), if_neg (hne 116 rfl), if_neg (hne 102 rfl), if_neg (hne 45 rfl),
      if_pos hdigit, hnumber]
    rfl

theorem passStart_string {text : String} (h : StringText text) {s rest : Bytes}
    (hs : skipBlank s = Text.Utf8.encode text ++ rest) : passStart s = .ok (.done rest) := by
  obtain ⟨body, hbody, hpass⟩ := h.exists_passText rest
  rw [passStart, hs, hbody]
  show (passText body).map Step.done = .ok (.done rest)
  rw [hpass]
  rfl

/-! ## The open brackets -/

/-- What closes a bracket. -/
def Bracket.closing : Bracket → UInt8
  | list => 93
  | object => 125

/-- Passes over the next part inside the given open brackets, and everything up to their closing. -/
def nextPart (opened : List Bracket) (s : Bytes) : Except Halt Bytes :=
  if opened.head? = some .object then
    match passKey s with
    | .error e => .error e
    | .ok rest => passValue opened rest
  else passValue opened s

/-- Goes on after a value, or behind a bracket just opened. -/
def resume (comma : Bool) (opened : List Bracket) (s : Bytes) : Except Halt Bytes :=
  match passClosing comma opened s with
  | .error e => .error e
  | .ok (none, rest) => .ok rest
  | .ok (some opened, rest) => nextPart opened rest

theorem passValue_start {s : Bytes} {step : Step} (opened : List Bracket)
    (h : passStart s = .ok step) :
    passValue opened s =
      match step with
      | .done t => resume true opened t
      | .opened b t => resume false (b :: opened) t := by
  rw [passValue]
  split <;> rename_i hstep <;> rw [h] at hstep <;> cases hstep
  cases step <;>
  · simp only [Step.rest, resume]
    split <;> rename_i hclosing <;> simp only [hclosing, nextPart]
    split
    · cases passKey _ <;> rfl
    · rfl

section Resume

variable {b : Bracket} {s t : Bytes} (opened : List Bracket)

theorem resume_close {comma : Bool} (hs : skipBlank s = b.closing :: t) :
    resume comma (b :: opened) s = resume true opened t := by
  have hclosing : passClosing comma (b :: opened) s = passClosing true opened t := by
    rw [passClosing.eq_def]
    simp only [hs]
    cases b <;> simp [Bracket.closing]
  rw [resume, hclosing, resume]

theorem resume_comma (hs : skipBlank s = 44 :: t) :
    resume true (b :: opened) s = nextPart (b :: opened) t := by
  rw [resume, passClosing.eq_def]
  simp only [hs]
  rfl

theorem resume_first {c : UInt8} (hc : c ≠ b.closing) (hs : skipBlank s = c :: t) :
    resume false (b :: opened) s = nextPart (b :: opened) (c :: t) := by
  rw [resume, passClosing.eq_def]
  simp only [hs]
  cases b <;> simp_all [Bracket.closing]

end Resume

/-- A value that is passed over: with any brackets open, what follows it is gone on with. -/
structure Skips (text : String) : Prop where
  starts : Starts text
  skips : ∀ ⦃opened : List Bracket⦄ ⦃s rest : Bytes⦄, Ends rest →
    skipBlank s = Text.Utf8.encode text ++ rest → passValue opened s = resume true opened rest

/-- A part inside a bracket that is passed over. -/
structure SkipsIn (b : Bracket) (part : Bytes) : Prop where
  starts : ∃ c t, part = c :: t ∧ isBlank c = false ∧ c ≠ b.closing
  skips : ∀ ⦃opened : List Bracket⦄ ⦃s rest : Bytes⦄, Ends rest →
    skipBlank s = part ++ rest → nextPart (b :: opened) s = resume true (b :: opened) rest

/-- The parts between two brackets are passed over one by one. -/
theorem resume_lines {b : Bracket} {first : Bool} {parts : List Bytes} {s rest : Bytes}
    (hlines : Lines b.closing first parts s rest) (hparts : ∀ p ∈ parts, SkipsIn b p)
    (opened : List Bracket) : resume (!first) (b :: opened) s = resume true opened rest := by
  -- only the first part stands right behind the bracket; every other one has a comma before it
  induction hlines with
  | close hs => exact resume_close opened hs
  | @first p ps s t rest hs hends _ ih =>
    obtain ⟨hpart, hmore⟩ := List.forall_mem_cons.mp hparts
    obtain ⟨c, more, rfl, hvisible, hc⟩ := hpart.starts
    calc resume false (b :: opened) s = nextPart (b :: opened) (c :: (more ++ t)) :=
          resume_first opened hc hs
      _ = resume true (b :: opened) t := hpart.skips hends (skipBlank_cons hvisible (more ++ t))
      _ = resume true opened rest := ih hmore
  | next hcomma hs hends _ ih =>
    obtain ⟨hpart, hmore⟩ := List.forall_mem_cons.mp hparts
    rw [Bool.not_false, resume_comma opened hcomma, hpart.skips hends hs]
    exact ih hmore

theorem Skips.inList {text : String} (h : Skips text) : SkipsIn .list (Text.Utf8.encode text) where
  starts := h.starts
  skips _ _ _ hends hs := h.skips hends hs

theorem Skips.inObject {key value part : String} (h : Skips value) (hkey : StringText key)
    (hpair : PairText key value part) : SkipsIn .object (Text.Utf8.encode part) where
  -- the part of an object begins with the quote of its key
  starts := by
    obtain ⟨u, -, hpart, -⟩ := hpair.exists_colon h.starts []
    obtain ⟨body, hbody, -⟩ := hkey.exists_passText u
    rw [List.append_nil] at hpart
    exact ⟨34, body, hpart.trans hbody, rfl, by decide⟩
  skips opened s rest hends hs := by
    obtain ⟨u, v, hpart, hcolon, hv⟩ := hpair.exists_colon h.starts rest
    obtain ⟨body, hbody, hpass⟩ := hkey.exists_passText u
    have hpassKey : passKey s = .ok v := by
      rw [passKey, hs, hpart, hbody]
      simp only [ne_eq, not_true_eq_false, if_false, hpass, hcolon, if_true]
    rw [nextPart]
    simp only [List.head?_cons, if_true, hpassKey]
    exact h.skips hends hv

theorem skips_of_passStart {text : String} (hstarts : Starts text)
    (h : ∀ ⦃s rest : Bytes⦄, Ends rest → skipBlank s = Text.Utf8.encode text ++ rest →
      passStart s = .ok (.done rest)) : Skips text where
  starts := hstarts
  skips opened _ _ hends hs := passValue_start opened (h hends hs)

theorem skips_list {parts : List String} {text : String} (h : Brackets "[" "]" parts text)
    (hparts : ∀ p ∈ parts, Skips p) : Skips text := by
  have hencloses := h.encloses_list fun p hp => (hparts p hp).starts.visible
  refine ⟨hencloses.starts rfl (by decide), ?_⟩
  intro opened s rest _ hs
  obtain ⟨t, ht, hlines⟩ := hencloses rest
  have hstart : passStart s = .ok (.opened .list t) := by
    rw [passStart, hs, ht]
    rfl
  rw [passValue_start opened hstart]
  refine resume_lines (b := .list) hlines ?_ opened
  exact List.forall_mem_map.mpr fun p hp => (hparts p hp).inList

theorem skips_object {parts : List String} {text : String} (h : Brackets "\x7b" "\x7d" parts text)
    (hparts : ∀ p ∈ parts, SkipsIn .object (Text.Utf8.encode p)) : Skips text := by
  have hencloses := h.encloses_object fun p hp => by
    obtain ⟨c, t, hpart, hvisible, -⟩ := (hparts p hp).starts
    exact ⟨c, t, hpart, hvisible⟩
  refine ⟨hencloses.starts rfl (by decide), ?_⟩
  intro opened s rest _ hs
  obtain ⟨t, ht, hlines⟩ := hencloses rest
  have hstart : passStart s = .ok (.opened .object t) := by
    rw [passStart, hs, ht]
    rfl
  rw [passValue_start opened hstart]
  refine resume_lines (b := .object) hlines ?_ opened
  exact List.forall_mem_map.mpr hparts

theorem NumberText.starts {text : String} (h : NumberText text) : Starts text := by
  obtain ⟨b, s, htext, hb⟩ := h.exists_passNumber ends_nil
  rw [List.append_nil] at htext
  obtain ⟨rfl, -⟩ | ⟨hdigit, -⟩ := hb
  · exact ⟨45, s, htext, rfl, by decide⟩
  · exact ⟨b, s, htext, isBlank_of_isDigit hdigit, ne_of_isDigit hdigit rfl⟩

theorem StringText.starts {text : String} (h : StringText text) : Starts text := by
  obtain ⟨body, hbody, -⟩ := h.exists_passText []
  rw [List.append_nil] at hbody
  exact ⟨34, body, hbody, rfl, by decide⟩

/-- A well-formed value is passed over, whatever brackets are open around it. -/
theorem WellFormed.skips {text : String} (h : WellFormed text) : Skips text := by
  induction h with
  | null =>
    exact skips_of_passStart ⟨110, _, rfl, rfl, by decide⟩ fun _ _ _ => passStart_literal (.inl rfl)
  | true =>
    exact skips_of_passStart ⟨116, _, rfl, rfl, by decide⟩
      fun _ _ _ => passStart_literal (.inr (.inl rfl))
  | false =>
    exact skips_of_passStart ⟨102, _, rfl, rfl, by decide⟩
      fun _ _ _ => passStart_literal (.inr (.inr rfl))
  | number h => exact skips_of_passStart h.starts fun _ _ hends hs => passStart_number h hends hs
  | string h => exact skips_of_passStart h.starts fun _ _ _ hs => passStart_string h hs
  | list _ h ih => exact skips_list h ih
  | object hkeys _ hparts h ih =>
    have hmembers := (List.forall₂_and_left _ _).mpr
      ⟨fun m hm => And.intro (hkeys m hm) (ih m hm), hparts⟩
    exact skips_object h
      (forall_mem_parts hmembers fun _ _ ⟨⟨hkey, hvalue⟩, hpair⟩ => hvalue.inObject hkey hpair)

theorem skip_wellFormed {text : String} (h : WellFormed text) {s rest : Bytes} (hends : Ends rest)
    (hs : skipBlank s = Text.Utf8.encode text ++ rest) : skip s = .ok rest :=
  h.skips.skips hends hs

end BlockCoverage.Json
