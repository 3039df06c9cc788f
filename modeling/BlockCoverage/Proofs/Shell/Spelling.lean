import BlockCoverage.Proofs.Number.Counts
import BlockCoverage.Proofs.Text.Words
import BlockCoverage.Shell.Command
import Mathlib.Data.List.Forall2

/-!
# The spellings of a command

A command is typed as a verb and its arguments in a fixed order. The arguments are written as they
are, lines as counts; the verb may be any of its words in letters of either case; blanks may stand
wherever words are cut. `Command.takes_iff` says which words a command takes as its arguments, and
`Command.parse_eq_ok_iff` which texts are read as a command: reading is exact, but for words that
commands without arguments ignore and for letters that are lowered to a verb in other ways.
-/

namespace BlockCoverage.Shell

open Text (IsWord Spaced)

/-! ## Verbs -/

/-- The verb of a command. -/
def Command.verb : Command → Verb
  | .summary => .summary
  | .functions _ => .functions
  | .blocks _ _ => .blocks
  | .ratio _ _ => .ratio
  | .source _ _ => .source
  | .line _ _ _ => .line
  | .declaring _ _ => .declaring
  | .run _ => .run
  | .merge _ => .merge
  | .reset => .reset
  | .dump _ => .dump
  | .help => .help
  | .quit => .quit

/-- No word is for two verbs. -/
theorem Verb.ofWord?_eq_some_iff {word : String} {verb : Verb} :
    ofWord? word = some verb ↔ word ∈ verb.words := by
  have hwords : ∀ v : Verb, ∀ w ∈ v.words, ofWord? w = some v := by
    intro v
    cases v <;> decide +kernel
  constructor
  · intro h
    simpa using List.find?_some h
  · exact hwords verb word

theorem Verb.ascii_of_mem_words {verb : Verb} {word : String} (h : word ∈ verb.words) :
    word ≠ "" ∧ ∀ c ∈ word.toList, c.toNat < 128 ∧ Text.isBlank c = false := by
  have hwords : ∀ v : Verb, ∀ w ∈ v.words,
      w ≠ "" ∧ w.toList.all (fun c => decide (c.toNat < 128) && !Text.isBlank c) = true := by
    intro v
    cases v <;> decide +kernel
  simpa using hwords verb word h

/-! ## Arguments -/

/-- An argument of a command. -/
inductive Argument where
  /-- A function, a file, a filter or a path. -/
  | name (text : String)
  /-- A line. -/
  | line (number : UInt32)

/-- How an argument is typed: names as they are, lines as counts. -/
def Argument.WrittenAs : Argument → String → Prop
  | name text, token => text = token
  | line number, token => Number.Typed number token

namespace Command

/-- The arguments of a command, in the order in which they are typed. -/
def arguments : Command → List Argument
  | .functions filter => filter.toList.map .name
  | .blocks function file | .ratio function file | .source function file =>
    (function :: file.toList).map .name
  | .line function number file => .name function :: .line number :: file.toList.map .name
  | .declaring file number => [.name file, .line number]
  | .run path | .merge path | .dump path => [path].map .name
  | .summary | .reset | .help | .quit => []

/-- Whether words after the arguments of a command are ignored. -/
def ignoresRest : Command → Bool
  | .summary | .functions (some _) | .reset | .help | .quit => true
  | .functions none | .blocks _ _ | .ratio _ _ | .source _ _ | .line _ _ _ | .declaring _ _
  | .run _ | .merge _ | .dump _ => false

/-- Whether words begin with the arguments of a command, and end with them too unless the command
ignores the rest. -/
def Takes (c : Command) (tokens : List String) : Prop :=
  ∃ used ignored, tokens = used ++ ignored ∧ List.Forall₂ Argument.WrittenAs c.arguments used ∧
    (ignored ≠ [] → c.ignoresRest = true)

theorem takes_of_forall₂ {c : Command} {tokens : List String}
    (h : List.Forall₂ Argument.WrittenAs c.arguments tokens) : c.Takes tokens :=
  ⟨tokens, [], (List.append_nil tokens).symm, h, fun hne => absurd rfl hne⟩

theorem takes_iff_of_not_ignoresRest {c : Command} (h : c.ignoresRest = false)
    {tokens : List String} :
    c.Takes tokens ↔ List.Forall₂ Argument.WrittenAs c.arguments tokens := by
  refine ⟨?_, takes_of_forall₂⟩
  rintro ⟨used, ignored, rfl, hused, hignored⟩
  have hnil : ignored = [] := by
    by_contra hne
    rw [hignored hne] at h
    cases h
  rwa [hnil, List.append_nil]

theorem forall₂_names {names tokens : List String} :
    List.Forall₂ Argument.WrittenAs (names.map .name) tokens ↔ names = tokens := by
  rw [List.forall₂_map_left_iff]
  show List.Forall₂ (· = ·) names tokens ↔ names = tokens
  rw [List.forall₂_eq_eq_eq]

/-- A command with names for arguments takes them as they are. -/
theorem takes_names {c : Command} (names : List String) (hnames : c.arguments = names.map .name)
    (h : c.ignoresRest = false) {tokens : List String} : c.Takes tokens ↔ names = tokens := by
  rw [takes_iff_of_not_ignoresRest h, hnames, forall₂_names]

/-- A command without arguments takes any words. -/
theorem takes_of_arguments_eq_nil {c : Command} (hnil : c.arguments = []) (h : c.ignoresRest = true)
    (tokens : List String) : c.Takes tokens :=
  ⟨[], tokens, rfl, by rw [hnil]; exact .nil, fun _ => h⟩

/-- A listing takes its first word as the filter. -/
theorem takes_functions {filter : Option String} {tokens : List String} :
    (functions filter).Takes tokens ↔ filter = tokens.head? := by
  cases filter with
  | none => rw [takes_names [] rfl rfl, eq_comm, eq_comm (a := none), List.head?_eq_none_iff]
  | some filter =>
    constructor
    · rintro ⟨used, ignored, rfl, hused, -⟩
      obtain rfl : [filter] = used := forall₂_names.mp hused
      rfl
    · intro hhead
      obtain ⟨ignored, rfl⟩ := List.head?_eq_some_iff.mp hhead.symm
      exact ⟨[filter], ignored, rfl, forall₂_names.mpr rfl, fun _ => rfl⟩

/-! ## Readers of arguments -/

theorem lineNumber_eq_ok_iff {text : String} {n : UInt32} :
    lineNumber text = .ok n ↔ Number.Typed n text := by
  rw [lineNumber, ← Number.readWord?_eq_some_iff]
  cases Number.readWord? text with
  | none => exact iff_of_false nofun nofun
  | some m =>
    exact ⟨fun h => congrArg some (Except.ok.inj h), fun h => congrArg _ (Option.some.inj h)⟩

theorem functionArguments_eq_ok_iff {word : String} {make : String → Option String → Command}
    {tokens : List String} {c : Command} :
    functionArguments word make tokens = .ok c ↔
      ∃ function file, c = make function file ∧ function :: file.toList = tokens := by
  constructor
  · intro h
    rw [functionArguments.eq_def] at h
    split at h
    · exact ⟨_, none, (Except.ok.inj h).symm, rfl⟩
    · exact ⟨_, some _, (Except.ok.inj h).symm, rfl⟩
    · cases h
  · rintro ⟨function, file, rfl, rfl⟩
    cases file <;> rfl

theorem pathArgument_eq_ok_iff {word : String} {make : String → Command} {tokens : List String}
    {c : Command} :
    pathArgument word make tokens = .ok c ↔ ∃ path, c = make path ∧ [path] = tokens := by
  constructor
  · intro h
    rw [pathArgument.eq_def] at h
    split at h
    · exact ⟨_, (Except.ok.inj h).symm, rfl⟩
    · cases h
  · rintro ⟨path, rfl, rfl⟩
    rfl

theorem map_lineNumber_eq_ok_iff {text : String} {make : UInt32 → Command} {c : Command} :
    (lineNumber text).map make = .ok c ↔ ∃ n, c = make n ∧ Number.Typed n text := by
  constructor
  · intro h
    cases hread : lineNumber text with
    | error fault =>
      rw [hread] at h
      cases h
    | ok n =>
      rw [hread] at h
      exact ⟨n, (Except.ok.inj h).symm, lineNumber_eq_ok_iff.mp hread⟩
  · rintro ⟨n, rfl, htyped⟩
    rw [lineNumber_eq_ok_iff.mpr htyped]
    rfl

theorem lineArguments_eq_ok_iff {tokens : List String} {c : Command} :
    lineArguments tokens = .ok c ↔
      ∃ function text n file, Number.Typed n text ∧ c = .line function n file ∧
        function :: text :: file.toList = tokens := by
  constructor
  · intro h
    rw [lineArguments.eq_def] at h
    split at h
    · obtain ⟨n, hc, htyped⟩ := map_lineNumber_eq_ok_iff.mp h
      exact ⟨_, _, n, none, htyped, hc, rfl⟩
    · obtain ⟨n, hc, htyped⟩ := map_lineNumber_eq_ok_iff.mp h
      exact ⟨_, _, n, some _, htyped, hc, rfl⟩
    · cases h
  · rintro ⟨function, text, n, file, htyped, rfl, rfl⟩
    cases file <;> exact map_lineNumber_eq_ok_iff.mpr ⟨n, rfl, htyped⟩

theorem placeArguments_eq_ok_iff {tokens : List String} {c : Command} :
    placeArguments tokens = .ok c ↔
      ∃ file text n, Number.Typed n text ∧ c = .declaring file n ∧ [file, text] = tokens := by
  constructor
  · intro h
    rw [placeArguments.eq_def] at h
    split at h
    · obtain ⟨n, hc, htyped⟩ := map_lineNumber_eq_ok_iff.mp h
      exact ⟨_, _, n, htyped, hc, rfl⟩
    · cases h
  · rintro ⟨file, text, n, htyped, rfl, rfl⟩
    exact map_lineNumber_eq_ok_iff.mpr ⟨n, rfl, htyped⟩

/-! ## Whole commands -/

theorem verb_of_ofVerb {verb : Verb} {word : String} {tokens : List String} {c : Command}
    (h : ofVerb verb word tokens = .ok c) : c.verb = verb := by
  cases verb with
  | summary | functions | reset | help | quit =>
    obtain rfl := Except.ok.inj h
    rfl
  | blocks | ratio | source =>
    obtain ⟨_, _, rfl, -⟩ := functionArguments_eq_ok_iff.mp h
    rfl
  | line =>
    obtain ⟨_, _, _, _, -, rfl, -⟩ := lineArguments_eq_ok_iff.mp h
    rfl
  | declaring =>
    obtain ⟨_, _, _, -, rfl, -⟩ := placeArguments_eq_ok_iff.mp h
    rfl
  | run | merge | dump =>
    obtain ⟨_, rfl, -⟩ := pathArgument_eq_ok_iff.mp h
    rfl

/-- The words that are read as the arguments of a command are those that it takes. -/
theorem ofVerb_eq_ok_iff {word : String} {tokens : List String} {c : Command} :
    ofVerb c.verb word tokens = .ok c ↔ c.Takes tokens := by
  cases c with
  | summary | reset | help | quit =>
    exact iff_of_true rfl (takes_of_arguments_eq_nil rfl rfl tokens)
  | functions filter =>
    rw [takes_functions]
    exact ⟨fun h => (Command.functions.inj (Except.ok.inj h)).symm, fun h => h ▸ rfl⟩
  | blocks function file | ratio function file | source function file =>
    rw [takes_names (function :: file.toList) rfl rfl]
    refine functionArguments_eq_ok_iff.trans ?_
    simp
  | line function number file =>
    rw [takes_iff_of_not_ignoresRest rfl]
    refine lineArguments_eq_ok_iff.trans ?_
    simp [arguments, Argument.WrittenAs, List.forall₂_cons_left_iff, eq_comm]
  | declaring file number =>
    rw [takes_iff_of_not_ignoresRest rfl]
    refine placeArguments_eq_ok_iff.trans ?_
    simp [arguments, Argument.WrittenAs, List.forall₂_cons_left_iff, eq_comm]
  | run path | merge path | dump path =>
    rw [takes_names [path] rfl rfl]
    refine pathArgument_eq_ok_iff.trans ?_
    simp

/-- A text is read as a command when its first word is lowered to a word for the command's verb, and
its other words are taken as the arguments. -/
theorem parse_eq_ok_iff {text : String} {c : Command} :
    parse text = .ok c ↔ ∃ word tokens, Text.splitBlank text = word :: tokens ∧
      Text.toLower word ∈ c.verb.words ∧ c.Takes tokens := by
  rw [parse]
  constructor
  · intro h
    split at h
    · cases h
    · rename_i word tokens hsplit
      cases hverb : Verb.ofWord? (Text.toLower word) with
      | none =>
        simp only [hverb] at h
        cases h
      | some verb =>
        simp only [hverb] at h
        obtain rfl := verb_of_ofVerb h
        exact ⟨word, tokens, hsplit, Verb.ofWord?_eq_some_iff.mp hverb, ofVerb_eq_ok_iff.mp h⟩
  · rintro ⟨word, tokens, hsplit, hverb, htakes⟩
    rw [hsplit]
    simp only [Verb.ofWord?_eq_some_iff.mpr hverb]
    exact ofVerb_eq_ok_iff.mpr htakes

/-! ## Spellings -/

/-- Whether the names among the arguments of a command are words. -/
def Plain (c : Command) : Prop := ∀ name, .name name ∈ c.arguments → IsWord name

/-- The spellings of a command: blanks, a word for the verb in letters of either case, and the
arguments, each after a blank. -/
def Spells (c : Command) (text : String) : Prop :=
  ∃ lead word tokens rest, text = lead ++ word ++ rest ∧ Text.isBlankText lead = true ∧
    Text.toLowerAscii word ∈ c.verb.words ∧
    List.Forall₂ Argument.WrittenAs c.arguments tokens ∧ Spaced tokens rest

theorem isWord_of_typed {n : UInt32} {token : String} (h : Number.Typed n token) :
    IsWord token := by
  obtain ⟨sign, zeros, hsign, htoken⟩ := h
  rw [Nat.toList_repr] at htoken
  constructor
  · rintro rfl
    have hnil := (List.append_eq_nil_iff.mp (List.append_eq_nil_iff.mp htoken.symm).2).2
    exact Nat.toDigits_ne_nil hnil
  · intro c hc
    rw [htoken] at hc
    rcases List.mem_append.mp hc with hc | hc
    · rcases hsign with rfl | rfl
      · exact absurd hc List.not_mem_nil
      · rw [List.mem_singleton.mp hc]
        rfl
    · obtain ⟨hlow, hhigh⟩ := Number.toNat_bounds (Number.isDigit_of_mem_typed hc)
      simp [Text.isBlank]
      omega

theorem isWord_of_toLowerAscii {verb : Verb} {word : String}
    (h : Text.toLowerAscii word ∈ verb.words) : IsWord word := by
  obtain ⟨hne, hascii⟩ := Verb.ascii_of_mem_words h
  -- lowering makes no blank of a letter, and no letter of a blank
  have hblank : ∀ n < 128, Text.isBlank (Char.ofNat n).toLower = Text.isBlank (Char.ofNat n) := by
    decide +kernel
  constructor
  · rintro rfl
    exact hne rfl
  · intro c hc
    have hmem : c.toLower ∈ (Text.toLowerAscii word).toList := by
      rw [Text.toLowerAscii, String.toList_ofList]
      exact List.mem_map_of_mem hc
    obtain ⟨hlt, hlower⟩ := hascii c.toLower hmem
    have hc := hblank c.toNat (Text.toNat_lt_of_toLower hlt)
    rwa [Char.ofNat_toNat, hlower, eq_comm] at hc

theorem isWord_of_writtenAs {args : List Argument} (h : ∀ name, .name name ∈ args → IsWord name)
    {tokens : List String} (htokens : List.Forall₂ Argument.WrittenAs args tokens) :
    ∀ t ∈ tokens, IsWord t := by
  induction htokens with
  | nil => exact List.forall_mem_nil _
  | @cons a t as tokens ha _ ih =>
    refine List.forall_mem_cons.mpr ⟨?_, ih fun name hname => h name (List.mem_cons_of_mem a hname)⟩
    cases a with
    | name text => exact ha ▸ h text List.mem_cons_self
    | line number => exact isWord_of_typed ha

/-- Every spelling of a command is read as that command. In whatever text is read as a command, a
first word stands for its verb, and the words after it begin with its arguments. -/
theorem parse_spelled :
    (∀ (c : Command) (text : String), c.Plain → c.Spells text → parse text = .ok c) ∧
    ∀ (text : String) (c : Command), parse text = .ok c →
      ∃ lead word tokens rest, text = lead ++ word ++ rest ∧ Text.isBlankText lead = true ∧
        IsWord word ∧ (∀ t ∈ tokens, IsWord t) ∧ Spaced tokens rest ∧
        Text.toLower word ∈ c.verb.words ∧
        ∃ used ignored, tokens = used ++ ignored ∧
          List.Forall₂ Argument.WrittenAs c.arguments used := by
  constructor
  · rintro c text hplain ⟨lead, word, tokens, rest, rfl, hlead, hverb, htokens, hspaced⟩
    have hascii := fun d hd => ((Verb.ascii_of_mem_words hverb).2 d hd).1
    refine parse_eq_ok_iff.mpr ⟨word, tokens, ?_, ?_, takes_of_forall₂ htokens⟩
    · exact Text.splitBlank_eq_cons hlead (isWord_of_toLowerAscii hverb)
        (isWord_of_writtenAs hplain htokens) hspaced
    · rwa [Text.toLower_eq_of_toLowerAscii hascii]
  · intro text c hparse
    obtain ⟨word, tokens, hsplit, hverb, used, ignored, htokens, hused, -⟩ :=
      parse_eq_ok_iff.mp hparse
    obtain ⟨lead, rest, htext, hlead, hword, hspaced, hwords⟩ := Text.exists_spaced hsplit
    exact ⟨lead, word, tokens, rest, htext, hlead, hword, hwords, hspaced, hverb, used, ignored,
      htokens, hused⟩

/-- A line in a file, typed with blanks of several kinds, a verb in both cases and a count with
zeros. -/
theorem parse_spelled_line :
    let c : Command := .line "Parse" 7 (some "a.c")
    let text := "\u3000 LiNe\tParse +007  a.c "
    c.Plain ∧ c.Spells text ∧ parse text = .ok c ∧
      ∃ lead word tokens rest, text = lead ++ word ++ rest ∧ Text.isBlankText lead = true ∧
        IsWord word ∧ (∀ t ∈ tokens, IsWord t) ∧ Spaced tokens rest ∧
        Text.toLower word ∈ c.verb.words ∧
        ∃ used ignored, tokens = used ++ ignored ∧
          List.Forall₂ Argument.WrittenAs c.arguments used := by
  intro c text
  have hplain : c.Plain := by
    intro name hname
    have hnames : name = "Parse" ∨ name = "a.c" := by simpa [c, arguments] using hname
    rcases hnames with rfl | rfl <;> decide +kernel
  have hspaced : Spaced ["Parse", "+007", "a.c"]
      ("\t" ++ "Parse" ++ (" " ++ "+007" ++ ("  " ++ "a.c" ++ " "))) :=
    .word (by decide +kernel) rfl
      (.word (by decide +kernel) rfl (.word (by decide +kernel) rfl (.ending rfl)))
  have hwritten : List.Forall₂ Argument.WrittenAs c.arguments ["Parse", "+007", "a.c"] :=
    .cons rfl (.cons ⟨['+'], 2, .inr rfl, rfl⟩ (.cons rfl .nil))
  have hspells : c.Spells text :=
    ⟨"\u3000 ", "LiNe", _, _, rfl, rfl, by decide +kernel, hwritten, hspaced⟩
  have hparse := parse_spelled.1 c text hplain hspells
  exact ⟨hplain, hspells, hparse, parse_spelled.2 text c hparse⟩

end Command

end BlockCoverage.Shell
