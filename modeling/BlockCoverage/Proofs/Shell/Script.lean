import BlockCoverage.Proofs.Session.Accounting
import BlockCoverage.Proofs.Text.Lines
import BlockCoverage.Shell.Loop

/-!
# Scripts for the shell

A shell looks at a script line by line and stops at the first line that ends it: `heard` gives the
lines it has looked at, and why it stopped there (`hears_heard`). What it makes of them is a fold
(`runLines_eq`), of which the session only sees the lines that are not blank (`session_exchanges`).
Since a line feed separates what is before it from what is after it, nothing behind a line that ends
the shell is ever looked at.

What a command may do to the coverage is a matter of one case distinction
(`model_execute_of_not_alters`, `model_execute_of_failure`).
-/

namespace BlockCoverage

open Text (Bytes)

theorem Written.after_empty (w : Written) : w.after "" = w := by
  rw [Written.after, String.empty_append]

theorem Written.after_after (text before : String) (w : Written) :
    (w.after text).after before = w.after (before ++ text) := by
  rw [Written.after, Written.after, Written.after, String.append_assoc]

namespace Shell

variable {κ : Type}

/-! ## Commands and the coverage -/

/-- Whether a command merges a run or forgets what runs have shown. -/
def Command.altersCoverage : Command → Bool
  | .run _ | .merge _ | .reset => true
  | .summary | .functions _ | .blocks _ _ | .ratio _ _ | .source _ _ | .line _ _ _
  | .declaring _ _ | .dump _ | .help | .quit => false

theorem model_execute_of_not_alters (sh : Shell) (s : Session κ) {c : Command}
    (h : c.altersCoverage = false) : (sh.execute s c).2.model = s.model := by
  cases c with
  | run input => cases h
  | merge trace => cases h
  | reset => cases h
  | dump path =>
    show (sh.dump s path).2.model = s.model
    rw [dump]
    cases s.model.save sh.denylist s.files path <;> rfl
  | summary => rfl
  | functions filter => rfl
  | blocks function file => rfl
  | ratio function file => rfl
  | source function file => rfl
  | line function line file => rfl
  | declaring file line => rfl
  | help => rfl
  | quit => rfl

/-- A run of the target that is answered by a complaint was not merged. -/
theorem model_runInput_of_failure {s : Session κ} {input : String} {complaint : Complaint}
    (h : (runInput s input).1.failure = some complaint) : (runInput s input).2.model = s.model := by
  rw [runInput] at h ⊢
  cases hread : s.files.read input with
  | error cause => rfl
  | ok contents =>
    rw [hread] at h
    cases htraced : (s.runInput input contents).1.traced with
    | true => simp [htraced] at h
    | false => simpa [htraced] using Session.model_runInput_of_untraced htraced

theorem model_mergeTrace_of_failure {s : Session κ} {trace : String} {complaint : Complaint}
    (h : (mergeTrace s trace).1.failure = some complaint) :
    (mergeTrace s trace).2.model = s.model := by
  rw [mergeTrace] at h ⊢
  cases hmerge : s.mergeFile trace trace with
  | error fault => rfl
  | ok merged =>
    rw [hmerge] at h
    cases h

/-- A command that fails leaves the coverage as it is. -/
theorem model_execute_of_failure {sh : Shell} {s : Session κ} {c : Command} {complaint : Complaint}
    (h : (sh.execute s c).1.failure = some complaint) : (sh.execute s c).2.model = s.model := by
  cases halters : c.altersCoverage with
  | false => exact model_execute_of_not_alters sh s halters
  | true =>
    cases c with
    | run input => exact model_runInput_of_failure h
    | merge trace => exact model_mergeTrace_of_failure h
    | reset => cases h
    | _ => cases halters

/-! ## One line -/

/-- What becomes of a line that is read as a command. -/
def perform (sh : Shell) (s : Session κ) (line : String) : Written × Session κ :=
  match Command.parse line with
  | .error fault => (.failed ⟨fault.message, none⟩, s)
  | .ok c => sh.execute s c

/-- A line that is answered by a complaint leaves the coverage as it is. -/
theorem model_perform_of_failure {sh : Shell} {s : Session κ} {line : String}
    {complaint : Complaint}
    (h : (sh.perform s line).1.failure = some complaint) :
    (sh.perform s line).2.model = s.model := by
  rw [perform] at h ⊢
  cases hparse : Command.parse line with
  | error fault => rfl
  | ok c =>
    rw [hparse] at h
    exact model_execute_of_failure h

/-- Adds a line to a conversation: the prompt it is typed at, and the reply unless it is blank. -/
def exchange (sh : Shell) (soFar : String × Session κ) (line : String) : String × Session κ :=
  if Text.isBlankText line then (soFar.1 ++ prompt, soFar.2)
  else
    let (written, s) := sh.perform soFar.2 line
    (soFar.1 ++ prompt ++ reply written, s)

/-- Whether a line tells the shell to end. -/
def quits (line : String) : Bool :=
  match Command.parse line with
  | .ok .quit => true
  | _ => false

theorem quits_iff {line : String} : quits line = true ↔ Command.parse line = .ok .quit := by
  rw [quits]
  split
  · next hparse => exact iff_of_true rfl hparse
  · next hother => exact iff_of_false Bool.false_ne_true hother

theorem parse_ne_quit {line : String} (h : quits line = false) :
    Command.parse line ≠ .ok .quit := by
  intro hparse
  rw [quits_iff.mpr hparse] at h
  cases h

theorem parse_of_isBlankText {line : String} (h : Text.isBlankText line = true) :
    Command.parse line = .error .empty := by
  rw [Command.parse, Text.splitBlank_of_isBlankText h]

/-- A line that ends the shell has no answer. -/
theorem answer_of_quits (sh : Shell) (s : Session κ) {line : String} (h : quits line = true) :
    sh.answer s line = none ∧ ∀ text, sh.exchange (text, s) line = (text ++ prompt, s) := by
  have hparse := quits_iff.mp h
  have hblank : Text.isBlankText line = false := by
    cases hblank : Text.isBlankText line with
    | false => rfl
    | true =>
      rw [parse_of_isBlankText hblank] at hparse
      cases hparse
  refine ⟨?_, ?_⟩
  · rw [answer, hblank, hparse]
    rfl
  · intro text
    rw [exchange, hblank, perform, hparse]
    show (text ++ prompt ++ "", s) = (text ++ prompt, s)
    rw [String.append_empty]

/-- Any other line is answered, and the answer is its part of the conversation. -/
theorem answer_of_not_quits (sh : Shell) (s : Session κ) {line : String} (h : quits line = false) :
    ∃ answered t, sh.answer s line = some (answered, t) ∧
      ∀ text, sh.exchange (text, s) line = (text ++ (prompt ++ answered), t) := by
  rw [answer]
  cases hblank : Text.isBlankText line with
  | true =>
    refine ⟨"", s, rfl, ?_⟩
    intro text
    rw [exchange, hblank, String.append_empty]
    rfl
  | false =>
    cases hparse : Command.parse line with
    | error fault =>
      refine ⟨reply (.failed ⟨fault.message, none⟩), s, rfl, ?_⟩
      intro text
      rw [exchange, hblank, perform, hparse, ← String.append_assoc]
      rfl
    | ok c =>
      have hc : c ≠ .quit := by
        rintro rfl
        exact parse_ne_quit h hparse
      refine ⟨reply (sh.execute s c).1, (sh.execute s c).2, ?_, ?_⟩
      · cases c <;> first | rfl | exact absurd rfl hc
      · intro text
        rw [exchange, hblank, perform, hparse, ← String.append_assoc]
        rfl

/-! ## Whole scripts -/

/-- Why a shell looks at no further line. -/
inductive Stop where
  /-- It was told to end. -/
  | quit
  /-- There is no further line. -/
  | exhausted
  /-- The line after those it has heard is not UTF-8. -/
  | garbled
deriving DecidableEq

/-- What a shell writes in all, given what it has written for the lines it heard. -/
def Stop.close (text : String) : Stop → Written
  | quit => ⟨text, none⟩
  | exhausted => ⟨text ++ prompt ++ "\n", none⟩
  | garbled => ⟨text ++ prompt, some ⟨IoCause.notText.message, none⟩⟩

/-- Which of the lines that are typed a shell hears, and why it hears no more: all up to and
including the first that tells it to end, or all before the first that is not UTF-8, or all there
are. -/
inductive Hears : List (Option String) → List String → Stop → Prop where
  /-- It is told to end. -/
  | quit {before : List String} {last : String} {rest : List (Option String)}
      (hbefore : ∀ text ∈ before, Command.parse text ≠ .ok .quit)
      (hlast : Command.parse last = .ok .quit) :
      Hears (before.map some ++ some last :: rest) (before ++ [last]) .quit
  /-- There is nothing else. -/
  | exhausted {lines : List String} (hlines : ∀ text ∈ lines, Command.parse text ≠ .ok .quit) :
      Hears (lines.map some) lines .exhausted
  /-- What comes next cannot be read. -/
  | garbled {before : List String} {rest : List (Option String)}
      (hbefore : ∀ text ∈ before, Command.parse text ≠ .ok .quit) :
      Hears (before.map some ++ none :: rest) before .garbled

theorem Hears.cons {text : String} {typed : List (Option String)} {lines : List String}
    {stop : Stop}
    (htext : Command.parse text ≠ .ok .quit) (h : Hears typed lines stop) :
    Hears (some text :: typed) (text :: lines) stop := by
  cases h with
  | @quit before last rest hbefore hlast =>
    exact @Hears.quit (text :: before) last rest (List.forall_mem_cons.mpr ⟨htext, hbefore⟩) hlast
  | exhausted hlines => exact .exhausted (List.forall_mem_cons.mpr ⟨htext, hlines⟩)
  | garbled hbefore => exact .garbled (List.forall_mem_cons.mpr ⟨htext, hbefore⟩)

/-- The lines up to the one that ends the shell, that one included, and why they are all. -/
def heard : List Bytes → List String × Stop
  | [] => ([], .exhausted)
  | line :: rest =>
    match Text.Utf8.decode? line with
    | none => ([], .garbled)
    | some line =>
      if quits line then ([line], .quit)
      else (line :: (heard rest).1, (heard rest).2)

section Heard

variable {line : Bytes} {text : String}

theorem heard_of_garbled (h : Text.Utf8.decode? line = none) (rest : List Bytes) :
    heard (line :: rest) = ([], .garbled) := by
  rw [heard, h]

theorem heard_of_quits (h : Text.Utf8.decode? line = some text) (hquits : quits text = true)
    (rest : List Bytes) : heard (line :: rest) = ([text], .quit) := by
  rw [heard, h]
  exact if_pos hquits

theorem heard_of_not_quits (h : Text.Utf8.decode? line = some text) (hquits : quits text = false)
    (rest : List Bytes) : heard (line :: rest) = (text :: (heard rest).1, (heard rest).2) := by
  rw [heard, h]
  exact if_neg (ne_true_of_eq_false hquits)

theorem hears_heard (lines : List Bytes) :
    Hears (lines.map Text.Utf8.decode?) (heard lines).1 (heard lines).2 := by
  induction lines with
  | nil => exact .exhausted (List.forall_mem_nil _)
  | cons line rest ih =>
    rw [List.map_cons]
    cases hdecode : Text.Utf8.decode? line with
    | none =>
      rw [heard_of_garbled hdecode]
      exact .garbled (List.forall_mem_nil _)
    | some text =>
      cases hquits : quits text with
      | true =>
        rw [heard_of_quits hdecode hquits]
        exact @Hears.quit [] text _ (List.forall_mem_nil _) (quits_iff.mp hquits)
      | false =>
        rw [heard_of_not_quits hdecode hquits]
        exact ih.cons (parse_ne_quit hquits)

/-- The lines behind one that ends the shell are not looked at. -/
theorem heard_append {head : List Bytes} (h : (heard head).2 ≠ .exhausted) (tail : List Bytes) :
    heard (head ++ tail) = heard head := by
  induction head with
  | nil => exact absurd rfl h
  | cons line head ih =>
    rw [List.cons_append]
    cases hdecode : Text.Utf8.decode? line with
    | none => rw [heard_of_garbled hdecode, heard_of_garbled hdecode]
    | some text =>
      cases hquits : quits text with
      | true => rw [heard_of_quits hdecode hquits, heard_of_quits hdecode hquits]
      | false =>
        rw [heard_of_not_quits hdecode hquits] at h ⊢
        rw [heard_of_not_quits hdecode hquits, ih h]

end Heard

/-- What a shell makes of its lines is what a conversation over those it hears comes to. -/
theorem runLines_eq (sh : Shell) (s : Session κ) (text : String) (lines : List Bytes) :
    let final := (heard lines).1.foldl sh.exchange (text, s)
    ((sh.runLines s lines).1.after text, (sh.runLines s lines).2) =
      ((heard lines).2.close final.1, final.2) := by
  induction lines generalizing s text with
  | nil =>
    show (Written.mk (text ++ (prompt ++ "\n")) none, s) = (⟨text ++ prompt ++ "\n", none⟩, s)
    rw [String.append_assoc]
  | cons line rest ih =>
    cases hdecode : Text.Utf8.decode? line with
    | none =>
      rw [heard_of_garbled hdecode, runLines, hdecode]
      rfl
    | some typed =>
      cases hquits : quits typed with
      | true =>
        obtain ⟨hanswer, hexchange⟩ := sh.answer_of_quits s hquits
        rw [heard_of_quits hdecode hquits, runLines, hdecode, List.foldl_cons, hexchange]
        simp only [hanswer]
        rfl
      | false =>
        obtain ⟨answered, t, hanswer, hexchange⟩ := sh.answer_of_not_quits s hquits
        have hrun : sh.runLines s (line :: rest) =
            ((sh.runLines t rest).1.after (prompt ++ answered), (sh.runLines t rest).2) := by
          rw [runLines, hdecode]
          simp only [hanswer]
        rw [heard_of_not_quits hdecode hquits, List.foldl_cons, hexchange, hrun,
          Written.after_after]
        exact ih t (text ++ (prompt ++ answered))

/-- The session of a conversation is a fold over the lines that are not blank. -/
theorem session_exchanges (sh : Shell) (lines : List String) (soFar : String × Session κ) :
    (lines.foldl sh.exchange soFar).2 =
      (lines.filter fun line => !Text.isBlankText line).foldl
        (fun s line => (sh.perform s line).2) soFar.2 := by
  induction lines generalizing soFar with
  | nil => rfl
  | cons line lines ih =>
    rw [List.foldl_cons, ih, exchange]
    cases hblank : Text.isBlankText line with
    | true => rw [List.filter_cons_of_neg (by simp [hblank])]; rfl
    | false => rw [List.filter_cons_of_pos (by simp [hblank])]; rfl

/-- What a shell makes of a script: the conversation over the lines that it hears. -/
theorem run_eq (sh : Shell) (s : Session κ) (script : Bytes) :
    let final := (heard (Text.byteLines script)).1.foldl sh.exchange ("", s)
    sh.run s script = ((heard (Text.byteLines script)).2.close final.1, final.2) := by
  intro final
  rw [← sh.runLines_eq s "" (Text.byteLines script), Written.after_empty, run]

/-- What follows the line that ends the shell is never looked at. -/
theorem run_append (sh : Shell) (s : Session κ) {head : Bytes}
    (h : (heard (Text.byteLines (head ++ [10]))).2 ≠ .exhausted) (tail : Bytes) :
    sh.run s (head ++ 10 :: tail) = sh.run s (head ++ [10]) := by
  have hheard : heard (Text.byteLines (head ++ 10 :: tail)) =
      heard (Text.byteLines (head ++ [10])) := by
    rw [Text.byteLines_append, heard_append h]
  rw [run_eq, run_eq, hheard]

/-- A script is carried out line by line, in order, up to and including the first line that ends the
shell; only a line that is not UTF-8 stops it earlier. A blank line has no part in it but the
prompt. A line that is answered by an error leaves the coverage as it is, and so does every command
that neither merges nor clears. What follows the line that ends the shell, be it commands or no text
at all, changes nothing. -/
theorem run_script (sh : Shell) (s : Session κ) (script : Bytes) :
    let lines := (heard (Text.byteLines script)).1
    let stop := (heard (Text.byteLines script)).2
    let final := lines.foldl sh.exchange ("", s)
    Hears ((Text.byteLines script).map Text.Utf8.decode?) lines stop ∧
    sh.run s script = (stop.close final.1, final.2) ∧
    final.2 = (lines.filter fun line => !Text.isBlankText line).foldl
      (fun t line => (sh.perform t line).2) s ∧
    (∀ (t : Session κ) line complaint, (sh.perform t line).1.failure = some complaint →
      (sh.perform t line).2.model = t.model ∧
      (Text.isBlankText line = false → ∀ text, sh.exchange (text, t) line =
        (text ++ prompt ++ ((sh.perform t line).1.text ++ "error: " ++ complaint.line ++ "\n"),
          (sh.perform t line).2))) ∧
    (∀ (t : Session κ) c, c.altersCoverage = false → (sh.execute t c).2.model = t.model) ∧
    (∀ head tail, (heard (Text.byteLines (head ++ [10]))).2 ≠ .exhausted →
      sh.run s (head ++ 10 :: tail) = sh.run s (head ++ [10])) := by
  intro lines stop final
  refine ⟨hears_heard _, sh.run_eq s script, sh.session_exchanges lines ("", s), ?_, ?_, ?_⟩
  · intro t line complaint hfails
    refine ⟨model_perform_of_failure hfails, ?_⟩
    intro hblank text
    have hreply : reply (sh.perform t line).1 =
        (sh.perform t line).1.text ++ "error: " ++ complaint.line ++ "\n" := by
      rw [reply, hfails]
    rw [exchange, hblank, ← hreply]
    rfl
  · intro t c hkeeps
    exact sh.model_execute_of_not_alters t hkeeps
  · intro head tail hends
    exact sh.run_append s hends tail

/-- A script with a report that fails half-way, a blank line, a merge that succeeds, and a line that
ends the shell in front of another command and an octet that is no text. -/
theorem run_script_ended :
    let f : FunctionId := ⟨"a.c", "f"⟩
    let saved : Bytes := Trace.FileRecord.bytes ⟨"a.c", [("f", [0, 3])], 0⟩
    let fs : Files := ⟨.ofList [(["saved"], .file 1)], #[.ofDirectory, .ofBytes saved], 0⟩
    let s : Session Unit := ⟨.profile, none, "/t", .idle,
      .ofList [(f, [⟨0, [⟨"a.c", 1⟩], true, 2, ["x"]⟩, .fresh 1 [⟨"a.c", 2⟩]])],
      ⟨fs, (), none⟩⟩
    let hit : Model := .ofList [(f, [⟨0, [⟨"a.c", 1⟩], true, 2, ["x"]⟩,
      ⟨1, [⟨"a.c", 2⟩], true, 3, ["/saved"]⟩])]
    let sh : Shell := ⟨"/src", ⟨[]⟩⟩
    let script : Bytes := Text.Utf8.encode "show f\n \nMERGE /saved\nq"
    let missing : Complaint :=
      ⟨"I/O error on \"/src/a.c\": No such file or directory (os error 2)",
        some "No such file or directory (os error 2)"⟩
    let shown : Session Unit := (sh.perform s "show f").2
    heard (Text.byteLines (script ++ [10])) = (["show f", " ", "MERGE /saved", "q"], .quit) ∧
      (sh.perform s "show f").1 = ⟨"a.c | f: 50.00% of blocks covered\n", some missing⟩ ∧
      shown.model = s.model ∧
      sh.exchange ("", s) "show f" =
        ("bbcov> a.c | f: 50.00% of blocks covered\nerror: " ++ missing.line ++ "\n", shown) ∧
      Command.altersCoverage (.dump "/out") = false ∧
      (sh.execute s (.dump "/out")).2.model = s.model ∧
      sh.run s (script ++ 10 :: (Text.Utf8.encode "reset\n" ++ [0xFF])) =
        sh.run s (script ++ [10]) ∧
      (sh.run s (script ++ [10])).2 =
        ["show f", "MERGE /saved", "q"].foldl (fun t line => (sh.perform t line).2) s ∧
      (sh.run s (script ++ [10])).2.model = hit := by
  intro f saved fs s hit sh script missing shown
  obtain ⟨-, hrun, hfold, herrors, hkeeps, hends⟩ := run_script sh s (script ++ [10])
  have hheard : heard (Text.byteLines (script ++ [10])) =
      (["show f", " ", "MERGE /saved", "q"], .quit) := by decide +kernel
  have hshow : (sh.perform s "show f").1 =
      ⟨"a.c | f: 50.00% of blocks covered\n", some missing⟩ := by decide +kernel
  obtain ⟨hmodel, hreply⟩ := herrors s "show f" missing (congrArg Written.failure hshow)
  have hexchange := hreply (by decide +kernel) ""
  rw [hshow] at hexchange
  have hstop : (heard (Text.byteLines (script ++ [10]))).2 ≠ .exhausted := by
    rw [hheard]
    decide
  have hsession : (sh.run s (script ++ [10])).2 =
      ["show f", "MERGE /saved", "q"].foldl (fun t line => (sh.perform t line).2) s := by
    have hnonblank : (["show f", " ", "MERGE /saved", "q"].filter fun line =>
      !Text.isBlankText line) = ["show f", "MERGE /saved", "q"] := by decide +kernel
    rw [hrun, hfold, hheard, hnonblank]
  refine ⟨hheard, hshow, hmodel, hexchange, rfl, hkeeps s (.dump "/out") rfl,
    hends script _ hstop, hsession, ?_⟩
  rw [hsession]
  decide +kernel

end Shell

end BlockCoverage
