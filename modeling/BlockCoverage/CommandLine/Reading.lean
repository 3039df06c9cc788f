import BlockCoverage.CommandLine.Options
import BlockCoverage.Number.Natural

/-!
# Reading a command line

Words are read from left to right. A value may be joined to its option or be the next word, as long
as that word does not look like an option itself. An option whose value is a word of its own is
settled only when the next option comes or the line ends, so a word that is not understood is
reported before a value that cannot be read.
-/

namespace BlockCoverage.CommandLine

/-- Gives a setting that may be given once its value. -/
def once {α : Type} (old : Option α) (new : Except UsageFault α) : Except UsageFault (Option α) :=
  if old.isSome then .error .repeated else new.map some

/-- A path, which is not empty. -/
def pathValue (text : String) : Except UsageFault String :=
  if text = "" then .error .missingValue else .ok text

/-- A mode by its name. -/
def modeValue (text : String) : Except UsageFault Mode :=
  (Mode.parse text).mapError (fun _ => .badValue text)

/-- A line number. A minus sign is allowed in front of zero. -/
def lineValue (text : String) : Except UsageFault UInt32 :=
  let unsigned := match text.toList with
    | '-' :: rest => if rest.all (· == '0') then String.ofList rest else text
    | _ => text
  match Number.readWord? unsigned with
  | some n => .ok n
  | none => .error (.badValue text)

/-- Enters a setting and its value. -/
def Options.enter (o : Options) (s : Setting) (text : String) : Except UsageFault Options :=
  match s with
  | .configFile => (once o.configFile (pathValue text)).map (fun v => { o with configFile := v })
  | .staticMap => (once o.staticMap (pathValue text)).map (fun v => { o with staticMap := v })
  | .mode => (once o.mode (modeValue text)).map (fun v => { o with mode := v })
  | .targetCommand => (once o.targetCommand (.ok text)).map (fun v => { o with targetCommand := v })
  | .input => (pathValue text).map (fun v => { o with inputs := o.inputs ++ [v] })
  | .fuzzerOutput =>
    (pathValue text).map (fun v => { o with fuzzerOutputs := o.fuzzerOutputs ++ [v] })
  | .mergeTrace => (pathValue text).map (fun v => { o with mergeTraces := o.mergeTraces ++ [v] })
  | .function => (once o.function (.ok text)).map (fun v => { o with function := v })
  | .file => (once o.file (.ok text)).map (fun v => { o with file := v })
  | .line => (once o.line (lineValue text)).map (fun v => { o with line := v })
  | .sourceDir => (once o.sourceDir (pathValue text)).map (fun v => { o with sourceDir := v })
  | .resume => (once o.resume (pathValue text)).map (fun v => { o with resume := v })
  | .dump => (once o.dump (pathValue text)).map (fun v => { o with dump := v })

/-- Enters an option without a value. -/
def Options.turnOn (o : Options) : Switch → Except UsageFault Options
  | .shell => if o.shell then .error .repeated else .ok { o with shell := true }
  | .verbose => if o.verbose then .error .repeated else .ok { o with verbose := true }
  | .help => .error .help
  | .version => .error .version

/-- An option that has not been entered yet: it still waits for its value, or has it. -/
structure Pending where
  /-- The option. -/
  setting : Setting
  /-- Its value, if that has come. -/
  value : Option String
deriving DecidableEq, Repr

/-- How far a command line has been read. -/
structure Progress where
  /-- What has been entered. -/
  options : Options
  /-- What has not been entered yet. -/
  pending : Option Pending
deriving DecidableEq, Repr

namespace Progress

/-- Enters what is pending. -/
def settle (p : Progress) : Except UsageFault Options :=
  match p.pending with
  | none => .ok p.options
  | some ⟨_, none⟩ => .error .missingValue
  | some ⟨s, some text⟩ => p.options.enter s text

/-- Reads a setting whose value, if any, is joined to it. -/
def setting (p : Progress) (s : Setting) (joined : Option String) : Except UsageFault Progress := do
  let options ← p.settle
  match joined with
  | some text => return ⟨← options.enter s text, none⟩
  | none => return ⟨options, some ⟨s, none⟩⟩

/-- Reads an option without a value. -/
def switch (p : Progress) (s : Switch) : Except UsageFault Progress := do
  return ⟨← (← p.settle).turnOn s, none⟩

/-- Reads a long option, its dashes taken off. -/
def long (p : Progress) (word : String) (body : List Char) : Except UsageFault Progress :=
  let name := body.takeWhile (· != '=')
  let joined := match body.drop name.length with
    | _ :: value => some (String.ofList value)
    | [] => none
  match Name.ofLong? (String.ofList name), joined with
  | none, _ => .error (.unknownArgument word)
  | some (.setting s), joined => p.setting s joined
  | some (.switch s), none => p.switch s
  | some (.switch _), some text => .error (.unwantedValue text)

/-- Reads letters behind one dash. The first that takes a value takes the rest of the word, an
equals sign in front of it left out. -/
def letters (word : String) : Progress → List Char → Except UsageFault Progress
  | p, [] => .ok p
  | p, c :: rest =>
    match Name.ofShort? c with
    | none => .error (.unknownArgument word)
    | some (.switch s) =>
      match p.switch s with
      | .error fault => .error fault
      | .ok p => letters word p rest
    | some (.setting s) =>
      p.setting s (match rest with
        | [] => none
        | '=' :: value => some (String.ofList value)
        | value => some (String.ofList value))

/-- Reads a word that does not look like an option. -/
def plain (p : Progress) (word : String) : Except UsageFault Progress :=
  match p.pending with
  | some ⟨s, none⟩ => .ok { p with pending := some ⟨s, some word⟩ }
  | _ => .error (.unknownArgument word)

/-- Reads a word other than two dashes. -/
def word (p : Progress) (text : String) : Except UsageFault Progress :=
  match text.toList with
  | '-' :: '-' :: body => p.long text body
  | '-' :: c :: rest => letters text p (c :: rest)
  | _ => p.plain text

/-- Reads words. After two dashes no word is an option, and none is understood. -/
def words (p : Progress) : List String → Except UsageFault Options
  | [] => p.settle
  | text :: rest =>
    if text = "--" then
      match rest with
      | [] => p.settle
      | next :: _ => .error (.unknownArgument next)
    else
      match p.word text with
      | .error fault => .error fault
      | .ok p => words p rest

end Progress

/-- Reads a command line without the name of the program. A line is asked for in a function. -/
def read (arguments : List String) : Except UsageFault Options := do
  let options ← Progress.words ⟨{}, none⟩ arguments
  if options.line.isSome && options.function.isNone then .error .lineAlone
  else return options

end BlockCoverage.CommandLine
