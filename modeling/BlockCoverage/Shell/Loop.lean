import BlockCoverage.Report
import BlockCoverage.Shell.Command
import BlockCoverage.Snapshot

/-!
# The shell

The shell asks for commands, one line at a time, until it is told to quit or its input ends. A
command that fails is answered by its complaint and the next line is read. Only a line that is not
UTF-8 ends the shell with a failure.
-/

namespace BlockCoverage

open Text (Bytes)

/-- What the commands of a shell need besides the session. -/
structure Shell where
  /-- The directory that source files are looked for in. -/
  sourceDir : String
  /-- The files that snapshots leave out. -/
  denylist : Denylist
deriving DecidableEq, Repr

namespace Shell

variable {κ : Type}

/-- What is shown before a line is read. -/
def prompt : String := "bbcov> "

/-- The list of commands. -/
def helpText : String :=
  "Commands:\n" ++
  "  summary                          per-function block coverage\n" ++
  "  functions [name]                 list known functions\n" ++
  "  blocks <function> [file]         block ids, hit counts and lines\n" ++
  "  ratio <function> [file]          covered block ratio\n" ++
  "  show <function> [file]           ratio and highlighted source\n" ++
  "  line <function> <line> [file]    inputs that covered a line\n" ++
  "  where <file> <line>              functions with a block on a source line\n" ++
  "  run <input>                      run the target on an input file and merge\n" ++
  "  merge <trace-file>               merge an existing trace file\n" ++
  "  reset                            clear all hit state\n" ++
  "  dump <path>                      write a snapshot\n" ++
  "  help\n" ++
  "  quit\n"

/-- Lists the functions whose name contains the filter. -/
def functionList (m : Model) (filter : Option String) : String :=
  let shown := m.functions.entries.filter (fun e => filter.all (Text.occursIn · e.1.name))
  String.join (shown.map (fun e =>
    e.1.describe ++ " (" ++ Nat.repr e.2.length ++ " blocks)\n"))

/-- A report about the one function of a name whose file matches. -/
def about (m : Model) (function : String) (file : Option String) (report : FunctionId → Written) :
    Written :=
  match m.resolve function file with
  | .error fault => .failed (.ofFault fault)
  | .ok f => report f

/-- Runs the target on an input file. -/
def runInput (s : Session κ) (input : String) : Written × Session κ :=
  match s.files.read input with
  | .error cause =>
    (.failed ⟨"Failed to read input " ++ Text.quote input ++ ": " ++ cause.message, none⟩, s)
  | .ok contents =>
    let (outcome, s) := s.runInput input contents
    if outcome.traced then
      (⟨"Status: " ++ outcome.status.describe ++ ", new blocks: " ++ Nat.repr outcome.gain.blocks ++
        ", merge errors: " ++ Nat.repr outcome.faults.length ++ "\n", none⟩, s)
    else
      (.failed ⟨"Run produced no usable trace (" ++ outcome.status.describe ++ ")", none⟩, s)

/-- Merges a saved trace. -/
def mergeTrace (s : Session κ) (trace : String) : Written × Session κ :=
  match s.mergeFile trace trace with
  | .error fault => (.failed (.ofFault fault), s)
  | .ok (merged, s) =>
    (⟨"New blocks: " ++ Nat.repr merged.gain.blocks ++ ", merge errors: " ++
      Nat.repr merged.faults.length ++ "\n", none⟩, s)

/-- Writes a snapshot. -/
def dump (sh : Shell) (s : Session κ) (path : String) : Written × Session κ :=
  match s.model.save sh.denylist s.files path with
  | .error fault => (.failed (.ofFault fault), s)
  | .ok files =>
    (⟨"Snapshot written to " ++ path ++ "\n", none⟩, { s with bench := { s.bench with files } })

/-- Carries out a command. -/
def execute (sh : Shell) (s : Session κ) (c : Command) : Written × Session κ :=
  let m := s.model
  match c with
  | .summary => (Report.summary m.summarize, s)
  | .functions filter => (⟨functionList m filter, none⟩, s)
  | .blocks function file => (about m function file (Report.blocks m), s)
  | .ratio function file => (about m function file (Report.ratio m), s)
  | .source function file => (about m function file (Report.function m s.files sh.sourceDir), s)
  | .line function line file => (about m function file (fun f => Report.lineOrigins m f line), s)
  | .declaring file line => (Report.functionsAt m file line, s)
  | .run input => runInput s input
  | .merge trace => mergeTrace s trace
  | .reset => (⟨"Coverage state cleared\n", none⟩, { s with model := m.reset })
  | .dump path => sh.dump s path
  | .help => (⟨helpText, none⟩, s)
  | .quit => (⟨"", none⟩, s)

/-- What a command wrote, with its complaint if it failed. -/
def reply (w : Written) : String :=
  match w.failure with
  | none => w.text
  | some complaint => w.text ++ "error: " ++ complaint.line ++ "\n"

/-- Answers a line; `none` if the line ends the shell. A blank line has no answer. -/
def answer (sh : Shell) (s : Session κ) (line : String) : Option (String × Session κ) :=
  if Text.isBlankText line then some ("", s)
  else match Command.parse line with
    | .error fault => some (reply (.failed ⟨fault.message, none⟩), s)
    | .ok .quit => none
    | .ok c =>
      let (written, s) := sh.execute s c
      some (reply written, s)

/-- Answers lines up to the one that ends the shell, with a prompt before each. -/
def runLines (sh : Shell) (s : Session κ) : List Bytes → Written × Session κ
  | [] => (⟨prompt ++ "\n", none⟩, s)
  | line :: rest =>
    match Text.Utf8.decode? line with
    | none => (⟨prompt, some ⟨IoCause.notText.message, none⟩⟩, s)
    | some line =>
      match sh.answer s line with
      | none => (⟨prompt, none⟩, s)
      | some (text, s) =>
        let (written, s) := runLines sh s rest
        (written.after (prompt ++ text), s)

/-- Answers everything that is typed. -/
def run (sh : Shell) (s : Session κ) (script : Bytes) : Written × Session κ :=
  sh.runLines s (Text.byteLines script)

end Shell

end BlockCoverage
