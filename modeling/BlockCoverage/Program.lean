import BlockCoverage.CommandLine.Reading
import BlockCoverage.Config
import BlockCoverage.Shell.Loop

/-!
# The program

The command line is completed by the configuration file. The model comes from a snapshot or a static
map; inputs are replayed, saved traces merged, a report written, the shell run, and a snapshot
written, in this order. The program is a function of its arguments, what is typed, the files it
finds, and the launcher that starts its targets.
-/

namespace BlockCoverage

open CommandLine (Options UsageFault)
open Text (Bytes)

/-- Why the program did not do all it was asked for. -/
inductive Failure where
  /-- The command line is not carried out. -/
  | usage (fault : UsageFault)
  /-- The configuration cannot be loaded. -/
  | config (fault : ConfigFault)
  /-- Anything that goes wrong later. -/
  | complaint (c : Complaint)
deriving DecidableEq, Repr

namespace Failure

/-- A fault as a failure. -/
def ofFault (f : Fault) : Failure := .complaint (.ofFault f)

/-- The exit code. Asking for help is no failure. -/
def exitCode : Failure → Nat
  | usage .help | usage .version => 0
  | usage _ => 2
  | config _ | complaint _ => 1

/-- What is written about a failure; help and version are written as output instead. -/
def errorText : Failure → String
  | usage .help | usage .version => ""
  | usage fault => fault.message
  | config fault => "Error: " ++ fault.message ++ "\n"
  | complaint ⟨headline, none⟩ => "Error: " ++ headline ++ "\n"
  | complaint ⟨headline, some cause⟩ =>
    "Error: " ++ headline ++ "\n\nCaused by:\n    " ++ cause ++ "\n"

end Failure

/-- What the program leaves behind. -/
structure Finish where
  /-- What it has written. -/
  output : String
  /-- Why it stopped early, if it did. -/
  failure : Option Failure
  /-- The files afterwards. -/
  files : Files
deriving DecidableEq

namespace Finish

/-- The exit code. -/
def exitCode (f : Finish) : Nat :=
  match f.failure with
  | none => 0
  | some failure => failure.exitCode

/-- What it has written about its failure. -/
def errorText (f : Finish) : String :=
  match f.failure with
  | none => ""
  | some failure => failure.errorText

end Finish

namespace Config

/-- The configuration file that is looked for when none is named. -/
def standardPath : String := "bbcov.toml"

/-- The configuration that a command line refers to. -/
def ofOptions (fs : Files) (o : Options) : Except ConfigFault Config :=
  match o.configFile with
  | some path => load fs path
  | none => if fs.exists? standardPath then load fs standardPath else .ok standard

/-- What the command line says comes before what the configuration says; its inputs are added. -/
def override (c : Config) (o : Options) : Config where
  mode := o.mode.getD c.mode
  staticMap := o.staticMap <|> c.staticMap
  traceFile := c.traceFile
  target :=
    match o.targetCommand with
    | none => c.target
    | some text =>
      let command := Text.splitBlank text
      match c.target with
      | some settings => some { settings with command }
      | none => some (.ofCommand command)
  inputs := c.inputs ++ o.inputs
  fuzzerOutputs := c.fuzzerOutputs ++ o.fuzzerOutputs
  denylist := c.denylist
  output := o.dump <|> c.output

/-- The command that runs the target; it is told where to leave its trace. -/
def targetCommand (c : Config) : Option TargetCommand :=
  c.target.map (fun t => {
    command := t.command
    delivery := t.delivery
    timeout := t.timeout
    workingDir := t.workingDir
    environment := [(TargetCommand.traceVariable, c.traceFile)] })

/-- The model to start from: a snapshot if one is named, else the static map. -/
def startModel (c : Config) (fs : Files) (resume : Option String) : Except Complaint Model :=
  match resume with
  | some path => (Model.resume fs path).mapError .ofFault
  | none =>
    match c.staticMap with
    | some path => (StaticMap.load fs path).mapError .ofFault
    | none => .error
      ⟨"No static map given (use --static-map, static-map in config, or --resume)", none⟩

/-- The inputs to replay. -/
def corpus (c : Config) (fs : Files) : Except CorpusFault Corpus :=
  match Corpus.empty.loadPaths fs c.inputs with
  | (.error fault, _) => .error fault
  | (.ok _, corpus) =>
    match Corpus.loadEach (Corpus.loadFuzzerOutput fs) corpus c.fuzzerOutputs with
    | (.error fault, _) => .error fault
    | (.ok _, corpus) => .ok corpus

end Config

/-- The function that the command line asks about. -/
def CommandLine.Options.target (o : Options) (m : Model) : Except Fault (Option FunctionId) :=
  match o.function with
  | none => .ok none
  | some name => (m.resolve name o.file).map some

namespace Program

/-- What has to be there before anything is run. -/
structure Setup where
  /-- The session to work with. -/
  session : Session (List Ending)
  /-- The function to report on. -/
  target : Option FunctionId
  /-- The inputs to replay. -/
  corpus : Corpus

/-- Prepares a session. Inputs without a target to run them on are refused. -/
def setup (launch : Launcher) (o : Options) (c : Config) (fs : Files) : Except Complaint Setup := do
  let model ← c.startModel fs o.resume
  let target ← (o.target model).mapError .ofFault
  let corpus ← (c.corpus fs).mapError (fun fault => ⟨fault.message, none⟩)
  let executor ← match c.targetCommand with
    | some command => .ok (Executor.command launch.host command)
    | none =>
      if corpus.entries.isEmpty then .ok .idle
      else .error ⟨"Inputs given but no target command configured (see --target-command)", none⟩
  let context := if c.mode = .trace then target else none
  return ⟨⟨c.mode, context, c.traceFile, executor, model, ⟨fs, [], none⟩⟩, target, corpus⟩

variable {κ : Type}

/-- Replays the inputs, if there are any. -/
def replay (s : Session κ) (corpus : Corpus) : String × Session κ :=
  if corpus.entries.isEmpty then ("", s)
  else
    let (batch, s) := s.runCorpus corpus
    ((Report.batch batch).text, s)

/-- Merges saved traces; one that cannot be read is passed over. -/
def mergeSaved (s : Session κ) (paths : List String) : Session κ :=
  paths.foldl (fun s path =>
    match s.mergeFile path path with
    | .ok (_, s) => s
    | .error _ => s) s

/-- The report: on the function that was asked about, else on everything unless the shell is
opened. -/
def report (o : Options) (s : Session κ) (target : Option FunctionId) : Written :=
  match target, o.line with
  | some f, some line => Report.lineOrigins s.model f line
  | some f, none => Report.function s.model s.files o.sourceRoot f
  | none, _ => if o.shell then ⟨"", none⟩ else Report.summary s.model.summarize

/-- Runs the shell, if it is opened. -/
def runShell (o : Options) (c : Config) (s : Session κ) (typed : Bytes) : Written × Session κ :=
  if o.shell then Shell.run ⟨o.sourceRoot, c.denylist⟩ s typed else (⟨"", none⟩, s)

/-- Writes the last snapshot, if one is asked for. -/
def saveLast (c : Config) (s : Session κ) : Except Fault Files :=
  match c.output with
  | none => .ok s.files
  | some path => s.model.save c.denylist s.files path

/-- Does all that was asked for once everything is prepared. -/
def work (o : Options) (c : Config) (p : Setup) (typed : Bytes) : Finish :=
  let (replayed, s) := replay p.session p.corpus
  let s := mergeSaved s o.mergeTraces
  let reported := report o s p.target
  match reported.failure with
  | some complaint => ⟨replayed ++ reported.text, some (.complaint complaint), s.files⟩
  | none =>
    let (answered, s) := runShell o c s typed
    let output := replayed ++ reported.text ++ answered.text
    match answered.failure with
    | some complaint => ⟨output, some (.complaint complaint), s.files⟩
    | none =>
      match saveLast c s with
      | .error fault => ⟨output, some (.ofFault fault), s.files⟩
      | .ok files => ⟨output, none, files⟩

/-- Carries out a command line. -/
def carryOut (launch : Launcher) (o : Options) (typed : Bytes) (fs : Files) : Finish :=
  match Config.ofOptions fs o with
  | .error fault => ⟨"", some (.config fault), fs⟩
  | .ok c =>
    let c := c.override o
    match setup launch o c fs with
    | .error complaint => ⟨"", some (.complaint complaint), fs⟩
    | .ok p => work o c p typed

/-- The program. -/
def run (launch : Launcher) (arguments : List String) (typed : Bytes) (fs : Files) : Finish :=
  match CommandLine.read arguments with
  | .error .help => ⟨UsageFault.help.message, some (.usage .help), fs⟩
  | .error .version => ⟨UsageFault.version.message, some (.usage .version), fs⟩
  | .error fault => ⟨"", some (.usage fault), fs⟩
  | .ok o => carryOut launch o typed fs

end Program

end BlockCoverage
