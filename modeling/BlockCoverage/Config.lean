import BlockCoverage.Run.TargetCommand
import BlockCoverage.Snapshot
import BlockCoverage.Toml.Document
import BlockCoverage.Toml.Shape
import BlockCoverage.Trace.Mode

/-!
# Configurations

A configuration file says how traces are laid out, where the static map is, how the target is run,
on which inputs, and what a snapshot holds. Everything has a default but the command of a target.
-/

namespace BlockCoverage

open Toml (Field Format Shape ShapeFault)

/-- How the target is run. -/
structure TargetSettings where
  /-- The program and its first arguments. -/
  command : List String
  /-- How the input is handed over. -/
  delivery : InputDelivery
  /-- Milliseconds after which the target is stopped. -/
  timeout : Nat
  /-- The directory that the target is started in. -/
  workingDir : Option String
deriving DecidableEq, Repr

/-- A configuration. -/
structure Config where
  /-- The layout of traces. -/
  mode : Mode
  /-- The static map. -/
  staticMap : Option String
  /-- The file that the target leaves its trace in. -/
  traceFile : String
  /-- How the target is run, if it is. -/
  target : Option TargetSettings
  /-- Input files, and directories of them. -/
  inputs : List String
  /-- Output directories of fuzzers. -/
  fuzzerOutputs : List String
  /-- The files that snapshots leave out. -/
  denylist : Denylist
  /-- Where a snapshot is written at the end. -/
  output : Option String
deriving DecidableEq, Repr

namespace Mode

/-- A mode by its name. -/
def shape : Shape Mode :=
  Shape.choice [trace.name, profile.name] (fun name content =>
    (Shape.nothing content).map (fun _ => if name = trace.name then trace else profile))

end Mode

namespace InputDelivery

/-- A delivery in a file: the template. -/
def fileFormat : Format (Option String) InputDelivery where
  name := "struct variant ConfigInputDelivery::File"
  fields := [⟨"template", fun v => (Shape.text v).map (fun t _ => some t), true⟩]
  strict := false
  blank := none
  finish := fun
    | some template => .ok (.file template)
    | none => .error (.missingField "template")

/-- A delivery by its name, with its template. -/
def shape : Shape InputDelivery :=
  Shape.choice ["std-in", "file"] (fun name content =>
    if name = "std-in" then (Shape.nothing content).map (fun _ => stdin)
    else match content with
      | none => .error .bareOption
      | some v => fileFormat.readExactly v)

end InputDelivery

namespace TargetSettings

/-- Milliseconds that a target has if nothing else is said. -/
def standardTimeout : Nat := 2000

/-- The settings for a command when nothing else is said. -/
def ofCommand (command : List String) : TargetSettings := ⟨command, .stdin, standardTimeout, none⟩

/-- The settings that have been read; a command is due. -/
structure Draft where
  /-- The command. -/
  command : Option (List String)
  /-- The rest, for a command to be put in. -/
  settings : TargetSettings

/-- The section about the target. -/
def format : Format Draft TargetSettings where
  name := "struct ExecutorSettings"
  fields := [
    ⟨"command", fun v => (Shape.list Shape.text v).map (fun c d => { d with command := some c }),
      true⟩,
    ⟨"input-delivery", fun v => (InputDelivery.shape v).map
      (fun x d => { d with settings := { d.settings with delivery := x } }), false⟩,
    ⟨"timeout-ms", fun v => (Shape.count v).map
      (fun x d => { d with settings := { d.settings with timeout := x } }), false⟩,
    ⟨"working-dir", fun v => (Shape.path v).map
      (fun x d => { d with settings := { d.settings with workingDir := some x } }), true⟩]
  strict := true
  blank := ⟨none, ofCommand []⟩
  finish := fun d =>
    match d.command with
    | some command => .ok { d.settings with command }
    | none => .error (.missingField "command")

end TargetSettings

namespace Config

/-- The configuration when nothing is said. -/
def standard : Config where
  mode := .profile
  staticMap := none
  traceFile := "/tmp/target.bc_cov"
  target := none
  inputs := []
  fuzzerOutputs := []
  denylist := .standard
  output := none

instance : Inhabited Config := ⟨standard⟩

/-- The section about inputs, read into a configuration. -/
def corpusFormat (start : Config) : Format Config Config where
  name := "struct CorpusSettings"
  fields := [
    ⟨"input-paths", fun v => (Shape.list Shape.path v).map (fun x c => { c with inputs := x }),
      false⟩,
    ⟨"afl-output-dirs", fun v => (Shape.list Shape.path v).map
      (fun x c => { c with fuzzerOutputs := x }), false⟩]
  strict := true
  blank := start
  finish := .ok

/-- The section about snapshots, read into a configuration. -/
def snapshotFormat (start : Config) : Format Config Config where
  name := "struct SnapshotSettings"
  fields := [
    ⟨"denylist", fun v => (Shape.list Shape.text v).map (fun x c => { c with denylist := ⟨x⟩ }),
      false⟩,
    ⟨"output", fun v => (Shape.path v).map (fun x c => { c with output := some x }), true⟩]
  strict := true
  blank := start
  finish := .ok

/-- A whole configuration. -/
def format : Format Config Config where
  name := "struct BbcovConfig"
  fields := [
    ⟨"mode", fun v => (Mode.shape v).map (fun x c => { c with mode := x }), false⟩,
    ⟨"static-map", fun v => (Shape.path v).map (fun x c => { c with staticMap := some x }), true⟩,
    ⟨"trace-file", fun v => (Shape.path v).map (fun x c => { c with traceFile := x }), false⟩,
    ⟨"executor", fun v => (TargetSettings.format.read v).map
      (fun x c => { c with target := some x }), false⟩,
    ⟨"corpus", fun v => ((corpusFormat standard).read v).map
      (fun x c => { c with inputs := x.inputs, fuzzerOutputs := x.fuzzerOutputs }), false⟩,
    ⟨"snapshot", fun v => ((snapshotFormat standard).read v).map
      (fun x c => { c with denylist := x.denylist, output := x.output }), false⟩]
  strict := true
  blank := standard
  finish := .ok

end Config

/-- Why a configuration could not be loaded. -/
inductive ConfigFault where
  /-- The file cannot be read. -/
  | unreadable (path : String) (cause : IoCause)
  /-- The file is not a well-formed document. -/
  | malformed (path : String)
  /-- A setting does not have the right shape. -/
  | misshapen (path : String) (fault : ShapeFault)
deriving DecidableEq, Repr

namespace ConfigFault

/-- What failed, without the reason that the document gives. -/
def headline : ConfigFault → String
  | unreadable path cause =>
    "Failed to read config file at " ++ Text.quote path ++ ": " ++ cause.message
  | malformed path | misshapen path _ =>
    "Failed to parse TOML from config file " ++ Text.quote path

/-- The text of a fault. -/
def message (f : ConfigFault) : String :=
  match f with
  | unreadable _ _ => f.headline
  | malformed _ => f.headline ++ ": the document is not well formed"
  | misshapen _ fault => f.headline ++ ": " ++ fault.message

end ConfigFault

namespace Config

/-- Reads a configuration from the text of the file at `path`. -/
def parse (path text : String) : Except ConfigFault Config :=
  match Toml.read text with
  | none => .error (.malformed path)
  | some entries => (format.read (.table .headed entries)).mapError (.misshapen path)

/-- Loads a configuration file. -/
def load (fs : Files) (path : String) : Except ConfigFault Config :=
  match fs.readText path with
  | .error cause => .error (.unreadable path cause)
  | .ok text => parse path text

end Config

end BlockCoverage
