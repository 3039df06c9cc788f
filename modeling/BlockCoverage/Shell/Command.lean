import BlockCoverage.Number.Natural
import BlockCoverage.Text.Blank
import BlockCoverage.Text.Letter.Lower

/-!
# Shell commands

A command line is a verb and its arguments, cut at blanks. Verbs are read in any case; arguments are
taken as they stand.
-/

namespace BlockCoverage.Shell

/-- What a command does, without its arguments. -/
inductive Verb where
  /-- Shows the tally of every function. -/
  | summary
  /-- Lists functions. -/
  | functions
  /-- Lists the blocks of a function. -/
  | blocks
  /-- Shows the share of a function that is covered. -/
  | ratio
  /-- Shows the source of a function. -/
  | source
  /-- Names the runs that covered a line. -/
  | line
  /-- Names the functions on a line. -/
  | declaring
  /-- Runs the target. -/
  | run
  /-- Merges a saved trace. -/
  | merge
  /-- Forgets all hits. -/
  | reset
  /-- Writes a snapshot. -/
  | dump
  /-- Shows the commands. -/
  | help
  /-- Ends the shell. -/
  | quit
deriving DecidableEq, Repr

namespace Verb

/-- Every verb. -/
def all : List Verb :=
  [summary, functions, blocks, ratio, source, line, declaring, run, merge, reset, dump, help, quit]

/-- The words for a verb. -/
def words : Verb → List String
  | summary => ["summary"]
  | functions => ["functions", "list"]
  | blocks => ["blocks"]
  | ratio => ["ratio"]
  | source => ["show"]
  | line => ["line"]
  | declaring => ["where"]
  | run => ["run"]
  | merge => ["merge"]
  | reset => ["reset"]
  | dump => ["dump"]
  | help => ["help", "?"]
  | quit => ["quit", "exit", "q"]

/-- The verb that a word in small letters stands for. -/
def ofWord? (word : String) : Option Verb := all.find? (fun v => v.words.contains word)

end Verb

/-- A command with its arguments. -/
inductive Command where
  /-- Shows the tally of every function. -/
  | summary
  /-- Lists the functions whose name contains the filter. -/
  | functions (filter : Option String)
  /-- Lists the blocks of a function. -/
  | blocks (function : String) (file : Option String)
  /-- Shows the share of a function that is covered. -/
  | ratio (function : String) (file : Option String)
  /-- Shows the source of a function. -/
  | source (function : String) (file : Option String)
  /-- Names the runs that covered a line of a function. -/
  | line (function : String) (line : UInt32) (file : Option String)
  /-- Names the functions with a block on a line of a file. -/
  | declaring (file : String) (line : UInt32)
  /-- Runs the target on an input file. -/
  | run (input : String)
  /-- Merges a saved trace. -/
  | merge (trace : String)
  /-- Forgets all hits. -/
  | reset
  /-- Writes a snapshot. -/
  | dump (path : String)
  /-- Shows the commands. -/
  | help
  /-- Ends the shell. -/
  | quit
deriving DecidableEq, Repr

/-- Why a line is no command. -/
inductive CommandFault where
  /-- There is no verb. -/
  | empty
  /-- There is no such verb. -/
  | unknownVerb (word : String)
  /-- The arguments are too few or too many for the form. -/
  | usage (form : String)
  /-- A line number is no count below `2 ^ 32`. -/
  | badLine (text : String)
deriving DecidableEq, Repr

/-- The text of a fault. -/
def CommandFault.message : CommandFault → String
  | empty => "Empty command. Try: help"
  | unknownVerb word => "Unknown command '" ++ word ++ "'. Try: help"
  | usage form => "Usage: " ++ form
  | badLine text => "Invalid line number: " ++ text

namespace Command

/-- Reads a function and perhaps a file; `word` is the verb as it was typed. -/
def functionArguments (word : String) (make : String → Option String → Command) :
    List String → Except CommandFault Command
  | [function] => .ok (make function none)
  | [function, file] => .ok (make function (some file))
  | _ => .error (.usage (word ++ " <function> [file]"))

/-- Reads a path; `word` is the verb as it was typed. -/
def pathArgument (word : String) (make : String → Command) :
    List String → Except CommandFault Command
  | [path] => .ok (make path)
  | _ => .error (.usage (word ++ " <path>"))

/-- Reads a line number. -/
def lineNumber (text : String) : Except CommandFault UInt32 :=
  match Number.readWord? text with
  | some n => .ok n
  | none => .error (.badLine text)

/-- Reads a function, a line and perhaps a file. -/
def lineArguments : List String → Except CommandFault Command
  | [function, text] => (lineNumber text).map (fun l => .line function l none)
  | [function, text, file] => (lineNumber text).map (fun l => .line function l (some file))
  | _ => .error (.usage "line <function> <line> [file]")

/-- Reads a file and a line. -/
def placeArguments : List String → Except CommandFault Command
  | [file, text] => (lineNumber text).map (.declaring file)
  | _ => .error (.usage "where <file> <line>")

/-- Reads the arguments of a verb that was typed as `word`. A verb without arguments ignores any. -/
def ofVerb (verb : Verb) (word : String) (arguments : List String) : Except CommandFault Command :=
  match verb with
  | .summary => .ok .summary
  | .functions => .ok (.functions arguments.head?)
  | .blocks => functionArguments word .blocks arguments
  | .ratio => functionArguments word .ratio arguments
  | .source => functionArguments word .source arguments
  | .line => lineArguments arguments
  | .declaring => placeArguments arguments
  | .run => pathArgument word .run arguments
  | .merge => pathArgument word .merge arguments
  | .reset => .ok .reset
  | .dump => pathArgument word .dump arguments
  | .help => .ok .help
  | .quit => .ok .quit

/-- Reads a command line. -/
def parse (text : String) : Except CommandFault Command :=
  match Text.splitBlank text with
  | [] => .error .empty
  | word :: arguments =>
    let lowered := Text.toLower word
    match Verb.ofWord? lowered with
    | some verb => ofVerb verb word arguments
    | none => .error (.unknownVerb lowered)

end Command

end BlockCoverage.Shell
