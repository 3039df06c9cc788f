import BlockCoverage.Trace.Mode

/-!
# Options

What can be said on the command line, and the names it goes by.
-/

namespace BlockCoverage.CommandLine

/-- An option that takes a value. -/
inductive Setting where
  /-- The configuration file. -/
  | configFile
  /-- The static map. -/
  | staticMap
  /-- The layout of traces. -/
  | mode
  /-- The command of the target. -/
  | targetCommand
  /-- An input file, or a directory of them. -/
  | input
  /-- The output directory of a fuzzer. -/
  | fuzzerOutput
  /-- A saved trace. -/
  | mergeTrace
  /-- The function to report on. -/
  | function
  /-- The file of that function. -/
  | file
  /-- The line to report on. -/
  | line
  /-- The directory of source files. -/
  | sourceDir
  /-- A snapshot to start from. -/
  | resume
  /-- Where a snapshot is written. -/
  | dump
deriving DecidableEq, Repr

/-- An option without a value. -/
inductive Switch where
  /-- Opens the shell. -/
  | shell
  /-- Says more while working. -/
  | verbose
  /-- Asks for help. -/
  | help
  /-- Asks for the version. -/
  | version
deriving DecidableEq, Repr

/-- An option. -/
inductive Name where
  /-- One that takes a value. -/
  | setting (s : Setting)
  /-- One that takes none. -/
  | switch (s : Switch)
deriving DecidableEq, Repr

namespace Name

/-- The long names. -/
def longNames : List (String × Name) := [
  ("config-file", .setting .configFile), ("static-map", .setting .staticMap),
  ("mode", .setting .mode), ("target-command", .setting .targetCommand),
  ("input", .setting .input), ("afl-dir", .setting .fuzzerOutput),
  ("merge-trace", .setting .mergeTrace), ("function", .setting .function),
  ("file", .setting .file), ("line", .setting .line), ("source-dir", .setting .sourceDir),
  ("resume", .setting .resume), ("dump", .setting .dump), ("shell", .switch .shell),
  ("verbose", .switch .verbose), ("help", .switch .help), ("version", .switch .version)]

/-- The one-letter names. -/
def shortNames : List (Char × Name) := [
  ('c', .setting .configFile), ('i', .setting .input), ('f', .setting .function),
  ('v', .switch .verbose), ('h', .switch .help), ('V', .switch .version)]

/-- The option of a long name. -/
def ofLong? (name : String) : Option Name := longNames.lookup name

/-- The option of a letter. -/
def ofShort? (letter : Char) : Option Name := shortNames.lookup letter

end Name

/-- What was said on the command line. -/
structure Options where
  /-- The configuration file. -/
  configFile : Option String := none
  /-- The static map. -/
  staticMap : Option String := none
  /-- The layout of traces. -/
  mode : Option Mode := none
  /-- The command of the target. -/
  targetCommand : Option String := none
  /-- Input files, and directories of them. -/
  inputs : List String := []
  /-- Output directories of fuzzers. -/
  fuzzerOutputs : List String := []
  /-- Saved traces. -/
  mergeTraces : List String := []
  /-- The function to report on. -/
  function : Option String := none
  /-- The file of that function. -/
  file : Option String := none
  /-- The line to report on. -/
  line : Option UInt32 := none
  /-- The directory of source files. -/
  sourceDir : Option String := none
  /-- A snapshot to start from. -/
  resume : Option String := none
  /-- Where a snapshot is written. -/
  dump : Option String := none
  /-- Whether the shell is opened. -/
  shell : Bool := false
  /-- Whether more is said while working. -/
  verbose : Bool := false
deriving DecidableEq, Repr

/-- The directory of source files, the working directory if none was named. -/
def Options.sourceRoot (o : Options) : String := o.sourceDir.getD "."

/-- Why a command line is not carried out. -/
inductive UsageFault where
  /-- There is no such option, or a word stands alone. -/
  | unknownArgument (word : String)
  /-- An option lacks its value. -/
  | missingValue
  /-- The value of an option cannot be read. -/
  | badValue (text : String)
  /-- An option that may be given once is given twice. -/
  | repeated
  /-- A value for an option that takes none. -/
  | unwantedValue (text : String)
  /-- A line without a function. -/
  | lineAlone
  /-- Help was asked for. -/
  | help
  /-- The version was asked for. -/
  | version
deriving DecidableEq, Repr

namespace UsageFault

/-- The version of the program. -/
def versionText : String := "bbcov_cli 0.1.0\n"

/-- The list of options. -/
def helpText : String :=
  "Usage: bbcov [OPTIONS]\n\nOptions:\n" ++
  "  -c, --config-file <CONFIG_FILE>\n" ++
  "      --static-map <STATIC_MAP>          static basic-block map\n" ++
  "      --mode <MODE>                      trace format: profile or trace\n" ++
  "      --target-command <TARGET_COMMAND>  instrumented binary to run\n" ++
  "  -i, --input <INPUT>                    input files or directories to replay\n" ++
  "      --afl-dir <AFL_DIR>                fuzzer output directories to replay\n" ++
  "      --merge-trace <MERGE_TRACE>        trace files written by earlier runs\n" ++
  "  -f, --function <FUNCTION>              report coverage of this function\n" ++
  "      --file <FILE>                      source file of the function\n" ++
  "      --line <LINE>                      list the inputs that covered this line\n" ++
  "      --source-dir <SOURCE_DIR>          root of source paths [default: .]\n" ++
  "      --resume <RESUME>                  start from a snapshot\n" ++
  "      --dump <DUMP>                      write a snapshot when done\n" ++
  "      --shell                            open the query shell\n" ++
  "  -v, --verbose\n" ++
  "  -h, --help                             print help\n" ++
  "  -V, --version                          print version\n"

/-- What is said about a command line that is not carried out. -/
def message : UsageFault → String
  | unknownArgument word => "error: unexpected argument '" ++ word ++ "' found\n"
  | missingValue => "error: a value is required but none was supplied\n"
  | badValue text => "error: invalid value '" ++ text ++ "'\n"
  | repeated => "error: an argument cannot be used multiple times\n"
  | unwantedValue text => "error: unexpected value '" ++ text ++ "' found; no more were expected\n"
  | lineAlone => "error: '--line' needs '--function'\n"
  | help => helpText
  | version => versionText

end UsageFault

end BlockCoverage.CommandLine
