import BlockCoverage.Script.Builtin.Control
import BlockCoverage.Script.Builtin.Output
import BlockCoverage.Script.Builtin.Places
import BlockCoverage.Script.Builtin.Variables
import BlockCoverage.Script.Token
import BlockCoverage.Script.Utility.Blocks
import BlockCoverage.Script.Utility.Characters
import BlockCoverage.Script.Utility.Dump
import BlockCoverage.Script.Utility.Edit
import BlockCoverage.Script.Utility.Encodings
import BlockCoverage.Script.Utility.Columns
import BlockCoverage.Script.Utility.Ends
import BlockCoverage.Script.Utility.Identity
import BlockCoverage.Script.Utility.Listing
import BlockCoverage.Script.Utility.Paths
import BlockCoverage.Script.Utility.Sequences

/-!
# Programs

The programs that can be found by name, and where a name leads: to a program, to a file that holds a
script, or nowhere.
-/

namespace BlockCoverage.Script

open Text (Bytes)
open Machine (wording path)

namespace Utility

/-- Writes arguments on a line; escapes are spelled out only if asked. -/
def plainEcho : Utility := fun args m =>
  let isSwitch := fun (a : String) =>
    match a.toList with
    | '-' :: c :: more => (c :: more).all (fun d => ['n', 'e', 'E'].contains d)
    | _ => false
  let switches := args.takeWhile isSwitch
  let letters := (switches.map String.toList).flatten
  let rest := args.drop switches.length
  let newline := !letters.contains 'n'
  if letters.contains 'e' then (m.say (Format.line newline rest)).leave 0
  else (m.say (String.intercalate " " rest ++ (if newline then "\n" else ""))).leave 0

/-- Says where programs are. -/
def which (find : String → Option String) : Utility := fun args m =>
  let found := (args.filter (fun a => a ≠ "-a")).map find
  sayLines (found.filterMap id) (m.leave (if found.all Option.isSome ∧ !found.isEmpty then 0
    else 1))

/-- Runs a command of the shell as a program. -/
def ofBuiltin (run : Machine → List String → Machine) : Utility := fun args m =>
  { run m args with faulty := false }

/-- The programs by name. -/
def table : List (String × Utility) :=
  [("true", fun _ m => m.leave 0), ("false", fun _ m => m.leave 1), ("cat", cat), ("tee", tee),
    ("mkdir", mkdir), ("rmdir", rmdir), ("rm", rm), ("touch", touch), ("cp", cp), ("mv", mv),
    ("ln", ln), ("link", link), ("unlink", unlink), ("readlink", readlink), ("mktemp", mktemp),
    ("chmod", chmod), ("chown", chown "chown"), ("chgrp", chown "chgrp"), ("split", split),
      ("ls", ls), ("truncate", truncate), ("stat", stat), ("cmp", cmp),
    ("dd", dd), ("head", head), ("tail", tail), ("wc", wc), ("sort", sort), ("uniq", uniq),
    ("cut", cut), ("tr", tr), ("rev", rev), ("tac", tac), ("nl", nl), ("fold", fold),
    ("paste", paste), ("expand", expand), ("unexpand", unexpand), ("comm", comm), ("join", join),
    ("tsort", tsort), ("shuf", shuf), ("factor", factor), ("seq", seq), ("yes", yes),
      ("grep", grep false false),
    ("egrep", grep false true), ("fgrep", grep true false), ("expr", expr), ("sed", sed),
      ("od", od),
    ("md5sum", digest "md5sum" "MD5" Digest.md5),
      ("sha1sum", digest "sha1sum" "SHA1" Digest.Sha.sha1),
    ("sha224sum", digest "sha224sum" "SHA224" Digest.Sha.sha224),
    ("sha256sum", digest "sha256sum" "SHA256" Digest.Sha.sha256),
    ("sha384sum", digest "sha384sum" "SHA384" Digest.Sha.sha384),
    ("sha512sum", digest "sha512sum" "SHA512" Digest.Sha.sha512), ("cksum", cksum), ("sum", sum),
    ("base64", encoding "base64" sixtyFour), ("base32", encoding "base32" thirtyTwo),
      ("basename", basename),
    ("dirname", dirname), ("printenv", printenv), ("id", identity), ("groups", groups),
    ("whoami", fixedLine "whoami" user),
      ("logname", withoutOperands "logname" (fail "logname" "no login name" 1)),
    ("users", fun _ m => m.leave 0), ("who", fun _ m => m.leave 0), ("tty", tty), ("uname", uname),
    ("arch", fixedLine "arch" "x86_64"), ("sync", sync), ("realpath", realpath), ("date", date),
      ("echo", plainEcho),
    ("printf", ofBuiltin Machine.printf), ("test", ofBuiltin (fun m => m.test "test")),
    ("[", ofBuiltin (fun m => m.test "[")), ("pwd", pwd),
    ("kill", ofBuiltin Machine.kill)]

/-- Programs that start others. -/
def starters : List String :=
  ["sh", "dash", "bash", "env", "xargs", "timeout", "nohup", "nice", "setsid", "sleep", "which",
    "find"]

/-- Whether there is a program of a name. -/
def isProgram (name : String) : Bool := (table.lookup name).isSome || starters.contains name

end Utility

/-- Where a name leads. -/
inductive Lead where
  /-- To a program. -/
  | program (name : String)
  /-- To a file that can be executed. -/
  | file (path : String)
  /-- To something that cannot be executed. -/
  | denied
  /-- Nowhere. -/
  | missing
deriving DecidableEq, Repr

namespace Machine

/-- The directories that hold programs. -/
def programDirectories : List Location := [["bin"], ["usr", "bin"]]

/-- Where a path leads. -/
def leadOfPath (m : Machine) (text : String) : Lead :=
  match m.world.files.locate (path text) with
  | .error .permissionDenied => .denied
  | .error _ => .missing
  | .ok loc =>
    match m.world.files.entryAt? loc with
    | some (.file n) => if Nat.land (m.world.files.inode n).mode 73 = 0 then .denied else .file text
    | some _ => .denied
    | none =>
      let name := Text.Octets.encode (loc.getLastD "")
      if programDirectories.contains loc.dropLast && Utility.isProgram name &&
        !Files.endsWithSlash text then
        .program name
      else .missing

/-- The directories that are searched, and where the name leads in each. -/
def leads (m : Machine) (name : String) : List (String × Lead) :=
  let list := m.value "PATH"
  let dirs := (Text.pieces (fun c => decide (c = ':')) list.toList).map String.ofList
  dirs.map (fun dir =>
    let full := if dir = "" then name else Utility.below dir name
    (full, m.leadOfPath full))

/-- Where a command name leads: a name with a slash is a path, any other is searched for. -/
def leadOf (m : Machine) (name : String) : Lead :=
  if name = "" then .missing
  else if name.toList.contains '/' then m.leadOfPath name
  else
    let found := (m.leads name).map Prod.snd
    match found.find? (fun l => l matches .program _ | .file _) with
    | some l => l
    | none => if found.contains .denied then .denied else .missing

/-- The path that a command name is found at. -/
def pathOf? (m : Machine) (name : String) : Option String :=
  if name.toList.contains '/' then
    match m.leadOfPath name with
    | .program _ | .file _ => some name
    | _ => none
  else
    ((m.leads name).find? (fun l => l.2 matches .program _ | .file _)).map Prod.fst

/-- Commands of the shell that are special. -/
def specialBuiltins : List String :=
  [".", ":", "break", "continue", "eval", "exec", "exit", "export", "local", "readonly",
    "return", "set", "shift", "times", "trap", "unset"]

/-- The other commands of the shell. -/
def plainBuiltins : List String :=
  ["alias", "bg", "cd", "chdir", "command", "echo", "false", "fg", "getopts", "hash", "jobs",
    "kill",
    "printf", "pwd", "read", "test", "[", "true", "type", "ulimit", "umask", "unalias", "wait"]

/-- What a name stands for, in words; `brief` gives what can be typed instead. -/
def describe (m : Machine) (brief : Bool) (quote : String → String) (name : String) :
    Option String :=
  if Token.reservedWords.contains name then
    some (if brief then name else name ++ " is a shell keyword")
  else match m.aliases.lookup name with
    | some value =>
      some (if brief then "alias " ++ name ++ "=" ++ quote value
        else name ++ " is an alias for " ++ value)
    | none =>
      if (m.functions.lookup name).isSome then
        some (if brief then name else name ++ " is a shell function")
      else if specialBuiltins.contains name then
        some (if brief then name else name ++ " is a special shell builtin")
      else if plainBuiltins.contains name then
        some (if brief then name else name ++ " is a shell builtin")
      else (m.pathOf? name).map (fun p => if brief then p else name ++ " is " ++ p)

/-- Says what names stand for. -/
def typeOf (m : Machine) (args : List String) : Machine :=
  let one := fun (m : Machine) (name : String) =>
    match m.describe false quote name with
    | some text => m.report "type" (text ++ "\n")
    | none => (m.report "type" (name ++ ": not found\n")).leave 127
  args.foldl one (m.leave 0)

/-- Looks programs up. -/
def hash (m : Machine) (args : List String) : Machine :=
  match Switches.split "rv" args with
  | .error text => m.refuse "hash" text
  | .ok (_, names) =>
    let one := fun (m : Machine) (name : String) =>
      if (m.describe true quote name).isSome then m
      else (m.complain ("hash: " ++ name ++ ": not found")).leave 1
    names.foldl one (m.leave 0)

/-- Lists or sets words that stand for other text. -/
def aliasWords (m : Machine) (args : List String) : Machine :=
  let line := fun (e : String × String) => e.1 ++ "=" ++ quote e.2 ++ "\n"
  if args.isEmpty then (m.leave 0).report "alias" (String.join (m.aliases.reverse.map line))
  else
    let one := fun (m : Machine) (arg : String) =>
      match binding arg with
      | (name, some value) =>
        { m with aliases := (name, value) :: m.aliases.filter (fun a => a.1 != name) }
      | (name, none) =>
        match m.aliases.lookup name with
        | some value => m.report "alias" (line (name, value))
        | none => (m.warn ("alias: " ++ name ++ " not found\n")).leave 1
    args.foldl one (m.leave 0)

/-- Forgets words that stand for other text. -/
def unalias (m : Machine) (args : List String) : Machine :=
  match Switches.split "a" args with
  | .error text => m.refuse "unalias" text
  | .ok (switches, names) =>
    if !switches.isEmpty then { m.leave 0 with aliases := [] }
    else
      let one := fun (m : Machine) (name : String) =>
        if (m.aliases.lookup name).isSome then
          { m with aliases := m.aliases.filter (fun a => a.1 != name) }
        else (m.warn ("unalias: " ++ name ++ " not found\n")).leave 1
      names.foldl one (m.leave 0)

/-- The commands of the shell that do not run others. -/
def builtin? (name : String) : Option (Machine → List String → Machine) :=
  match name with
  | ":" | "true" => some (fun m _ => m.leave 0)
  | "false" => some (fun m _ => m.leave 1)
  | "times" => some (fun m _ =>
      (m.leave 0).report "times" "0m0.000000s 0m0.000000s\n0m0.000000s 0m0.000000s\n")
  | "echo" => some echo
  | "printf" => some printf
  | "test" => some (fun m => m.test "test")
  | "[" => some (fun m => m.test "[")
  | "read" => some readLine
  | "cd" | "chdir" => some changeDirectory
  | "pwd" => some printDirectory
  | "export" => some exportVariables
  | "readonly" => some fixVariables
  | "local" => some localVariables
  | "unset" => some unset
  | "set" => some setOptions
  | "shift" => some shift
  | "getopts" => some getopts
  | "break" => some (fun m => m.leaveLoops "break")
  | "continue" => some (fun m => m.leaveLoops "continue")
  | "return" => some leaveFunction
  | "exit" => some exit
  | "trap" => some (fun m => m.trap quote)
  | "kill" => some kill
  | "umask" => some umask
  | "ulimit" => some ulimit
  | "type" => some typeOf
  | "hash" => some hash
  | "alias" => some aliasWords
  | "unalias" => some unalias
  | "fg" | "bg" => some (fun m _ => m.refuse name "No current job")
  | "jobs" => some listJobs
  | _ => none

end Machine

end BlockCoverage.Script
