import BlockCoverage.Files.Tree
import BlockCoverage.Text.Blank

/-!
# Target commands

A target is started by a command: a program and its arguments, with the input on its standard input
or in a file that the arguments name. The command says where the target is started and what is added
to its environment.
-/

namespace BlockCoverage

open Text (Bytes)

/-- How a target gets its input. -/
inductive InputDelivery where
  /-- On its standard input. -/
  | stdin
  /-- In a file, with further arguments made from a template. -/
  | file (template : String)
deriving DecidableEq, Repr

namespace InputDelivery

/-- Puts `path` for every pair of braces in a text. -/
def substitute (path : List Char) : List Char → List Char
  | '\x7b' :: '\x7d' :: rest => path ++ substitute path rest
  | c :: rest => c :: substitute path rest
  | [] => []

/-- The arguments that a template makes of the input's path: the path is put in, then the text is
cut at blanks. -/
def fileArguments (template path : String) : List String :=
  Text.splitBlank (String.ofList (substitute path.toList template.toList))

end InputDelivery

/-- A command that runs a target. -/
structure TargetCommand where
  /-- The program and its first arguments. -/
  command : List String
  /-- How the input is handed over. -/
  delivery : InputDelivery
  /-- Milliseconds after which the target is stopped. -/
  timeout : Nat
  /-- The directory that the target is started in. -/
  workingDir : Option String
  /-- What is added to the environment. -/
  environment : List (String × String)
deriving DecidableEq, Repr

namespace TargetCommand

/-- The variable that names the trace file to the coverage runtime. -/
def traceVariable : String := "BC_COV_FILE"

/-- The files as the target sees them from the directory that it is started in. -/
def startDirectory (c : TargetCommand) (fs : Files) : Except IoCause Files :=
  match c.workingDir with
  | none => .ok fs
  | some dir =>
    match fs.locate dir with
    | .error cause => .error cause
    | .ok loc =>
      match fs.node? loc with
      | none => .error .notFound
      | some (.file _) => .error .notADirectory
      | some .directory => .ok (fs.enter loc)

/-- What every target finds in its environment. -/
def givenEnvironment : List (String × String) :=
  [("HOME", "/root"), ("PATH", "/usr/local/sbin:/usr/local/bin:/usr/sbin:/usr/bin:/sbin:/bin")]

/-- The environment of the target: what is set last holds, and a name ends at its first equals
sign. -/
def fullEnvironment (c : TargetCommand) : List (String × String) :=
  let settings := (OrderedMap.ofList (givenEnvironment ++ c.environment)).entries
  let cut := settings.map (fun (k, v) =>
    let cs := (k ++ "=" ++ v).toList
    let name := cs.takeWhile (fun x => x != '=')
    (String.ofList name, String.ofList (cs.drop (name.length + 1))))
  cut.foldl (fun env e => env.filter (fun old => old.1 != e.1) ++ [e]) []

/-- Whether a command can be handed to the operating system: no part of it has a zero character. -/
def isPassable (c : TargetCommand) (extra : List String) : Bool :=
  (c.command ++ extra ++ c.workingDir.toList ++ c.environment.flatMap (fun (k, v) => [k, v])).all
    (fun part => !part.toList.contains (Char.ofNat 0))

end TargetCommand

end BlockCoverage
