import BlockCoverage.Script.Expand
import BlockCoverage.Script.Grammar

/-!
# Redirections

A redirection points a descriptor somewhere else for the time of a command. All its words are
expanded before the first descriptor is changed; the first redirection that fails stops the rest.
-/

namespace BlockCoverage.Script

open Text (Bytes)

/-- A redirection whose word has been expanded. -/
inductive Pointing where
  /-- To a file. -/
  | file (descriptor : Nat) (path : String) (access : World.Access) (replaces : Bool)
  /-- To where another descriptor leads. -/
  | copy (descriptor source : Nat)
  /-- To nowhere. -/
  | close (descriptor : Nat)
  /-- To octets that are ready to be read. -/
  | text (descriptor : Nat) (contents : Bytes)
deriving DecidableEq

/-- The descriptor that is changed. -/
def Pointing.descriptor : Pointing → Nat
  | .file d _ _ _ => d
  | .copy d _ => d
  | .close d => d
  | .text d _ => d

namespace Redirection

/-- The text of a document, with what it asks for filled in. -/
def documentText (capture : Capture) (fuel number : Nat) : StateM Machine String := do
  let m ← get
  match m.documents.lookup number with
  | none => return ""
  | some d =>
    if d.verbatim then return d.text
    else
      let source := { Source.ofText [] m.aliases m.documents m.nextDocument with line := m.line }
      match Grammar.documentPieces d.text source with
      | .error fault =>
        set (m.abort fault.message)
        return ""
      | .ok (w, after) =>
        set { m with documents := after.documents, nextDocument := after.next }
        return Expand.textOf (← Expand.pieces capture fuel ⟨false, false⟩ w)

/-- Expands the word of a redirection. -/
def expand (capture : Capture) (fuel : Nat) (r : Redirect) : StateM Machine (Option Pointing) := do
  match r with
  | .write d w => return some (.file d (← Expand.text capture fuel w) .write false)
  | .replace d w => return some (.file d (← Expand.text capture fuel w) .write true)
  | .append d w => return some (.file d (← Expand.text capture fuel w) .append true)
  | .read d w => return some (.file d (← Expand.text capture fuel w) .read true)
  | .both d w => return some (.file d (← Expand.text capture fuel w) .both true)
  | .document d n => return some (.text d (Text.Octets.ofText (← documentText capture fuel n)))
  | .duplicate d w =>
    let text ← Expand.text capture fuel w
    if text = "-" then return some (.close d)
    else match text.toList with
      | [c] =>
        if c.isDigit then return some (.copy d (c.toNat - 48))
        else
          modify (fun m => m.abort "Syntax error: Bad fd number")
          return none
      | _ =>
        modify (fun m => m.abort "Syntax error: Bad fd number")
        return none

/-- Expands the words of redirections. -/
def expandAll (capture : Capture) (fuel : Nat) : List Redirect → StateM Machine (List Pointing)
  | [] => return []
  | r :: rest => do
    let p ← expand capture fuel r
    if (← get).isGoing then return p.toList ++ (← expandAll capture fuel rest) else return []

/-- The descriptor that a path stands for. -/
def descriptorOf? (text : String) : Option Nat :=
  match text with
  | "/dev/stdin" => some 0
  | "/dev/stdout" => some 1
  | "/dev/stderr" => some 2
  | _ =>
    let number := fun (rest : List Char) => match rest with
      | [c] => if c.isDigit then some (c.toNat - 48) else none
      | _ => none
    if "/dev/fd/".toList.isPrefixOf text.toList then number (text.toList.drop 8)
    else if "/proc/self/fd/".toList.isPrefixOf text.toList then number (text.toList.drop 14)
    else none

/-- The message about a file that cannot be opened. -/
def refusal (text : String) (access : World.Access) (cause : IoCause) : String :=
  let creates := access matches .write | .append | .both
  let reason := match cause with
    | .notFound | .notADirectory => if creates then "Directory nonexistent" else "No such file"
    | other => Machine.wording other
  (if creates then "cannot create " else "cannot open ") ++ text ++ ": " ++ reason

/-- Points a descriptor somewhere; a message if that cannot be done, which is lost where it is the
descriptor of messages itself that is changed. -/
def point (m : Machine) (p : Pointing) : Except String Machine :=
  match p with
  | .close d => .ok (m.detach d)
  | .copy d source =>
    match m.channelOf? source with
    | some n => .ok (m.attach d n)
    | none => .error (if d = 2 then "" else Nat.repr source ++ ": Bad file descriptor")
  | .text d s =>
    let (n, world) := m.world.openChannel (.pipe s [] 0 none)
    .ok ({ m with world }.attach d n)
  | .file d text access replaces =>
    match descriptorOf? text with
    | some source =>
      match m.channelOf? source with
      | some n => .ok (m.attach d n)
      | none => .error (refusal text access .notFound)
    | none =>
      if m.has 'C' && !replaces && m.world.files.isFile (Machine.path text) then
        .error (refusal text access .alreadyExists)
      else match m.openFile text access with
        | .error cause => .error (refusal text access cause)
        | .ok (n, m) => .ok (m.attach d n)

/-- Points descriptors one after the other: the machine as far as that went, and whether it went
through. -/
def pointAll : List Pointing → Machine → Machine × Bool
  | [], m => (m, true)
  | p :: rest, m =>
    match point m p with
    | .ok m => pointAll rest m
    | .error text => ((if text = "" then m else m.complain text).leave 2, false)

/-- Points descriptors back to where they led before. -/
def restore (before : List (Nat × Nat)) (ps : List Pointing) (m : Machine) : Machine :=
  ps.foldl (fun m p =>
    match before.lookup p.descriptor with
    | some n => m.attach p.descriptor n
    | none => m.detach p.descriptor) m

end Redirection

end BlockCoverage.Script
