import BlockCoverage.Toml.Assembly
import BlockCoverage.Toml.Number

/-!
# Reading a document

Values nest to a limited depth, so reading them recurs on the depth that is left.
-/

namespace BlockCoverage.Toml

/-- Reads a value that holds no others. -/
def scalar : Reader Value := fun s =>
  match s with
  | 't' :: 'r' :: 'u' :: 'e' :: rest => some (.boolean true, rest)
  | 'f' :: 'a' :: 'l' :: 's' :: 'e' :: rest => some (.boolean false, rest)
  | _ => ((string s).map (fun r => (.text r.1, r.2))) <|> number s

/-- Reads a list after its opening bracket. -/
def listBody (value : Reader Value) : Reader Value := fun s =>
  let item : Reader Value := fun s =>
    (value (skipFiller s)).map (fun r => (r.1, skipFiller r.2))
  let (items, t) := commaSeparated item s
  let t := if items.isEmpty then t else (expect ',' t).getD t
  (expect ']' (skipFiller t)).map (fun u => (.list items, u))

/-- Reads a key and its value, with the blanks around them. -/
def pair (value : Reader Value) : Reader (List String × String × Value) := fun s => do
  let ((path, name), t) ← key s
  let t ← expect '=' t
  let (v, t) ← value (skipBlanks t)
  return ((path, name, v), skipBlanks t)

/-- Reads a table after its opening brace. -/
def inlineBody (value : Reader Value) : Reader Value := fun s => do
  let (pairs, t) := commaSeparated (pair value) s
  let t ← expect '\x7d' (skipBlanks t)
  let entries ← assembleInline pairs
  return (.table .inline entries, t)

/-- Reads a value in which others nest no deeper than `depth`. -/
def value : (depth : Nat) → Reader Value
  | 0 => scalar
  | depth + 1 => fun s =>
    match s with
    | '[' :: rest => listBody (value depth) rest
    | '\x7b' :: rest => inlineBody (value depth) rest
    | _ => scalar s

/-- Reads a header after its opening brackets. -/
def headerBody (closing : List Char → Option (List Char)) : Reader (List String × String) :=
  fun s => do
  let (name, t) ← key s
  let t ← closing t
  let t ← lineEnd t
  return (name, t)

/-- Reads a statement, or the end of a line without one. -/
def statement : Reader (Option Statement) := fun s =>
  match s with
  | [] => none
  | '#' :: _ => (lineEnd s).map (fun t => (none, t))
  | '[' :: '[' :: rest =>
    (headerBody (fun t => (expect ']' t).bind (expect ']')) rest).map
      (fun r => (some (.item r.1.1 r.1.2), r.2))
  | '[' :: rest =>
    (headerBody (expect ']') rest).map (fun r => (some (.table r.1.1 r.1.2), r.2))
  | _ =>
    match newline s with
    | some t => some (none, t)
    | none => do
      let ((path, name, v), t) ← pair (value depthLimit) s
      let t ← lineEnd t
      return (some (.assign path name v), t)

/-- The entries of a document; `none` if it is not well formed. A byte order mark is passed over. -/
def read (text : String) : Option Entries :=
  let s := text.toList
  let s := (expect (Char.ofNat 0xFEFF) s).getD s
  let line : Reader (Option Statement) := fun s =>
    (statement s).map (fun r => (r.1, skipBlanks r.2))
  match many line (skipBlanks s) with
  | (statements, []) => assemble (statements.filterMap id)
  | (_, _ :: _) => none

end BlockCoverage.Toml
