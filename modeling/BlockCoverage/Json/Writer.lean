import BlockCoverage.Text.Quoted

/-!
# Writers

A writer gives the text of a value at a nesting depth. Every element and member stands on a line of
its own, two blanks deeper than the bracket around it; an empty list or object is written in one
piece. A string escapes quotes, backslashes and control characters, and nothing else.
-/

namespace BlockCoverage.Json

/-- The text of a value whose brackets stand at the given depth. -/
abbrev Writer := Nat → String

/-- How one character of a string is written. -/
def escapeChar (c : Char) : List Char :=
  if c = '"' then ['\\', '"']
  else if c = '\\' then ['\\', '\\']
  else if c = Char.ofNat 8 then ['\\', 'b']
  else if c = Char.ofNat 12 then ['\\', 'f']
  else if c = '\n' then ['\\', 'n']
  else if c = '\r' then ['\\', 'r']
  else if c = '\t' then ['\\', 't']
  else if c.toNat < 16 then ['\\', 'u', '0', '0', '0'] ++ Text.hex c.toNat
  else if c.toNat < 32 then ['\\', 'u', '0', '0'] ++ Text.hex c.toNat
  else [c]

/-- A string between quotes. -/
def stringText (s : String) : String := String.ofList ('"' :: s.toList.flatMap escapeChar ++ ['"'])

/-- The start of a line at a depth. -/
def lineStart (depth : Nat) : String := "\n" ++ String.ofList (List.replicate (2 * depth) ' ')

/-- Lines between brackets. -/
def bracketed (opening closing : String) (depth : Nat) (parts : List String) : String :=
  if parts.isEmpty then opening ++ closing
  else opening ++ lineStart (depth + 1) ++
    String.intercalate ("," ++ lineStart (depth + 1)) parts ++ lineStart depth ++ closing

namespace Writer

/-- Writes a string. -/
def text (s : String) : Writer := fun _ => stringText s

/-- Writes a whole number. -/
def number (n : Nat) : Writer := fun _ => Nat.repr n

/-- Writes a list. -/
def list (items : List Writer) : Writer := fun depth =>
  bracketed "[" "]" depth (items.map (fun w => w (depth + 1)))

/-- Writes an object with its members in the given order. -/
def object (members : List (String × Writer)) : Writer := fun depth =>
  bracketed "\x7b" "\x7d" depth (members.map (fun m => stringText m.1 ++ ": " ++ m.2 (depth + 1)))

/-- Writes a document. -/
def document (w : Writer) : String := w 0

end Writer

end BlockCoverage.Json
