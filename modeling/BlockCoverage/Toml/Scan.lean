/-!
# Reading characters

A reader takes characters off the front of a text, or refuses. Blanks, comments and line ends are
read here, and repetition, which stops where a reader refuses.
-/

namespace BlockCoverage.Toml

/-- Takes characters off the front of a text; `none` if it refuses. -/
abbrev Reader (α : Type) := List Char → Option (α × List Char)

/-- Reads as often as possible, at most once for each character of `bound`; `done` holds what has
been read, the last first. -/
def manyWithin {α : Type} (read : Reader α) : (bound : List Char) → (done : List α) → List Char →
    List α × List Char
  | [], done, s => (done.reverse, s)
  | _ :: bound, done, s =>
    match read s with
    | none => (done.reverse, s)
    | some (a, t) => manyWithin read bound (a :: done) t

/-- Reads as often as possible. A reader that does not refuse takes something, so the text itself
says how often that can be. -/
def many {α : Type} (read : Reader α) (s : List Char) : List α × List Char := manyWithin read s [] s

/-- Takes one given character. -/
def expect (c : Char) : List Char → Option (List Char)
  | [] => none
  | d :: rest => if d = c then some rest else none

/-- Whether a character separates words on a line. -/
def isBlank (c : Char) : Bool := c == ' ' || c == '\t'

/-- Skips blanks on a line. -/
def skipBlanks (s : List Char) : List Char := s.dropWhile isBlank

/-- Whether a character may stand in a comment or a string: no control character but the tab. -/
def isPlain (c : Char) : Bool := c == '\t' || (0x20 ≤ c.toNat && c.toNat != 0x7F)

/-- Takes a line feed, alone or after a carriage return. -/
def newline : List Char → Option (List Char)
  | '\n' :: rest => some rest
  | '\r' :: '\n' :: rest => some rest
  | _ => none

/-- Skips a comment, if there is one. -/
def skipComment : List Char → List Char
  | '#' :: rest => rest.dropWhile isPlain
  | s => s

/-- Takes the rest of a line that holds no more than a comment. -/
def lineEnd (s : List Char) : Option (List Char) :=
  match skipComment (skipBlanks s) with
  | [] => some []
  | rest => newline rest

/-- Takes the end of a line, or a run of blanks. -/
def fillerPiece : Reader Unit := fun s =>
  match s with
  | [] => none
  | c :: rest =>
    if isBlank c then some ((), rest)
    else (newline (skipComment (c :: rest))).map (fun t => ((), t))

/-- Skips blanks, comments and line ends. -/
def skipFiller (s : List Char) : List Char := (many fillerPiece s).2

/-- Reads one or more items with commas between them, or none at all; a comma that no item follows
is left. -/
def commaSeparated {α : Type} (item : Reader α) (s : List Char) : List α × List Char :=
  match item s with
  | none => ([], s)
  | some (a, t) =>
    let (rest, u) := many (fun s => (expect ',' s).bind item) t
    (a :: rest, u)

end BlockCoverage.Toml
