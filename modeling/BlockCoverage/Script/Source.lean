import BlockCoverage.Script.Token

/-!
# The text of a script

A script is read from the front. The reader keeps the line it is in, for messages, and the documents
that have been announced on the line: their text starts after the line ends. A backslash before a
line end joins two lines, so it is passed over wherever a character is looked for.

A word that stands for other text is replaced by it in front of what is left, and a mark is put
after the other text: until the mark is passed the word is not replaced again.
-/

namespace BlockCoverage.Script

/-- A document whose text has not come yet. -/
structure Announced where
  /-- The number under which commands ask for it. -/
  number : Nat
  /-- The line that ends it. -/
  delimiter : String
  /-- Whether nothing in it is filled in. -/
  verbatim : Bool
  /-- Whether tabs at the start of its lines are left out. -/
  dropTabs : Bool

/-- What is left of a script, and what has been gathered on the way. -/
structure Source where
  /-- The characters that are left. -/
  rest : List Char
  /-- The current line, counted from one. -/
  line : Nat
  /-- Documents to be read after this line, the last announced first. -/
  announced : List Announced
  /-- Documents by number. -/
  documents : List (Nat × Document)
  /-- The number of the next document. -/
  next : Nat
  /-- Words that stand for other text at the start of a command. -/
  aliases : List (String × String)
  /-- The words whose other text is being read, the latest first. -/
  replaced : List String
  /-- Whether the next word may also stand for other text, wherever it is. -/
  again : Bool
  /-- The token that has been looked at and not been used. -/
  held : Option Token

/-- Reading from a source; a script that cannot be read gives no command. -/
abbrev Reading := StateT Source (Except SyntaxFault)

namespace Source

/-- A source that starts at the first line of a text. -/
def ofText (text : List Char) (aliases : List (String × String)) (documents : List (Nat × Document))
    (next : Nat) : Source :=
  { rest := text, line := 1, announced := [], documents, next, aliases, replaced := [],
    again := false
    held := none }

/-- The mark after the text that is put for a word; no script holds it. -/
def mark : Char := Char.ofNat 256

/-- The mark after such a text that ends with a blank. -/
def blankMark : Char := Char.ofNat 257

/-- Whether a character is one of the marks. -/
def isMark (c : Char) : Bool := 256 ≤ c.toNat

/-- Passes over a mark in front. -/
def passMark (s : Source) : Source :=
  match s.rest with
  | c :: rest =>
    if isMark c then
      { s with rest, replaced := s.replaced.drop 1, again := s.again || c == blankMark }
    else s
  | [] => s

/-- Drops joined line ends in front. -/
def dropJoins : List Char → Nat → List Char × Nat
  | '\\' :: '\n' :: rest, line => dropJoins rest (line + 1)
  | cs, line => (cs, line)

/-- Drops blanks, joined line ends and comments in front. -/
def dropBlanks : List Char → Nat → List Char × Nat
  | ' ' :: rest, line => dropBlanks rest line
  | '\t' :: rest, line => dropBlanks rest line
  | '\\' :: '\n' :: rest, line => dropBlanks rest (line + 1)
  | '#' :: rest, line => (rest.dropWhile (fun c => c != '\n'), line)
  | cs, line => (cs, line)

/-- Passes over blanks, comments and marks. The number of words that are open bounds the marks. -/
def passBlanks : Nat → Source → Source
  | 0, s => s
  | fuel + 1, s =>
    let (rest, line) := dropBlanks s.rest s.line
    let moved := { s with rest, line }
    if (rest.head?).any isMark then passBlanks fuel moved.passMark else moved

/-- Whether a line ends with a backslash that is not itself escaped. -/
def endsJoined (line : List Char) : Bool :=
  (line.reverse.takeWhile (fun c => c == '\\')).length % 2 == 1

/-- Takes the lines of a document up to its delimiter: its text, and what is left. A line that is
joined to the one before it cannot be the delimiter. The number of characters is enough fuel. -/
def takeDocument (a : Announced) : Nat → Bool → List Char → List Char × List Char
  | 0, _, cs => ([], cs)
  | fuel + 1, joined, cs =>
    if cs.isEmpty then ([], [])
    else
      let whole := cs.takeWhile (fun c => c != '\n')
      let after := cs.drop whole.length
      let line := if a.dropTabs && !joined then whole.dropWhile (fun c => c == '\t') else whole
      if !joined && String.ofList line == a.delimiter then ([], after.drop 1)
      else
        let (text, left) :=
          takeDocument a fuel (!a.verbatim && endsJoined line) (after.drop 1)
        (line ++ after.take 1 ++ text, left)

/-- Reads one announced document. -/
def readDocument (s : Source) (a : Announced) : Source :=
  let (text, rest) := takeDocument a (s.rest.length + 1) false s.rest
  { s with
    rest
    line := s.line + (s.rest.take (s.rest.length - rest.length)).count '\n'
    documents := (a.number, ⟨a.verbatim, String.ofList text⟩) :: s.documents }

/-- Reads the documents announced on a line that has ended. -/
def readDocuments (s : Source) : Source :=
  if s.announced.isEmpty then s
  else s.announced.reverse.foldl readDocument { s with announced := [] }

/-- Passes over one character. -/
def advance (s : Source) : Source :=
  match s.rest with
  | [] => s
  | c :: rest => { s with rest, line := if c = '\n' then s.line + 1 else s.line }

/-- Passes over `n` characters. -/
def advanceBy (n : Nat) (s : Source) : Source :=
  { s with rest := s.rest.drop n, line := s.line + (s.rest.take n).count '\n' }

/-- Whether a character ends an unquoted word. -/
def endsWord (c : Char) : Bool :=
  c == ' ' || c == '\t' || c == '\n' || c == ';' || c == '&' || c == '|' || c == '<' || c == '>' ||
    c == '(' || c == ')' || isMark c

end Source

namespace Reading

/-- Fails with a fault in the current line. -/
def refuse {α : Type} (text : String) : Reading α := do throw ⟨(← get).line, text⟩

/-- The next character or mark, joined line ends passed over. -/
def peekRaw? : Reading (Option Char) := do
  let s ← get
  match s.rest with
  | '\\' :: '\n' :: _ =>
    let (rest, line) := Source.dropJoins s.rest s.line
    set { s with rest, line }
    return rest.head?
  | rest => return rest.head?

/-- The next character, joined line ends and at most so many marks passed over. -/
def peekPast : Nat → Reading (Option Char)
  | 0 => peekRaw?
  | marks + 1 => do
    match ← peekRaw? with
    | some c =>
      if Source.isMark c then
        modify Source.passMark
        peekPast marks
      else return some c
    | none => return none

/-- The next character, joined line ends and marks passed over. -/
def peek? : Reading (Option Char) := do peekPast (← get).replaced.length

/-- Passes over one character. -/
def advance : Reading Unit := modify Source.advance

/-- Passes over a character if it comes next. -/
def accept (c : Char) : Reading Bool := do
  if (← peek?) = some c then
    advance
    return true
  else return false

/-- Passes over the characters in front that satisfy `p`. -/
def takeWhile (p : Char → Bool) : Reading (List Char) := do
  let s ← get
  let front := s.rest.takeWhile p
  set (s.advanceBy front.length)
  return front

/-- Passes over the characters in front that satisfy `p`, joined line ends among them left out. The
number of joined lines is bounded by the fuel. -/
def takeJoined (p : Char → Bool) : Nat → Reading (List Char)
  | 0 => return []
  | fuel + 1 => do
    let _ ← peekRaw?
    let front ← takeWhile p
    match (← get).rest with
    | '\\' :: '\n' :: _ => return front ++ (← takeJoined p fuel)
    | _ => return front

/-- Puts the text that a word stands for in front of what is left. -/
def putAlias (name text : String) : Reading Unit :=
  modify (fun s =>
    let cs := text.toList
    let blank := (cs.getLast?).any (fun c => c == ' ' || c == '\t')
    { s with
      rest := cs ++ (if blank then Source.blankMark else Source.mark) :: s.rest
      replaced := name :: s.replaced })

end Reading

end BlockCoverage.Script
