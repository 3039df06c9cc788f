import BlockCoverage.Toml.Scan

/-!
# Strings and keys

Double quotes allow escapes, single quotes do not. Three quotes open a string that may run over
lines: a line end right after them is dropped, every other one is kept as a line feed, and up to two
quotes may stand before the three that close it.
-/

namespace BlockCoverage.Toml

/-- The value of a hexadecimal digit. -/
def hexDigit? (c : Char) : Option Nat :=
  if '0' ≤ c ∧ c ≤ '9' then some (c.toNat - 48)
  else if 'a' ≤ c ∧ c ≤ 'f' then some (c.toNat - 87)
  else if 'A' ≤ c ∧ c ≤ 'F' then some (c.toNat - 55)
  else none

/-- Reads exactly `count` hexadecimal digits as a code point. -/
def codePoint (count : Nat) : Reader Char := fun s =>
  let ds := s.take count
  match ds.mapM hexDigit? with
  | none => none
  | some values =>
    let n := values.foldl (fun n d => n * 16 + d) 0
    if ds.length = count ∧ n.isValidChar then some (Char.ofNat n, s.drop count) else none

/-- Reads an escape after its backslash. -/
def escape : Reader Char
  | 'b' :: rest => some ('\x08', rest)
  | 't' :: rest => some ('\t', rest)
  | 'n' :: rest => some ('\n', rest)
  | 'f' :: rest => some ('\x0c', rest)
  | 'r' :: rest => some ('\r', rest)
  | '"' :: rest => some ('"', rest)
  | '\\' :: rest => some ('\\', rest)
  | 'u' :: rest => codePoint 4 rest
  | 'U' :: rest => codePoint 8 rest
  | _ => none

/-- Reads one character between double quotes. -/
def basicPiece : Reader (List Char) := fun s =>
  match s with
  | [] => none
  | '"' :: _ => none
  | '\\' :: rest => (escape rest).map (fun r => ([r.1], r.2))
  | c :: rest => if isPlain c then some ([c], rest) else none

/-- Reads one character between single quotes. -/
def literalPiece : Reader (List Char) := fun s =>
  match s with
  | [] => none
  | '\'' :: _ => none
  | c :: rest => if isPlain c then some ([c], rest) else none

/-- Reads one or two quotes that do not close a string over lines. -/
def quotesInside (quote : Char) : Reader (List Char) := fun s =>
  let run := s.takeWhile (· == quote)
  if 0 < run.length ∧ run.length < 3 then some (run, s.drop run.length) else none

/-- Reads a line end as a line feed. -/
def lineFeed : Reader (List Char) := fun s => (newline s).map (fun t => (['\n'], t))

/-- Takes a blank or a line end. -/
def spacePiece : Reader Unit := fun s =>
  match s with
  | [] => none
  | c :: rest => if isBlank c then some ((), rest) else (newline (c :: rest)).map (fun t => ((), t))

/-- Reads a backslash at the end of a line, which takes all blanks and line ends after it along. -/
def continuation : Reader (List Char) := fun s =>
  match s with
  | '\\' :: rest =>
    (newline (skipBlanks rest)).map (fun t => ([], (many spacePiece t).2))
  | _ => none

/-- Reads a piece of a string over lines between double quotes. -/
def longBasicPiece : Reader (List Char) := fun s =>
  basicPiece s <|> lineFeed s <|> continuation s <|> quotesInside '"' s

/-- Reads a piece of a string over lines between single quotes. -/
def longLiteralPiece : Reader (List Char) := fun s =>
  literalPiece s <|> lineFeed s <|> quotesInside '\'' s

/-- Reads a string that one quote closes. -/
def short (quote : Char) (piece : Reader (List Char)) : Reader String := fun s =>
  let (pieces, rest) := many piece s
  (expect quote rest).map (fun t => (String.ofList pieces.flatten, t))

/-- Reads a string that three quotes close, with up to two more before them. -/
def long (quote : Char) (piece : Reader (List Char)) : Reader String := fun s =>
  let (pieces, rest) := many piece ((newline s).getD s)
  let run := (rest.takeWhile (· == quote)).take 5
  if run.length < 3 then none
  else some (String.ofList (pieces.flatten ++ run.drop 3), rest.drop run.length)

/-- Reads a string. -/
def string : Reader String
  | '"' :: '"' :: '"' :: rest => long '"' longBasicPiece rest
  | '"' :: rest => short '"' basicPiece rest
  | '\'' :: '\'' :: '\'' :: rest => long '\'' longLiteralPiece rest
  | '\'' :: rest => short '\'' literalPiece rest
  | _ => none

/-- Whether a character may stand in a key without quotes. -/
def isBare (c : Char) : Bool :=
  ('a' ≤ c && c ≤ 'z') || ('A' ≤ c && c ≤ 'Z') || ('0' ≤ c && c ≤ '9') || c == '-' || c == '_'

/-- Reads one name of a key. -/
def simpleKey : Reader String := fun s =>
  match s with
  | '"' :: rest => short '"' basicPiece rest
  | '\'' :: rest => short '\'' literalPiece rest
  | _ =>
    let name := s.takeWhile isBare
    if name.isEmpty then none else some (String.ofList name, s.drop name.length)

/-- Reads one name of a key with the blanks around it. -/
def keyPart : Reader String := fun s =>
  (simpleKey (skipBlanks s)).map (fun r => (r.1, skipBlanks r.2))

/-- How many names a key may have, and how deep values may be nested. -/
def depthLimit : Nat := 79

/-- Reads a key: names with dots between them, the last one apart. -/
def key : Reader (List String × String) := fun s =>
  match keyPart s with
  | none => none
  | some (first, t) =>
    let (more, u) := many (fun s => (expect '.' s).bind keyPart) t
    let names := first :: more
    if depthLimit < names.length then none
    else some ((names.dropLast, names.getLastD first), u)

end BlockCoverage.Toml
