import BlockCoverage.Text.Invisible
import BlockCoverage.Text.Utf8

/-!
# Quoted text

Names and paths are shown in messages between double quotes, so that blanks and invisible characters
in them can be told apart. Quotes and backslashes are preceded by a backslash, the usual control
characters have their letters, and any other character that is not shown is spelled by its code
point in lower-case hexadecimal. An apostrophe stands for itself. A path that is not text is shown
part by part, and the octets of a part that is no character are spelled in upper-case hexadecimal.
-/

namespace BlockCoverage.Text

/-- The digits of a number in lower-case hexadecimal. -/
def hex (n : Nat) : List Char := Nat.toDigits 16 n

/-- How one character is shown between quotes. -/
def quoteChar (c : Char) : List Char :=
  if c = '"' then ['\\', '"']
  else if c = '\\' then ['\\', '\\']
  else if c = '\t' then ['\\', 't']
  else if c = '\r' then ['\\', 'r']
  else if c = '\n' then ['\\', 'n']
  else if c = Char.ofNat 0 then ['\\', '0']
  else if isInvisible c then ['\\', 'u', Char.ofNat 0x7B] ++ hex c.toNat ++ [Char.ofNat 0x7D]
  else [c]

/-- A text between double quotes. -/
def quote (s : String) : String := String.ofList ('"' :: s.toList.flatMap quoteChar ++ ['"'])

/-- A list of texts, each quoted, between square brackets. -/
def quoteList (l : List String) : String := "[" ++ String.intercalate ", " (l.map quote) ++ "]"

/-- How one octet that is not part of a character is shown between quotes. -/
def quoteOctet (b : UInt8) : List Char :=
  ['\\', 'x'] ++ ([b.toNat / 16, b.toNat % 16].flatMap hex).map Char.toUpper

/-- How octets are shown between quotes. -/
def quoteOctets : Bytes → List Char
  | [] => []
  | b :: rest =>
    let shown := match Utf8.next b rest with
      | (some c, _) => quoteChar c
      | (none, after) => ((b :: rest).take (rest.length + 1 - after.length)).flatMap quoteOctet
    shown ++ quoteOctets (Utf8.next b rest).2
termination_by s => s.length
decreasing_by exact Nat.lt_succ_of_le (Utf8.length_next_le b rest)

/-- A path between double quotes, whether or not it is text. -/
def quotePath (path : Bytes) : String := String.ofList ('"' :: quoteOctets path ++ ['"'])

end BlockCoverage.Text
