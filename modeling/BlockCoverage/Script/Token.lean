import BlockCoverage.Script.Command

/-!
# Tokens of a script

Commands are made of words and of signs between them. Some words are reserved: where a command can
start, they belong to the language itself. When a token stands where it cannot, the fault names it.
-/

namespace BlockCoverage.Script

/-- How a redirection uses what stands after it. -/
inductive Direction where
  /-- Writes to a file from its start. -/
  | write
  /-- Writes to a file from its start, even if files are to be kept. -/
  | replace
  /-- Writes to the end of a file. -/
  | append
  /-- Reads from a file. -/
  | read
  /-- Reads and writes a file. -/
  | both
  /-- Uses what another descriptor uses, for output. -/
  | sameOutput
  /-- Uses what another descriptor uses, for input. -/
  | sameInput
  /-- Reads a text that follows; whether tabs at the start of its lines are left out. -/
  | document (dropTabs : Bool)
deriving DecidableEq, Repr

/-- The descriptor that a redirection is for if none is named. -/
def Direction.usual : Direction → Nat
  | write | replace | append | sameOutput => 1
  | read | both | sameInput | document _ => 0

/-- A token. -/
inductive Token where
  /-- The end of the script. -/
  | ending
  /-- The end of a line. -/
  | newline
  /-- A semicolon. -/
  | semicolon
  /-- An ampersand. -/
  | background
  /-- Two ampersands. -/
  | andThen
  /-- Two bars. -/
  | orElse
  /-- A bar. -/
  | bar
  /-- An opening parenthesis. -/
  | opening
  /-- A closing parenthesis. -/
  | closing
  /-- Two semicolons. -/
  | armEnd
  /-- The sign of a redirection, with the descriptor that it is for. -/
  | redirect (descriptor : Nat) (direction : Direction)
  /-- A word. -/
  | word (pieces : Word)
  /-- A reserved word. -/
  | reserved (text : String)

namespace Token

/-- The reserved words. -/
def reservedWords : List String :=
  ["!", "case", "do", "done", "elif", "else", "esac", "fi", "for", "if", "in", "then", "until",
    "while", "\x7b", "\x7d"]

/-- The reserved words that end a list of commands. -/
def closers : List String := ["do", "done", "elif", "else", "esac", "fi", "then", "\x7d"]

/-- Whether a list of commands ends before a token. -/
def endsList : Token → Bool
  | .ending | .closing | .armEnd => true
  | .reserved text => closers.contains text
  | _ => false

/-- A text between double quotes. -/
def quoted (text : String) : String := "\"" ++ text ++ "\""

/-- A token as faults name it. -/
def shown : Token → String
  | .ending => "end of file"
  | .newline => "newline"
  | .semicolon => quoted ";"
  | .background => quoted "&"
  | .andThen => quoted "&&"
  | .orElse => quoted "||"
  | .bar => quoted "|"
  | .opening => quoted "("
  | .closing => quoted ")"
  | .armEnd => quoted ";;"
  | .redirect _ _ => "redirection"
  | .word _ => "word"
  | .reserved text => quoted text

/-- Whether a token is a given reserved word. -/
def isReserved (text : String) : Token → Bool
  | .reserved other => other == text
  | _ => false

end Token

/-- Why a script cannot be read, and in which line. -/
structure SyntaxFault where
  /-- The line. -/
  line : Nat
  /-- What is wrong. -/
  text : String
deriving DecidableEq, Repr

namespace SyntaxFault

/-- The words for a token that cannot stand where it does, and the one that would have been
right. -/
def unexpected (found : Token) (expected : Option String) : String :=
  found.shown ++ " unexpected" ++ (match expected with
    | some text => " (expecting " ++ text ++ ")"
    | none => "")

/-- The whole message. -/
def message (f : SyntaxFault) : String := "Syntax error: " ++ f.text

end SyntaxFault

end BlockCoverage.Script
