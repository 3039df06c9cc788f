/-!
# Commands of a script

Targets are scripts in the command language of the usual shell. A script is a list of commands; a
command is made of words, and a word is a list of pieces, so that quoted and unquoted characters and
the things to be filled in stay apart until the word is expanded.
-/

namespace BlockCoverage.Script

mutual

/-- A part of a word. -/
inductive Piece where
  /-- A character. -/
  | char (c : Char) (quoted : Bool)
  /-- A pair of quotes, which makes a field even if nothing is between them. -/
  | quotes
  /-- A parameter: a variable, an argument or a property of the shell. -/
  | param (name : String) (form : Form) (quoted : Bool)
  /-- What a script writes. -/
  | output (script : List Command) (quoted : Bool)
  /-- The value of an arithmetic expression. -/
  | sum (expression : List Piece) (quoted : Bool)

/-- What is made of a parameter. With `nonEmpty` a parameter that is set but empty counts as one
that is not set. -/
inductive Form where
  /-- Its value. -/
  | value
  /-- The number of octets of its value. -/
  | length
  /-- Its value, or the word if it is not set. -/
  | orElse (nonEmpty : Bool) (word : List Piece)
  /-- Its value, or the word, which it is then set to. -/
  | orSet (nonEmpty : Bool) (word : List Piece)
  /-- Its value; if it is not set, the script ends. -/
  | orFail (nonEmpty : Bool) (word : List Piece)
  /-- The word if it is set, nothing if not. -/
  | instead (nonEmpty : Bool) (word : List Piece)
  /-- Its value without the shortest or longest match of a pattern at one of its ends. -/
  | trim (front longest : Bool) (pattern : List Piece)
  /-- Nothing that has a meaning. -/
  | bad

/-- A redirection of a descriptor. -/
inductive Redirect where
  /-- Write to a file from its start. -/
  | write (descriptor : Nat) (target : List Piece)
  /-- Write to a file from its start, even if files are to be kept. -/
  | replace (descriptor : Nat) (target : List Piece)
  /-- Write to the end of a file. -/
  | append (descriptor : Nat) (target : List Piece)
  /-- Read from a file. -/
  | read (descriptor : Nat) (target : List Piece)
  /-- Read and write a file. -/
  | both (descriptor : Nat) (target : List Piece)
  /-- Use what another descriptor uses, or close. -/
  | duplicate (descriptor : Nat) (target : List Piece)
  /-- Read a text that stands in the script. -/
  | document (descriptor number : Nat)

/-- A command. -/
inductive Command where
  /-- Assignments, or a utility with its arguments. -/
  | simple (line : Nat) (assignments : List (String × List Piece)) (words : List (List Piece))
      (redirects : List Redirect)
  /-- Commands of which each reads what the one before it writes. -/
  | pipe (stages : List Command)
  /-- A command whose outcome is turned around. -/
  | negate (inner : Command)
  /-- Commands that run depending on the outcome so far: with `true` on success, else on failure. -/
  | chain (first : Command) (rest : List (Bool × Command))
  /-- A command that is not waited for. -/
  | background (inner : Command)
  /-- Commands that cannot change the script around them. -/
  | apart (body : List Command) (redirects : List Redirect)
  /-- Commands that belong together. -/
  | group (body : List Command) (redirects : List Redirect)
  /-- A conditional. -/
  | branch (condition yes no : List Command) (redirects : List Redirect)
  /-- A loop that goes on while its condition comes out as `wanted`. -/
  | repeated (wanted : Bool) (condition body : List Command) (redirects : List Redirect)
  /-- A loop over words, or over the arguments. -/
  | each (loopName : String) (words : Option (List (List Piece))) (body : List Command)
      (redirects : List Redirect)
  /-- A choice by pattern. -/
  | choose (subject : List Piece) (arms : List (List (List Piece) × List Command))
      (redirects : List Redirect)
  /-- The definition of a function. -/
  | define (name : String) (body : Command)

end

/-- A word before it is expanded. -/
abbrev Word := List Piece

/-- A text that stands in a script and is read by a command. -/
structure Document where
  /-- Whether nothing in it is filled in. -/
  verbatim : Bool
  /-- The text. -/
  text : String
deriving DecidableEq, Repr

instance : Inhabited Command := ⟨.group [] []⟩

/-- The text of a word that has no quotes and nothing to fill in. -/
def Word.bare? (w : Word) : Option String :=
  let letter := fun (p : Piece) => match p with
    | .char c false => some c
    | _ => none
  (w.mapM letter).map String.ofList

/-- Whether a character may start the name of a variable. -/
def startsName (c : Char) : Bool := c.isAlpha || c == '_'

/-- Whether a character may stand in the name of a variable. -/
def inName (c : Char) : Bool := c.isAlphanum || c == '_'

/-- Whether a text is the name of a variable. -/
def isName (text : String) : Bool :=
  (text.toList.head?.map startsName).getD false && text.toList.all inName

end BlockCoverage.Script
