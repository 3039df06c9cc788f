import BlockCoverage.Found

/-!
# Values of a configuration document

A document is a table: keys with values, in the order in which the keys first appear. How a table
was written decides what may still be added to it while a document is read.
-/

namespace BlockCoverage.Toml

/-- How a table came about. -/
inductive Origin where
  /-- Written out between braces; nothing can be added. -/
  | inline
  /-- Made by a dotted key. -/
  | dotted
  /-- Made by a header of a table inside it. -/
  | implied
  /-- Has a header of its own. -/
  | headed
deriving DecidableEq, Repr

/-- A value. -/
inductive Value where
  /-- A string. -/
  | text (value : String)
  /-- A whole number. -/
  | integer (value : Int)
  /-- A real number, by the bits of its double. -/
  | real (bits : UInt64)
  /-- A truth value. -/
  | boolean (value : Bool)
  /-- A date, a time, or both. -/
  | moment
  /-- A list between brackets. -/
  | list (items : List Value)
  /-- A table. -/
  | table (origin : Origin) (entries : List (String × Value))
  /-- A list of tables, each with a header: the last one, and the ones before it, the latest
  first. -/
  | sections (last : List (String × Value)) (earlier : List (List (String × Value)))

/-- The entries of a table. -/
abbrev Entries := List (String × Value)

/-- How a value is named when it is of the wrong kind. A moment counts as a table. -/
def Value.found : Value → Found
  | text s => .text s
  | integer n => .integer n
  | real bits => .real bits
  | boolean b => .boolean b
  | moment => .map
  | list _ => .sequence
  | table _ _ => .map
  | sections _ _ => .sequence

/-- The name of the kind of a value. -/
def Value.kindName : Value → String
  | text _ => "string"
  | integer _ => "integer"
  | real _ => "float"
  | boolean _ => "boolean"
  | moment => "datetime"
  | list _ => "array"
  | table .inline _ => "inline table"
  | table _ _ => "table"
  | sections _ _ => "array of tables"

/-- The items of a list, however it was written. -/
def Value.items? : Value → Option (List Value)
  | list items => some items
  | sections last earlier => some ((last :: earlier).reverse.map (.table .headed))
  | _ => none

namespace Entries

/-- The value of a key. -/
def get? (entries : Entries) (key : String) : Option Value :=
  (entries.find? (fun e => e.1 == key)).map Prod.snd

/-- Gives a key a value: in its place if the key is present, else at the end. -/
def set (entries : Entries) (key : String) (value : Value) : Entries :=
  match entries with
  | [] => [(key, value)]
  | e :: rest => if e.1 == key then (key, value) :: rest else e :: set rest key value

/-- Leaves a key out. -/
def erase (entries : Entries) (key : String) : Entries := entries.filter (fun e => e.1 != key)

end Entries

end BlockCoverage.Toml
