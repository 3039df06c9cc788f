import BlockCoverage.Toml.Value

/-!
# Reading values by shape

A shape turns a value into what a setting needs, or names the first fault. A record is written as a
table, where fields come in any order, or as a list of the field values in declaration order. A
choice is written as the name of an option, or as a table with that name as its only key.
-/

namespace BlockCoverage.Toml

/-- Why a value does not have the wanted shape. -/
inductive ShapeFault where
  /-- The value is of the wrong kind. -/
  | wrongKind (found : Found) (expected : String)
  /-- A whole number is outside the wanted range. -/
  | wrongValue (value : Int) (expected : String)
  /-- A record has no such field. -/
  | unknownField (name : String) (known : List String)
  /-- A field is not given. -/
  | missingField (name : String)
  /-- A record written as a list is too short. -/
  | wrongLength (length : Nat) (expected : String)
  /-- A record has keys it should not have. -/
  | surplusKeys (surplus known : List String)
  /-- A choice has no such option. -/
  | unknownOption (name : String) (known : List String)
  /-- An option with fields is given by its name alone. -/
  | bareOption
  /-- A choice is given by an empty table. -/
  | noOption
  /-- A choice is given by a table with several keys. -/
  | severalOptions
  /-- A choice is given by neither a name nor a table. -/
  | notAChoice
  /-- Something is given where nothing may be. -/
  | notEmpty (kind : String)
  /-- Something else stands where an empty table is wanted. -/
  | notATable (kind : String)
deriving DecidableEq, Repr

namespace ShapeFault

/-- Numbers in messages never have an exponent. -/
def doubleFormat : Number.DoubleFormat where
  plain := fun _ => true
  plus := ""
  nan := "NaN"
  infinity := "inf"

/-- A name between backticks. -/
def tick (name : String) : String := "`" ++ name ++ "`"

/-- The names that would have been right. -/
def alternatives : List String → String
  | [a, b] => tick a ++ " or " ++ tick b
  | [a] => tick a
  | names => "one of " ++ String.intercalate ", " (names.map tick)

/-- The text of a fault. -/
def message : ShapeFault → String
  | wrongKind found expected =>
    "invalid type: " ++ found.describe doubleFormat ++ ", expected " ++ expected
  | wrongValue value expected =>
    "invalid value: integer " ++ tick (writeInt value) ++ ", expected " ++ expected
  | unknownField name known =>
    "unknown field " ++ tick name ++ ", expected " ++ alternatives known
  | missingField name => "missing field " ++ tick name
  | wrongLength length expected => "invalid length " ++ Nat.repr length ++ ", expected " ++ expected
  | surplusKeys surplus known =>
    "unexpected keys in table: " ++ String.intercalate ", " surplus ++ ", available keys: " ++
      String.intercalate ", " known
  | unknownOption name known =>
    "unknown variant " ++ tick name ++ ", expected " ++ alternatives known
  | bareOption => "invalid type: unit variant, expected struct variant"
  | noOption => "wanted exactly 1 element, found 0 elements"
  | severalOptions => "wanted exactly 1 element, more than 1 element"
  | notAChoice => "wanted string or table"
  | notEmpty kind => "expected empty " ++ kind
  | notATable kind => "expected table, found " ++ kind

end ShapeFault

/-- Turns a value into an `α`. -/
abbrev Shape (α : Type) := Value → Except ShapeFault α

namespace Shape

/-- The fault that a value is of the wrong kind. -/
def refuse {α : Type} (v : Value) (expected : String) : Except ShapeFault α :=
  .error (.wrongKind v.found expected)

/-- A string. -/
def text : Shape String
  | .text s => .ok s
  | v => refuse v "a string"

/-- A string that names a file or a directory. -/
def path : Shape String
  | .text s => .ok s
  | v => refuse v "path string"

/-- A whole number from zero on. -/
def count : Shape Nat
  | .integer n => if n < 0 then .error (.wrongValue n "u64") else .ok n.toNat
  | v => refuse v "u64"

/-- A list. -/
def list {α : Type} (item : Shape α) : Shape (List α) := fun v =>
  match v.items? with
  | some items => items.mapM item
  | none => refuse v "a sequence"

end Shape

/-! ## Records -/

/-- A field of records drafted as `σ`. -/
structure Field (σ : Type) where
  /-- The key of the field. -/
  name : String
  /-- Reads the value and says how it enters the draft. -/
  shape : Shape (σ → σ)
  /-- Whether a record written as a list has to give the field. -/
  needed : Bool

/-- A kind of record. -/
structure Format (σ α : Type) where
  /-- The name of the kind in messages. -/
  name : String
  /-- The fields in declaration order. -/
  fields : List (Field σ)
  /-- Whether fields of other names are refused rather than passed over. -/
  strict : Bool
  /-- The draft with no field given. -/
  blank : σ
  /-- The record, or the fault that a field is missing. -/
  finish : σ → Except ShapeFault α

namespace Format

variable {σ α : Type}

/-- The keys of the fields. -/
def keys (f : Format σ α) : List String := f.fields.map Field.name

/-- Reads entries into a draft, in order. -/
def readEntries (f : Format σ α) (draft : σ) : Entries → Except ShapeFault σ
  | [] => .ok draft
  | (key, v) :: rest =>
    match f.fields.find? (fun field => field.name == key) with
    | none => if f.strict then .error (.unknownField key f.keys) else readEntries f draft rest
    | some field =>
      match field.shape v with
      | .error fault => .error fault
      | .ok enter => readEntries f (enter draft) rest

/-- What a record written as a list should have been. -/
def listName (f : Format σ α) : String :=
  f.name ++ " with " ++ (if f.fields.length = 1 then "1 element"
    else Nat.repr f.fields.length ++ " elements")

/-- Reads the values of the fields from the `position`-th on; surplus values are passed over. -/
def readItems (f : Format σ α) (position : Nat) (draft : σ) :
    List (Field σ) → List Value → Except ShapeFault σ
  | [], _ => .ok draft
  | field :: fields, [] =>
    if field.needed then .error (.wrongLength position f.listName)
    else readItems f (position + 1) draft fields []
  | field :: fields, v :: items =>
    match field.shape v with
    | .error fault => .error fault
    | .ok enter => readItems f (position + 1) (enter draft) fields items

/-- The entries of a value that is read as a table. A moment has one entry under a reserved key. -/
def entriesOf? : Value → Option Entries
  | .table _ entries => some entries
  | .moment => some [("$__toml_private_datetime", .moment)]
  | _ => none

/-- Reads a record. -/
def read (f : Format σ α) : Shape α := fun v =>
  match entriesOf? v with
  | some entries => (f.readEntries f.blank entries).bind f.finish
  | none =>
    match v.items? with
    | some items => (f.readItems 0 f.blank f.fields items).bind f.finish
    | none => Shape.refuse v f.name

/-- Reads a record whose table may hold no other keys; all surplus keys are named at once. -/
def readExactly (f : Format σ α) : Shape α := fun v =>
  let surplus := match v with
    | .table _ entries => (entries.map Prod.fst).filter (fun k => !f.keys.contains k)
    | _ => []
  if surplus.isEmpty then f.read v else .error (.surplusKeys surplus f.keys)

end Format

/-! ## Choices -/

namespace Shape

/-- Reads a choice: `pick` gets the name of the option and what stands beside it. -/
def choice {α : Type} (known : List String)
    (pick : String → Option Value → Except ShapeFault α) : Shape α := fun v =>
  let named := fun (name : String) (content : Option Value) =>
    if known.contains name then pick name content else .error (.unknownOption name known)
  match v with
  | .text name => named name none
  | .table _ [] => .error .noOption
  | .table _ [(name, content)] => named name (some content)
  | .table _ _ => .error .severalOptions
  | _ => .error .notAChoice

/-- Checks that nothing stands beside an option that has no fields. -/
def nothing : Option Value → Except ShapeFault Unit
  | none => .ok ()
  | some (.list []) | some (.table _ []) => .ok ()
  | some (.list _) | some (.table _ _) => .error (.notEmpty "table")
  | some (.sections _ _) => .error (.notEmpty "array")
  | some v => .error (.notATable v.kindName)

end Shape

end BlockCoverage.Toml
