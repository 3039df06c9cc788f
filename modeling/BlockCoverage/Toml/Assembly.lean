import BlockCoverage.Toml.Value

/-!
# Putting a document together

A document is a list of statements: a key with a value, or the header of a table or of one more
table in a list. Each statement adds to the table that the last header opened. A key is given once,
a table has one header, and what was written between braces is closed.
-/

namespace BlockCoverage.Toml

/-- One statement of a document. The last name of a path is apart. -/
inductive Statement where
  /-- A value for a key, which dots may lead to. -/
  | assign (path : List String) (key : String) (value : Value)
  /-- The header of a table. -/
  | table (path : List String) (key : String)
  /-- The header of one more table in a list. -/
  | item (path : List String) (key : String)

namespace Entries

/-- Gives the key at the end of a dotted path a value. The tables on the way are made as needed, or
were made by dotted keys; the table of another header can be passed through but not added to, and
one with its own header cannot even be passed through. `inside` says whether the table at hand may
be added to. -/
def assign (key : String) (value : Value) : (inside : Bool) → List String → Entries → Option Entries
  | inside, [], entries =>
    if inside && (entries.get? key).isNone then some (entries.set key value) else none
  | _, step :: path, entries =>
    match entries.get? step with
    | none => (assign key value true path []).map (fun t => entries.set step (.table .dotted t))
    | some (.table .dotted t) =>
      (assign key value true path t).map (fun t => entries.set step (.table .dotted t))
    | some (.table .implied t) =>
      (assign key value false path t).map (fun t => entries.set step (.table .implied t))
    | some (.sections last earlier) =>
      (assign key value false path last).map (fun t => entries.set step (.sections t earlier))
    | some _ => none

/-- Changes the table at the end of a header's path, made as needed. A list of tables stands for its
last one. -/
def changeAt (change : Entries → Option Entries) : List String → Entries → Option Entries
  | [], entries => change entries
  | step :: path, entries =>
    match entries.get? step with
    | none => (changeAt change path []).map (fun t => entries.set step (.table .implied t))
    | some (.table .inline _) => none
    | some (.table origin t) =>
      (changeAt change path t).map (fun t => entries.set step (.table origin t))
    | some (.sections last earlier) =>
      (changeAt change path last).map (fun t => entries.set step (.sections t earlier))
    | some _ => none

/-- Opens the table of a header. One that headers of inner tables have made moves to the end. -/
def openTable (key : String) (entries : Entries) : Option Entries :=
  match entries.get? key with
  | none => some (entries.set key (.table .headed []))
  | some (.table .implied t) => some ((entries.erase key).set key (.table .headed t))
  | some _ => none

/-- Opens one more table of a list. -/
def openSection (key : String) (entries : Entries) : Option Entries :=
  match entries.get? key with
  | none => some (entries.set key (.sections [] []))
  | some (.sections last earlier) => some (entries.set key (.sections [] (last :: earlier)))
  | some _ => none

end Entries

/-- A document that is being put together: what it holds, and the path of the open table. -/
structure Draft where
  /-- The entries so far. -/
  entries : Entries
  /-- The path of the table that keys are added to. -/
  opened : List String

/-- Adds a statement; `none` if it contradicts what was there. -/
def Draft.add (d : Draft) : Statement → Option Draft
  | .assign path key value =>
    (d.entries.changeAt (Entries.assign key value true path) d.opened).map
      (fun entries => ⟨entries, d.opened⟩)
  | .table path key =>
    (d.entries.changeAt (Entries.openTable key) path).map (fun entries => ⟨entries, path ++ [key]⟩)
  | .item path key =>
    (d.entries.changeAt (Entries.openSection key) path).map
      (fun entries => ⟨entries, path ++ [key]⟩)

/-- The entries of a document, unless its statements contradict each other. -/
def assemble (statements : List Statement) : Option Entries :=
  (statements.foldlM Draft.add ⟨[], []⟩).map Draft.entries

/-- The entries of a table between braces, unless a key is given twice. -/
def assembleInline (pairs : List (List String × String × Value)) : Option Entries :=
  pairs.foldlM (fun entries p => Entries.assign p.2.1 p.2.2 true p.1 entries) []

end BlockCoverage.Toml
