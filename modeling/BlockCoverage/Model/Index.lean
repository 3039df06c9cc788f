import BlockCoverage.FunctionId
import BlockCoverage.Ordered.Set

/-!
# Functions by name

A model is ordered by file, and users ask for functions by name. The name index lists for every name
the files that declare a function of that name, so that a lookup need not go through all functions.
It is built from the functions of a model one by one.
-/

namespace BlockCoverage

/-- For every name of a function the files that declare one. -/
structure NameIndex where
  /-- Declaring files by name. -/
  files : OrderedMap String (OrderedSet String)
deriving DecidableEq

namespace NameIndex

/-- The index of no functions. -/
def empty : NameIndex := ⟨.empty⟩

/-- The files that declare a function of the name. -/
def filesOf (x : NameIndex) (name : String) : OrderedSet String :=
  (x.files.get? name).getD OrderedMap.empty

/-- Lists a function. -/
def add (x : NameIndex) (f : FunctionId) : NameIndex :=
  ⟨x.files.insert f.name ((x.filesOf f.name).insert f.file ())⟩

/-- The index of some functions. -/
def ofFunctions (functions : List FunctionId) : NameIndex := functions.foldl add empty

/-- The functions of a name, in file order. -/
def functionsOf (x : NameIndex) (name : String) : List FunctionId :=
  (x.filesOf name).toList.map (fun file => ⟨file, name⟩)

end NameIndex

end BlockCoverage
