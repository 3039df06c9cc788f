import BlockCoverage.Text.Pieces

/-!
# Paths

A path is a text; what it names is decided by its *components*. Components are the stretches between
slashes, where empty stretches and dots are dropped, except that a leading slash and, in a relative
path, a leading dot are components of their own. A path matches a shorter one when its component
list ends with the other's, so a match never falls inside a component.
-/

namespace BlockCoverage

/-- One step of a path. -/
inductive Component where
  /-- The leading slash of an absolute path. -/
  | root
  /-- A leading dot. -/
  | current
  /-- Two dots. -/
  | parent
  /-- A proper name. -/
  | name (text : String)
deriving DecidableEq, Repr

namespace Path

/-- The non-empty stretches between slashes. -/
def stretches (path : String) : List String :=
  (Text.words (fun c => decide (c = '/')) path.toList).map String.ofList

/-- Whether a path starts at the root. -/
def isAbsolute (path : String) : Bool := path.toList.head? == some '/'

/-- The component that a stretch stands for, unless it is a dot. -/
def component? (stretch : String) : Option Component :=
  if stretch = "." then none
  else if stretch = ".." then some .parent
  else some (.name stretch)

/-- The components of a path. -/
def components (path : String) : List Component :=
  let parts := stretches path
  let start :=
    if isAbsolute path then [.root]
    else if parts.head? = some "." then [.current]
    else []
  start ++ parts.filterMap component?

/-- Whether the components of `path` end with those of `tail`. -/
def endsWith (path tail : String) : Bool := (components tail).isSuffixOf (components path)

/-- Whether a declared file is the wanted one: the same text, or ending with its components. -/
def matchesFile (declared wanted : String) : Bool := declared == wanted || endsWith declared wanted

/-- The path of `tail` seen from `base`: an absolute path stands alone, otherwise a slash goes
between the two unless `base` is empty or already ends with one. -/
def join (base tail : String) : String :=
  if isAbsolute tail then tail
  else if base = "" then tail
  else if base.toList.getLast? = some '/' then base ++ tail
  else base ++ "/" ++ tail

end Path

end BlockCoverage
