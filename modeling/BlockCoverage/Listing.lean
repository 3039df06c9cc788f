import BlockCoverage.Model.Lines
import BlockCoverage.Source

/-!
# Highlighted listings

A listing shows every source line with its number, in green if it is covered, red if it is not,
yellow if blocks disagree, and plain if no block declares it.
-/

namespace BlockCoverage

/-- The terminal code that starts the colour of a class. -/
def LineClass.colour : LineClass → Option String
  | covered => some "\x1b[92m"
  | uncovered => some "\x1b[91m"
  | mixed => some "\x1b[93m"
  | unknown => none

namespace Listing

/-- Drops line ends from the end of a text. -/
def trimLineEnd (s : String) : String :=
  String.ofList (s.toList.reverse.dropWhile (fun c => c == '\r' || c == '\n')).reverse

/-- One line of a listing. -/
def row (classes : LineClasses) (r : SourceRow) : String :=
  let text := Nat.repr r.line.toNat ++ ":\t" ++ trimLineEnd r.text
  match (classes.classOf r.line).colour with
  | some colour => colour ++ text ++ "\x1b[0m\n"
  | none => text ++ "\n"

/-- A listing. -/
def render (classes : LineClasses) (rows : List SourceRow) : String :=
  String.join (rows.map (row classes))

end Listing

end BlockCoverage
