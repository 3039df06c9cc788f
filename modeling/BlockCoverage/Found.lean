import BlockCoverage.Number.Shortest
import BlockCoverage.Text.Quoted

/-!
# Values of the wrong kind

A message about a value of the wrong kind names what was found. Maps, snapshots and configurations
are written in different formats, but name values alike, up to how a double is written.
-/

namespace BlockCoverage

/-- The kind of a value that stood where another kind was wanted. -/
inductive Found where
  /-- The literal null. -/
  | null
  /-- A truth value. -/
  | boolean (value : Bool)
  /-- A whole number. -/
  | integer (value : Int)
  /-- Any other number, by the bits of its double. -/
  | real (bits : UInt64)
  /-- A string. -/
  | text (value : String)
  /-- A list. -/
  | sequence
  /-- An object. -/
  | map
deriving DecidableEq, Repr

/-- A whole number in decimal. -/
def writeInt (n : Int) : String := if n < 0 then "-" ++ Nat.repr n.natAbs else Nat.repr n.natAbs

/-- How a value is named in a message, with the given format for doubles. -/
def Found.describe (double : Number.DoubleFormat) : Found → String
  | null => "null"
  | boolean b => "boolean `" ++ (if b then "true" else "false") ++ "`"
  | integer n => "integer `" ++ writeInt n ++ "`"
  | real bits => "floating point `" ++ double.write bits ++ "`"
  | text s => "string " ++ Text.quote s
  | sequence => "sequence"
  | map => "map"

end BlockCoverage
