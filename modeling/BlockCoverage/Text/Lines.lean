import BlockCoverage.Text.Pieces
import BlockCoverage.Text.Utf8

/-!
# Lines of a text

Texts and octet strings are cut into lines by the same rule, `linesOf`.
-/

namespace BlockCoverage.Text

/-- The lines of a text, without their line ends. -/
def lines (s : String) : List String := (linesOf '\n' '\r' s.toList).map String.ofList

/-- The lines of an octet string, without their line ends. -/
def byteLines (s : Bytes) : List Bytes := linesOf 10 13 s

end BlockCoverage.Text
