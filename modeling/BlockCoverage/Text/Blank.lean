import BlockCoverage.Text.Pieces

/-!
# Blanks

The characters with the Unicode property White_Space separate the words of a command line and are
trimmed from its ends. A zero-width space and a byte order mark are not among them.
-/

namespace BlockCoverage.Text

/-- The property White_Space. -/
def isBlank (c : Char) : Bool :=
  let n := c.toNat
  (9 ≤ n && n ≤ 13) || n == 0x20 || n == 0x85 || n == 0xA0 || n == 0x1680 ||
    (0x2000 ≤ n && n ≤ 0x200A) || n == 0x2028 || n == 0x2029 || n == 0x202F || n == 0x205F ||
    n == 0x3000

/-- The words of a text, blanks left out. -/
def splitBlank (s : String) : List String := (words isBlank s.toList).map String.ofList

/-- Whether a text holds nothing but blanks. -/
def isBlankText (s : String) : Bool := s.toList.all isBlank

end BlockCoverage.Text
