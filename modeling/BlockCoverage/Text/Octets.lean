import BlockCoverage.Text.Utf8

/-!
# Octets as characters

Some languages are read octet by octet, whatever the octets mean. Here an octet is seen as the
character with its number, so that such a text is a `String` of characters below 256 and the letters
of the language can be named.
-/

namespace BlockCoverage.Text.Octets

/-- The text whose characters are the octets of `s`. -/
def toText (s : Bytes) : String := String.ofList (s.map (fun b => Char.ofNat b.toNat))

/-- The octets that the characters of a text stand for. -/
def ofText (t : String) : Bytes := t.toList.map (fun c => UInt8.ofNat c.toNat)

/-- A text of any characters, octet by octet. -/
def encode (s : String) : String := toText (Utf8.encode s)

/-- The characters that a text of octets spells. -/
def decode (t : String) : String := Utf8.decodeLossy (ofText t)

end BlockCoverage.Text.Octets
