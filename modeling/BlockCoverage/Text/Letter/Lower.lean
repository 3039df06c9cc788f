import BlockCoverage.Text.Letter.Case

/-!
# Lower case

Lowering works character by character, with two exceptions: a dotted capital I becomes an i followed
by a combining dot, and a capital sigma at the end of a word becomes a final sigma.
-/

namespace BlockCoverage.Text

/-- The lower form of a character outside the two exceptions. -/
def lowerChar (c : Char) : Char :=
  match lowerRows.find? (fun r => r.first ≤ c.toNat && c.toNat ≤ r.last &&
      (c.toNat - r.first) % r.step == 0) with
  | some r => Char.ofNat ((c.toNat : Int) + r.shift).toNat
  | none => c

/-- Whether the first character that is not passed over has case. -/
def reachesCased (s : List Char) : Bool :=
  match s.dropWhile isCaseIgnorable with
  | [] => false
  | c :: _ => isCased c

/-- Lowers `rest`, which stands after the characters of `before`, nearest first. -/
def lowerFrom (before : List Char) : List Char → List Char
  | [] => []
  | c :: rest =>
    let low :=
      if c = 'Σ' then [if reachesCased before && !reachesCased rest then 'ς' else 'σ']
      else if c = 'İ' then ['i', Char.ofNat 0x307]
      else [lowerChar c]
    low ++ lowerFrom (c :: before) rest

/-- The lower form of a text. -/
def toLower (s : String) : String := String.ofList (lowerFrom [] s.toList)

/-- Lowers the letters A to Z and leaves all else. -/
def toLowerAscii (s : String) : String := String.ofList (s.toList.map Char.toLower)

end BlockCoverage.Text
