import BlockCoverage.Ordered.Map

/-!
# Ordered sets

A finite set is an ordered map to nothing: its elements are listed once each, in increasing order.
-/

namespace BlockCoverage

/-- Elements in strictly increasing order. -/
abbrev OrderedSet (κ : Type) [Ord κ] := OrderedMap κ Unit

namespace OrderedSet

variable {κ : Type} [Ord κ]

/-- The set of the elements of a list. -/
def ofList [Std.TransOrd κ] [Std.LawfulEqOrd κ] (l : List κ) : OrderedSet κ :=
  OrderedMap.ofList (l.map (fun k => (k, ())))

/-- The elements in increasing order. -/
def toList (s : OrderedSet κ) : List κ := OrderedMap.keys s

/-- Whether `k` is an element. -/
def mem (s : OrderedSet κ) (k : κ) : Bool := OrderedMap.contains s k

/-- The elements of `s` that are in `t`. -/
def inter (s t : OrderedSet κ) : OrderedSet κ := OrderedMap.filter (fun k _ => mem t k) s

/-- The elements of `s` that are not in `t`. -/
def diff (s t : OrderedSet κ) : OrderedSet κ := OrderedMap.filter (fun k _ => !mem t k) s

/-- The elements of either set. -/
def union [Std.TransOrd κ] [Std.LawfulEqOrd κ] (s t : OrderedSet κ) : OrderedSet κ :=
  ofList (toList s ++ toList t)

end OrderedSet

end BlockCoverage
