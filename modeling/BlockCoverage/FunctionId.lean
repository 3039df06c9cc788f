import BlockCoverage.Text.Quoted

/-!
# Functions

A function is known by the file that declares it and its name. Functions are ordered by file, then
by name, both by code point.
-/

namespace BlockCoverage

/-- Names a function: two functions of one name in different files are different functions. -/
structure FunctionId where
  /-- The declaring file. -/
  file : String
  /-- The name of the function. -/
  name : String
deriving DecidableEq, Repr, Inhabited

namespace FunctionId

instance : Ord FunctionId := ⟨compareLex (compareOn FunctionId.file) (compareOn FunctionId.name)⟩

instance : Std.TransOrd FunctionId :=
  inferInstanceAs
    (Std.TransCmp (compareLex (compareOn FunctionId.file) (compareOn FunctionId.name)))

instance : Std.LawfulEqOrd FunctionId where
  compare_self := by
    intro a
    show compareLex (compareOn FunctionId.file) (compareOn FunctionId.name) a a = .eq
    simp [compareLex, compareOn]
  eq_of_compare := by
    intro a b h
    change compareLex (compareOn FunctionId.file) (compareOn FunctionId.name) a b = .eq at h
    simp only [compareLex, compareOn, Ordering.then_eq_eq, Std.LawfulEqCmp.compare_eq_iff_eq] at h
    cases a; cases b
    simp_all

/-- How a function is named in reports. -/
def describe (f : FunctionId) : String := f.file ++ " | " ++ f.name

/-- How a function is named in a list of candidates. -/
def candidateText (f : FunctionId) : String :=
  "FunctionKey \x7b file: " ++ Text.quote f.file ++ ", name: " ++ Text.quote f.name ++ " \x7d"

end FunctionId

end BlockCoverage
