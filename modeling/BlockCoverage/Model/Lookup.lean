import BlockCoverage.Model.Basic

/-!
# Looking up functions

A function is asked for by name, and by file where several have that name. The file may be given in
full or by its last components.
-/

namespace BlockCoverage.Model

/-- The functions of a name, in file order. -/
def named (m : Model) (name : String) : List FunctionId := m.index.functionsOf name

/-- The functions of a name whose file matches the hint. -/
def candidates (m : Model) (name : String) (hint : Option String) : List FunctionId :=
  match hint with
  | none => m.named name
  | some file => (m.named name).filter (fun f => Path.matchesFile f.file file)

/-- The one function of a name whose file matches the hint. -/
def resolve (m : Model) (name : String) (hint : Option String) : Except Fault FunctionId :=
  match m.candidates name hint with
  | [] => .error (.unknownFunction name (hint.getD "<any>"))
  | [f] => .ok f
  | several => .error (.ambiguousFunction name several)

end BlockCoverage.Model
