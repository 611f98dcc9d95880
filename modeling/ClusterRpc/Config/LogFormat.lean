import ClusterRpc.Text.Blank

/-! # How log lines are written -/

namespace ClusterRpc

inductive LogFormat where
  /-- One JSON object a line. -/
  | json
  /-- One line of text. -/
  | compact
deriving DecidableEq, Repr

namespace LogFormat

def name : LogFormat → String
  | json => "json"
  | compact => "compact"

/-- The format with exactly this name. -/
def ofName? (name : String) : Option LogFormat :=
  match name with
  | "json" => some json
  | "compact" => some compact
  | _ => none

/-- The format with this name, in any mixture of cases. -/
def ofText? (text : String) : Option LogFormat :=
  ofName? (String.ofList (text.toList.map Char.toLower))

/-- The complaint about a text that names no format. -/
def notFound : String := "Matching variant not found"

@[simp] theorem ofName?_name (f : LogFormat) : ofName? f.name = some f := by cases f <;> rfl

end LogFormat

end ClusterRpc
