import AgentIntake.Json.Schema

/-!
# Log formats
-/

namespace AgentIntake

/-- How log records are written: one JSON object a record, or one line of text. -/
inductive LogFormat where
  | json
  | compact
  deriving DecidableEq, Inhabited

namespace LogFormat

/-- The name of a format. -/
def text : LogFormat → String
  | json => "json"
  | compact => "compact"

/-- The title of a format in log records. -/
def title : LogFormat → String
  | json => "Json"
  | compact => "Compact"

/-- The formats. -/
def all : List LogFormat := [json, compact]

/-- The format with a name, its ASCII letters in either case. -/
def ofText? (s : String) : Option LogFormat :=
  all.find? fun f => f.text.toList == s.toList.map Char.toLower

/-- The wording when there is none. -/
def unknown : String := "Matching variant not found"

/-- A format by its exact name. -/
def schema : Json.Schema LogFormat :=
  Json.Schema.choice (all.map fun f => (f.text, f))

end LogFormat

end AgentIntake
