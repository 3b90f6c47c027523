import AgentIntake.Json.Basic

/-!
# Log records

A record has a level, a target (the part of the collector it comes from), a message and fields.  The
value of a field is remembered together with how it is told: texts are quoted in lines of text,
while what was made a text only for the record is not.
-/

namespace AgentIntake.Log

/-- How important a record is. -/
inductive Level where
  | trace
  | debug
  | info
  | warn
  | error
  deriving DecidableEq, Inhabited

namespace Level

/-- The name of a level. -/
def text : Level → String
  | trace => "TRACE"
  | debug => "DEBUG"
  | info => "INFO"
  | warn => "WARN"
  | error => "ERROR"

/-- The place of a level, the most important first. -/
def rank : Level → Nat
  | error => 1
  | warn => 2
  | info => 3
  | debug => 4
  | trace => 5

end Level

/-- The records that are kept: those up to a rank, none of them for zero. -/
abbrev Verbosity := Nat

/-- The value of a field: a text, the wording of something else, or a whole number. -/
inductive FieldValue where
  | text (s : String)
  | shown (s : String)
  | whole (n : Int)
  deriving DecidableEq, Inhabited

/-- One record: how important it is, where it comes from, what happened, and what belongs to it. -/
structure Record where
  level : Level
  target : String
  message : String
  fields : List (String × FieldValue)
  deriving DecidableEq, Inhabited

/-- The document of a field's value. -/
def FieldValue.toJson : FieldValue → Json
  | text s => .string s
  | shown s => .string s
  | whole n => ((Number.ofInt? n).map Json.number).getD .null

/-- The record is among those kept. -/
def Record.isWithin (verbosity : Verbosity) (record : Record) : Bool :=
  record.level.rank ≤ verbosity

/-- The name of the collector, with which every target begins. -/
def program : String := "collectord"

/-- The target of a part of the collector. -/
def targetOf (part : String) : String :=
  program ++ "::" ++ part

end AgentIntake.Log
