import AgentIntake.Log.Record
import AgentIntake.Text.Quoted

/-!
# Lines of the log

A record is written as a line: a JSON object whose members are the record's parts and its fields
side by side, or a line of text.  When and by which thread it was made is added by whoever writes
it.
-/

namespace AgentIntake.Log

/-- The members of the object that a record is written as. -/
def Record.members (record : Record) : List (String × Json) :=
  [("level", .string record.level.text), ("message", .string record.message)] ++
    record.fields.map (fun (name, value) => (name, value.toJson)) ++
    [("target", .string record.target)]

/-- The value of a field in a line of text. -/
def FieldValue.line : FieldValue → String
  | text s => Quoted.string s
  | shown s => s
  | whole n => toString n

/-- The line of text that a record of a thread is written as. -/
def Record.line (record : Record) (thread : String) : String :=
  " ".intercalate
    (s!"{record.level.text} {thread} {record.target}: {record.message}" ::
      record.fields.map fun (name, value) => name ++ "=" ++ value.line)

end AgentIntake.Log
