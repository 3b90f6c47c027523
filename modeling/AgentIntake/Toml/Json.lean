import AgentIntake.Json.Basic
import AgentIntake.Toml.Lexical

/-!
# TOML values as documents

Settings are read from documents, whichever source they come from, so the values of a file are
turned into documents.  A date or a time becomes an object, which no setting is.
-/

namespace AgentIntake.Toml

/-- The number that is written with a point and perhaps an exponent, `null` if it is too large or
infinite or not a number. -/
def realJson (spelling : List Char) : Json :=
  let negative := spelling.head? == some '-'
  let digits := (unsigned spelling).filter (· != '_')
  let (mantissa, exponent) := digits.span fun c => c != 'e' && c != 'E'
  let (whole, fraction) := mantissa.span (· != '.')
  let places := fraction.drop 1
  match Digits.natural? 10 (whole ++ places), Digits.signed? (exponent.drop 1) with
  | none, _ => .null
  | some significand, power =>
    match Double.ofDecimal? significand (power.getD 0 - places.length) with
    | none => .null
    | some x => .number (.real (if negative then x.neg else x))

mutual

/-- The document that means the same as a value. -/
def toJson : Toml → Json
  | .string s => .string s
  | .integer n => ((Number.ofInt? n).map Json.number).getD .null
  | .real spelling => realJson spelling.toList
  | .bool b => .bool b
  | .moment spelling => .object [("moment", .string spelling)]
  | .array items => .array (itemsToJson items)
  | .table entries => .object (membersOf entries)

/-- Item by item. -/
def itemsToJson : List Toml → List Json
  | [] => []
  | item :: rest => item.toJson :: itemsToJson rest

/-- The members of the document of a table. -/
def membersOf : List (String × Toml) → List (String × Json)
  | [] => []
  | (name, value) :: rest => (name, value.toJson) :: membersOf rest

end

end AgentIntake.Toml
