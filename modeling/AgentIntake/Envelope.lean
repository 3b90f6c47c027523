import AgentIntake.Json.Printer
import AgentIntake.Json.Record
import AgentIntake.Json.Value

/-!
# Envelopes

The messages of the reference payload format: a type tag and an opaque body, written as the JSON
object with the members `type` and `body`.  A missing body is `null`.  One type tag is reserved for
the probes that load balancers send; they are not application traffic.
-/

namespace AgentIntake

/-- A message with a type tag and an opaque body. -/
structure Envelope where
  kind : String
  body : Value

namespace Envelope

/-- The type tag of a probe. -/
def probeKind : String := "l4-probe"

/-- The message is a probe. -/
def isProbe (e : Envelope) : Bool :=
  e.kind == probeKind

/-- The body of a probe as text. -/
def probeText? (e : Envelope) : Option String :=
  if e.isProbe then some e.body.json.toText else none

/-! ## 1.  Writing -/

/-- The document of a message. -/
def toJson (e : Envelope) : Json :=
  .object [("type", .string e.kind), ("body", e.body.json)]

/-- The payload of a message. -/
def encode (e : Envelope) : List UInt8 :=
  e.toJson.render

/-! ## 2.  Reading -/

/-- The slots of a message that have been read. -/
structure Draft where
  kind : Option String
  body : Option Value

/-- The shape of a message. -/
def record : Json.Record Draft Envelope where
  name := "struct Envelope"
  slots :=
    [ { name := "type"
        filled := fun d => d.kind.isSome
        value := (Json.Schema.string "a string").map fun kind d => { d with kind := some kind }
        required := true },
      { name := "body"
        filled := fun d => d.body.isSome
        value := (Json.Schema.any (Json.depthLimit - 1)).map fun body d =>
          { d with body := some body }
        required := false } ]
  start := ⟨none, none⟩
  finish d := do
    let kind ← Json.needed "type" d.kind
    return ⟨kind, d.body.getD Value.null⟩

/-- The message of a payload. -/
def decode (payload : List UInt8) : Except Json.Fault Envelope :=
  record.reader.whole payload

end Envelope

end AgentIntake
