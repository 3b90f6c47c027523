import AgentIntake.Handshake.Properties

/-!
# The gate

The gate looks at nothing but the property set.  Eight keys must be bound, each to a value of its
kind; `supports-duplex` then chooses between the two ways to accept, duplex unless it is bound to
`false`.
-/

namespace AgentIntake

/-! ## 1.  Decisions -/

/-- What becomes of a handshake.  It is malformed without a property set, and incomplete if a
required key is not bound to a value of its kind.  To an agent that was accepted duplex the
collector may send requests too. -/
inductive Decision where
  | rejectedMalformed
  | rejectedIncomplete
  | acceptedDuplex
  | acceptedSimplex
  deriving DecidableEq, Inhabited

namespace Decision

/-- The name on the wire. -/
def wire : Decision → String
  | rejectedMalformed => "rejected-malformed"
  | rejectedIncomplete => "rejected-incomplete-properties"
  | acceptedDuplex => "accepted-duplex"
  | acceptedSimplex => "accepted-simplex"

/-- The name in log records. -/
def title : Decision → String
  | rejectedMalformed => "RejectedMalformed"
  | rejectedIncomplete => "RejectedIncompleteProperties"
  | acceptedDuplex => "AcceptedDuplex"
  | acceptedSimplex => "AcceptedSimplex"

/-- The decisions. -/
def all : List Decision :=
  [rejectedMalformed, rejectedIncomplete, acceptedDuplex, acceptedSimplex]

/-- The connection may carry messages. -/
def isAccepted : Decision → Bool
  | acceptedDuplex | acceptedSimplex => true
  | rejectedMalformed | rejectedIncomplete => false

/-- A decision by its name on the wire. -/
def schema : Json.Schema Decision :=
  Json.Schema.choice (all.map fun d => (d.wire, d))

end Decision

/-! ## 2.  Required keys -/

/-- The kind of value a required key is bound to. -/
inductive PropertyKind where
  | text
  | integer
  deriving DecidableEq

/-- The value is of the kind. -/
def PropertyKind.admits : PropertyKind → Json → Bool
  | text, .string _ => true
  | integer, .number (.whole ..) => true
  | _, _ => false

namespace Properties

/-- The key of the agent's name. -/
def agentIdKey : String := "agent-id"

/-- The key that chooses between the two ways to accept. -/
def duplexKey : String := "supports-duplex"

/-- The keys that must be bound. -/
def required : List (String × PropertyKind) :=
  [(agentIdKey, .text), ("application-name", .text), ("hostname", .text), ("ip", .text),
    ("pid", .integer), ("service-type", .integer), ("version", .text),
    ("start-timestamp", .integer)]

/-- Every required key is bound to a value of its kind. -/
def hasRequired (p : Properties) : Bool :=
  required.all fun (key, kind) => (p.get? key).any kind.admits

/-- The agent's name, if it is a string. -/
def agentId? (p : Properties) : Option String :=
  match p.get? agentIdKey with
  | some (.string s) => some s
  | _ => none

/-- The agent takes requests, too. -/
def supportsDuplex (p : Properties) : Bool :=
  match p.get? duplexKey with
  | some (.bool b) => b
  | _ => true

/-- The required keys that are not bound at all. -/
def absent (p : Properties) : List String :=
  (required.map (·.1)).filter fun key => (p.get? key).isNone

end Properties

/-! ## 3.  The gate -/

/-- What becomes of a handshake that presents `properties`. -/
def decide (properties : Option Properties) : Decision :=
  match properties with
  | none => .rejectedMalformed
  | some p =>
    if p.hasRequired then
      if p.supportsDuplex then .acceptedDuplex else .acceptedSimplex
    else .rejectedIncomplete

end AgentIntake
