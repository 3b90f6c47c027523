import AgentIntake.Handshake.Gate

/-!
# Frames

What agents and the collector say to each other, one frame a line.  A frame is a JSON object whose
member `kind` names its kind; payloads are written as hexadecimal digits.
-/

namespace AgentIntake

/-- One frame.  Handshakes, messages and signs of life (`ping`) go from the agent to the collector;
what became of a handshake, responses and `pong`, which says that a sign of life was seen, go the
other way. -/
inductive Frame where
  | handshake (properties : Option Properties)
  | handshakeResponse (decision : Decision)
  | send (payload : List UInt8)
  | request (id : UInt64) (payload : List UInt8)
  | response (id : UInt64) (payload : List UInt8)
  | ping (id : Int32)
  | pong (id : Int32)
  deriving Inhabited

/-- The kinds of frames. -/
inductive Frame.Kind where
  | handshake
  | handshakeResponse
  | send
  | request
  | response
  | ping
  | pong
  deriving DecidableEq

namespace Frame

/-- The kind of a frame. -/
def kind : Frame → Kind
  | handshake _ => .handshake
  | handshakeResponse _ => .handshakeResponse
  | send _ => .send
  | request .. => .request
  | response .. => .response
  | ping _ => .ping
  | pong _ => .pong

namespace Kind

/-- The kinds. -/
def all : List Kind :=
  [handshake, handshakeResponse, send, request, response, ping, pong]

/-- The name of a kind on the wire. -/
def wire : Kind → String
  | handshake => "handshake"
  | handshakeResponse => "handshake_response"
  | send => "send"
  | request => "request"
  | response => "response"
  | ping => "ping"
  | pong => "pong"

/-- The name of a kind in messages. -/
def title : Kind → String
  | handshake => "Handshake"
  | handshakeResponse => "HandshakeResponse"
  | send => "Send"
  | request => "Request"
  | response => "Response"
  | ping => "Ping"
  | pong => "Pong"

end Kind

/-! ## Writing -/

/-- An unsigned identifier as a document. -/
def idJson (id : UInt64) : Json :=
  .ofUInt64 id

/-- A signed identifier as a document. -/
def counterJson (id : Int32) : Json :=
  .number (.whole id.toInt (by have := id.toInt_lt; have := id.le_toInt; omega))

/-- A payload as a document. -/
def payloadJson (payload : List UInt8) : Json :=
  .string (Hex.encode payload)

/-- The members of a frame after the one that names its kind. -/
def members : Frame → List (String × Json)
  | handshake properties => [("properties", (properties.map Properties.toJson).getD .null)]
  | handshakeResponse decision => [("decision", .string decision.wire)]
  | send payload => [("payload", payloadJson payload)]
  | request id payload => [("id", idJson id), ("payload", payloadJson payload)]
  | response id payload => [("id", idJson id), ("payload", payloadJson payload)]
  | ping id => [("id", counterJson id)]
  | pong id => [("id", counterJson id)]

/-- The document of a frame. -/
def toJson (frame : Frame) : Json :=
  .object (("kind", .string frame.kind.wire) :: frame.members)

/-- The text of a frame. -/
def encode (frame : Frame) : List UInt8 :=
  frame.toJson.render

end Frame

end AgentIntake
