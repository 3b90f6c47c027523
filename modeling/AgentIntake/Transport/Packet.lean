import AgentIntake.Handshake.Properties
import AgentIntake.Net.Address

/-!
# Packets

What the transport hands to whoever listens: payloads with the address they came from, and signs of
life with the connection they came by.  A request also carries what it takes to answer it, of a type
of its own.
-/

namespace AgentIntake

/-- A connection as those see it who follow its life: where the agent is, and the properties it was
accepted with, if it was. -/
structure Peer where
  remote : SocketAddress
  properties : Option Properties

/-- A message that wants no answer, encoded, and where it came from. -/
structure SendPacket where
  payload : List UInt8
  remote : SocketAddress
  deriving DecidableEq

/-- A message that wants an answer, whose reply handle has said where it came from.  Whoever takes
the message asks for that first, and of a message whose reply handle panics then nothing is
taken. -/
structure RequestPacket (ρ : Type) where
  payload : List UInt8
  remote : SocketAddress
  reply : ρ

/-- A sign of life: the agent's counter, which below zero says nothing about the agent's state. -/
structure PingPacket where
  id : Int32
  deriving DecidableEq

/-- The packet in words, its payload byte by byte. -/
def SendPacket.text (p : SendPacket) : String :=
  let payload := ", ".intercalate (p.payload.map fun b => toString b.toNat)
  s!"SendPacket \x7b payload: [{payload}], remote_addr: {p.remote.text} \x7d"

/-- The packet in words, its payload by its length. -/
def RequestPacket.text {ρ : Type} (p : RequestPacket ρ) : String :=
  s!"RequestPacket \x7b remote_addr: {p.remote.text}, payload_len: {p.payload.length} \x7d"

/-- The packet in words. -/
def PingPacket.text (p : PingPacket) : String :=
  s!"PingPacket \x7b ping_id: {p.id.toInt} \x7d"

end AgentIntake
