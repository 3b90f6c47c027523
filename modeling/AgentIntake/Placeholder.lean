import AgentIntake.Dispatch.Basic
import AgentIntake.Envelope
import AgentIntake.Handshake.Gate
import AgentIntake.Liveness.Basic

/-!
# Placeholder collaborators

What the collector runs with until something real takes its messages: a codec of envelopes, a
handler that only notes messages and answers none, and a sink that only notes signs of life.  The
notes are records of the calls.
-/

namespace AgentIntake.Placeholder

/-- The codec of envelopes. -/
def codec : Codec Envelope where
  decode payload :=
    match Envelope.decode payload with
    | .ok message => .value message
    | .error fault => .failure (.decode (fault.message payload))
  encode message := .value message.encode
  probe message := .ok message.probeText?

/-- The handler that answers nothing. -/
def handler : Handler Envelope where
  send _ := .value ()
  request _ := .value none

/-- The sink that takes everything. -/
def sink : Sink where
  apply _ _ := .value ()
  emit _ _ := .value ()

/-- The target of the notes. -/
def target : String := Log.targetOf "placeholder"

/-- The note of a message. -/
def messageRecord (path : Dispatch.Path) (message : Envelope) : Log.Record :=
  let fields := [("kind", Log.FieldValue.shown message.kind)]
  match path with
  | .send => ⟨.debug, target, "send message received", fields⟩
  | .request => ⟨.warn, target, "request received but no handler is registered", fields⟩

/-- Where a sign of life came from. -/
def remoteField (ping : Ping) : String × Log.FieldValue :=
  ("remote", .shown ping.peer.remote.text)

/-- The note of an agent's state. -/
def stateRecord (ping : Ping) (state : AgentState) : Log.Record where
  level := .info
  target := target
  message := "agent run state updated"
  fields :=
    remoteField ping ::
      ((ping.peer.properties.bind Properties.agentId?).map
        fun id => ("agent_id", .text id)).toList ++
      [("timestamp", .whole ping.timestamp.toNat), ("state", .shown state.text),
        ("sequence", .whole ping.sequence.toInt)]

/-- The note of an agent's event. -/
def eventRecord (ping : Ping) (event : AgentEvent) : Log.Record where
  level := .debug
  target := target
  message := "agent event"
  fields :=
    [remoteField ping, ("timestamp", .whole ping.timestamp.toNat), ("kind", .shown event.text)]

end AgentIntake.Placeholder
