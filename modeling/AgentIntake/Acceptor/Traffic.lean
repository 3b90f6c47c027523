import AgentIntake.Acceptor.Basic

/-!
# Connections under an acceptor

An acceptor together with the connections it serves.  What can happen is that a connection arrives,
that a piece of a stream comes, that a stream ends or fails, that other addresses are ignored, and
that the acceptor is closed.  Everything that a connection leads to carries its number, so the
effects of one connection can be told from those of the others.

A connection that closing the acceptor cuts off stays among those served until its stream has ended.
-/

namespace AgentIntake

/-- An acceptor and the connections that have not ended, by number, in the order of their
arrival. -/
structure Traffic (η : Type) where
  acceptor : Acceptor η
  served : List (Nat × Connection)

/-- What can happen to an acceptor and its connections.  The stream of a connection comes in pieces
(`received`) and has then ended, or it can no longer be read (`failed`). -/
inductive TrafficEvent where
  | arrived (remote : SocketAddress)
  | received (id : Nat) (bytes : List UInt8)
  | ended (id : Nat)
  | failed (id : Nat) (cause : String)
  | ignoring (addresses : List IpAddress)
  | closed

namespace Traffic

variable {η : Type}

/-- What others see.  A connection is `dropped` when it arrives, and `cut` off when the acceptor is
closed. -/
inductive Effect where
  | admitted (id : Nat)
  | dropped
  | of (id : Nat) (effect : Connection.Effect)
  | cut (id : Nat)
  | logged (record : Log.Record)

/-- An acceptor without connections. -/
def of (acceptor : Acceptor η) : Traffic η :=
  ⟨acceptor, []⟩

/-- The connection with a number. -/
def connection? (t : Traffic η) (id : Nat) : Option Connection :=
  (t.served.find? (·.1 = id)).map (·.2)

/-- A connection arrives. -/
def arrive (t : Traffic η) (remote : SocketAddress) : Traffic η × List Effect :=
  let (acceptor, admission) := t.acceptor.accept remote
  let records := (admission.records remote).map Effect.logged
  match admission with
  | .admitted id =>
    let c := Connection.opened remote
    (⟨acceptor, t.served ++ [(id, c)]⟩, .admitted id :: c.openEffects.map (.of id))
  | .ignored | .unheard | .late => (⟨acceptor, t.served⟩, records ++ [.dropped])

/-- Puts a connection in its new state, or takes it out if it has ended. -/
def update (t : Traffic η) (id : Nat) (c : Connection) : Traffic η :=
  if c.isClosed then ⟨t.acceptor.forget id, t.served.filter (·.1 ≠ id)⟩
  else { t with served := t.served.map fun entry => if entry.1 = id then (id, c) else entry }

/-- Lets a connection take something; `written n` is the failure, if any, of its write number
`n`. -/
def serve (t : Traffic η) (id : Nat) (take : Connection → Connection × List Connection.Effect) :
    Traffic η × List Effect :=
  match t.connection? id with
  | none => (t, [])
  | some c =>
    let (d, effects) := take c
    (t.update id d, effects.map (.of id))

/-- Takes an event; `written id n` is the failure, if any, of the write number `n` on the connection
`id`. -/
def next (t : Traffic η) (written : Nat → Nat → Option TransportError) :
    TrafficEvent → Traffic η × List Effect
  | .arrived remote => t.arrive remote
  | .received id bytes => t.serve id fun c => c.receive (written id) bytes
  | .ended id => t.serve id fun c => c.finish (written id)
  | .failed id cause => t.serve id fun c => c.fail cause
  | .ignoring addresses => ({ t with acceptor := t.acceptor.setIgnored addresses }, [])
  | .closed =>
    let (acceptor, cut, records) := t.acceptor.close
    ({ t with acceptor := acceptor }, cut.map .cut ++ records.map .logged)

/-- Takes events in order; the effects come in order, too. -/
def run (t : Traffic η) (written : Nat → Nat → Option TransportError) :
    List TrafficEvent → Traffic η × List Effect
  | [] => (t, [])
  | event :: events =>
    let (u, effects) := t.next written event
    let (v, more) := u.run written events
    (v, effects ++ more)

/-- What belongs to one connection. -/
def Effect.about? (id : Nat) : Effect → Option Connection.Effect
  | .of k effect => if k = id then some effect else none
  | .admitted _ | .dropped | .cut _ | .logged _ => none

end Traffic

end AgentIntake
