import AgentIntake.Acceptor.Traffic
import AgentIntake.Receiver.Basic

/-!
# The intake

A receiver on the acceptor that serves its connections: frames come in, messages go to the workers
and answers go back to the connection of their request.

The intake is driven from outside by what connections do (`TrafficEvent`), by `start` and `stop`,
and by the progress of its workers (`settle`).  All it does is told as a list of effects in order.
-/

namespace AgentIntake

/-- What it takes to answer a request: the connection it came by and its identifier. -/
structure ReplyTo where
  connection : Nat
  request : UInt64
  deriving DecidableEq, Inhabited

/-- The frame of an answer. -/
def ReplyTo.response (reply : ReplyTo) (payload : List UInt8) : Frame :=
  .response reply.request payload

/-- A receiver and what its acceptor serves. -/
structure Intake (η : Type) where
  receiver : Receiver ReplyTo η
  traffic : Traffic η

namespace Intake

variable {η M : Type}

/-- What others see: what a worker does for a message that wants no answer (`sent`) or wants one
(`requested`), and what is done for a sign of life, by its connection or, for none, by a worker
(`liveness`). -/
inductive Effect (M : Type) where
  | health (event : HealthEvent)
  | traffic (effect : Traffic.Effect)
  | sent (effect : Dispatch.Effect M)
  | requested (reply : ReplyTo) (effect : Dispatch.Effect M)
  | liveness (connection : Option Nat) (effect : Liveness.Effect)
  | logged (record : Log.Record)

/-- The record of an effect, if it is one; `health` is the record that a reporter makes of a
stage. -/
def Effect.record? (health : HealthEvent → Option Log.Record) : Effect M → Option Log.Record
  | .health event => health event
  | .traffic (.logged r) | .traffic (.of _ (.logged r)) | .sent (.logged r)
  | .requested _ (.logged r) | .liveness _ (.logged r) | .logged r => some r
  | .traffic _ | .sent _ | .requested .. | .liveness .. => none

/-- The frame that an effect puts on a connection, with the connection's number. -/
def Effect.frame? : Effect M → Option (Nat × Frame)
  | .traffic (.of id (.write frame none)) => some (id, frame)
  | .requested reply (.replied payload true) => some (reply.connection, reply.response payload)
  | _ => none

/-! ## 1.  The acceptor's part -/

/-- The acceptor does what the receiver asks of it. -/
def obey (network : Acceptor.Network) (a : Acceptor η) :
    AcceptorCall η → Acceptor η × List (Effect M)
  | .addObserver observer => (a.addObserver observer, [])
  | .setIgnored addresses => (a.setIgnored addresses, [])
  | .setListener => (a.setListener, [])
  | .bind host port =>
    let (b, records, _) := a.bind network host port
    (b, records.map .logged)
  | .close =>
    let (b, cut, records) := a.close
    (b, cut.map (fun id => .traffic (.cut id)) ++ records.map .logged)

/-- The acceptor does its part in what the receiver does, in order. -/
def obeyAll (network : Acceptor.Network) (a : Acceptor η) :
    List (Receiver.Effect η) → Acceptor η × List (Effect M)
  | [] => (a, [])
  | .health event :: rest =>
    let (b, effects) := obeyAll network a rest
    (b, .health event :: effects)
  | .logged record :: rest =>
    let (b, effects) := obeyAll network a rest
    (b, .logged record :: effects)
  | .acceptor call :: rest =>
    let (b, effects) := obey network a call
    let (c, more) := obeyAll network b rest
    (c, effects ++ more)

/-- The intake after the receiver did something, with the acceptor's part in it. -/
def joined (n : Intake η) (network : Acceptor.Network) (receiver : Receiver ReplyTo η)
    (effects : List (Receiver.Effect η)) : Intake η × List (Effect M) :=
  let (acceptor, effects) := obeyAll network n.traffic.acceptor effects
  (⟨receiver, { n.traffic with acceptor := acceptor }⟩, effects)

/-! ## 2.  Building, starting and stopping -/

/-- The intake of a configuration on an acceptor, with room for its queues, and the effects of
building it.  `cluster` is the observer of an enabled cluster. -/
def make? (config : Config) (cluster : Option η) (observers : List η) (grace : Nat)
    (network : Acceptor.Network) (acceptor : Acceptor η) :
    Except ReceiverError (Intake η × List (Effect M)) :=
  match Receiver.make? config cluster observers grace with
  | .error e => .error e
  | .ok (receiver, effects) =>
    let (acceptor, effects) := obeyAll network acceptor effects
    .ok (⟨receiver, .of acceptor⟩, effects)

/-- Builds an intake on an acceptor: what is done, and what comes of it. -/
def new (room : Room) (config : Config) (cluster : Option η) (observers : List η) (grace : Nat)
    (network : Acceptor.Network) (acceptor : Acceptor η) :
    List (Effect M) × Attempt ReceiverError (Intake η) :=
  let (effects, result) := Receiver.new room config cluster observers grace
  let (acceptor, effects) := obeyAll network acceptor effects
  (effects, result.map fun receiver => ⟨receiver, .of acceptor⟩)

/-- How binding the acceptor would end, once it has its listener. -/
def bound (n : Intake η) (network : Acceptor.Network) : Except TransportError Unit :=
  (n.traffic.acceptor.setListener.bind network n.receiver.host n.receiver.port).2.2

/-- Starts the intake. -/
def start (n : Intake η) (network : Acceptor.Network) :
    Intake η × List (Effect M) × Except ReceiverError Unit :=
  let (receiver, effects, result) := n.receiver.start network.lookup (n.bound network)
  let (m, effects) := n.joined network receiver effects
  (m, effects, result)

/-- Stops the intake; `progress` is what happens while a pool is waited for. -/
def stop (n : Intake η) (network : Acceptor.Network)
    (progress : Receiver.Executor → Receiver ReplyTo η → Receiver ReplyTo η) :
    Intake η × List (Effect M) × ShutdownOutcome :=
  let (receiver, effects, outcome) := n.receiver.stop progress
  let (m, effects) := n.joined network receiver effects
  (m, effects, outcome)

/-! ## 3.  Traffic -/

/-- Records made while a connection is served. -/
def recordsOf (id : Nat) (records : List Log.Record) : List (Effect M) :=
  records.map fun r => .traffic (.of id (.logged r))

/-- The receiver takes what a connection hands it. -/
def listen (r : Receiver ReplyTo η) (stamp : UInt64) (sink : Sink) (id : Nat)
    (remote : SocketAddress) : Connection.Effect → Receiver ReplyTo η × List (Effect M)
  | .handshake properties => (r, recordsOf id (Receiver.handshake properties).2)
  | .send packet =>
    let (s, records) := r.send packet
    (s, recordsOf id records)
  | .request request payload =>
    let (s, records) := r.request ⟨payload, remote, ⟨id, request⟩⟩
    (s, recordsOf id records)
  | .ping packet peer =>
    let (s, effects) := r.ping sink ⟨peer, packet.id, stamp⟩
    (s, effects.map (.liveness (some id)))
  | .told .. | .write .. | .logged _ => (r, [])

/-- The receiver takes what connections lead to, in order. -/
def listenAll (stamp : UInt64) (sink : Sink) (remotes : Nat → Option SocketAddress)
    (r : Receiver ReplyTo η) : List Traffic.Effect → Receiver ReplyTo η × List (Effect M)
  | [] => (r, [])
  | effect :: rest =>
    let (s, effects) :=
      match effect with
      | .of id e =>
        match remotes id with
        | some remote => listen r stamp sink id remote e
        | none => (r, [])
      | .admitted _ | .dropped | .cut _ | .logged _ => (r, [])
    let (t, more) := listenAll stamp sink remotes s rest
    (t, .traffic effect :: effects ++ more)

/-- Takes what a connection does at a time given in milliseconds since 1970; `written id n` is the
failure, if any, of the write number `n` on the connection `id`. -/
def take (n : Intake η) (written : Nat → Nat → Option TransportError) (stamp : UInt64) (sink : Sink)
    (event : TrafficEvent) : Intake η × List (Effect M) :=
  let (traffic, effects) := n.traffic.next written event
  let remotes := fun id => (n.traffic.connection? id).map (·.remote)
  let (receiver, effects) := listenAll stamp sink remotes n.receiver effects
  (⟨receiver, traffic⟩, effects)

/-! ## 4.  Workers -/

/-- What a worker of the dispatch pool does with a task. -/
def dispatchWork (codec : Codec M) (handler : Handler M) (reply : ReplyTo → ReplySender)
    (delivery : Delivery ReplyTo) : Work (Effect M) :=
  (Receiver.dispatchWork codec handler reply delivery).map
    (match delivery with
      | .request packet => .requested packet.reply
      | .send _ | .other => .sent)

/-- Both pools get on as far as they can. -/
def settle (n : Intake η) (codec : Codec M) (handler : Handler M) (reply : ReplyTo → ReplySender)
    (sink : Sink) : Intake η × List (Effect M) :=
  let (dispatch, effects) := n.receiver.dispatch.settle (dispatchWork codec handler reply)
  match n.receiver.events with
  | none => ({ n with receiver := { n.receiver with dispatch := dispatch } }, effects)
  | some pool =>
    let (events, more) :=
      pool.settle fun ping => (Liveness.recordWork sink ping).map (.liveness none)
    ({ n with receiver := { n.receiver with dispatch := dispatch, events := some events } },
      effects ++ more)

/-- What happens to a receiver's pools while one of them is waited for, when no call waits. -/
def progress (_ : Receiver.Executor) (r : Receiver ReplyTo η) : Receiver ReplyTo η :=
  { r with
    dispatch := (r.dispatch.settle fun _ => ([] : Work Unit)).1
    events := r.events.map fun pool => (pool.settle fun _ => ([] : Work Unit)).1 }

end Intake

end AgentIntake
