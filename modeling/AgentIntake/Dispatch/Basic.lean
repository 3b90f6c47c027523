import AgentIntake.Dispatch.Error
import AgentIntake.Log.Record
import AgentIntake.Text.Hex
import AgentIntake.Transport.Packet
import AgentIntake.Work

/-!
# Dispatch

The way of a payload to the handler and of the handler's result back.  The codec, the handler and
the reply handle are not the collector's own: each call of one may fail or panic.  A stage of the
way that does not succeed ends it, with a warning and, in greater detail, the payload; nothing of
that escapes.  A request that fails is not answered; neither is one whose message is a probe.

A reply handle is also asked where its request came from, for the records.  That is no stage: it
comes before the way, and a panic of it is left to whoever runs the task (`handleRequest`).

What happens is a `Work`: the calls of the handler, the attempts to reply and the records, in order.
-/

namespace AgentIntake

/-- What turns payloads into messages and back, and knows the text of a message that is a probe. -/
structure Codec (M : Type) where
  decode : List UInt8 → Reaction CodecError M
  encode : M → Reaction CodecError (List UInt8)
  probe : M → Except PanicPayload (Option String)

/-- What handles messages that want no answer, and those that want one, which may be none. -/
structure Handler (M : Type) where
  send : M → Reaction HandlerError Unit
  request : M → Reaction HandlerError (Option M)

/-- What sends the payload of an answer. -/
abbrev ReplySender := List UInt8 → Reaction TransportError Unit

/-- What a request is answered with: it says where the request came from, or panics, and it sends
the payload of the answer. -/
structure ReplyHandle where
  remote : Except PanicPayload SocketAddress
  send : ReplySender

/-- The reply handle of a packet, when `send` sends answers: it has said where the packet came
from. -/
def RequestPacket.handle {ρ : Type} (send : ρ → ReplySender) (packet : RequestPacket ρ) :
    ReplyHandle :=
  ⟨.ok packet.remote, send packet.reply⟩

namespace Dispatch

/-- The two ways: of messages that want no answer and of those that want one. -/
inductive Path where
  | send
  | request
  deriving DecidableEq

/-- The name of a way. -/
def Path.text : Path → String
  | send => "send"
  | request => "request"

/-- What others see of a way: the calls of the handler, the payloads of answers that are given to
the reply handle, which sends them or does not, and the records. -/
inductive Effect (M : Type) where
  | called (path : Path) (message : M)
  | replied (payload : List UInt8) (sent : Bool)
  | logged (record : Log.Record)

/-! ## 1.  Stages -/

variable {M : Type}

/-- The end of a way: the handler's result was sent or there was none, or the message was a probe
with this text. -/
inductive Outcome where
  | handled
  | probe (text : String)

/-- The value of a call, or the stage's error. -/
def outcomeOf {ε α : Type} (stage : ε → DispatchError) : Attempt ε α → Except DispatchError α
  | .returned a => .ok a
  | .failed e => .error (stage e)
  | .panicked p => .error (.panicked p.message)

/-- The way of a message that wants no answer. -/
def sendWay (codec : Codec M) (handler : Handler M) (payload : List UInt8) :
    Work (Effect M) × Except DispatchError Outcome :=
  let decoded := codec.decode payload
  match outcomeOf .decode decoded.outcome with
  | .error e => (.waiting decoded, .error e)
  | .ok message =>
    let handled := handler.send message
    (.waiting decoded ++ .one (.called .send message) ++ .waiting handled,
      (outcomeOf .handler handled.outcome).map fun () => .handled)

/-- The way of an answer. -/
def answerWay (codec : Codec M) (reply : ReplySender) (answer : M) :
    Work (Effect M) × Except DispatchError Outcome :=
  let encoded := codec.encode answer
  match outcomeOf .encode encoded.outcome with
  | .error e => (.waiting encoded, .error e)
  | .ok payload =>
    let replied := reply payload
    let sent := match replied.outcome with | .returned () => true | _ => false
    (.waiting encoded ++ .waiting replied ++ .one (.replied payload sent),
      (outcomeOf .reply replied.outcome).map fun () => .handled)

/-- The way of a message that wants an answer. -/
def requestWay (codec : Codec M) (handler : Handler M) (reply : ReplySender)
    (payload : List UInt8) : Work (Effect M) × Except DispatchError Outcome :=
  let decoded := codec.decode payload
  match outcomeOf .decode decoded.outcome with
  | .error e => (.waiting decoded, .error e)
  | .ok message =>
    match codec.probe message with
    | .error p => (.waiting decoded, .error (.panicked p.message))
    | .ok (some text) => (.waiting decoded, .ok (.probe text))
    | .ok none =>
      let handled := handler.request message
      let before := .waiting decoded ++ .one (.called .request message) ++ .waiting handled
      match outcomeOf .handler handled.outcome with
      | .error e => (before, .error e)
      | .ok none => (before, .ok .handled)
      | .ok (some answer) =>
        let (work, outcome) := answerWay codec reply answer
        (before ++ work, outcome)

/-! ## 2.  Records -/

/-- The target of the records of dispatch. -/
def target : String := Log.targetOf "dispatch"

/-- The wording of an error's cause as a field, if it has one. -/
def causeField (e : DispatchError) : List (String × Log.FieldValue) :=
  (e.cause?.map fun cause => ("cause", .text cause)).toList

/-- The records of a way that failed: the warning, and the payload for whoever looks closer. -/
def failureRecords (path : Path) (remote : SocketAddress) (payload : List UInt8)
    (e : DispatchError) : List Log.Record :=
  [ { level := .warn
      target := target
      message := "dropping message"
      fields := [("path", .text path.text), ("remote", .shown remote.text),
        ("error", .shown e.message)] ++ causeField e },
    { level := .debug
      target := target
      message := "dropped payload"
      fields := [("path", .text path.text), ("remote", .shown remote.text),
        ("len", .whole payload.length), ("payload", .shown (Hex.encode payload))] } ]

/-- The record of a probe. -/
def probeRecord (remote : SocketAddress) (text : String) : Log.Record where
  level := .debug
  target := target
  message := "dropped transport probe request"
  fields := [("remote", .shown remote.text), ("probe", .shown text)]

/-- The records of the end of a way. -/
def records (path : Path) (remote : SocketAddress) (payload : List UInt8) :
    Except DispatchError Outcome → List Log.Record
  | .ok .handled => []
  | .ok (.probe text) => [probeRecord remote text]
  | .error e => failureRecords path remote payload e

/-- A way with its records. -/
def told (path : Path) (remote : SocketAddress) (payload : List UInt8)
    (way : Work (Effect M) × Except DispatchError Outcome) : Work (Effect M) :=
  way.1 ++ (records path remote payload way.2).map fun r => .effect (.logged r)

/-! ## 3.  Packets -/

/-- What becomes of a packet that wants no answer. -/
def handleSend (codec : Codec M) (handler : Handler M) (packet : SendPacket) : Work (Effect M) :=
  told .send packet.remote packet.payload (sendWay codec handler packet.payload)

/-- What becomes of the payload of a packet that wants an answer, and how that ends.  The reply
handle is asked where the packet came from before anything else, and a panic of it is not caught
here. -/
def handleRequest (codec : Codec M) (handler : Handler M) (reply : ReplyHandle)
    (payload : List UInt8) : Work (Effect M) × Except PanicPayload Unit :=
  match reply.remote with
  | .error p => ([], .error p)
  | .ok remote =>
      (told .request remote payload (requestWay codec handler reply.send payload), .ok ())

end Dispatch

end AgentIntake
