import AgentIntake.Frame.Line
import AgentIntake.Handshake.Gate
import AgentIntake.Log.Record
import AgentIntake.Transport.Error
import AgentIntake.Transport.Packet

/-!
# Connections

One accepted connection.  The first frame must be a handshake; the gate decides it, the decision is
written, and only then, if it is an acceptance, do the properties hold and do messages count.
Anything else as the first frame closes the connection, and so does a handshake that is rejected.
Later handshakes, and frames that only the collector sends, are passed over.

Observers are told that the connection is there, then perhaps that it runs, and last that it is
closed.

What a frame leads to is a list of `Effect`s in the order in which they happen.  A frame is written
at most once in response to a frame, and whether that succeeds is given: `written n` is the failure,
if any, of the write number `n` on this connection.  Answers to requests are not written here but by
whoever works on them.
-/

namespace AgentIntake

/-- A connection: where the agent is, the properties it was accepted with, if it was, what is known
of its stream, how many frames were written in response to frames, or tried to, and whether nothing
more is read from it. -/
structure Connection where
  remote : SocketAddress
  properties : Option Properties
  reader : LineReader
  writes : Nat
  isClosed : Bool

/-- What observers are told of a connection.  One that runs simplex takes messages from the agent
only; on one that runs duplex requests may go both ways. -/
inductive ConnectionState where
  | connected
  | runDuplex
  | runSimplex
  | closed
  deriving DecidableEq, Inhabited

/-- The name of a state. -/
def ConnectionState.text : ConnectionState → String
  | connected => "Connected"
  | runDuplex => "RunDuplex"
  | runSimplex => "RunSimplex"
  | closed => "Closed"

/-- The state in which a connection runs after a decision that accepts it. -/
def Decision.runState (decision : Decision) : ConnectionState :=
  if decision = .acceptedDuplex then .runDuplex else .runSimplex

namespace Connection

/-- What others see of a connection: what observers are told, what the listener is asked or given,
and the frames that are written, each with the failure of that, if any. -/
inductive Effect where
  | told (state : ConnectionState) (peer : Peer)
  | handshake (properties : Option Properties)
  | send (packet : SendPacket)
  | request (id : UInt64) (payload : List UInt8)
  | ping (packet : PingPacket) (peer : Peer)
  | write (frame : Frame) (failure : Option TransportError)
  | logged (record : Log.Record)

/-- What becomes of a connection after a frame. -/
inductive Flow where
  | next
  | close
  deriving DecidableEq

/-! ## 1.  Records -/

/-- The target of the transport's records. -/
def target : String := Log.targetOf "transport::tcp"

/-- A record about a connection. -/
def note (c : Connection) (level : Log.Level) (message : String)
    (more : List (String × Log.FieldValue)) : Effect :=
  .logged ⟨level, target, message, ("remote", .shown c.remote.text) :: more⟩

/-! ## 2.  Opening and closing -/

/-- The connection as others see it. -/
def peer (c : Connection) : Peer :=
  ⟨c.remote, c.properties⟩

/-- A new connection. -/
def opened (remote : SocketAddress) : Connection :=
  ⟨remote, none, .start, 0, false⟩

/-- What is done about a new connection. -/
def openEffects (c : Connection) : List Effect :=
  [.told .connected c.peer]

/-- Closes a connection. -/
def close (c : Connection) : Connection × List Effect :=
  ({ c with isClosed := true }, [.told .closed c.peer])

/-! ## 3.  Frames -/

/-- Writes a frame in response to one that was read. -/
def write (c : Connection) (written : Nat → Option TransportError) (frame : Frame) :
    Connection × List Effect × Flow :=
  let failure := written c.writes
  let d := { c with writes := c.writes + 1 }
  match failure with
  | none => (d, [.write frame none], .next)
  | some e =>
    (d, [.write frame (some e),
      c.note .debug "connection write failed" [("error", .shown e.message)]],
      .close)

/-- Lets the gate decide the handshake of a connection that has not been accepted. -/
def shake (c : Connection) (written : Nat → Option TransportError)
    (properties : Option Properties) :
    Connection × List Effect × Flow :=
  let decision := decide properties
  let (d, effects, flow) := c.write written (.handshakeResponse decision)
  let asked := .handshake properties :: effects
  if flow = .close then (d, asked, .close)
  else if decision.isAccepted then
    let e := { d with properties := properties }
    (e, asked ++ [.told decision.runState e.peer], .next)
  else
    (d, asked ++ [d.note .debug "handshake rejected" [("decision", .shown decision.title)]], .close)

/-- Takes a frame. -/
def handle (c : Connection) (written : Nat → Option TransportError) (frame : Frame) :
    Connection × List Effect × Flow :=
  match c.properties, frame with
  | none, .handshake properties => c.shake written properties
  | some _, .handshake _ => (c, [c.note .warn "ignoring repeated handshake" []], .next)
  | none, _ =>
    (c, [c.note .warn "closing connection that sent traffic before its handshake" []], .close)
  | some _, .send payload => (c, [.send ⟨payload, c.remote⟩], .next)
  | some _, .request id payload => (c, [.request id payload], .next)
  | some _, .ping id =>
    let (d, effects, flow) := c.write written (.pong id)
    (d, .ping ⟨id⟩ c.peer :: effects, flow)
  | some _, _ => (c, [c.note .debug "ignoring collector-bound frame" []], .next)

/-- Takes a line. -/
def handleLine (c : Connection) (written : Nat → Option TransportError) (line : Frame.Line) :
    Connection × List Effect × Flow :=
  let complaint := [("error", Log.FieldValue.shown (line.complaint?.getD ""))]
  match line with
  | .frame frame => c.handle written frame
  | .malformed .. => (c, [c.note .warn "dropping malformed frame" complaint], .next)
  | .tooLong => (c, [c.note .debug "connection read failed" complaint], .close)

/-! ## 4.  The stream -/

/-- Takes a line, unless the connection has closed before; adds what it leads to. -/
def takeLine (written : Nat → Option TransportError) (state : Connection × List Effect)
    (line : Frame.Line) : Connection × List Effect :=
  let (c, effects) := state
  if c.isClosed then state
  else
    match c.handleLine written line with
    | (d, more, .next) => (d, effects ++ more)
    | (d, more, .close) =>
      let (e, last) := d.close
      (e, effects ++ more ++ last)

/-- Takes lines in order. -/
def takeLines (c : Connection) (written : Nat → Option TransportError) (lines : List Frame.Line) :
    Connection × List Effect :=
  lines.foldl (takeLine written) (c, [])

/-- Takes a piece of the stream. -/
def receive (c : Connection) (written : Nat → Option TransportError) (bytes : List UInt8) :
    Connection × List Effect :=
  let (reader, lines) := c.reader.feed bytes
  takeLines { c with reader := reader } written lines

/-- Takes the end of the stream. -/
def finish (c : Connection) (written : Nat → Option TransportError) : Connection × List Effect :=
  let (d, effects) := c.takeLines written c.reader.finish.toList
  if d.isClosed then (d, effects)
  else
    let (e, last) := d.close
    (e, effects ++ last)

/-- Takes a failure of the network to read the stream. -/
def fail (c : Connection) (cause : String) : Connection × List Effect :=
  if c.isClosed then (c, [])
  else
    let (d, last) := c.close
    (d, c.note .debug "connection read failed" [("error", .shown ("IO error: " ++ cause))] :: last)

/-- All that a connection leads to whose stream is `bytes`. -/
def serve (remote : SocketAddress) (written : Nat → Option TransportError) (bytes : List UInt8) :
    List Effect :=
  let c := opened remote
  let (d, effects) := c.receive written bytes
  c.openEffects ++ effects ++ (d.finish written).2

end Connection

end AgentIntake
