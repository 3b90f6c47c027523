import AgentIntake.Connection.Basic
import AgentIntake.Probe

/-!
# The acceptor

The acceptor listens at one address and keeps a table of the connections it has let in, so that
closing it can end them.  It is bound at most once in its life: after it has been closed it is never
bound again, and while it is bound a second attempt is refused.  An attempt that fails leaves it as
it was.

A connection from an ignored address is dropped before anything is known of it: it gets no number,
and nobody is told.  Numbers are given in the order in which connections are let in.

`η` names the observers of connections.
-/

namespace AgentIntake

/-- An acceptor: whether somebody listens for messages, who is told of the states of connections,
the addresses whose connections are dropped, the numbers of the connections in its table, the latest
first, the number of the next connection, whether it has been closed, and the address it listens
at. -/
structure Acceptor (η : Type) where
  hasListener : Bool
  observers : List η
  ignored : List IpAddress
  tracked : List Nat
  nextId : Nat
  isClosed : Bool
  bound : Option SocketAddress

namespace Acceptor

variable {η : Type}

/-- An acceptor that has not been bound. -/
def new : Acceptor η :=
  ⟨false, [], [], [], 0, false, none⟩

instance : Inhabited (Acceptor η) := ⟨new⟩

/-! ## 1.  Settings -/

/-- Adds an observer. -/
def addObserver (a : Acceptor η) (observer : η) : Acceptor η :=
  { a with observers := a.observers ++ [observer] }

/-- Drops connections from these addresses from now on, and from no others. -/
def setIgnored (a : Acceptor η) (addresses : List IpAddress) : Acceptor η :=
  { a with ignored := addresses }

/-- Gives it a listener. -/
def setListener (a : Acceptor η) : Acceptor η :=
  { a with hasListener := true }

/-! ## 2.  Binding -/

/-- The outside world as far as binding goes: the addresses of a host that is no address, and the
listening socket's own address or what went wrong. -/
structure Network where
  lookup : Probe.Lookup
  listen : SocketAddress → Except TransportError SocketAddress

/-- The address that a host and a port stand for. -/
def resolve (network : Network) (host : String) (port : UInt16) :
    Except TransportError SocketAddress :=
  match IpAddress.ofText? host with
  | some ip => .ok ⟨ip, port, 0⟩
  | none =>
    match network.lookup host with
    | .error cause => .error (.resolve host port cause)
    | .ok [] => .error (.resolveEmpty host port)
    | .ok (ip :: _) => .ok ⟨ip, port, 0⟩

/-- The record of an acceptor that has been bound. -/
def boundRecord (address : SocketAddress) : Log.Record :=
  ⟨.info, Connection.target, "tcp acceptor bound", [("local_addr", .shown address.text)]⟩

/-- The address at which the acceptor would listen, or why it cannot. -/
def bindable (a : Acceptor η) (network : Network) (host : String) (port : UInt16) :
    Except TransportError SocketAddress :=
  if a.isClosed then .error .closed
  else if a.bound.isSome then .error .alreadyBound
  else if a.hasListener then (resolve network host port).bind network.listen
  else .error .missingListener

/-- Binds the acceptor. -/
def bind (a : Acceptor η) (network : Network) (host : String) (port : UInt16) :
    Acceptor η × List Log.Record × Except TransportError Unit :=
  match a.bindable network host port with
  | .error e => (a, [], .error e)
  | .ok address => ({ a with bound := some address }, [boundRecord address], .ok ())

/-! ## 3.  The table -/

/-- What becomes of a connection that arrives: it comes from an ignored address, or nobody listens
for messages, or the acceptor has been closed, or it is let in under a number. -/
inductive Admission where
  | ignored
  | unheard
  | late
  | admitted (id : Nat)
  deriving DecidableEq

/-- Takes a connection that arrives. -/
def accept (a : Acceptor η) (remote : SocketAddress) : Acceptor η × Admission :=
  if remote.ip ∈ a.ignored then (a, .ignored)
  else if !a.hasListener then (a, .unheard)
  else if a.isClosed then (a, .late)
  else
    ({ a with tracked := a.nextId :: a.tracked, nextId := a.nextId + 1 }, .admitted a.nextId)

/-- The records of a connection that arrives. -/
def Admission.records (remote : SocketAddress) : Admission → List Log.Record
  | unheard =>
    [⟨.warn, Connection.target, "no message listener; dropping connection",
      [("remote", .shown remote.text)]⟩]
  | ignored | late | admitted _ => []

/-- Takes a connection out of the table, after it has ended. -/
def forget (a : Acceptor η) (id : Nat) : Acceptor η :=
  { a with tracked := a.tracked.filter (· ≠ id) }

/-! ## 4.  Closing -/

/-- The record of an acceptor that has been closed. -/
def closedRecord (address : SocketAddress) (connections : Nat) : Log.Record :=
  ⟨.info, Connection.target, "tcp acceptor closed",
    [("local_addr", .shown address.text), ("connections", .whole connections)]⟩

/-- Closes the acceptor; gives the connections that end with it. -/
def close (a : Acceptor η) : Acceptor η × List Nat × List Log.Record :=
  match a.bound with
  | none => ({ a with isClosed := true }, [], [])
  | some address =>
    ({ a with isClosed := true, bound := none, tracked := [] }, a.tracked,
      [closedRecord address a.tracked.length])

end Acceptor

end AgentIntake
