import AgentIntake.Diagnostic
import AgentIntake.Net.Address

/-!
# Errors of the transport
-/

namespace AgentIntake

/-- Why the acceptor was not bound or a frame not written. -/
inductive TransportError where
  | resolve (host : String) (port : UInt16) (cause : String)
  | resolveEmpty (host : String) (port : UInt16)
  | bindTcp (address : SocketAddress) (cause : String)
  | nonBlocking (cause : String)
  | alreadyBound
  | closed
  | missingListener
  | spawn (cause : String)
  | write (remote : SocketAddress) (cause : String)
  | serialise (cause : String)
  | threadPanic
  deriving DecidableEq

namespace TransportError

instance : Inhabited TransportError := ⟨closed⟩

/-- The wording. -/
def message : TransportError → String
  | resolve host port cause =>
    s!"failed to resolve TCP address {host}:{port.toNat}: {cause}"
  | resolveEmpty host port => s!"no TCP addresses resolved for {host}:{port.toNat}"
  | bindTcp address cause => s!"failed to bind TCP listener at {address.text}: {cause}"
  | nonBlocking cause => s!"failed to enable non-blocking listener: {cause}"
  | alreadyBound => "acceptor is already bound"
  | closed => "acceptor has been closed"
  | missingListener => "no message listener registered before bind"
  | spawn cause => s!"failed to spawn transport thread: {cause}"
  | write remote cause => s!"failed to write frame to {remote.text}: {cause}"
  | serialise cause => s!"failed to serialise frame: {cause}"
  | threadPanic => "accept thread panicked"

instance : Diagnostic TransportError where
  kind
    | resolve .. => "Resolve"
    | resolveEmpty .. => "ResolveEmpty"
    | bindTcp .. => "BindTcp"
    | nonBlocking _ => "NonBlocking"
    | alreadyBound => "AlreadyBound"
    | closed => "Closed"
    | missingListener => "MissingListener"
    | spawn _ => "Spawn"
    | write .. => "Write"
    | serialise _ => "Serialise"
    | threadPanic => "ThreadPanic"
  message := message
  causes
    | resolve _ _ cause | bindTcp _ cause | nonBlocking cause | spawn cause | write _ cause
    | serialise cause => [cause]
    | resolveEmpty .. | alreadyBound | closed | missingListener | threadPanic => []

end TransportError

end AgentIntake
