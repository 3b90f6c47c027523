import AgentIntake.Transport.Error

/-!
# Errors of the dispatch paths
-/

namespace AgentIntake

/-- Why a payload has no message or a message no payload. -/
inductive CodecError where
  | decode (message : String)
  | encode (message : String)
  deriving DecidableEq, Inhabited

instance : Diagnostic CodecError where
  kind
    | .decode _ => "Decode"
    | .encode _ => "Encode"
  message
    | .decode message => s!"failed to decode payload: {message}"
    | .encode message => s!"failed to encode message: {message}"
  causes _ := []

/-- Why a handler did not handle a message: the wording, and what lies behind it. -/
structure HandlerError where
  message : String
  cause : Option String
  deriving DecidableEq, Inhabited

instance : Diagnostic HandlerError where
  kind _ := "HandlerError"
  message e := e.message
  causes e := e.cause.toList

/-- The stage of a dispatch path that did not succeed. -/
inductive DispatchError where
  | decode (error : CodecError)
  | handler (error : HandlerError)
  | encode (error : CodecError)
  | reply (error : TransportError)
  | panicked (message : String)
  deriving DecidableEq, Inhabited

namespace DispatchError

/-- The wording. -/
def message : DispatchError → String
  | decode _ => "decode failed"
  | handler _ => "handler failed"
  | encode _ => "encode failed"
  | reply _ => "reply failed"
  | panicked message => s!"dispatch panicked: {message}"

/-- The wording of the stage's own error, unless it panicked. -/
def cause? : DispatchError → Option String
  | decode e | encode e => some (Diagnostic.message e)
  | handler e => some (Diagnostic.message e)
  | reply e => some (Diagnostic.message e)
  | panicked _ => none

instance : Diagnostic DispatchError where
  kind
    | decode _ => "Decode"
    | handler _ => "Handler"
    | encode _ => "Encode"
    | reply _ => "Reply"
    | panicked _ => "Panicked"
  message := message
  causes
    | decode e | encode e => Diagnostic.chain e
    | handler e => Diagnostic.chain e
    | reply e => Diagnostic.chain e
    | panicked _ => []

end DispatchError

end AgentIntake
