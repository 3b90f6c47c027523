import AgentIntake.Liveness.Error
import AgentIntake.Log.Record
import AgentIntake.Pool.Basic
import AgentIntake.Transport.Packet
import AgentIntake.Work

/-!
# Signs of life

A sign of life whose counter is not negative first marks the agent as running and then becomes an
event; with a negative counter it only becomes an event.  The sink that takes both may fail or
panic, and none of that escapes.

Signs of life have a pool of their own, so that no amount of messages holds them up; without one
they are recorded by whoever delivers them.
-/

namespace AgentIntake

/-- A sign of life to be recorded: the connection it came by, the agent's counter, and when it came,
in milliseconds since 1970. -/
structure Ping where
  peer : Peer
  sequence : Int32
  timestamp : UInt64

/-- The states of an agent that can be recorded. -/
inductive AgentState where
  | running
  | shutDown
  | unexpectedShutdown
  deriving DecidableEq, Inhabited

/-- The name of a state. -/
def AgentState.text : AgentState → String
  | running => "Running"
  | shutDown => "ShutDown"
  | unexpectedShutdown => "UnexpectedShutdown"

/-- The events of an agent that can be recorded. -/
inductive AgentEvent where
  | agentPing
  deriving DecidableEq, Inhabited

/-- The name of an event. -/
def AgentEvent.text : AgentEvent → String
  | agentPing => "AgentPing"

/-- What takes the states and the events of agents, with the sign of life that they come from. -/
structure Sink where
  apply : Ping → AgentState → Reaction LifecycleError Unit
  emit : Ping → AgentEvent → Reaction LifecycleError Unit

namespace Liveness

/-- What others see when a sign of life is recorded: the calls of the sink, and the record. -/
inductive Effect where
  | applied (ping : Ping) (state : AgentState)
  | emitted (ping : Ping) (event : AgentEvent)
  | logged (record : Log.Record)

/-- The target of the records of signs of life. -/
def target : String := Log.targetOf "liveness"

/-- What went wrong with a call of the sink, a panic like a failure. -/
def failure? : Attempt LifecycleError Unit → Option LifecycleError
  | .returned () => none
  | .failed e => some e
  | .panicked p => some ⟨p.message⟩

/-- The call that makes the event, and its failure. -/
def emitWay (sink : Sink) (ping : Ping) : Work Effect × Option LifecycleError :=
  let emitted := sink.emit ping .agentPing
  (.one (.emitted ping .agentPing) ++ .waiting emitted, failure? emitted.outcome)

/-- The calls of the sink, and the first failure. -/
def way (sink : Sink) (ping : Ping) : Work Effect × Option LifecycleError :=
  if 0 ≤ ping.sequence then
    let applied := sink.apply ping .running
    let work := .one (.applied ping .running) ++ .waiting applied
    match failure? applied.outcome with
    | some e => (work, some e)
    | none =>
      let (more, failure) := emitWay sink ping
      (work ++ more, failure)
  else emitWay sink ping

/-- The record of a sign of life. -/
def record (ping : Ping) (failure : Option LifecycleError) : Log.Record :=
  let common := [("remote", .shown ping.peer.remote.text), ("sequence", .whole ping.sequence.toInt)]
  match failure with
  | none => ⟨.debug, target, "ping recorded", common⟩
  | some e =>
    ⟨.warn, target, "failed to record ping", common ++ [("error", .shown (Diagnostic.message e))]⟩

/-- What is done to record a sign of life. -/
def recordWork (sink : Sink) (ping : Ping) : Work Effect :=
  let (work, failure) := way sink ping
  work ++ .one (.logged (record ping failure))

/-- The record of a sign of life for which there was no room. -/
def droppedRecord (ping : Ping) (e : PoolError) : Log.Record where
  level := .warn
  target := target
  message := "ping dropped"
  fields := [("remote", .shown ping.peer.remote.text), ("error", .shown e.message)]

/-- What becomes of a sign of life: with a pool it is submitted or dropped, without one it is
recorded at once. -/
def deliver (sink : Sink) (executor : Option (Pool Ping)) (ping : Ping) :
    Option (Pool Ping) × List Effect :=
  match executor with
  | none => (none, (recordWork sink ping).effects)
  | some pool =>
    match pool.submit ping with
    | .ok pool => (some pool, [])
    | .error e => (some pool, [.logged (droppedRecord ping e)])

end Liveness

end AgentIntake
