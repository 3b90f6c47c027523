import AgentIntake.Config.Basic
import AgentIntake.Dispatch.Basic
import AgentIntake.Handshake.Gate
import AgentIntake.Liveness.Basic
import AgentIntake.Pool.Schedule
import AgentIntake.Probe
import AgentIntake.Receiver.Drain
import AgentIntake.Receiver.Error

/-!
# The receiver

The receiver stands between the acceptor, which owns the connections, and the workers.  It gives the
acceptor callbacks: a handshake is decided at once, a message is put into the queue of the dispatch
pool or dropped with a warning, a sign of life goes to the liveness pool.

It can be started once.  A start whose bind fails may be repeated; what a start tells the acceptor
about observers is told once all the same.  After a stop nothing starts any more, and a second stop
does nothing.

`ρ` is what it takes to answer a request, and `η` names the observers of connections.
-/

namespace AgentIntake

/-- A task of the dispatch pool: a message that wants no answer, one that wants an answer, or a task
of someone else, without effect here. -/
inductive Delivery (ρ : Type) where
  | send (packet : SendPacket)
  | request (packet : RequestPacket ρ)
  | other

/-- What the receiver asks of the acceptor. -/
inductive AcceptorCall (η : Type) where
  | addObserver (observer : η)
  | setIgnored (addresses : List IpAddress)
  | setListener
  | bind (host : String) (port : UInt16)
  | close

/-- A receiver: where to listen, the hosts from which health probes come, the observers that the
acceptor is told of at the first start and whether it was told, whether a start succeeded and
whether it was stopped, how long a stop waits for each pool, in milliseconds, the pool that
dispatches messages, and the one that records signs of life, if there is one. -/
structure Receiver (ρ η : Type) where
  host : String
  port : UInt16
  probeHosts : List String
  observers : List η
  observersAdded : Bool
  isStarted : Bool
  isStopped : Bool
  grace : Nat
  dispatch : Pool (Delivery ρ)
  events : Option (Pool Ping)

namespace Receiver

/-- What others see of the receiver's own doing. -/
inductive Effect (η : Type) where
  | health (event : HealthEvent)
  | acceptor (call : AcceptorCall η)
  | logged (record : Log.Record)

variable {ρ η : Type}

/-! ## 1.  Building -/

/-- The name of the dispatch pool, with which the names of its workers begin. -/
def dispatchPoolName : String := "collector-tcp-worker"

/-- The name of the liveness pool. -/
def eventPoolName : String := "collector-agent-event-worker"

/-- The liveness pool of a configuration: none for no workers. -/
def eventPool? (config : Config) : Except PoolError (Option (Pool Ping)) :=
  if config.eventWorkerThreads = 0 then .ok none
  else
    (Pool.make? eventPoolName config.eventWorkerThreads.toNat
      config.eventWorkerQueueSize.toNat).map some

/-- Makes the liveness pool of a configuration, if it is to have workers. -/
def newEventPool (room : Room) (config : Config) : Attempt PoolError (Option (Pool Ping)) :=
  if config.eventWorkerThreads = 0 then .returned none
  else
    (Pool.new room eventPoolName config.eventWorkerThreads.toNat
      config.eventWorkerQueueSize.toNat).map some

/-- A receiver with its pools, before its first start. -/
def assembled (config : Config) (observers : List η) (grace : Nat) (dispatch : Pool (Delivery ρ))
    (events : Option (Pool Ping)) : Receiver ρ η where
  host := config.listenIp
  port := config.listenPort
  probeHosts := config.probeHosts
  observers := observers
  observersAdded := false
  isStarted := false
  isStopped := false
  grace := grace
  dispatch := dispatch
  events := events

/-- The effects of building a receiver: its pools start, and the acceptor is told of the observer
of an enabled cluster. -/
def newEffects (dispatch : Pool (Delivery ρ)) (events : Option (Pool Ping)) (cluster : Option η) :
    List (Effect η) :=
  .logged dispatch.startedRecord :: (events.toList.map fun p => .logged p.startedRecord) ++
    cluster.toList.map fun observer => .acceptor (.addObserver observer)

/-- The receiver of a configuration, with room for its queues, and the effects of building it.
`cluster` is the observer of an enabled cluster. -/
def make? (config : Config) (cluster : Option η) (observers : List η) (grace : Nat) :
    Except ReceiverError (Receiver ρ η × List (Effect η)) :=
  match config.invalid? with
  | some e => .error (.config e)
  | none =>
    match Pool.make? dispatchPoolName config.workerThreads.toNat config.workerQueueSize.toNat with
    | .error e => .error (.pool e)
    | .ok dispatch =>
      match eventPool? config with
      | .error e => .error (.pool e)
      | .ok events =>
        .ok (assembled config observers grace dispatch events, newEffects dispatch events cluster)

/-- Builds a receiver: what is done, and what comes of it.  When there is no room for the queue of
the liveness pool, the dispatch pool has been started and goes away. -/
def new (room : Room) (config : Config) (cluster : Option η) (observers : List η) (grace : Nat) :
    List (Effect η) × Attempt ReceiverError (Receiver ρ η) :=
  match config.invalid? with
  | some e => ([], .failed (.config e))
  | none =>
    match Pool.new room dispatchPoolName config.workerThreads.toNat
        config.workerQueueSize.toNat with
    | .failed e => ([], .failed (.pool e))
    | .panicked p => ([], .panicked p)
    | .returned dispatch =>
      match newEventPool room config with
      | .failed e =>
        (.logged dispatch.startedRecord :: dispatch.closeRecords.map .logged, .failed (.pool e))
      | .panicked p => ([.logged dispatch.startedRecord], .panicked p)
      | .returned events =>
        (newEffects dispatch events cluster,
          .returned (assembled config observers grace dispatch events))

/-! ## 2.  Starting -/

/-- The target of the receiver's records. -/
def target : String := Log.targetOf "receiver"

/-- The record of the addresses that are ignored. -/
def ignoredRecord (addresses : List IpAddress) : Log.Record where
  level := .debug
  target := target
  message := "probe ignore list resolved"
  fields :=
    [("addresses", .shown ("[" ++ ", ".intercalate (addresses.map IpAddress.text) ++ "]"))]

/-- What is done about the probe hosts. -/
def probeEffects (r : Receiver ρ η) (lookup : Probe.Lookup) : List (Effect η) :=
  if r.probeHosts.isEmpty then []
  else
    match Probe.resolve lookup r.probeHosts with
    | .ok addresses => [.logged (ignoredRecord addresses), .acceptor (.setIgnored addresses)]
    | .error e => [.health (.probeFailed e)]

/-- What is done before the acceptor is bound. -/
def startEffects (r : Receiver ρ η) (lookup : Probe.Lookup) : List (Effect η) :=
  .health (.receiverStarting r.host r.port) ::
    (if r.observersAdded then []
      else r.observers.map fun observer => .acceptor (.addObserver observer)) ++
    r.probeEffects lookup ++ [.acceptor .setListener, .acceptor (.bind r.host r.port)]

/-- Starts the receiver; `bound` is how binding the acceptor ends. -/
def start (r : Receiver ρ η) (lookup : Probe.Lookup) (bound : Except TransportError Unit) :
    Receiver ρ η × List (Effect η) × Except ReceiverError Unit :=
  if r.isStopped then (r, [], .error .stopped)
  else if r.isStarted then (r, [], .error .alreadyStarted)
  else
    let tried := { r with observersAdded := true }
    match bound with
    | .error e => (tried, r.startEffects lookup, .error (.bind e))
    | .ok () =>
      ({ tried with isStarted := true },
        r.startEffects lookup ++ [.health (.receiverBound r.host r.port)], .ok ())

/-! ## 3.  Stopping -/

/-- The pools of a receiver. -/
inductive Executor where
  | dispatch
  | events
  deriving DecidableEq

/-- The pools that there are, in the order in which they are closed and waited for. -/
def executors (r : Receiver ρ η) : List (Option Executor) :=
  [some .dispatch, r.events.map fun _ => .events]

/-- Closing pools, and waiting for them while `progress` happens. -/
def drainable (progress : Executor → Receiver ρ η → Receiver ρ η) :
    Drain.Executors Executor (Receiver ρ η) where
  name k r :=
    match k with
    | .dispatch => r.dispatch.name
    | .events => (r.events.map (·.name)).getD ""
  close k r :=
    match k with
    | .dispatch => ({ r with dispatch := r.dispatch.close }, r.dispatch.closeRecords)
    | .events =>
      ({ r with events := r.events.map Pool.close }, (r.events.map Pool.closeRecords).getD [])
  wait := progress
  live k r :=
    match k with
    | .dispatch => r.dispatch.live
    | .events => (r.events.map Pool.live).getD 0

/-- Stops the receiver; `progress` is what happens while a pool is waited for. -/
def stop (r : Receiver ρ η) (progress : Executor → Receiver ρ η → Receiver ρ η) :
    Receiver ρ η × List (Effect η) × ShutdownOutcome :=
  if r.isStopped then (r, [], .alreadyStopped)
  else
    let (s, records, outcome) :=
      Drain.shutdown (drainable progress) r.grace r.executors { r with isStopped := true }
    (s, [.health .receiverStopping, .acceptor .close] ++ records.map .logged ++
      [.health (.receiverStopped outcome)], outcome)

/-! ## 4.  Callbacks -/

/-- The record of a handshake. -/
def handshakeRecord (properties : Option Properties) (decision : Decision) : Log.Record where
  level := .debug
  target := target
  message := "handshake decided"
  fields :=
    ((properties.bind Properties.agentId?).map fun id => ("agent_id", .text id)).toList ++
      [("decision", .shown decision.title)]

/-- Decides a handshake. -/
def handshake (properties : Option Properties) : Decision × List Log.Record :=
  (decide properties, [handshakeRecord properties (decide properties)])

/-- The record of a message for which there was no room. -/
def droppedRecord (path : Dispatch.Path) (remote : SocketAddress) (e : PoolError) : Log.Record where
  level := .warn
  target := target
  message := s!"{path.text} packet dropped: {e.message}"
  fields := [("remote", .shown remote.text)]

/-- Submits a message to the dispatch pool, or drops it. -/
def deliver (r : Receiver ρ η) (path : Dispatch.Path) (remote : SocketAddress)
    (delivery : Delivery ρ) : Receiver ρ η × List Log.Record :=
  match r.dispatch.submit delivery with
  | .ok dispatch => ({ r with dispatch := dispatch }, [])
  | .error e => (r, [droppedRecord path remote e])

/-- Takes a message that wants no answer. -/
def send (r : Receiver ρ η) (packet : SendPacket) : Receiver ρ η × List Log.Record :=
  r.deliver .send packet.remote (.send packet)

/-- Takes a message that wants an answer. -/
def request (r : Receiver ρ η) (packet : RequestPacket ρ) : Receiver ρ η × List Log.Record :=
  r.deliver .request packet.remote (.request packet)

/-- Takes a sign of life. -/
def ping (r : Receiver ρ η) (sink : Sink) (ping : Ping) :
    Receiver ρ η × List Liveness.Effect :=
  let (events, effects) := Liveness.deliver sink r.events ping
  ({ r with events := events }, effects)

/-! ## 5.  Work -/

/-- What a worker of the dispatch pool does with a task. -/
def dispatchWork {M : Type} (codec : Codec M) (handler : Handler M) (reply : ρ → ReplySender) :
    Delivery ρ → Work (Dispatch.Effect M)
  | .send packet => Dispatch.handleSend codec handler packet
  | .request packet =>
    Pool.runTask dispatchPoolName .logged
      (Dispatch.handleRequest codec handler (packet.handle reply) packet.payload)
  | .other => []

end Receiver

end AgentIntake
