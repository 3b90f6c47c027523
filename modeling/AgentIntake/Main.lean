import AgentIntake.Config.Load
import AgentIntake.Log.Line
import AgentIntake.Service
import Std.Async.DNS
import Std.Async.Signal
import Std.Async.TCP
import Std.Sync.Mutex

/-!
# The program

The collector on real sockets, files, signals and clocks.  Everything it decides is decided by
`Config.load` and by `Service`; here their questions are answered and what they tell is carried out.

A connection's piece of a stream is handed on line by line, so that it leads to at most one frame to
write.  Which one depends on the connection alone: it is found first, then written, and then the
service takes the line together with what became of the writing.
-/

namespace AgentIntake.Program

open Std.Async
open Std.Async.TCP.Socket (Server Client)

/-! ## 1.  Addresses -/

/-- An address of the network. -/
def ofNetwork : Std.Net.IPAddr → IpAddress
  | .v4 x => .v4 ⟨x.octets[0], x.octets[1], x.octets[2], x.octets[3]⟩
  | .v6 x => .v6 ⟨x.segments.toList, by simp⟩

/-- An address with a port of the network. -/
def endpointOf (address : Std.Net.SocketAddress) : SocketAddress :=
  ⟨ofNetwork address.ipAddr, address.port, 0⟩

/-- An address with a port for the network. -/
def toNetwork (address : SocketAddress) : Std.Net.SocketAddress :=
  match address.ip with
  | .v4 ip => .v4 ⟨.ofParts ip.a ip.b ip.c ip.d, address.port⟩
  | .v6 ip => .v6 ⟨⟨⟨ip.groups.toArray, by simp [ip.eight]⟩⟩, address.port⟩

/-- What an action gives, or the wording of its failure. -/
def attempt {α : Type} (action : IO α) : IO (Except String α) := do
  try
    return .ok (← action)
  catch e =>
    return .error (toString e)

/-- The addresses of a host. -/
def lookUp (host : String) : IO (Except String (List IpAddress)) :=
  attempt do
    let found ← (DNS.getAddrInfo host "").block
    return found.toList.map ofNetwork

/-! ## 2.  Sources of settings -/

/-- The variables of the environment that can be a setting or lead to one. -/
def knownVariables : List String :=
  Config.default.members.map (fun (name, _) => "COLLECTOR_" ++ name.toUpper) ++
    ["COLLECTOR_CONFIG_PATH", "XDG_CONFIG_HOME", "XDG_CONFIG_DIRS", "HOME"]

/-- The variables of the environment: all, where the system shows them, or those that are known. -/
def environment : IO (List (String × String)) := do
  match ← attempt (IO.FS.readBinFile "/proc/self/environ") with
  | .ok content =>
    let entries := content.toList.splitOn 0
    return entries.filterMap fun entry => (Utf8.decode? entry).bind fun text =>
      match text.splitOn "=" with
      | name :: value :: more => some (name, "=".intercalate (value :: more))
      | _ => none
  | .error _ =>
    knownVariables.filterMapM fun name => return (← IO.getEnv name).map fun value => (name, value)

/-- What is found under the name of a file. -/
def readFile (path : String) : IO FileContent := do
  try
    return .bytes (← IO.FS.readBinFile path).toList
  catch e =>
    match e with
    | .noFileOrDirectory .. => return .missing
    | _ => return .unreadable

/-- What the program is started in, with the files that it may read for its settings. -/
def surroundings (arguments : List String) : IO Surroundings := do
  let bare : Surroundings := ⟨arguments, ← environment, ".", fun _ => .missing⟩
  let asked :=
    match CommandLine.parse arguments with
    | .ok line => line.path
    | .error _ => none
  let files ← (asked.toList ++ ConfigFile.places bare).mapM fun path =>
    return (path, ← readFile path)
  return { bare with
    read := fun path => ((files.find? (·.1 = path)).map (·.2)).getD .missing }

/-! ## 3.  The log -/

/-- The time as it is written in the log. -/
def timeText : IO String := do
  let now ← Std.Time.Timestamp.now
  let time := Std.Time.PlainDateTime.ofWallTime (.ofTimestamp now Std.Time.TimeZone.Offset.zero)
  return time.format "uuuu-MM-dd'T'HH:mm:ss.SSSSSS'Z'"

/-- The time in milliseconds since 1970. -/
def stamp : IO UInt64 := do
  let now ← Std.Time.Timestamp.now
  return UInt64.ofNat now.toMillisecondsSinceUnixEpoch.val.toNat

/-- Writes a record of a thread if the telemetry lets it through. -/
def write (telemetry : Option Telemetry) (thread : String) (record : Log.Record) : IO Unit := do
  match telemetry with
  | none => return
  | some t =>
    if t.filter.passes record then
      let time ← timeText
      IO.eprintln <|
        match t.format with
        | .json =>
          Json.toText (.object (("timestamp", Json.string time) :: record.members ++
            [("threadName", Json.string thread)]))
        | .compact =>
          let gap := if record.level.text.length < 5 then "  " else " "
          time ++ gap ++ record.line thread

/-- The record of a stage. -/
def stageRecord (event : HealthEvent) : Option Log.Record :=
  some event.record

/-- Writes the records of events. -/
def tell (telemetry : Option Telemetry) (events : List Service.Event) : IO Unit :=
  events.forM fun event =>
    (event.records stageRecord telemetry).forM fun (telemetry, thread, record) =>
      write telemetry thread record

/-! ## 4.  Connections -/

/-- The service while it runs: its telemetry, and the intake with the sockets of its connections by
number. -/
structure Running where
  telemetry : Option Telemetry
  shared : Std.Mutex (Service.Collector × List (Nat × Client))

namespace Running

/-- What the intake is. -/
def collector (r : Running) : IO Service.Collector :=
  r.shared.atomically do return (← get).1

/-- The socket of a connection. -/
def client? (r : Running) (id : Nat) : IO (Option Client) :=
  r.shared.atomically do return ((← get).2.find? (·.1 = id)).map (·.2)

/-- Carries out what a connection led to, its own write apart. -/
def perform (r : Running) (effects : List (Intake.Effect Envelope)) : Async Unit := do
  tell r.telemetry (effects.map .intake)
  for effect in effects do
    match effect with
    | .requested .. =>
      match Service.frame? effect with
      | some (id, frame) =>
        match ← r.client? id with
        | some client => client.send (ByteArray.mk frame.toLine.toArray)
        | none => pure ()
      | none => pure ()
    | _ => pure ()

/-- Writes the frame with which a connection responds to an event, if it does; gives the failure. -/
def respond (n : Service.Collector) (client : Client) (remote : SocketAddress)
    (event : TrafficEvent) : Async (Option TransportError) := do
  let planned := (n.traffic.next (fun _ _ => none) event).2
  match planned.findSome? fun effect => Service.frame? (.traffic effect) with
  | none => return none
  | some (_, frame) =>
    try
      client.send (ByteArray.mk frame.toLine.toArray)
      return none
    catch e =>
      return some (.write remote (toString e))

/-- The service takes an event of a connection that leads to at most one write. -/
def step (r : Running) (client : Client) (remote : SocketAddress) (event : TrafficEvent) :
    Async Unit := do
  let failure ← respond (← r.collector) client remote event
  let time ← stamp
  let effects ← r.shared.atomically do
    let (n, clients) ← get
    let (m, effects) := Service.next n (fun _ _ => failure) time event
    set (m, clients)
    return effects
  r.perform effects

/-- A connection is served no more. -/
def hasEnded (r : Running) (id : Nat) : IO Bool := do
  return ((← r.collector).traffic.connection? id).isNone

/-- Serves a connection until it ends. -/
def serve (r : Running) (client : Client) (remote : SocketAddress) (id : Nat) : Async Unit := do
  while !(← r.hasEnded id) do
    let piece : Except String (Option ByteArray) ← try
        pure (Except.ok (← client.recv? 65536))
      catch e =>
        pure (Except.error (toString e))
    match piece with
    | .error cause => r.step client remote (.failed id cause)
    | .ok none => r.step client remote (.ended id)
    | .ok (some bytes) =>
      for line in Frame.Line.segments bytes.toList do
        r.step client remote (.received id line)
  r.shared.atomically do
    modify fun (n, clients) => (n, clients.filter (·.1 ≠ id))
  try
    client.shutdown
  catch _ =>
    return

/-- Takes a connection that arrives, and serves it if it is let in. -/
def welcome (r : Running) (client : Client) : Async Unit := do
  let remote := endpointOf (← client.getPeerName)
  let time ← stamp
  let (effects, admitted) ← r.shared.atomically do
    let (n, clients) ← get
    let (m, effects) := Service.next n (fun _ _ => none) time (.arrived remote)
    let admitted := effects.findSome? fun
      | .traffic (.admitted id) => some id
      | _ => none
    set (m, (admitted.map fun id => (id, client)).toList ++ clients)
    return (effects, admitted)
  r.perform effects
  match admitted with
  | none => return
  | some id => r.serve client remote id

/-- Waits for the next connection and serves it beside the others; gives the failure, if it failed.
A failure like the one before is not told again. -/
def acceptNext (r : Running) (server : Server) (before : Option String) :
    Async (Option String) := do
  try
    let client ← server.accept
    background (r.welcome client)
    return none
  catch e =>
    let cause := toString e
    if before ≠ some cause then
      write r.telemetry Service.acceptThread (Service.acceptFailedRecord cause)
    IO.sleep 150
    return some cause

/-- Accepts connections one after another. -/
def accept (r : Running) (server : Server) : Async Unit := do
  let failure ← IO.mkRef none
  while true do
    failure.set (← r.acceptNext server (← failure.get))

end Running

/-! ## 5.  Life -/

/-- Waits for a signal to stop. -/
def awaitSignal : IO (Except SignalError (Option Nat)) := do
  try
    let terminate ← (← Signal.Waiter.mk .sigterm false).wait
    let others ← [Signal.sigint, .sigquit, .sighup].mapM fun signal => do
      (← Signal.Waiter.mk signal false).wait
    match ← IO.waitAny (terminate :: others) (by simp) with
    | .ok number => return .ok (some number.toNat)
    | .error e => return .error ⟨toString e⟩
  catch e =>
    return .error ⟨toString e⟩

/-- Opens the listening socket at an address. -/
def listen (address : SocketAddress) : IO (Except TransportError (Server × SocketAddress)) := do
  let opened ← attempt do
    let server ← Server.mk
    server.bind (toNetwork address)
    server.listen 128
    return (server, endpointOf (← server.getSockName))
  return opened.mapError (.bindTcp address ·)

/-- The network as a configuration needs it: its hosts looked up and its socket opened. -/
def network (config : Config) : IO (Option Server × Acceptor.Network) := do
  let names := config.listenIp :: config.probeHosts.map Blank.trim
  let hosts ← (names.filter fun name => (IpAddress.ofText? name).isNone).mapM fun name =>
    return (name, ← lookUp name)
  let lookup : Probe.Lookup := fun host =>
    ((hosts.find? (·.1 = host)).map (·.2)).getD (.ok [])
  let known : Acceptor.Network := ⟨lookup, .ok⟩
  match Acceptor.resolve known config.listenIp config.listenPort with
  | .error _ => return (none, known)
  | .ok address =>
    match ← listen address with
    | .error e => return (none, { known with listen := fun _ => .error e })
    | .ok (server, bound) => return (some server, { known with listen := fun _ => .ok bound })

/-- Lives from launch to shutdown. -/
def live (loaded : Except LoadError Config) : IO (Attempt LaunchError ShutdownOutcome) := do
  let (server, network) ←
    match Bootstrap.prepare .free loaded with
    | .ok (_, config) => network config
    | .error _ => pure (none, ⟨fun _ => .ok [], .ok⟩)
  let (telemetry, events, launched) :=
    Service.launch .ample .free loaded network Intake.progress
  tell telemetry events
  match launched with
  | .failed (e, _) => return .failed e
  | .panicked p => return .panicked p
  | .returned n =>
    let running : Running := ⟨telemetry, ← Std.Mutex.new (n, [])⟩
    match server with
    | some socket => background (t := AsyncTask) (running.accept socket) |>.block
    | none => pure ()
    let signal ← awaitSignal
    let (_, events, outcome) :=
      Service.shutdown (← running.collector) network Intake.progress signal
    tell telemetry events
    return .ofExcept outcome

end AgentIntake.Program

/-- Runs the collector; fails with one line that says why it could not run or stop. -/
def main (arguments : List String) : IO UInt32 := do
  let surroundings ← AgentIntake.Program.surroundings arguments
  match ← AgentIntake.Program.live (AgentIntake.Config.load surroundings) with
  | .returned _ => return 0
  | .failed e =>
    IO.eprintln ("collectord: " ++ e.message)
    return 1
  | .panicked p =>
    IO.eprintln p.message
    return 101
