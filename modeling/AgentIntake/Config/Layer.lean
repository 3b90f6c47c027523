import AgentIntake.Config.Document

/-!
# Layers

A configuration comes from several sources, one laid over another: the built-in defaults, a file,
the environment, the command line.  Each gives some settings under their names, as documents that
have not been read yet.  Of a setting that several layers give, the highest layer's counts and the
others are never looked at.  Only the lists of probe hosts are joined, the lowest layer's first; and
a single host may stand for a list of one.
-/

namespace AgentIntake

/-- The settings that a source gives, each name at most once. -/
abbrev Layer := List (String × Json)

namespace Layer

/-- The name of the list of probe hosts. -/
def hostsName : String := "l4_ip_list"

/-- The built-in defaults, which give every setting but the list of probe hosts. -/
def builtIn : Layer :=
  [ ("listen_ip", .string Config.presetListenIp),
    ("listen_port", Config.portJson Config.presetListenPort),
    ("worker_threads", Json.ofUInt64 Config.presetWorkerThreads),
    ("worker_queue_size", Json.ofUInt64 Config.presetWorkerQueueSize),
    ("event_worker_threads", Json.ofUInt64 Config.presetEventWorkerThreads),
    ("event_worker_queue_size", Json.ofUInt64 Config.presetEventWorkerQueueSize),
    ("log_filter", .string Config.presetLogFilter),
    ("log_format", .string Config.presetLogFormat.text) ]

/-- What a layer gives for a setting. -/
def get? (layer : Layer) (name : String) : Option Json :=
  (layer.find? (·.1 = name)).map (·.2)

/-- The settings of `higher` laid over those of `lower`. -/
def laidOver (higher lower : Layer) : Layer :=
  higher ++ lower.filter fun entry => (higher.get? entry.1).isNone

/-- The probe hosts that a layer gives. -/
def hosts (layer : Layer) : Except Json.Cause (List String) :=
  match layer.get? hostsName with
  | none => .ok []
  | some (.array items) => Json.Schema.itemsOfJson Settings.text.ofJson items
  | some item => Json.Schema.itemsOfJson Settings.text.ofJson [item]

/-- The probe hosts of layers, the lowest layer first. -/
def allHosts : List Layer → Except Json.Cause (List String)
  | [] => .ok []
  | layer :: higher =>
    match layer.hosts with
    | .error cause => .error cause
    | .ok first =>
      match allHosts higher with
      | .error cause => .error cause
      | .ok others => .ok (first ++ others)

/-- The layers laid one over another, the lowest first. -/
def stack (layers : List Layer) : Layer :=
  layers.foldl (fun lower higher => higher.laidOver lower) []

/-- The document of layers whose probe hosts are known. -/
def document (layers : List Layer) (hosts : List String) : Json :=
  .object ((hostsName, .array (hosts.map .string)) :: (stack layers).filter (·.1 ≠ hostsName))

/-- The configuration that layers make, the lowest first. -/
def config (layers : List Layer) : Except Json.Cause Config :=
  match allHosts layers with
  | .error cause => .error cause
  | .ok hosts => Config.ofJson (document layers hosts)

end Layer

end AgentIntake
