import AgentIntake.Config.Basic
import AgentIntake.Json.Printer
import AgentIntake.Json.Record

/-!
# Configuration documents

A configuration as a JSON object with a member for each setting, all of which may be left out.
-/

namespace AgentIntake

namespace Settings

/-- The slot of a setting. -/
def slot {α : Type} (name : String) (schema : Json.Schema α) (get : Settings → Option α)
    (set : α → Settings → Settings) : Json.Slot Settings where
  name := name
  filled s := (get s).isSome
  value := schema.map set
  required := false

/-- A size. -/
def size : Json.Schema UInt64 := Json.Schema.unsigned64 "usize"

/-- A text. -/
def text : Json.Schema String := Json.Schema.string "a string"

/-- The slots of the settings. -/
def slots : List (Json.Slot Settings) :=
  [ slot "listen_ip" text (·.listenIp) fun x s => { s with listenIp := some x },
    slot "listen_port" Json.Schema.unsigned16 (·.listenPort) fun x s =>
      { s with listenPort := some x },
    slot "worker_threads" size (·.workerThreads) fun x s => { s with workerThreads := some x },
    slot "worker_queue_size" size (·.workerQueueSize) fun x s =>
      { s with workerQueueSize := some x },
    slot "event_worker_threads" size (·.eventWorkerThreads) fun x s =>
      { s with eventWorkerThreads := some x },
    slot "event_worker_queue_size" size (·.eventWorkerQueueSize) fun x s =>
      { s with eventWorkerQueueSize := some x },
    slot "l4_ip_list" (Json.Schema.list text) (·.probeHosts) fun x s =>
      { s with probeHosts := some x },
    slot "log_filter" text (·.logFilter) fun x s => { s with logFilter := some x },
    slot "log_format" LogFormat.schema (·.logFormat) fun x s => { s with logFormat := some x } ]

end Settings

namespace Config

/-- The shape of a configuration document. -/
def record : Json.Record Settings Config where
  name := "struct Config"
  slots := Settings.slots
  start := Settings.none
  finish s := .ok s.config

/-- The configuration that is all of a text but white space around it. -/
def parse (text : List UInt8) : Except Json.Fault Config :=
  record.reader.whole text

/-- The configuration that a document is. -/
def ofJson (document : Json) : Except Json.Cause Config :=
  record.ofJson document

/-- A port as a document. -/
def portJson (n : UInt16) : Json :=
  .number (.whole n.toNat (by have := n.toNat_lt; omega))

/-- The members of the document of a configuration. -/
def members (c : Config) : List (String × Json) :=
  [ ("listen_ip", .string c.listenIp),
    ("listen_port", portJson c.listenPort),
    ("worker_threads", Json.ofUInt64 c.workerThreads),
    ("worker_queue_size", Json.ofUInt64 c.workerQueueSize),
    ("event_worker_threads", Json.ofUInt64 c.eventWorkerThreads),
    ("event_worker_queue_size", Json.ofUInt64 c.eventWorkerQueueSize),
    ("l4_ip_list", .array (c.probeHosts.map .string)),
    ("log_filter", .string c.logFilter),
    ("log_format", .string c.logFormat.text) ]

/-- The document of a configuration. -/
def toJson (c : Config) : Json :=
  .object c.members

/-- The text of the document of a configuration. -/
def encode (c : Config) : List UInt8 :=
  c.toJson.render

end Config

end AgentIntake
