import AgentIntake.Config.Layer

/-!
# The nine settings

The settings of a configuration differ in their names and in the kinds of their values, and in
nothing else.  A `Setting` is one of them, so that what holds of all is said and proved once:
`membersInto` puts each member's value where it belongs and leaves the other settings alone,
whatever their order.

## Why names must differ

A member whose setting has been read already is an error, so a document in which a name occurs twice
has no configuration.  That no layer gives a name twice is proved where layers are made.
-/

namespace AgentIntake

/-! ## 1.  Settings -/

/-- A setting of a configuration. -/
inductive Setting where
  | listenIp
  | listenPort
  | workerThreads
  | workerQueueSize
  | eventWorkerThreads
  | eventWorkerQueueSize
  | probeHosts
  | logFilter
  | logFormat
  deriving DecidableEq

namespace Setting

/-- What a setting is. -/
def Value : Setting → Type
  | listenIp | logFilter => String
  | listenPort => UInt16
  | workerThreads | workerQueueSize | eventWorkerThreads | eventWorkerQueueSize => UInt64
  | probeHosts => List String
  | logFormat => LogFormat

/-- The name of a setting. -/
def name : Setting → String
  | listenIp => "listen_ip"
  | listenPort => "listen_port"
  | workerThreads => "worker_threads"
  | workerQueueSize => "worker_queue_size"
  | eventWorkerThreads => "event_worker_threads"
  | eventWorkerQueueSize => "event_worker_queue_size"
  | probeHosts => Layer.hostsName
  | logFilter => "log_filter"
  | logFormat => "log_format"

/-- The kind of document that gives a setting. -/
def schema : (k : Setting) → Json.Schema k.Value
  | listenIp | logFilter => Settings.text
  | listenPort => Json.Schema.unsigned16
  | workerThreads | workerQueueSize | eventWorkerThreads | eventWorkerQueueSize => Settings.size
  | probeHosts => Json.Schema.list Settings.text
  | logFormat => LogFormat.schema

/-- The value of a setting, if it is given. -/
def get : (k : Setting) → Settings → Option k.Value
  | listenIp, s => s.listenIp
  | listenPort, s => s.listenPort
  | workerThreads, s => s.workerThreads
  | workerQueueSize, s => s.workerQueueSize
  | eventWorkerThreads, s => s.eventWorkerThreads
  | eventWorkerQueueSize, s => s.eventWorkerQueueSize
  | probeHosts, s => s.probeHosts
  | logFilter, s => s.logFilter
  | logFormat, s => s.logFormat

/-- Gives a setting a value. -/
def set : (k : Setting) → k.Value → Settings → Settings
  | listenIp, x, s => { s with listenIp := some x }
  | listenPort, x, s => { s with listenPort := some x }
  | workerThreads, x, s => { s with workerThreads := some x }
  | workerQueueSize, x, s => { s with workerQueueSize := some x }
  | eventWorkerThreads, x, s => { s with eventWorkerThreads := some x }
  | eventWorkerQueueSize, x, s => { s with eventWorkerQueueSize := some x }
  | probeHosts, x, s => { s with probeHosts := some x }
  | logFilter, x, s => { s with logFilter := some x }
  | logFormat, x, s => { s with logFormat := some x }

/-- The value of a setting in a configuration. -/
def ofConfig : (k : Setting) → Config → k.Value
  | listenIp, c => c.listenIp
  | listenPort, c => c.listenPort
  | workerThreads, c => c.workerThreads
  | workerQueueSize, c => c.workerQueueSize
  | eventWorkerThreads, c => c.eventWorkerThreads
  | eventWorkerQueueSize, c => c.eventWorkerQueueSize
  | probeHosts, c => c.probeHosts
  | logFilter, c => c.logFilter
  | logFormat, c => c.logFormat

/-- The settings, in the order of their slots. -/
def all : List Setting :=
  [listenIp, listenPort, workerThreads, workerQueueSize, eventWorkerThreads, eventWorkerQueueSize,
    probeHosts, logFilter, logFormat]

/-- The slot of a setting. -/
def slot (k : Setting) : Json.Slot Settings :=
  Settings.slot k.name k.schema k.get k.set

@[simp] theorem slot_name (k : Setting) : k.slot.name = k.name :=
  rfl

/-- The slots of a configuration document are those of the settings. -/
theorem slots_eq : Settings.slots = all.map slot :=
  rfl

theorem name_injective {k l : Setting} (h : k.name = l.name) : k = l := by
  cases k <;> cases l <;> first | rfl | exact absurd h (by decide)

variable {k l : Setting} (v : k.Value) (s : Settings)

@[simp] theorem get_set : k.get (k.set v s) = some v := by
  cases k <;> rfl

@[simp] theorem get_set_of_ne (h : l ≠ k) : l.get (k.set v s) = l.get s := by
  cases k <;> cases l <;> first | rfl | exact absurd rfl h

@[simp] theorem get_none (k : Setting) : k.get Settings.none = none := by
  cases k <;> rfl

/-- What is given counts in a configuration, and what is not given has its default. -/
theorem ofConfig_config (k : Setting) :
    k.ofConfig s.config = (k.get s).getD (k.ofConfig .default) := by
  cases k <;> rfl

theorem slot?_name (k : Setting) : Config.record.slot? k.name = some k.slot := by
  cases k <;> rfl

/-- Only settings have slots. -/
theorem slot?_of_ne {name : String} (h : ∀ k : Setting, k.name ≠ name) :
    Config.record.slot? name = none := by
  refine List.find?_eq_none.2 fun found hf => ?_
  rw [show Config.record.slots = Settings.slots from rfl, slots_eq] at hf
  obtain ⟨k, -, rfl⟩ := List.mem_map.1 hf
  simpa using h k

end Setting

/-! ## 2.  Members -/

namespace Layer

/-- The value that a layer gives a setting, if it gives one of the right kind. -/
def value? (layer : Layer) (k : Setting) : Option k.Value :=
  (layer.get? k.name).bind fun j => (k.schema.ofJson j).toOption

/-- What a layer gives a setting is of the right kind. -/
def Reads (layer : Layer) (k : Setting) : Prop :=
  ∀ j, layer.get? k.name = some j → ∃ v, k.schema.ofJson j = .ok v

/-- No name is given twice. -/
def Distinct (layer : Layer) : Prop :=
  (layer.map Prod.fst).Nodup

@[simp] theorem get?_nil (name : String) : get? [] name = none :=
  rfl

theorem get?_cons (key : String) (j : Json) (rest : Layer) (name : String) :
    get? ((key, j) :: rest) name = if key = name then some j else rest.get? name := by
  unfold get?
  by_cases h : key = name <;> simp [h]

theorem get?_eq_none_iff {layer : Layer} {name : String} :
    layer.get? name = none ↔ name ∉ layer.map Prod.fst := by
  rw [get?, Option.map_eq_none_iff, List.find?_eq_none, List.mem_map]
  constructor
  · rintro h ⟨entry, hm, rfl⟩
    simpa using h entry hm
  · intro h entry hm he
    exact h ⟨entry, hm, by simpa using he⟩

end Layer

namespace Config

open Layer (Reads Distinct)

/-- **Members are put where they belong.**  Settings that were given before are not given again. -/
theorem exists_membersInto {members : Layer} (hd : Distinct members)
    (hr : ∀ k, Reads members k) {s : Settings}
    (hs : ∀ k : Setting, k.name ∈ members.map Prod.fst → k.get s = none) :
    ∃ t, record.membersInto s members = .ok t ∧
      ∀ k : Setting, k.get t = (Layer.value? members k).or (k.get s) := by
  induction members generalizing s with
  | nil => exact ⟨s, rfl, fun k => rfl⟩
  | cons member rest ih =>
    obtain ⟨name, j⟩ := member
    obtain ⟨hname, hrest⟩ := List.nodup_cons.1 hd
    have hother : ∀ k : Setting, k.name ≠ name →
        Layer.get? ((name, j) :: rest) k.name = Layer.get? rest k.name := by
      intro k hk
      rw [Layer.get?_cons, if_neg (Ne.symm hk)]
    have hnot : ∀ k : Setting, k.name = name → Layer.get? rest k.name = none := by
      rintro k rfl
      exact Layer.get?_eq_none_iff.2 hname
    have hreads : ∀ k, Reads rest k := by
      intro k i hi
      by_cases hk : k.name = name
      · rw [hnot k hk] at hi
        cases hi
      · exact hr k i ((hother k hk).trans hi)
    by_cases h : ∃ k : Setting, k.name = name
    · obtain ⟨k, rfl⟩ := h
      have hget : Layer.get? ((k.name, j) :: rest) k.name = some j := by
        rw [Layer.get?_cons, if_pos rfl]
      obtain ⟨v, hv⟩ := hr k j hget
      have hfilled : k.slot.filled s = false := by
        show (k.get s).isSome = false
        rw [hs k (List.mem_cons_self ..)]
        rfl
      have hchange : k.slot.value.ofJson j = .ok (k.set v) := Json.Schema.ofJson_map hv _
      obtain ⟨t, ht, hvalues⟩ := ih hrest hreads (s := k.set v s) (by
        intro l hl
        have hne : l ≠ k := fun he => hname (he ▸ hl)
        rw [Setting.get_set_of_ne v s hne]
        exact hs l (List.mem_cons_of_mem _ hl))
      refine ⟨t, ?_, fun l => ?_⟩
      · simp [Json.Record.membersInto, Setting.slot?_name, hfilled, hchange, ht]
      · rw [hvalues l]
        by_cases hl : l = k
        · subst hl
          simp [Layer.value?, hnot l rfl, hget, hv, Except.toOption]
        · have hne : l.name ≠ k.name := fun he => hl (Setting.name_injective he)
          rw [Setting.get_set_of_ne v s hl, Layer.value?, Layer.value?, hother l hne]
    · have hno : ∀ k : Setting, k.name ≠ name := fun k hk => h ⟨k, hk⟩
      obtain ⟨t, ht, hvalues⟩ := ih hrest hreads fun l hl => hs l (List.mem_cons_of_mem _ hl)
      refine ⟨t, ?_, fun l => ?_⟩
      · simp [Json.Record.membersInto, Setting.slot?_of_ne hno, ht]
      · rw [hvalues l, Layer.value?, Layer.value?, hother l (hno l)]

/-- **A document whose names differ and whose values are of the right kinds is a configuration.** -/
theorem exists_ofJson {members : Layer} (hd : Distinct members) (hr : ∀ k, Reads members k) :
    ∃ c, ofJson (.object members) = .ok c ∧
      ∀ k : Setting, k.ofConfig c = (Layer.value? members k).getD (k.ofConfig .default) := by
  obtain ⟨t, ht, hvalues⟩ := exists_membersInto hd hr (s := Settings.none) fun k _ => k.get_none
  refine ⟨t.config, ?_, fun k => ?_⟩
  · show record.ofMembers members = _
    rw [Json.Record.ofMembers, show record.start = Settings.none from rfl, ht]
    rfl
  · rw [Setting.ofConfig_config, hvalues k, Setting.get_none, Option.or_none]

end Config

end AgentIntake
