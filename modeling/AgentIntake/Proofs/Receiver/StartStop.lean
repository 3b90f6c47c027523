import AgentIntake.Proofs.Receiver.Calls

/-!
# Starting and stopping

A receiver is built, and then it is started and stopped in any order.  The log of the calls says
what each one came to: that somebody has stopped the receiver, that a start has come to bind the
acceptor, and that one has bound it.

The three flags of the receiver say the same (`Agrees`), which is the invariant.  With it, what a
call does depends on the calls before it only through these three facts, and everything that is
promised about starts and stops is read off `Step`.

Two kinds of promise are made.  `Entry.Fits` is about one call and the calls before it.  `StartStop`
adds what holds of the whole life: which observers the acceptor has, how often it is closed and what
is reported.
-/

namespace AgentIntake

namespace Receiver

variable {ρ η : Type}

/-! ## 1.  What a log says -/

/-- It is a stop. -/
def Call.isStop : Call ρ → Bool
  | stop _ => true
  | start .. | between _ => false

/-- It is a start, and binding would succeed. -/
def Call.canBind : Call ρ → Bool
  | start _ (.ok ()) => true
  | start _ (.error _) | stop _ | between _ => false

/-- Why the probe hosts cannot be resolved at the call, if it resolves them and cannot. -/
def Call.probeFailure? (hosts : List String) : Call ρ → Option Probe.Failure
  | start lookup _ => Receiver.probeFailure? hosts lookup
  | stop _ | between _ => none

namespace Entry

/-- The call comes to bind the acceptor. -/
def attempts (e : Entry ρ η) : Bool :=
  !(binds e.effects).isEmpty

/-- It binds the acceptor. -/
def succeeds (e : Entry ρ η) : Bool :=
  e.attempts && e.call.canBind

/-- What the call returns if it is a stop. -/
def outcome? (e : Entry ρ η) : Option ShutdownOutcome :=
  match e.answer with
  | .stopped outcome => some outcome
  | .started _ | .none => none

end Entry

/-- Somebody has stopped the receiver. -/
def stopped (log : List (Entry ρ η)) : Bool :=
  log.any (·.call.isStop)

/-- A start has come to bind the acceptor. -/
def tried (log : List (Entry ρ η)) : Bool :=
  log.any Entry.attempts

/-- A start has bound it. -/
def bound (log : List (Entry ρ η)) : Bool :=
  log.any Entry.succeeds

section

variable (log : List (Entry ρ η)) (e : Entry ρ η)

@[simp] theorem stopped_append_singleton :
    stopped (log ++ [e]) = (stopped log || e.call.isStop) := by
  simp [stopped]

@[simp] theorem tried_append_singleton : tried (log ++ [e]) = (tried log || e.attempts) := by
  simp [tried]

@[simp] theorem bound_append_singleton : bound (log ++ [e]) = (bound log || e.succeeds) := by
  simp [bound]

end

/-! ## 2.  What is promised -/

namespace Entry

/-- The call comes to bind the acceptor, once and where the configuration says, and returns how that
ends. -/
structure Attempts (config : Config) (end' : Except TransportError Unit) (e : Entry ρ η) :
    Prop where
  binds : binds e.effects = [(config.listenIp, config.listenPort)]
  answer : e.answer = .started (end'.mapError .bind)

/-- The call is refused: the receiver stays as it is, and nobody sees anything. -/
structure Refused (answer : Answer) (e : Entry ρ η) : Prop where
  effects : e.effects = []
  answer : e.answer = answer
  later : e.later = e.earlier

/-- The call closes the acceptor and then the pools, of which none was closed before, and waits for
their workers. -/
structure Stops (e : Entry ρ η) : Prop where
  isOpen : e.earlier.IsOpen
  effects : ∃ waited outcome, e.effects = e.earlier.stopEffects waited outcome ∧
    e.answer = .stopped outcome ∧ outcome ≠ .alreadyStopped
  isShut : e.later.IsShut

/-- What is promised about one call, after those of a log.

A start comes to bind as long as nobody has stopped the receiver and no start has bound the
acceptor, whatever became of earlier attempts (`attempted`).  A start is refused when one has bound
it (`started`).  A start is refused when somebody has stopped the receiver, started or not (`late`).
No other call comes to bind the acceptor (`unbound`).  The acceptor has its listener before it is
bound (`listening`).  Only addresses are ignored to which the probe hosts were resolved (`ignored`).
The first stop stops the receiver, started or not (`first_stop`).  Another does nothing
(`later_stop`). -/
structure Fits (config : Config) (past : List (Entry ρ η)) (e : Entry ρ η) : Prop where
  attempted : ∀ lookup end', e.call = .start lookup end' → stopped past = false →
    bound past = false → e.Attempts config end'
  started : ∀ lookup end', e.call = .start lookup end' → stopped past = false →
    bound past = true → e.Refused (.started (.error .alreadyStarted))
  late : ∀ lookup end', e.call = .start lookup end' → stopped past = true →
    e.Refused (.started (.error .stopped))
  unbound : (∀ lookup end', e.call ≠ .start lookup end') → binds e.effects = []
  listening : ∀ first rest host port, e.effects = first ++ .acceptor (.bind host port) :: rest →
    .acceptor .setListener ∈ first
  ignored : ∀ addresses, .acceptor (.setIgnored addresses) ∈ e.effects →
    ∃ lookup end', e.call = .start lookup end' ∧
      Probe.resolve lookup config.probeHosts = .ok addresses
  first_stop : e.call.isStop = true → stopped past = false → e.Stops
  later_stop : e.call.isStop = true → stopped past = true →
    e.Refused (.stopped .alreadyStopped)

end Entry

/-- What is to be reported of the calls of a log. -/
def reportsOf (config : Config) (log : List (Entry ρ η)) : List HealthEvent :=
  ((log.filter Entry.attempts).flatMap fun e =>
      attemptReports config.listenIp config.listenPort (e.call.probeFailure? config.probeHosts)) ++
    (if bound log then [.receiverBound config.listenIp config.listenPort] else []) ++
    (log.filterMap Entry.outcome?).head?.toList.flatMap fun outcome =>
      [.receiverStopping, .receiverStopped outcome]

/-- What is promised about the whole life of a receiver, from the effects of building it.

About each call (`fits`).  The acceptor has the observer of the cluster and each of the others once,
as soon as a start comes to bind it (`observed`).  It is closed once if somebody has stopped the
receiver, and else not (`closed`).  The attempts are reported in order, then that one has succeeded,
then the first stop (`reported`). -/
structure StartStop (config : Config) (cluster : Option η) (observers : List η)
    (built : List (Effect η)) (log : List (Entry ρ η)) : Prop where
  fits : ∀ past e rest, log = past ++ e :: rest → e.Fits config past
  observed : ∀ (M : Type) (network : Acceptor.Network) (acceptor : Acceptor η),
    (Intake.obeyAll (M := M) network acceptor (built ++ trace log)).1.observers =
      acceptor.observers ++ cluster.toList ++ if tried log then observers else []
  closed : closes (built ++ trace log) = if stopped log then 1 else 0
  reported : reports (built ++ trace log) = reportsOf config log

/-! ## 3.  Flags and logs -/

/-- The flags of a receiver say what the log of its calls says, its settings are those of the
configuration, and its pools are open before a stop. -/
structure Agrees (config : Config) (observers : List η) (log : List (Entry ρ η))
    (r : Receiver ρ η) : Prop where
  address : r.host = config.listenIp ∧ r.port = config.listenPort
  probeHosts : r.probeHosts = config.probeHosts
  observers : r.observers = observers
  isStopped : r.isStopped = stopped log
  isStarted : r.isStarted = bound log
  observersAdded : r.observersAdded = tried log
  isOpen : stopped log = false → r.IsOpen

variable {config : Config} {observers : List η} {log : List (Entry ρ η)} {r : Receiver ρ η}
  {e : Entry ρ η}

/-- Activity changes nothing that a log says. -/
theorem Agrees.alike {s : Receiver ρ η} (h : Agrees config observers log r) (k : Alike r s) :
    Agrees config observers log s := by
  have hs := k.eq
  constructor
  · rw [hs]
    exact h.address
  · rw [hs]
    exact h.probeHosts
  · rw [hs]
    exact h.observers
  · rw [hs]
    exact h.isStopped
  · rw [hs]
    exact h.isStarted
  · rw [hs]
    exact h.observersAdded
  · exact fun hno => k.isOpen (h.isOpen hno)

/-- A call that comes to nothing new adds nothing to what a log says. -/
theorem Agrees.idle (h : Agrees config observers log r)
    (hs : e.call.isStop = true → stopped log = true) (ha : e.attempts = false) :
    Agrees config observers (log ++ [e]) r := by
  have hstopped : stopped (log ++ [e]) = stopped log := by
    rw [stopped_append_singleton]
    cases hc : e.call.isStop
    · exact Bool.or_false _
    · rw [hs hc, Bool.or_true]
  constructor
  · exact h.address
  · exact h.probeHosts
  · exact h.observers
  · rw [hstopped, h.isStopped]
  · simp [Entry.succeeds, ha, h.isStarted]
  · simp [ha, h.observersAdded]
  · rw [hstopped]
    exact h.isOpen

/-- A call that comes to bind the acceptor is an attempt, and may succeed. -/
theorem Agrees.attempt (h : Agrees config observers log r) (hs : e.call.isStop = false)
    (ha : e.attempts = true) (hlater : e.later =
      { r with observersAdded := true, isStarted := r.isStarted || e.call.canBind }) :
    Agrees config observers (log ++ [e]) e.later := by
  have hstopped : stopped (log ++ [e]) = stopped log := by simp [hs]
  rw [hlater]
  constructor
  · exact h.address
  · exact h.probeHosts
  · exact h.observers
  · rw [hstopped, ← h.isStopped]
  · simp [Entry.succeeds, ha, h.isStarted]
  · simp [ha]
  · rw [hstopped]
    exact fun hno => ⟨(h.isOpen hno).dispatch, (h.isOpen hno).events⟩

/-- Coming to bind is an attempt. -/
theorem attempts_of_startEffects {more : List (Effect η)} {lookup : Probe.Lookup}
    (h : e.effects = r.startEffects lookup ++ more) : e.attempts = true := by
  simp [Entry.attempts, h, (r.seen_startEffects lookup).1]

/-- A first stop does not come to bind. -/
theorem attempts_of_stopEffects {waited : List Log.Record} {outcome : ShutdownOutcome}
    (h : e.effects = r.stopEffects waited outcome) : e.attempts = false := by
  simp [Entry.attempts, h, (r.seen_stopEffects waited outcome).1]

/-- **The flags keep saying what the log says.** -/
theorem Agrees.step (h : Agrees config observers log r) (k : Step r e) :
    Agrees config observers (log ++ [e]) e.later := by
  cases k with
  | late | again => exact h.idle (by simp [Call.isStop]) rfl
  | idle stopped => exact h.idle (fun _ => h.isStopped.symm.trans stopped) rfl
  | between => exact (h.idle (by simp [Call.isStop]) rfl).alike (r.alike_advance _)
  | failed running unstarted =>
    refine h.attempt rfl (attempts_of_startEffects (List.append_nil _).symm) ?_
    rw [unstarted]
    rfl
  | bound running unstarted =>
    refine h.attempt rfl (attempts_of_startEffects rfl) ?_
    rw [unstarted]
    rfl
  | @stop meanwhile s waited outcome running alike first =>
    have ha : (Entry.mk r (.stop meanwhile) (r.stopEffects waited outcome) (.stopped outcome)
        s).attempts = false := attempts_of_stopEffects rfl
    refine Agrees.alike ?_ alike
    constructor
    · exact h.address
    · exact h.probeHosts
    · exact h.observers
    · simp [Call.isStop, shut]
    · simp [Entry.succeeds, ha, h.isStarted, shut]
    · simp [ha, h.observersAdded, shut]
    · simp [Call.isStop]

/-! ## 4.  One call -/

theorem Agrees.attempts (h : Agrees config observers log r) (k : Step r e)
    {lookup : Probe.Lookup} {end' : Except TransportError Unit} (hc : e.call = .start lookup end')
    (hs : stopped log = false) (hb : Receiver.bound log = false) : e.Attempts config end' := by
  have hbinds := (r.seen_startEffects lookup).1
  rw [h.address.1, h.address.2] at hbinds
  cases k with
  | late stopped =>
    rw [h.isStopped, hs] at stopped
    cases stopped
  | again running started =>
    rw [h.isStarted, hb] at started
    cases started
  | failed running unstarted =>
    cases hc
    exact ⟨hbinds, rfl⟩
  | bound running unstarted =>
    cases hc
    exact ⟨by simp [hbinds, Effect.bind?], rfl⟩
  | idle | stop | between => cases hc

theorem Agrees.refused_again (h : Agrees config observers log r) (k : Step r e)
    {lookup : Probe.Lookup} {end' : Except TransportError Unit} (hc : e.call = .start lookup end')
    (hs : stopped log = false) (hb : Receiver.bound log = true) :
    e.Refused (.started (.error .alreadyStarted)) := by
  cases k with
  | late stopped =>
    rw [h.isStopped, hs] at stopped
    cases stopped
  | again => exact ⟨rfl, rfl, rfl⟩
  | failed running unstarted | bound running unstarted =>
    rw [h.isStarted, hb] at unstarted
    cases unstarted
  | idle | stop | between => cases hc

theorem Agrees.refused_late (h : Agrees config observers log r) (k : Step r e)
    {lookup : Probe.Lookup} {end' : Except TransportError Unit} (hc : e.call = .start lookup end')
    (hs : stopped log = true) : e.Refused (.started (.error .stopped)) := by
  cases k with
  | late => exact ⟨rfl, rfl, rfl⟩
  | again running | failed running | bound running =>
    rw [h.isStopped, hs] at running
    cases running
  | idle | stop | between => cases hc

/-- Only a start comes to bind the acceptor. -/
theorem binds_of_step (k : Step r e) (hc : ∀ lookup end', e.call ≠ .start lookup end') :
    binds e.effects = [] := by
  cases k with
  | late | again | failed | bound => exact absurd rfl (hc _ _)
  | idle | between => rfl
  | stop => exact (r.seen_stopEffects _ _).1

/-- The acceptor has its listener before a call binds it. -/
theorem setListener_of_step (k : Step r e) {first rest : List (Effect η)} {host : String}
    {port : UInt16} (he : e.effects = first ++ .acceptor (.bind host port) :: rest) :
    .acceptor .setListener ∈ first := by
  have hnone : binds e.effects ≠ [] := by simp [he, Effect.bind?]
  cases k with
  | late | again | idle | between => exact absurd rfl hnone
  | failed => exact r.setListener_of_bind _ he
  | @bound lookup =>
    -- the report at the end is no bind
    rcases append_singleton_cases he with ⟨-, ha, -⟩ | ⟨middle, hm, -⟩
    · cases ha
    · exact r.setListener_of_bind lookup hm
  | stop => exact absurd (r.seen_stopEffects _ _).1 hnone

/-- A call makes the acceptor ignore only what it found the probe hosts to stand for. -/
theorem resolve_of_step (h : Agrees config observers log r) (k : Step r e)
    {addresses : List IpAddress} (he : .acceptor (.setIgnored addresses) ∈ e.effects) :
    ∃ lookup end', e.call = .start lookup end' ∧
      Probe.resolve lookup config.probeHosts = .ok addresses := by
  rw [← h.probeHosts]
  cases k with
  | late | again | idle | between => cases he
  | @failed lookup e => exact ⟨lookup, _, rfl, r.resolve_of_mem_startEffects lookup he⟩
  | @bound lookup =>
    exact ⟨lookup, _, rfl, r.resolve_of_mem_startEffects lookup (by simpa using he)⟩
  | stop => simp [stopEffects] at he

theorem Agrees.stops (h : Agrees config observers log r) (k : Step r e)
    (hc : e.call.isStop = true) (hs : stopped log = false) : e.Stops := by
  cases k with
  | idle stopped =>
    rw [h.isStopped, hs] at stopped
    cases stopped
  | stop running alike first => exact ⟨h.isOpen hs, ⟨_, _, rfl, rfl, first⟩, alike.isShut⟩
  | late | again | failed | bound | between => cases hc

theorem Agrees.stopped_again (h : Agrees config observers log r) (k : Step r e)
    (hc : e.call.isStop = true) (hs : stopped log = true) :
    e.Refused (.stopped .alreadyStopped) := by
  cases k with
  | idle => exact ⟨rfl, rfl, rfl⟩
  | stop running =>
    rw [h.isStopped, hs] at running
    cases running
  | late | again | failed | bound | between => cases hc

/-- **One call does what is promised**, if the flags agree with the calls before. -/
theorem Agrees.fits (h : Agrees config observers log r) (k : Step r e) : e.Fits config log where
  attempted _ _ := h.attempts k
  started _ _ := h.refused_again k
  late _ _ := h.refused_late k
  unbound := binds_of_step k
  listening _ _ _ _ := setListener_of_step k
  ignored _ := resolve_of_step h k
  first_stop := h.stops k
  later_stop := h.stopped_again k

/-! ## 5.  A whole life -/

/-- What holds of a log before any call, and is kept by every call that agrees with it, holds of a
whole life. -/
theorem life_induction {P : List (Entry ρ η) → Prop} (hr : Agrees config observers [] r)
    (nil : P [])
    (snoc : ∀ past s e, Agrees config observers past s → Step s e → P past → P (past ++ [e]))
    (calls : List (Call ρ)) : P (r.life calls) := by
  have hgo : ∀ past s, Agrees config observers past s → P past → P (past ++ s.life calls) := by
    induction calls with
    | nil =>
      intro past s _ hp
      simpa [life] using hp
    | cons call calls ih =>
      intro past s hs hp
      have hk := step_take s call
      simpa [life] using ih _ _ (hs.step hk) (snoc _ _ _ hs hk hp)
  exact hgo [] r hr nil

/-- Each call of a life does what is promised, after the calls before it. -/
theorem fits_life (hr : Agrees config observers [] r) (calls : List (Call ρ)) :
    ∀ past e rest, r.life calls = past ++ e :: rest → e.Fits config past := by
  refine life_induction
    (P := fun log => ∀ past e rest, log = past ++ e :: rest → e.Fits config past) hr ?_ ?_ calls
  · intro past e rest h
    simp at h
  · intro log s last hs hk ih past e rest h
    rcases append_singleton_cases h with ⟨rfl, rfl, rfl⟩ | ⟨middle, hm, rfl⟩
    · exact hs.fits hk
    · exact ih past e middle hm

/-- **The acceptor is told of each observer once**, by the first start that comes to bind it. -/
theorem observed_life (hr : Agrees config observers [] r) (calls : List (Call ρ)) :
    observed (trace (r.life calls)) = if tried (r.life calls) then observers else [] := by
  refine life_induction (P := fun log => observed (trace log) = if tried log then observers else [])
    hr rfl ?_ calls
  intro log s e hs hk ih
  rw [trace_append_singleton, observed_append, tried_append_singleton, ih, ← hs.observersAdded,
    ← hs.observers]
  cases hk with
  | late | again | idle | between => simp [Entry.attempts]
  | @failed lookup =>
    rw [(s.seen_startEffects lookup).2.1, attempts_of_startEffects (List.append_nil _).symm]
    cases s.observersAdded <;> simp
  | @bound lookup =>
    rw [observed_append, (s.seen_startEffects lookup).2.1, attempts_of_startEffects rfl]
    cases s.observersAdded <;> simp [Effect.observer?]
  | @stop meanwhile t waited outcome =>
    simp [Entry.attempts, s.seen_stopEffects waited outcome]

/-- **The acceptor is closed once**, by the first stop. -/
theorem closes_life (hr : Agrees config observers [] r) (calls : List (Call ρ)) :
    closes (trace (r.life calls)) = if stopped (r.life calls) then 1 else 0 := by
  refine life_induction (P := fun log => closes (trace log) = if stopped log then 1 else 0)
    hr rfl ?_ calls
  intro log s e hs hk ih
  rw [trace_append_singleton, closes_append, stopped_append_singleton, ih, ← hs.isStopped]
  cases hk with
  | late | again | between => simp [Call.isStop]
  | @failed lookup => simp [Call.isStop, s.seen_startEffects lookup]
  | @bound lookup => simp [Call.isStop, s.seen_startEffects lookup, Effect.isClose]
  | idle stopped => simp [Call.isStop, stopped]
  | @stop meanwhile t waited outcome running =>
    simp [Call.isStop, running, s.seen_stopEffects waited outcome]

/-! ## 6.  Reports -/

section

variable (hb : Receiver.bound log = false) (ho : log.filterMap Entry.outcome? = [])

/-- A call that comes to nothing new leads to no report. -/
theorem reportsOf_idle (ha : e.attempts = false)
    (he : e.outcome? = none ∨ log.filterMap Entry.outcome? ≠ []) :
    reportsOf config (log ++ [e]) = reportsOf config log := by
  have hout : (log.filterMap Entry.outcome? ++ e.outcome?.toList).head? =
      (log.filterMap Entry.outcome?).head? := by
    rcases he with he | he
    · simp [he]
    · exact List.head?_append_of_ne_nil _ he
  have hf : (log ++ [e]).filterMap Entry.outcome? =
      log.filterMap Entry.outcome? ++ e.outcome?.toList := by
    cases h : e.outcome? <;> simp [h]
  simp [reportsOf, Entry.succeeds, ha, hf, hout]

include ho in
/-- A first stop is reported after everything else. -/
theorem reportsOf_stop (ha : e.attempts = false) {outcome : ShutdownOutcome}
    (he : e.outcome? = some outcome) : reportsOf config (log ++ [e]) =
      reportsOf config log ++ [.receiverStopping, .receiverStopped outcome] := by
  simp [reportsOf, Entry.succeeds, ha, ho, he]

include hb ho in
/-- An attempt is reported after the earlier ones. -/
theorem reportsOf_attempt (ha : e.attempts = true) (he : e.outcome? = none) :
    reportsOf config (log ++ [e]) = reportsOf config log ++
      attemptReports config.listenIp config.listenPort (e.call.probeFailure? config.probeHosts) ++
        if e.call.canBind then [.receiverBound config.listenIp config.listenPort] else [] := by
  simp [reportsOf, Entry.succeeds, ha, hb, ho, he]

end

/-- **What is reported of a life.** -/
theorem reports_life (hr : Agrees config observers [] r) (calls : List (Call ρ)) :
    reports (trace (r.life calls)) = reportsOf config (r.life calls) := by
  -- the outcomes of a log are those of its stops
  refine (life_induction (P := fun log => reports (trace log) = reportsOf config log ∧
    (log.filterMap Entry.outcome? = [] ↔ stopped log = false)) hr ⟨rfl, by simp [stopped]⟩ ?_
    calls).1
  intro log s e hs hk ⟨ih, hout⟩
  rw [trace_append_singleton, reports_append, ih, stopped_append_singleton, List.filterMap_append,
    List.append_eq_nil_iff, hout, ← hs.isStopped]
  rw [← hs.isStopped] at hout
  cases hk with
  | late stopped | again running | between =>
    rw [reportsOf_idle rfl (.inl rfl)]
    simp [Call.isStop, Entry.outcome?]
  | idle stopped =>
    have hne : log.filterMap Entry.outcome? ≠ [] := fun h => by simp [hout.1 h] at stopped
    rw [reportsOf_idle rfl (.inr hne)]
    simp [Call.isStop, Entry.outcome?]
  | @failed lookup e running unstarted =>
    rw [hs.isStarted] at unstarted
    rw [reportsOf_attempt unstarted (hout.2 running)
      (attempts_of_startEffects (List.append_nil _).symm) rfl, (s.seen_startEffects lookup).2.2.1,
      hs.address.1, hs.address.2, hs.probeHosts]
    simp [Call.isStop, Call.canBind, Call.probeFailure?, Entry.outcome?]
  | @bound lookup running unstarted =>
    rw [hs.isStarted] at unstarted
    rw [reportsOf_attempt unstarted (hout.2 running) (attempts_of_startEffects rfl) rfl,
      reports_append, (s.seen_startEffects lookup).2.2.1, hs.address.1, hs.address.2, hs.probeHosts]
    simp [Call.isStop, Call.canBind, Call.probeFailure?, Entry.outcome?, Effect.report?]
  | @stop meanwhile t waited outcome running =>
    rw [reportsOf_stop (hout.2 running) (attempts_of_stopEffects rfl) rfl,
      (s.seen_stopEffects waited outcome).2.2.1]
    simp [Call.isStop, Entry.outcome?]

/-! ## 7.  From the configuration on -/

theorem isClosed_of_make? {α : Type} {name : String} {threads capacity : Nat} {p : Pool α}
    (h : Pool.make? name threads capacity = .ok p) : p.isClosed = false := by
  unfold Pool.make? at h
  split at h
  · cases h
  · split at h
    · cases h
    · cases h
      rfl

/-- What is seen of building a receiver is that the acceptor is told of the cluster's observer. -/
theorem seen_newEffects (dispatch : Pool (Delivery ρ)) (events : Option (Pool Ping))
    (cluster : Option η) :
    binds (newEffects dispatch events cluster) = [] ∧
      observed (newEffects dispatch events cluster) = cluster.toList ∧
        reports (newEffects dispatch events cluster) = [] ∧
          closes (newEffects dispatch events cluster) = 0 := by
  cases events <;> cases cluster <;> exact ⟨rfl, rfl, rfl, rfl⟩

/-- A receiver that has just been built agrees with an empty log. -/
theorem agrees_of_make? {cluster : Option η} {grace : Nat} {built : List (Effect η)}
    (h : make? config cluster observers grace = .ok (r, built)) :
    Agrees config observers [] r ∧
      ∃ events, built = newEffects r.dispatch events cluster := by
  obtain ⟨dispatch, events, hdispatch, hevents, rfl, rfl⟩ := make?_cases h
  refine ⟨?_, events, rfl⟩
  constructor
  · exact ⟨rfl, rfl⟩
  · rfl
  · rfl
  · rfl
  · rfl
  · rfl
  · intro _
    refine ⟨isClosed_of_make? hdispatch, ?_⟩
    rintro pool (rfl : events = some pool)
    rcases eventPool?_cases hevents with ⟨-, hnone⟩ | ⟨found, hmake, hsome⟩
    · cases hnone
    · cases hsome
      exact isClosed_of_make? hmake

/-- **Starts and stops in any order do what is promised.**  The configuration is any valid one, each
start finds the probe hosts and the address in whatever state they are, and packets come and workers
get on between the calls and while a stop waits. -/
theorem starts_and_stops {config : Config} (hv : config.invalid? = none) (cluster : Option η)
    (observers : List η) (grace : Nat) :
    ∃ (r : Receiver ρ η) (built : List (Effect η)),
      make? config cluster observers grace = .ok (r, built) ∧
        ∀ calls, (r.life calls).map Entry.call = calls ∧
          StartStop config cluster observers built (r.life calls) := by
  obtain ⟨r, built, hmake, -⟩ := exists_make? (ρ := ρ) hv cluster observers grace
  obtain ⟨hr, events, rfl⟩ := agrees_of_make? hmake
  refine ⟨r, _, hmake, fun calls => ?_⟩
  obtain ⟨-, hobserved, hreports, hcloses⟩ := seen_newEffects r.dispatch events cluster
  refine ⟨map_call_life r calls, ?_⟩
  constructor
  · exact fits_life hr calls
  · intro M network acceptor
    rw [observers_obeyAll, observed_append, hobserved, observed_life hr calls, List.append_assoc]
  · rw [closes_append, hcloses, closes_life hr calls, Nat.zero_add]
  · rw [reports_append, hreports, reports_life hr calls, List.nil_append]

/-- One worker, no pool for signs of life, and a host from which probes come. -/
def probedConfig : Config :=
  { narrowConfig with probeHosts := ["probe"] }

/-- The receiver of the configuration, with two observers. -/
def probedReceiver : Receiver Unit Nat where
  host := "0.0.0.0"
  port := 9994
  probeHosts := ["probe"]
  observers := [1, 2]
  observersAdded := false
  isStarted := false
  isStopped := false
  grace := 0
  dispatch := ⟨dispatchPoolName, 1, [], [.idle], false⟩
  events := none

/-- The address is taken, and the name of the probe host is unknown.  Then neither is so, and the
receiver is started, started again, stopped while its worker leaves, started and stopped. -/
def retriedCalls : List (Call Unit) :=
  let found : Probe.Lookup := fun _ => .ok [.v4 ⟨10, 0, 0, 1⟩]
  [.start (fun _ => .error "unknown") (.error (.bindTcp ⟨.v4 ⟨0, 0, 0, 0⟩, 9994, 0⟩ "in use")),
    .start found (.ok ()), .start found (.ok ()), .stop fun _ => ⟨[.leave 0], []⟩,
    .start found (.ok ()), .stop fun _ => ⟨[], []⟩]

/-- Each kind of answer is given, and the second attempt succeeds. -/
theorem retried_start : probedConfig.invalid? = none ∧
    ∃ built : List (Effect Nat),
      make? probedConfig (some 0) [1, 2] 0 = .ok (probedReceiver, built) ∧
        (probedReceiver.life retriedCalls).map Entry.answer =
          [.started (.error (.bind (.bindTcp ⟨.v4 ⟨0, 0, 0, 0⟩, 9994, 0⟩ "in use"))),
            .started (.ok ()), .started (.error .alreadyStarted), .stopped .drained,
            .started (.error .stopped), .stopped .alreadyStopped] ∧
        reports (trace (probedReceiver.life retriedCalls)) =
          [.receiverStarting "0.0.0.0" 9994, .probeFailed (.lookup "probe" "unknown"),
            .receiverStarting "0.0.0.0" 9994, .receiverBound "0.0.0.0" 9994, .receiverStopping,
            .receiverStopped .drained] ∧
        StartStop probedConfig (some 0) [1, 2] built (probedReceiver.life retriedCalls) := by
  have hv : probedConfig.invalid? = none := rfl
  obtain ⟨r, built, hmake, h⟩ := starts_and_stops (ρ := Unit) hv (some 0) [1, 2] 0
  obtain rfl : probedReceiver = r := congrArg Prod.fst (Except.ok.inj hmake)
  exact ⟨hv, built, hmake, rfl, rfl, (h retriedCalls).2⟩

end Receiver

end AgentIntake
