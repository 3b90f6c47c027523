import AgentIntake.Proofs.Acceptor.Share
import Mathlib.Data.List.Induction

/-!
# The life of an acceptor

A turn is a call to the acceptor or something that happens to it and to the connections that it
serves.  An `Entry` is one turn with all that comes of it, and `life` takes turns in order, one
after the other.  Nothing limits their order: connections arrive before the acceptor is bound and
after it was closed, streams end that nobody serves, and it is bound and closed any number of times.

What is to be known of the past is read off the log of entries and not off the acceptor (`heard`,
`succeeded`, `closed`).  `life_induction` is the induction that ties the two together: along a life,
each log is met together with what the acceptor has become by then.

## The system below

Binding asks the system for the addresses of a host and for a listening socket.  `System` is what it
answers, and each attempt may find it changed.
-/

namespace AgentIntake

namespace Acceptor

variable {η : Type}

/-- What the system answers when the acceptor is bound. -/
structure System where
  lookup : Probe.Lookup
  listen : SocketAddress → Except String SocketAddress

/-- The outside world with that system. -/
def System.network (system : System) : Network where
  lookup := system.lookup
  listen address := (system.listen address).mapError (.bindTcp address)

theorem System.listen_network_of_error {system : System} {address : SocketAddress} {cause : String}
    (h : system.listen address = .error cause) :
    system.network.listen address = .error (.bindTcp address cause) := by
  simp [network, h, Except.mapError]

theorem System.listen_network_eq_ok_iff {system : System} {address own : SocketAddress} :
    system.network.listen address = .ok own ↔ system.listen address = .ok own := by
  cases h : system.listen address with
  | error cause => simp [listen_network_of_error h]
  | ok found => simp [network, h, Except.mapError]

/-- A bind that fails does nothing. -/
theorem bind_of_error {a : Acceptor η} {network : Network} {host : String} {port : UInt16}
    {e : TransportError} (h : a.bindable network host port = .error e) :
    a.bind network host port = (a, [], .error e) := by
  rw [bind, h]

/-- A bind that succeeds sets the address and is recorded. -/
theorem bind_of_ok {a : Acceptor η} {network : Network} {host : String} {port : UInt16}
    {own : SocketAddress} (h : a.bindable network host port = .ok own) :
    a.bind network host port = ({ a with bound := some own }, [boundRecord own], .ok ()) := by
  rw [bind, h]

end Acceptor

namespace Traffic

variable {η : Type}

/-! ## 1.  Turns -/

/-- What is done to an acceptor, and what happens to it.  It is bound with what the system answers
then; that it is closed is among the events. -/
inductive Turn (η : Type) where
  | addObserver (observer : η)
  | setListener
  | bind (system : Acceptor.System) (host : String) (port : UInt16)
  | localAddress
  | event (event : TrafficEvent)

/-- What a turn returns: the result of binding, the acceptor's own address, or nothing. -/
inductive Answer where
  | bound (result : Except TransportError Unit)
  | address (own : Option SocketAddress)
  | none

/-- One turn with all that comes of it: the acceptor and its connections before and after, what
others see, and what is returned. -/
structure Entry (η : Type) where
  earlier : Traffic η
  turn : Turn η
  effects : List Effect
  answer : Answer
  later : Traffic η

section

variable (written : Nat → Nat → Option TransportError)

/-- Takes a turn; `written id n` is the failure, if any, of the write number `n` on the connection
`id`. -/
def take (t : Traffic η) (turn : Turn η) : Entry η :=
  match turn with
  | .addObserver observer =>
    ⟨t, turn, [], .none, { t with acceptor := t.acceptor.addObserver observer }⟩
  | .setListener => ⟨t, turn, [], .none, { t with acceptor := t.acceptor.setListener }⟩
  | .bind system host port =>
    let (acceptor, records, result) := t.acceptor.bind system.network host port
    ⟨t, turn, records.map .logged, .bound result, { t with acceptor := acceptor }⟩
  | .localAddress => ⟨t, turn, [], .address t.acceptor.bound, t⟩
  | .event event =>
    let (u, effects) := t.next written event
    ⟨t, turn, effects, .none, u⟩

/-- Takes turns in order. -/
def life (t : Traffic η) : List (Turn η) → List (Entry η)
  | [] => []
  | turn :: turns => t.take written turn :: (t.take written turn).later.life turns

/-- What has become of the acceptor and its connections after turns. -/
def after (t : Traffic η) : List (Turn η) → Traffic η
  | [] => t
  | turn :: turns => (t.take written turn).later.after turns

@[simp] theorem turn_take (t : Traffic η) (turn : Turn η) : (t.take written turn).turn = turn := by
  cases turn <;> rfl

@[simp] theorem earlier_take (t : Traffic η) (turn : Turn η) :
    (t.take written turn).earlier = t := by
  cases turn <;> rfl

/-- A life is one of the turns that are taken, in their order. -/
@[simp] theorem map_turn_life (t : Traffic η) (turns : List (Turn η)) :
    (t.life written turns).map Entry.turn = turns := by
  induction turns generalizing t with
  | nil => rfl
  | cons turn turns ih => simp [life, ih]

/-- What holds of a log before any turn, and is kept by every turn, holds of a whole life and of
what the acceptor and its connections have become. -/
theorem life_induction {P : List (Entry η) → Traffic η → Prop} {t : Traffic η} (nil : P [] t)
    (snoc : ∀ past u turn, P past u →
      P (past ++ [u.take written turn]) (u.take written turn).later)
    (turns : List (Turn η)) : P (t.life written turns) (t.after written turns) := by
  have hgo : ∀ past u, P past u → P (past ++ u.life written turns) (u.after written turns) := by
    induction turns with
    | nil =>
      intro past u hp
      simpa [life, after] using hp
    | cons turn turns ih =>
      intro past u hp
      simpa [life, after] using ih _ _ (snoc _ _ turn hp)
  exact hgo [] t nil

/-- Where every turn keeps one thing of the past, and does another because of it, each entry of a
life does the other after the entries before it. -/
theorem entry_of_life {P : List (Entry η) → Traffic η → Prop} {Q : List (Entry η) → Entry η → Prop}
    {t : Traffic η} (nil : P [] t)
    (snoc : ∀ past u turn, P past u →
      P (past ++ [u.take written turn]) (u.take written turn).later)
    (entry : ∀ past u turn, P past u → Q past (u.take written turn))
    {turns : List (Turn η)} {past rest : List (Entry η)} {e : Entry η}
    (h : t.life written turns = past ++ e :: rest) : Q past e := by
  have hgo : ∀ before u between, P before u → u.life written turns = between ++ e :: rest →
      Q (before ++ between) e := by
    clear h
    induction turns with
    | nil =>
      intro before u between _ h
      simp [life] at h
    | cons turn turns ih =>
      intro before u between hp h
      rcases between with _ | ⟨first, between⟩
      · obtain ⟨rfl, -⟩ := List.cons.inj h
        simpa using entry before u turn hp
      · obtain ⟨rfl, hrest⟩ := List.cons.inj h
        simpa using ih _ _ between (snoc before u turn hp) hrest
  simpa using hgo [] t past nil h

end

/-! ## 2.  What is seen of a life -/

/-- All that others see. -/
def trace (log : List (Entry η)) : List Effect :=
  log.flatMap Entry.effects

@[simp] theorem trace_append_singleton (log : List (Entry η)) (e : Entry η) :
    trace (log ++ [e]) = trace log ++ e.effects := by
  simp [trace]

namespace Turn

/-- It is given a listener. -/
def isListener : Turn η → Bool
  | setListener => true
  | addObserver _ | bind .. | localAddress | event _ => false

/-- The acceptor is closed. -/
def isClosing : Turn η → Bool
  | event .closed => true
  | event (.arrived _) | event (.received ..) | event (.ended _) | event (.failed ..)
  | event (.ignoring _) | addObserver _ | setListener | bind .. | localAddress => false

end Turn

/-- The acceptor is bound. -/
def Answer.isBound : Answer → Bool
  | bound (.ok ()) => true
  | bound (.error _) | address _ | none => false

/-- The acceptor was given a listener. -/
def heard (log : List (Entry η)) : Bool :=
  log.any (·.turn.isListener)

/-- The acceptor was closed. -/
def closed (log : List (Entry η)) : Bool :=
  log.any (·.turn.isClosing)

/-- The acceptor was bound. -/
def succeeded (log : List (Entry η)) : Bool :=
  log.any (·.answer.isBound)

section

variable (log : List (Entry η)) (e : Entry η)

@[simp] theorem heard_append_singleton : heard (log ++ [e]) = (heard log || e.turn.isListener) := by
  simp [heard]

@[simp] theorem closed_append_singleton :
    closed (log ++ [e]) = (closed log || e.turn.isClosing) := by
  simp [closed]

@[simp] theorem succeeded_append_singleton :
    succeeded (log ++ [e]) = (succeeded log || e.answer.isBound) := by
  simp [succeeded]

end

/-! ## 3.  Single events -/

section

variable (t : Traffic η) (remote : SocketAddress)

/-- Whatever a connection takes, the acceptor at most forgets it. -/
theorem acceptor_serve (id : Nat) (take : Connection → Connection × List Connection.Effect) :
    (t.serve id take).1.acceptor = t.acceptor ∨
      (t.serve id take).1.acceptor = t.acceptor.forget id := by
  cases hc : t.connection? id with
  | none =>
    rw [serve, hc]
    exact .inl rfl
  | some c =>
    rw [serve_eq hc, update]
    split
    · exact .inr rfl
    · exact .inl rfl

/-- A connection from an ignored address is dropped before anything else is looked at. -/
theorem arrive_of_ignored (h : remote.ip ∈ t.acceptor.ignored) :
    t.arrive remote = (t, [.dropped]) := by
  simp [arrive, Acceptor.accept, h, Acceptor.Admission.records]

/-- Any other is let in under the next number, if somebody listens and the acceptor has not been
closed. -/
theorem arrive_of_ready (hi : remote.ip ∉ t.acceptor.ignored) (hl : t.acceptor.hasListener = true)
    (hc : t.acceptor.isClosed = false) :
    t.arrive remote =
      (⟨{ t.acceptor with
          tracked := t.acceptor.nextId :: t.acceptor.tracked
          nextId := t.acceptor.nextId + 1 },
        t.served ++ [(t.acceptor.nextId, Connection.opened remote)]⟩,
        .admitted t.acceptor.nextId ::
          (Connection.opened remote).openEffects.map (.of t.acceptor.nextId)) := by
  simp [arrive, Acceptor.accept, hi, hl, hc]

/-- Otherwise it is dropped, too. -/
theorem arrive_of_unready (h : t.acceptor.hasListener = true → t.acceptor.isClosed = true) :
    ∃ records : List Log.Record, t.arrive remote = (t, records.map .logged ++ [.dropped]) := by
  unfold arrive Acceptor.accept
  by_cases hi : remote.ip ∈ t.acceptor.ignored
  · exact ⟨[], by simp [hi, Acceptor.Admission.records]⟩
  cases hl : t.acceptor.hasListener with
  | false => exact ⟨_, by simp [hi]; rfl⟩
  | true => exact ⟨[], by simp [hi, h hl, Acceptor.Admission.records]⟩

end

end Traffic

end AgentIntake
