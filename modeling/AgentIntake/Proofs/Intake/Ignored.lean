import AgentIntake.Intake
import AgentIntake.Proofs.Acceptor.Life

/-!
# Ignored addresses

The acceptor drops connections from the addresses on its list before anything else, and nobody ever
learns of them.  Others come through the same door, so what an agent does is told here by its socket
and not by the number that its connection was given: an agent whose connection was dropped may go on
sending, and what it sends has no number.

`Entrance` is an intake with the sockets that lead to it, and a `Happening` is what agents do, or
what the collector itself does between: its workers get on, it is started and stopped, other
addresses are put on the list.  A `Moment` is one happening with all that comes of it.

## One comparison for two statements

Two runs are compared with the run that happens: the run without the happenings of ignored agents,
and the same with an empty list all along.  `moments` takes what is done to the intake before each
happening, nothing in the first case and `unlisted` in the second.  All that the comparison needs of
it is that it does not matter to what happens to others (`Harmless`).
-/

namespace AgentIntake

variable {η M : Type}

/-! ## 1.  What happens to an intake -/

/-- What the collector does, besides serving its connections.  It is stopped with what happens while
a pool is waited for; its workers get on as far as they can (`work`). -/
inductive Intake.Deed (η M : Type) where
  | ignoring (addresses : List IpAddress)
  | closed
  | start (network : Acceptor.Network)
  | stop (network : Acceptor.Network)
    (progress : Receiver.Executor → Receiver ReplyTo η → Receiver ReplyTo η)
  | work (codec : Codec M) (handler : Handler M) (reply : ReplyTo → ReplySender) (sink : Sink)

namespace Intake

/-- The acceptor takes an event that is no connection's. -/
def heed (n : Intake η) (written : Nat → Nat → Option TransportError) (event : TrafficEvent) :
    Intake η × List (Effect M) :=
  let (traffic, effects) := n.traffic.next written event
  ({ n with traffic := traffic }, effects.map .traffic)

/-- The intake after a deed, and what others see of it. -/
def undergo (n : Intake η) (written : Nat → Nat → Option TransportError) :
    Deed η M → Intake η × List (Effect M)
  | .ignoring addresses => n.heed written (.ignoring addresses)
  | .closed => n.heed written .closed
  | .start network =>
    let (m, effects, _) := n.start network
    (m, effects)
  | .stop network progress =>
    let (m, effects, _) := n.stop network progress
    (m, effects)
  | .work codec handler reply sink => n.settle codec handler reply sink

end Intake

/-- The number of a connection that is let in. -/
def Acceptor.Admission.number? : Acceptor.Admission → Option Nat
  | admitted id => some id
  | ignored | unheard | late => none

/-! ## 2.  What agents do -/

/-- What an agent does with a socket. -/
inductive Visit where
  | connects (remote : SocketAddress)
  | sends (bytes : List UInt8)
  | ends
  | fails (cause : String)

/-- What is noticed of it, if the socket's connection has this number. -/
def Visit.event? (number : Option Nat) : Visit → Option TrafficEvent
  | connects remote => some (.arrived remote)
  | sends bytes => number.map (.received · bytes)
  | ends => number.map .ended
  | fails cause => number.map (.failed · cause)

/-- What happens around an intake: an agent does something with a socket, at a time and with a sink,
or the collector does something. -/
inductive Happening (η M : Type) where
  | visit (socket : Nat) (stamp : UInt64) (sink : Sink) (visit : Visit)
  | deed (deed : Intake.Deed η M)

/-- An intake and the sockets that lead to it: the number of the connection by a socket, if it was
let in, and whether it came from an address that was ignored then. -/
structure Entrance (η : Type) where
  intake : Intake η
  number : Nat → Option Nat
  isIgnored : Nat → Bool

namespace Entrance

/-- An intake before anybody has connected. -/
def of (n : Intake η) : Entrance η :=
  ⟨n, fun _ => none, fun _ => false⟩

/-- The number of a socket's connection after the agent has done something. -/
def numberAfter (x : Entrance η) (socket : Nat) : Visit → Option Nat
  | .connects remote => (x.intake.traffic.acceptor.accept remote).2.number?
  | .sends _ | .ends | .fails _ => x.number socket

/-- A socket's connection is from an address that was ignored, after the agent has done
something. -/
def ignoresAfter (x : Entrance η) (socket : Nat) : Visit → Bool
  | .connects remote => remote.ip ∈ x.intake.traffic.acceptor.ignored
  | .sends _ | .ends | .fails _ => x.isIgnored socket

/-- It is an ignored agent's doing. -/
def ignores (x : Entrance η) : Happening η M → Bool
  | .visit socket _ _ visit => x.ignoresAfter socket visit
  | .deed _ => false

/-- The intake after something has happened, and what others see of it. -/
def outcome (x : Entrance η) (written : Nat → Nat → Option TransportError) :
    Happening η M → Intake η × List (Intake.Effect M)
  | .visit socket stamp sink visit =>
    match visit.event? (x.number socket) with
    | none => (x.intake, [])
    | some event => x.intake.take written stamp sink event
  | .deed deed => x.intake.undergo written deed

/-- The intake and its sockets after something has happened. -/
def next (x : Entrance η) (written : Nat → Nat → Option TransportError) (h : Happening η M) :
    Entrance η where
  intake := (x.outcome written h).1
  number :=
    match h with
    | .visit socket _ _ visit =>
      fun k => if k = socket then x.numberAfter socket visit else x.number k
    | .deed _ => x.number
  isIgnored :=
    match h with
    | .visit socket _ _ visit =>
      fun k => if k = socket then x.ignoresAfter socket visit else x.isIgnored k
    | .deed _ => x.isIgnored

end Entrance

/-! ## 3.  Runs -/

/-- One happening with all that comes of it. -/
structure Moment (η M : Type) where
  earlier : Entrance η
  happening : Happening η M
  effects : List (Intake.Effect M)
  later : Entrance η

namespace Moment

/-- It is an ignored agent's doing. -/
def isIgnored (m : Moment η M) : Bool :=
  m.earlier.ignores m.happening

/-- What happens, and what others see of it. -/
def view (m : Moment η M) : Happening η M × List (Intake.Effect M) :=
  (m.happening, m.effects)

end Moment

namespace Entrance

section

variable (before : Intake η → Intake η) (written : Nat → Nat → Option TransportError)

/-- Lets something happen, after something was done to the intake. -/
def meet (x : Entrance η) (h : Happening η M) : Moment η M :=
  let y := { x with intake := before x.intake }
  ⟨y, h, (y.outcome written h).2, y.next written h⟩

/-- Lets things happen in order; `before` is done to the intake each time. -/
def moments (x : Entrance η) : List (Happening η M) → List (Moment η M)
  | [] => []
  | h :: hs => x.meet before written h :: (x.meet before written h).later.moments hs

/-- The intake and its sockets after things have happened in order. -/
def after (x : Entrance η) : List (Happening η M) → Entrance η
  | [] => x
  | h :: hs => (x.meet before written h).later.after hs

end

end Entrance

/-- The moments of agents that are not ignored, and what the collector does. -/
def keptOf (moments : List (Moment η M)) : List (Moment η M) :=
  moments.filter (!·.isIgnored)

/-- What is seen of an ignored agent: its connection is dropped. -/
def Happening.dismissal : Happening η M → List (Intake.Effect M)
  | visit _ _ _ (.connects _) => [.traffic .dropped]
  | visit _ _ _ (.sends _) | visit _ _ _ .ends | visit _ _ _ (.fails _) | deed _ => []

/-! ## 4.  The list does not matter to others -/

namespace Acceptor

variable (a : Acceptor η) (addresses : List IpAddress)

/-- Another list changes nothing about a connection that is on neither. -/
theorem accept_setIgnored {remote : SocketAddress} (h : remote.ip ∉ a.ignored)
    (k : remote.ip ∉ addresses) :
    (a.setIgnored addresses).accept remote =
      ((a.accept remote).1.setIgnored addresses, (a.accept remote).2) := by
  unfold accept
  rw [if_neg h, if_neg (show remote.ip ∉ (a.setIgnored addresses).ignored from k)]
  show (if (!a.hasListener) = true then _ else if a.isClosed = true then _ else _) = _
  repeat' split
  all_goals rfl

theorem bind_setIgnored (network : Network) (host : String) (port : UInt16) :
    (a.setIgnored addresses).bind network host port =
      ((a.bind network host port).1.setIgnored addresses, (a.bind network host port).2) := by
  have h : (a.setIgnored addresses).bindable network host port = a.bindable network host port := rfl
  cases hb : a.bindable network host port with
  | error e => rw [bind_of_error hb, bind_of_error (h.trans hb)]
  | ok own => rw [bind_of_ok hb, bind_of_ok (h.trans hb)]; rfl

theorem close_setIgnored :
    (a.setIgnored addresses).close = (a.close.1.setIgnored addresses, a.close.2) := by
  have h : (a.setIgnored addresses).bound = a.bound := rfl
  unfold close
  rw [h]
  split <;> rfl

end Acceptor

/-- The acceptor and its connections with nobody on the list. -/
def Traffic.unlisted (t : Traffic η) : Traffic η :=
  { t with acceptor := t.acceptor.setIgnored [] }

/-- The intake with nobody on the list. -/
def Intake.unlisted (n : Intake η) : Intake η :=
  { n with traffic := n.traffic.unlisted }

namespace Traffic

variable {t : Traffic η} {written : Nat → Nat → Option TransportError}

@[simp] theorem unlisted_unlisted (t : Traffic η) : t.unlisted.unlisted = t.unlisted :=
  rfl

theorem serve_unlisted (id : Nat) (take : Connection → Connection × List Connection.Effect) :
    t.unlisted.serve id take = ((t.serve id take).1.unlisted, (t.serve id take).2) := by
  have hc : t.unlisted.connection? id = t.connection? id := rfl
  cases h : t.connection? id with
  | none => rw [serve, serve, hc, h]
  | some c =>
    rw [serve_eq h, serve_eq (hc.trans h)]
    unfold update
    split <;> rfl

theorem arrive_unlisted {remote : SocketAddress} (h : remote.ip ∉ t.acceptor.ignored) :
    t.unlisted.arrive remote = ((t.arrive remote).1.unlisted, (t.arrive remote).2) := by
  have ha : t.unlisted.acceptor.accept remote = _ :=
    t.acceptor.accept_setIgnored [] h List.not_mem_nil
  unfold arrive
  rw [ha]
  dsimp only
  split <;> rfl

/-- The event is no arrival from an ignored address. -/
def Heeds (t : Traffic η) : TrafficEvent → Prop
  | .arrived remote => remote.ip ∉ t.acceptor.ignored
  | .received .. | .ended _ | .failed .. | .ignoring _ | .closed => True

variable (written) in
/-- **An event that is heeded leads to the same without the list.** -/
theorem next_unlisted {event : TrafficEvent} (h : t.Heeds event) :
    (t.unlisted.next written event).2 = (t.next written event).2 ∧
      (t.unlisted.next written event).1.unlisted = (t.next written event).1.unlisted := by
  cases event with
  | arrived remote => simp [next, arrive_unlisted h]
  | received | ended | failed => simp [next, serve_unlisted]
  | ignoring addresses => exact ⟨rfl, rfl⟩
  | closed =>
    have hc : t.unlisted.acceptor.close = _ := t.acceptor.close_setIgnored []
    simp only [next, hc, true_and]
    rfl

end Traffic

namespace Intake

variable {n : Intake η} {written : Nat → Nat → Option TransportError}

theorem take_unlisted {event : TrafficEvent} (h : n.traffic.Heeds event) (stamp : UInt64)
    (sink : Sink) :
    (n.unlisted.take (M := M) written stamp sink event).2 = (n.take written stamp sink event).2 ∧
      (n.unlisted.take (M := M) written stamp sink event).1.unlisted =
        (n.take (M := M) written stamp sink event).1.unlisted := by
  obtain ⟨heffects, hlater⟩ := Traffic.next_unlisted written h
  have hremotes : (fun id => (n.unlisted.traffic.connection? id).map (·.remote)) =
      fun id => (n.traffic.connection? id).map (·.remote) := rfl
  simp only [take]
  rw [show n.unlisted.traffic.next written event = n.traffic.unlisted.next written event from rfl,
    heffects, hremotes]
  refine ⟨rfl, ?_⟩
  simp only [unlisted, hlater]

/-- The acceptor does what it is asked for, whoever is on the list. -/
theorem obey_setIgnored (network : Acceptor.Network) (a : Acceptor η) (addresses : List IpAddress)
    (call : AcceptorCall η) :
    (obey (M := M) network (a.setIgnored addresses) call).2 = (obey network a call).2 ∧
      ∃ more, (obey (M := M) network (a.setIgnored addresses) call).1 =
        (obey (M := M) network a call).1.setIgnored more := by
  cases call with
  | addObserver | setListener => exact ⟨rfl, addresses, rfl⟩
  | setIgnored others => exact ⟨rfl, others, rfl⟩
  | bind host port =>
    simp only [obey, Acceptor.bind_setIgnored]
    exact ⟨trivial, addresses, rfl⟩
  | close =>
    simp only [obey, Acceptor.close_setIgnored]
    exact ⟨trivial, addresses, rfl⟩

theorem obeyAll_setIgnored (network : Acceptor.Network) (effects : List (Receiver.Effect η))
    (a : Acceptor η) (addresses : List IpAddress) :
    (obeyAll (M := M) network (a.setIgnored addresses) effects).2 = (obeyAll network a effects).2 ∧
      ∃ more, (obeyAll (M := M) network (a.setIgnored addresses) effects).1 =
        (obeyAll (M := M) network a effects).1.setIgnored more := by
  induction effects generalizing a addresses with
  | nil => exact ⟨rfl, addresses, rfl⟩
  | cons effect effects ih =>
    cases effect with
    | health | logged =>
      obtain ⟨he, hl⟩ := ih a addresses
      exact ⟨congrArg (List.cons _) he, hl⟩
    | acceptor call =>
      obtain ⟨he, more, hl⟩ := obey_setIgnored (M := M) network a addresses call
      obtain ⟨hes, hls⟩ := ih (obey (M := M) network a call).1 more
      simp only [obeyAll, he, hl, hes, hls, true_and]

theorem joined_unlisted (network : Acceptor.Network) (receiver : Receiver ReplyTo η)
    (effects : List (Receiver.Effect η)) :
    (n.unlisted.joined (M := M) network receiver effects).2 =
      (n.joined network receiver effects).2 ∧
      (n.unlisted.joined (M := M) network receiver effects).1.unlisted =
        (n.joined (M := M) network receiver effects).1.unlisted := by
  obtain ⟨he, more, hl⟩ := obeyAll_setIgnored (M := M) network effects n.traffic.acceptor []
  have ha : n.unlisted.traffic.acceptor = n.traffic.acceptor.setIgnored [] := rfl
  simp only [joined, ha, he, hl, true_and]
  rfl

theorem bound_unlisted (network : Acceptor.Network) : n.unlisted.bound network = n.bound network :=
  congrArg (·.2.2) (n.traffic.acceptor.setListener.bind_setIgnored [] network n.receiver.host
    n.receiver.port)

/-- **A deed leads to the same without the list.** -/
theorem undergo_unlisted (deed : Deed η M) :
    (n.unlisted.undergo written deed).2 = (n.undergo written deed).2 ∧
      (n.unlisted.undergo written deed).1.unlisted = (n.undergo written deed).1.unlisted := by
  have hheed : ∀ event, n.traffic.Heeds event →
      (n.unlisted.heed (M := M) written event).2 = (n.heed written event).2 ∧
        (n.unlisted.heed (M := M) written event).1.unlisted =
          (n.heed (M := M) written event).1.unlisted := by
    intro event h
    obtain ⟨heffects, hlater⟩ := Traffic.next_unlisted written h
    exact ⟨congrArg (List.map _) heffects, congrArg (Intake.mk n.receiver) hlater⟩
  cases deed with
  | ignoring addresses => exact hheed _ trivial
  | closed => exact hheed _ trivial
  | start network =>
    simp only [undergo, start, bound_unlisted]
    exact joined_unlisted network _ _
  | stop network progress => exact joined_unlisted network _ _
  | work codec handler reply sink =>
    have hr : n.unlisted.receiver = n.receiver := rfl
    simp only [undergo, settle, hr]
    split <;> exact ⟨rfl, rfl⟩

end Intake

/-! ## 5.  What is promised -/

/-- What is promised of a run: `n` is the intake at first, and `hs` is all that happens.

An agent that connects from an address on the list of that moment is dropped, and nobody sees
anything else of what it does; nothing is changed, and its connection has no number (`dropped`).
Without all that ignored agents do, others see of everything else what they saw (`erased`).  The
intake comes to be the same (`same`).  Nor does it matter to others if the list is emptied each time
(`unlisted`). -/
structure Unseen (written : Nat → Nat → Option TransportError) (n : Intake η)
    (hs : List (Happening η M)) : Prop where
  dropped : ∀ m ∈ (Entrance.of n).moments id written hs, m.isIgnored = true →
    m.effects = m.happening.dismissal ∧ m.later.intake = m.earlier.intake ∧
      ∀ socket stamp sink visit, m.happening = .visit socket stamp sink visit →
        m.later.number socket = none
  erased : ((Entrance.of n).moments id written
      ((keptOf ((Entrance.of n).moments id written hs)).map Moment.happening)).map Moment.view =
    (keptOf ((Entrance.of n).moments id written hs)).map Moment.view
  same : ((Entrance.of n).after id written
      ((keptOf ((Entrance.of n).moments id written hs)).map Moment.happening)).intake =
    ((Entrance.of n).after id written hs).intake
  unlisted : ((Entrance.of n).moments Intake.unlisted written
      ((keptOf ((Entrance.of n).moments id written hs)).map Moment.happening)).map Moment.view =
    (keptOf ((Entrance.of n).moments id written hs)).map Moment.view

/-! ## 6.  One happening -/

/-- What is done to the intake before each happening does not matter to those that are heeded: to do
it twice is to do it once (`again`), and it does not matter to what a connection does (`take`), to
what the collector does (`undergo`) or to the number of a connection (`accept`). -/
structure Harmless (M : Type) (written : Nat → Nat → Option TransportError)
    (before : Intake η → Intake η) : Prop where
  again : ∀ n : Intake η, before (before n) = before n
  take : ∀ (n : Intake η) event stamp sink, n.traffic.Heeds event →
    ((before n).take (M := M) written stamp sink event).2 = (n.take written stamp sink event).2 ∧
      before ((before n).take (M := M) written stamp sink event).1 =
        before (n.take (M := M) written stamp sink event).1
  undergo : ∀ (n : Intake η) (deed : Intake.Deed η M),
    ((before n).undergo written deed).2 = (n.undergo written deed).2 ∧
      before ((before n).undergo written deed).1 = before (n.undergo written deed).1
  accept : ∀ (n : Intake η) (remote : SocketAddress), remote.ip ∉ n.traffic.acceptor.ignored →
    ((before n).traffic.acceptor.accept remote).2 = (n.traffic.acceptor.accept remote).2

theorem harmless_id (written : Nat → Nat → Option TransportError) :
    Harmless M written (id : Intake η → Intake η) :=
  ⟨fun _ => rfl, fun _ _ _ _ _ => ⟨rfl, rfl⟩, fun _ _ => ⟨rfl, rfl⟩, fun _ _ _ => rfl⟩

theorem harmless_unlisted (written : Nat → Nat → Option TransportError) :
    Harmless M written (Intake.unlisted : Intake η → Intake η) where
  again _ := rfl
  take _ _ stamp sink h := Intake.take_unlisted h stamp sink
  undergo _ deed := Intake.undergo_unlisted deed
  accept n _ h :=
    (congrArg Prod.snd (n.traffic.acceptor.accept_setIgnored [] h List.not_mem_nil)).trans rfl

namespace Entrance

variable {x y : Entrance η} {before : Intake η → Intake η}
  {written : Nat → Nat → Option TransportError} {h : Happening η M}

/-- No connection from an ignored address has a number. -/
def Unnumbered (x : Entrance η) : Prop :=
  ∀ socket, x.isIgnored socket = true → x.number socket = none

/-- Two entrances are the same to agents that are not ignored. -/
structure Beside (before : Intake η → Intake η) (x y : Entrance η) : Prop where
  intake : before y.intake = before x.intake
  number : ∀ socket, x.isIgnored socket = false → y.number socket = x.number socket

theorem unnumbered_of (n : Intake η) : (of n).Unnumbered :=
  fun _ _ => rfl

/-- A connection that is ignored gets no number. -/
theorem numberAfter_of_ignores (hx : x.Unnumbered) {socket : Nat} {visit : Visit}
    (hi : x.ignoresAfter socket visit = true) : x.numberAfter socket visit = none := by
  cases visit with
  | connects remote =>
    have hm : remote.ip ∈ x.intake.traffic.acceptor.ignored := of_decide_eq_true hi
    rw [numberAfter, Acceptor.accept, if_pos hm]
    rfl
  | sends | ends | fails => exact hx socket hi

theorem Unnumbered.next (hx : x.Unnumbered) (h : Happening η M) :
    (x.next written h).Unnumbered := by
  intro k hk
  cases h with
  | deed deed => exact hx k hk
  | visit socket stamp sink visit =>
    by_cases he : k = socket
    · simp only [Entrance.next, if_pos he] at hk ⊢
      exact numberAfter_of_ignores hx hk
    · simp only [Entrance.next, if_neg he] at hk ⊢
      exact hx k hk

variable (written) in
/-- **What an ignored agent does changes nothing**, and its connection is dropped. -/
theorem outcome_of_ignores (hx : x.Unnumbered) (hi : x.ignores h = true) :
    x.outcome written h = (x.intake, h.dismissal) := by
  cases h with
  | deed deed => cases hi
  | visit socket stamp sink visit =>
    cases visit with
    | connects remote =>
      have hm : remote.ip ∈ x.intake.traffic.acceptor.ignored := of_decide_eq_true hi
      simp only [outcome, Visit.event?, Intake.take, Traffic.next, Traffic.arrive_of_ignored _ _ hm]
      rfl
    | sends | ends | fails =>
      have hn : x.number socket = none := hx socket hi
      simp [outcome, Visit.event?, hn, Happening.dismissal]

/-- What an ignored agent does makes no difference to others. -/
theorem Beside.ignore (hxy : Beside before x y) (hx : x.Unnumbered) (hi : x.ignores h = true) :
    Beside before (x.next written h) y where
  intake := by
    rw [hxy.intake]
    exact congrArg before (congrArg Prod.fst (outcome_of_ignores written hx hi)).symm
  number k hk := by
    cases h with
    | deed deed => cases hi
    | visit socket stamp sink visit =>
      by_cases he : k = socket
      · simp only [Entrance.next, if_pos he] at hk
        rw [show x.ignoresAfter socket visit = true from hi] at hk
        cases hk
      · simp only [Entrance.next, if_neg he] at hk ⊢
        exact hxy.number k hk

/-- The intake takes the same from an agent that is not ignored. -/
theorem Beside.numberAfter (hb : Harmless M written before) (hxy : Beside before x y) {socket : Nat}
    {visit : Visit} (hi : x.ignoresAfter socket visit = false) :
    ({ y with intake := before y.intake } : Entrance η).numberAfter socket visit =
      x.numberAfter socket visit := by
  cases visit with
  | connects remote =>
    have hm : remote.ip ∉ x.intake.traffic.acceptor.ignored := of_decide_eq_false hi
    simp only [Entrance.numberAfter, hxy.intake, hb.accept _ _ hm]
  | sends | ends | fails => exact hxy.number socket hi

/-- **What others do leads to the same.** -/
theorem Beside.outcome (hb : Harmless M written before) (hxy : Beside before x y)
    (hi : x.ignores h = false) :
    (y.meet before written h).effects = (x.meet id written h).effects ∧
      before (y.meet before written h).later.intake =
        before (x.meet id written h).later.intake := by
  show (Entrance.outcome { y with intake := before y.intake } written h).2 =
    (x.outcome written h).2 ∧
    before (Entrance.outcome { y with intake := before y.intake } written h).1 =
      before (x.outcome written h).1
  rw [hxy.intake]
  cases h with
  | deed deed => exact hb.undergo x.intake deed
  | visit socket stamp sink visit =>
    have hevent : visit.event? (y.number socket) = visit.event? (x.number socket) := by
      cases visit with
      | connects remote => rfl
      | sends | ends | fails => rw [Visit.event?, Visit.event?, hxy.number socket hi]
    simp only [Entrance.outcome, hevent]
    cases he : visit.event? (x.number socket) with
    | none => exact ⟨rfl, hb.again x.intake⟩
    | some event =>
      refine hb.take x.intake event stamp sink ?_
      cases visit with
      | connects remote =>
        cases he
        exact of_decide_eq_false hi
      | sends | ends | fails =>
        obtain ⟨id, -, rfl⟩ := Option.map_eq_some_iff.1 he
        trivial

theorem Beside.meet (hb : Harmless M written before) (hxy : Beside before x y)
    (hi : x.ignores h = false) :
    Beside before (x.meet id written h).later (y.meet before written h).later where
  intake := (hxy.outcome hb hi).2
  number k hk := by
    cases h with
    | deed deed => exact hxy.number k hk
    | visit socket stamp sink visit =>
      by_cases he : k = socket
      · simp only [Entrance.meet, Entrance.next, if_pos he]
        exact hxy.numberAfter hb hi
      · simp only [Entrance.meet, Entrance.next, if_neg he] at hk ⊢
        exact hxy.number k hk

/-! ## 7.  A whole run -/

/-- **Two runs that start beside each other stay so**, if one leaves out what ignored agents do. -/
theorem Beside.run (hb : Harmless M written before) (hxy : Beside before x y) (hx : x.Unnumbered)
    (hs : List (Happening η M)) :
    (y.moments before written ((keptOf (x.moments id written hs)).map Moment.happening)).map
        Moment.view =
      (keptOf (x.moments id written hs)).map Moment.view ∧
    before (y.after before written
        ((keptOf (x.moments id written hs)).map Moment.happening)).intake =
      before (x.after id written hs).intake := by
  induction hs generalizing x y with
  | nil => exact ⟨rfl, hxy.intake⟩
  | cons h hs ih =>
    have hx' : (x.meet id written h).later.Unnumbered := hx.next h
    have hm : (x.meet id written h).isIgnored = x.ignores h := rfl
    cases hi : x.ignores h with
    | true =>
      have hkept : keptOf (x.moments id written (h :: hs)) =
          keptOf ((x.meet id written h).later.moments id written hs) :=
        List.filter_cons_of_neg (by simp [hm, hi])
      rw [hkept]
      exact ih (hxy.ignore hx hi) hx'
    | false =>
      have hkept : keptOf (x.moments id written (h :: hs)) =
          x.meet id written h :: keptOf ((x.meet id written h).later.moments id written hs) :=
        List.filter_cons_of_pos (by simp [hm, hi])
      obtain ⟨hview, hafter⟩ := ih (hxy.meet hb hi) hx'
      rw [hkept]
      refine ⟨?_, hafter⟩
      refine List.cons_eq_cons.2 ⟨?_, hview⟩
      exact congrArg (Prod.mk h) (hxy.outcome hb hi).1

/-- Each moment of an ignored agent is as it is to be. -/
theorem dropped_of_mem (hx : x.Unnumbered) {hs : List (Happening η M)} {m : Moment η M}
    (hm : m ∈ x.moments id written hs) (hi : m.isIgnored = true) :
    m.effects = m.happening.dismissal ∧ m.later.intake = m.earlier.intake ∧
      ∀ socket stamp sink visit, m.happening = .visit socket stamp sink visit →
        m.later.number socket = none := by
  induction hs generalizing x with
  | nil => cases hm
  | cons h hs ih =>
    rcases List.mem_cons.1 hm with rfl | hm
    · have ho := outcome_of_ignores written hx hi
      refine ⟨congrArg Prod.snd ho, congrArg Prod.fst ho, ?_⟩
      rintro socket stamp sink visit rfl
      simp only [Entrance.meet, Entrance.next]
      exact numberAfter_of_ignores hx hi
    · exact ih (hx.next h) hm

/-- **Ignored agents are invisible**, and the list does not matter to others.  The list is any to
begin with and replaced at any time, and agents connect, send and go in any order. -/
theorem ignored_unseen (written : Nat → Nat → Option TransportError) (n : Intake η)
    (hs : List (Happening η M)) : Unseen written n hs where
  dropped _ hm hi := dropped_of_mem (unnumbered_of n) hm hi
  erased := (Beside.run (harmless_id written) ⟨rfl, fun _ _ => rfl⟩ (unnumbered_of n) hs).1
  same := (Beside.run (harmless_id written) ⟨rfl, fun _ _ => rfl⟩ (unnumbered_of n) hs).2
  unlisted :=
    (Beside.run (harmless_unlisted written) ⟨rfl, fun _ _ => rfl⟩ (unnumbered_of n) hs).1

end Entrance

end AgentIntake
