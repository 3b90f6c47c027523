import AgentIntake.Proofs.Connection.Delivery
import AgentIntake.Proofs.Exchange.Fidelity

/-!
# Connections do not disturb each other

Whatever happens on other connections, and however the readers and workers take turns, a connection
leads to what it would lead to if it were alone: the same news for observers, the same calls of the
listener, the same frames and records, and it is open or has ended just the same.

`Connection.alone` is the connection by itself.  It is given its stream in one piece (`Inflow`) and
does not know of an acceptor.  What has come on a stream is read off the events of a run by the
number of the connection, and nothing comes after the first end.

## Why the table is followed and not the connection

A connection that has closed is taken out of the table at once, while its stream may still bring
something, which then finds nobody.  So `followed` goes along with what the table holds under the
number (`Connection.open?`), and `followed_eq` says that this comes to the same as giving all of the
stream to the connection.
-/

namespace AgentIntake

variable {η M : Type}

/-! ## 1.  Streams -/

/-- What comes on a stream: a piece of it, or its end, when its last byte has come or, with a cause,
it can no longer be read. -/
inductive Incoming where
  | piece (bytes : List UInt8)
  | ending (cause : Option String)

/-- What an event brings on the stream of one connection. -/
def TrafficEvent.incoming? (id : Nat) : TrafficEvent → Option Incoming
  | .received k bytes => if k = id then some (.piece bytes) else none
  | .ended k => if k = id then some (.ending none) else none
  | .failed k cause => if k = id then some (.ending (some cause)) else none
  | .arrived _ | .ignoring _ | .closed => none

/-- A stream so far: its bytes and, if it has ended, how. -/
structure Inflow where
  bytes : List UInt8
  ending : Option (Option String)

/-- The stream that comes in these steps. -/
def Inflow.of : List Incoming → Inflow
  | [] => ⟨[], none⟩
  | .piece bytes :: more =>
    let s := Inflow.of more
    ⟨bytes ++ s.bytes, s.ending⟩
  | .ending cause :: _ => ⟨[], some cause⟩

namespace Connection

/-! ## 2.  A connection alone -/

/-- The connection, unless it has closed. -/
def open? (c : Connection) : Option Connection :=
  if c.isClosed then none else some c

/-- Takes a stream in one piece. -/
def takeInflow (c : Connection) (written : Nat → Option TransportError) (s : Inflow) :
    Connection × List Effect :=
  let (d, effects) := c.receive written s.bytes
  match s.ending with
  | none => (d, effects)
  | some cause =>
    let (e, last) := d.conclude written cause
    (e, effects ++ last)

/-- A new connection that takes a stream, and all that it leads to. -/
def alone (remote : SocketAddress) (written : Nat → Option TransportError) (s : Inflow) :
    Connection × List Effect :=
  let (c, effects) := (opened remote).takeInflow written s
  (c, (opened remote).openEffects ++ effects)

/-- Takes what comes. -/
def hear (c : Connection) (written : Nat → Option TransportError) :
    Incoming → Connection × List Effect
  | .piece bytes => c.receive written bytes
  | .ending cause => c.conclude written cause

/-- What a table holds of a connection that it held so far, step by step, and what the connection
leads to. -/
def followed (written : Nat → Option TransportError) :
    Option Connection → List Incoming → Option Connection × List Effect
  | c, [] => (c, [])
  | none, _ :: _ => (none, [])
  | some c, incoming :: more =>
    let (d, effects) := c.hear written incoming
    let (e, others) := followed written d.open? more
    (e, effects ++ others)

variable (written : Nat → Option TransportError)

/-- A stream that has ended after its last byte makes the life that is served. -/
theorem alone_of_ended (remote : SocketAddress) (bytes : List UInt8) :
    (alone remote written ⟨bytes, some none⟩).2 = serve remote written bytes :=
  (List.append_assoc _ _ _).symm

@[simp] theorem open?_of_isClosed {c : Connection} (h : c.isClosed = true) : c.open? = none :=
  if_pos h

@[simp] theorem followed_none (incoming : List Incoming) :
    followed written none incoming = (none, []) := by
  cases incoming <;> rfl

theorem followed_append (c : Option Connection) (first second : List Incoming) :
    followed written c (first ++ second) =
      ((followed written (followed written c first).1 second).1,
        (followed written c first).2 ++
          (followed written (followed written c first).1 second).2) := by
  induction first generalizing c with
  | nil => rfl
  | cons incoming first ih =>
    cases c with
    | none => simp
    | some c =>
      rw [List.cons_append, followed, followed]
      dsimp only
      rw [ih, List.append_assoc]

/-- Two pieces are as good as one. -/
theorem receive_append (c : Connection) (first second : List UInt8) :
    c.receive written (first ++ second) =
      (((c.receive written first).1.receive written second).1,
        (c.receive written first).2 ++ ((c.receive written first).1.receive written second).2) := by
  have hone : c.receiveAll written [first ++ second] =
      ((c.receive written (first ++ second)).1, (c.receive written (first ++ second)).2 ++ []) :=
    rfl
  have htwo : c.receiveAll written [first, second] =
      (((c.receive written first).1.receive written second).1,
        (c.receive written first).2 ++
          (((c.receive written first).1.receive written second).2 ++ [])) :=
    rfl
  have hsame : c.receiveAll written [first ++ second] = c.receiveAll written [first, second] := by
    simp [receiveAll_eq, LineReader.feedAll_eq]
  rw [hone, htwo] at hsame
  simpa [Prod.ext_iff] using hsame

/-- Nothing more is read from a connection that has closed. -/
theorem receive_of_isClosed {c : Connection} (h : c.isClosed = true) (bytes : List UInt8) :
    (c.receive written bytes).1.isClosed = true ∧ (c.receive written bytes).2 = [] := by
  have hr : c.receive written bytes =
      (c.withReader (c.reader.feed bytes).1).takeLines written (c.reader.feed bytes).2 := rfl
  have hclosed : (c.withReader (c.reader.feed bytes).1).isClosed = true := h
  rw [hr, takeLines_of_isClosed hclosed]
  exact ⟨hclosed, rfl⟩

theorem conclude_of_isClosed {c : Connection} (h : c.isClosed = true) (cause : Option String) :
    (c.conclude written cause).2 = [] := by
  cases cause with
  | none => simp [conclude, finish, takeLines_of_isClosed h, h]
  | some cause => simp [conclude, fail, h]

theorem takeInflow_of_isClosed {c : Connection} (h : c.isClosed = true) (s : Inflow) :
    (c.takeInflow written s).1.isClosed = true ∧ (c.takeInflow written s).2 = [] := by
  obtain ⟨hclosed, heffects⟩ := receive_of_isClosed written h s.bytes
  unfold takeInflow
  cases s.ending with
  | none => exact ⟨hclosed, heffects⟩
  | some cause =>
    refine ⟨isClosed_conclude written _ cause, ?_⟩
    dsimp only
    rw [heffects, conclude_of_isClosed written hclosed]
    rfl

/-- A piece of the stream comes first. -/
theorem takeInflow_piece (c : Connection) (bytes : List UInt8) (s : Inflow) :
    c.takeInflow written ⟨bytes ++ s.bytes, s.ending⟩ =
      (((c.receive written bytes).1.takeInflow written s).1,
        (c.receive written bytes).2 ++ ((c.receive written bytes).1.takeInflow written s).2) := by
  unfold takeInflow
  dsimp only
  rw [receive_append]
  cases s.ending with
  | none => rfl
  | some cause => simp [List.append_assoc]

/-- **Following a connection in the table comes to giving it all of its stream.** -/
theorem followed_eq (c : Connection) (incoming : List Incoming) :
    followed written c.open? incoming =
      ((c.takeInflow written (.of incoming)).1.open?, (c.takeInflow written (.of incoming)).2) := by
  induction incoming generalizing c with
  | nil => rfl
  | cons i more ih =>
    cases hc : c.isClosed with
    | true =>
      obtain ⟨hclosed, heffects⟩ := takeInflow_of_isClosed written hc (.of (i :: more))
      rw [open?_of_isClosed hc, followed_none, open?_of_isClosed hclosed, heffects]
    | false =>
      have ho : c.open? = some c := if_neg (by simp [hc])
      rw [ho, followed]
      cases i with
      | piece bytes =>
        have hi : Inflow.of (.piece bytes :: more) =
            ⟨bytes ++ (Inflow.of more).bytes, (Inflow.of more).ending⟩ := rfl
        dsimp only [hear]
        rw [ih, hi, takeInflow_piece]
      | ending cause =>
        have ht : c.takeInflow written (.of (.ending cause :: more)) =
            c.conclude written cause := rfl
        dsimp only [hear]
        rw [ht, open?_of_isClosed (isClosed_conclude written c cause), followed_none]
        simp

end Connection

/-! ## 3.  A connection in the table -/

namespace Traffic

variable {t : Traffic η} {id : Nat} (written : Nat → Nat → Option TransportError)

/-- An event that brings something on a stream is served to its connection. -/
theorem next_of_incoming {event : TrafficEvent} {incoming : Incoming}
    (h : event.incoming? id = some incoming) (t : Traffic η) :
    t.next written event = t.serve id fun c => c.hear (written id) incoming := by
  cases event with
  | arrived | ignoring | closed => cases h
  | received k bytes =>
    obtain ⟨rfl, rfl⟩ : k = id ∧ Incoming.piece bytes = incoming := by
      simpa [TrafficEvent.incoming?] using h
    rfl
  | ended k =>
    obtain ⟨rfl, rfl⟩ : k = id ∧ Incoming.ending none = incoming := by
      simpa [TrafficEvent.incoming?] using h
    rfl
  | failed k cause =>
    obtain ⟨rfl, rfl⟩ : k = id ∧ Incoming.ending (some cause) = incoming := by
      simpa [TrafficEvent.incoming?] using h
    rfl

theorem serve_self (t : Traffic η) (id : Nat)
    (take : Connection → Connection × List Connection.Effect) :
    ((t.serve id take).1.connection? id, about id (t.serve id take).2) =
      match t.connection? id with
      | none => (none, [])
      | some c => ((take c).1.open?, (take c).2) := by
  cases hc : t.connection? id with
  | none =>
    rw [serve, hc]
    exact congrArg (·, []) hc
  | some c =>
    rw [serve_eq hc, about_map_self]
    exact congrArg (·, _) (connection?_update_self t hc)

theorem serve_of_ne (t : Traffic η) {k : Nat} (h : k ≠ id)
    (take : Connection → Connection × List Connection.Effect) :
    (t.serve k take).1.connection? id = t.connection? id ∧
      about id (t.serve k take).2 = [] := by
  cases hc : t.connection? k with
  | none =>
    rw [serve, hc]
    exact ⟨rfl, rfl⟩
  | some c =>
    rw [serve_eq hc]
    exact ⟨connection?_update_of_ne t h _, about_map_of_ne h _⟩

/-- **What happens elsewhere is nothing to a connection**, when its number was given before. -/
theorem next_of_not_incoming {event : TrafficEvent} (h : event.incoming? id = none)
    (hid : id < t.acceptor.nextId) :
    (t.next written event).1.connection? id = t.connection? id ∧
      about id (t.next written event).2 = [] := by
  cases event with
  | arrived remote =>
    show (t.arrive remote).1.connection? id = _ ∧ about id (t.arrive remote).2 = []
    obtain ⟨records, ha⟩ | ⟨a, -, ha⟩ := arrive_cases t remote
    · rw [ha]
      exact ⟨rfl, about_dropped id records⟩
    · have hne : t.acceptor.nextId ≠ id := Nat.ne_of_gt hid
      rw [ha, connection?_append, if_neg hne, Option.or_none]
      exact ⟨rfl, about_map_of_ne hne _⟩
  | received k bytes => exact serve_of_ne t (fun hk => by simp [TrafficEvent.incoming?, hk] at h) _
  | ended k => exact serve_of_ne t (fun hk => by simp [TrafficEvent.incoming?, hk] at h) _
  | failed k cause => exact serve_of_ne t (fun hk => by simp [TrafficEvent.incoming?, hk] at h) _
  | ignoring addresses => exact ⟨rfl, rfl⟩
  | closed => exact ⟨rfl, about_closed id _ _⟩

/-- **What an event means for a connection** is what it brings on the connection's own stream. -/
theorem next_followed (event : TrafficEvent) (hid : id < t.acceptor.nextId) :
    ((t.next written event).1.connection? id, about id (t.next written event).2) =
      Connection.followed (written id) (t.connection? id) (event.incoming? id).toList := by
  cases hi : event.incoming? id with
  | none =>
    obtain ⟨hsame, hnothing⟩ := next_of_not_incoming written hi hid
    rw [hsame, hnothing]
    rfl
  | some incoming =>
    rw [next_of_incoming written hi, serve_self]
    cases t.connection? id with
    | none => rfl
    | some c => exact congrArg ((c.hear (written id) incoming).1.open?, ·) (List.append_nil _).symm

/-- A connection that is let in gets the next number, and observers are told. -/
theorem arrive_of_admitted {remote : SocketAddress}
    (h : (t.acceptor.accept remote).2 = .admitted id) :
    id = t.acceptor.nextId ∧ (t.arrive remote).1.acceptor.nextId = id + 1 ∧
      about id (t.arrive remote).2 = (Connection.opened remote).openEffects ∧
      (t.connection? id = none →
        (t.arrive remote).1.connection? id = some (.opened remote)) := by
  have hadm : t.acceptor.accept remote =
      ({ t.acceptor with
          tracked := t.acceptor.nextId :: t.acceptor.tracked
          nextId := t.acceptor.nextId + 1 }, .admitted t.acceptor.nextId) := by
    unfold Acceptor.accept at h ⊢
    split at h
    · cases h
    split at h
    · cases h
    split at h
    · cases h
    rw [if_neg ‹_›, if_neg ‹_›, if_neg ‹_›]
  rw [hadm] at h
  obtain rfl : t.acceptor.nextId = id := by simpa using h
  rw [arrive, hadm]
  refine ⟨rfl, rfl, about_map_self _ _, fun hc => ?_⟩
  rw [connection?_append, if_pos rfl]
  exact congrArg (Option.or · _) hc

end Traffic

/-! ## 4.  A connection among others -/

namespace Exchange

variable {w : Setting M} {threads capacity : Nat} {x y : Exchange η M} {id : Nat}

/-- What a move brings on the stream of one connection. -/
def Move.incoming? (id : Nat) : Move M → Option Incoming
  | .hear event => event.incoming? id
  | .start _ | .perform .. | .take .. | .act _ | .finish .. | .leave _ | .close | .liveness _ =>
      none

/-- The stream of a connection so far. -/
def inflow (id : Nat) (moves : List (Move M)) : Inflow :=
  .of (moves.filterMap (Move.incoming? id))

/-- A connection that was let in goes from one state to the next as it does in its table, in what
the table holds and in what its reader has done and has still to do. -/
structure Follows (w : Setting M) (id : Nat) (x : Exchange η M) (incoming : List Incoming)
    (y : Exchange η M) : Prop where
  given : id < y.intake.traffic.acceptor.nextId
  connection?_eq : y.intake.traffic.connection? id =
    (Connection.followed (w.written id) (x.intake.traffic.connection? id) incoming).1
  heard_eq : y.seen id ++ y.due id = x.seen id ++ x.due id ++
    (Connection.followed (w.written id) (x.intake.traffic.connection? id) incoming).2

/-- A move that brings nothing on the stream changes nothing about the connection. -/
theorem Follows.of_eq (hid : id < x.intake.traffic.acceptor.nextId)
    (hn : y.intake.traffic.acceptor.nextId = x.intake.traffic.acceptor.nextId)
    (hc : y.intake.traffic.connection? id = x.intake.traffic.connection? id)
    (hh : y.seen id ++ y.due id = x.seen id ++ x.due id) : Follows w id x [] y where
  given := hn ▸ hid
  connection?_eq := hc
  heard_eq := hh.trans (List.append_nil _).symm

theorem Follows.hear (hid : id < x.intake.traffic.acceptor.nextId) (event : TrafficEvent) :
    Follows w id x (event.incoming? id).toList (x.hear w event) := by
  obtain ⟨hc, he⟩ :=
    Prod.mk.inj (Traffic.next_followed (t := x.intake.traffic) w.written event hid)
  exact
    { given := Nat.lt_of_lt_of_le hid (Traffic.nextId_le_next w.written _ event)
      connection?_eq := hc
      heard_eq := by
        show x.seen id ++ (x.due id ++
          Traffic.about id (x.intake.traffic.next w.written event).2) = _
        rw [he, List.append_assoc] }

/-- **One move.** -/
theorem Sound.follows_next? (hs : Sound w threads capacity x)
    (hid : id < x.intake.traffic.acceptor.nextId) {move : Move M} (h : x.next? w move = some y) :
    Follows w id x (move.incoming? id).toList y := by
  cases move with
  | hear event =>
    cases h
    exact .hear hid event
  | start network =>
    cases h
    exact .of_eq hid (Intake.nextId_start network _) (Intake.connection?_start network _ id) rfl
  | perform k stamp sink =>
    have hh := heard_perform? h id
    obtain ⟨_, _, _, -, -, rfl⟩ := perform?_cases h
    exact .of_eq hid rfl rfl hh
  | take worker handler =>
    obtain ⟨-, -, -, rfl⟩ := take?_cases hs.dispatch_eq h
    exact .of_eq hid rfl rfl rfl
  | act job =>
    obtain ⟨-, -, -, -, -, -, -, rfl⟩ := act?_cases h
    exact .of_eq hid rfl rfl rfl
  | finish worker ending =>
    obtain ⟨-, -, -, -, rfl⟩ := finish?_cases hs.dispatch_eq h
    exact .of_eq hid rfl rfl rfl
  | leave worker =>
    obtain ⟨-, -, rfl⟩ := leave?_cases hs.dispatch_eq h
    exact .of_eq hid rfl rfl rfl
  | close | liveness =>
    cases h
    exact .of_eq hid rfl rfl rfl

/-- **Any number of moves.** -/
theorem Sound.follows_run? (hs : Sound w threads capacity x)
    (hid : id < x.intake.traffic.acceptor.nextId) {moves : List (Move M)}
    (h : x.run? w moves = some y) :
    Follows w id x (moves.filterMap (Move.incoming? id)) y := by
  induction moves generalizing x with
  | nil =>
    cases h
    exact .of_eq hid rfl rfl rfl
  | cons move moves ih =>
    rw [Exchange.run?] at h
    split at h
    · cases h
    · rename_i z hz
      have hmove := hs.follows_next? hid hz
      have hmoves := ih (hs.next? hz) hmove.given h
      have happ : (move :: moves).filterMap (Move.incoming? id) =
          (move.incoming? id).toList ++ moves.filterMap (Move.incoming? id) := by
        rw [List.filterMap_cons]
        cases move.incoming? id <;> rfl
      have hfollowed := Connection.followed_append (w.written id)
        (x.intake.traffic.connection? id) (move.incoming? id).toList
        (moves.filterMap (Move.incoming? id))
      rw [← hmove.connection?_eq] at hfollowed
      rw [happ]
      exact
        { given := hmoves.given
          connection?_eq := by rw [hfollowed, hmoves.connection?_eq]
          heard_eq := by rw [hfollowed, hmoves.heard_eq, hmove.heard_eq, List.append_assoc] }

/-- **Connections do not disturb each other.**  An intake is made and anything happens to it, with
any number of connections and workers and in any order.  A connection that is let in leads to what
it leads to alone on the same stream, and it has closed exactly if it has closed alone. -/
theorem connections_isolated {w : Setting M} {config : Config} {cluster : Option η}
    {observers : List η} {grace : Nat} {network : Acceptor.Network} {acceptor : Acceptor η}
    {n : Intake η} {built : List (Intake.Effect M)}
    (hn : Intake.make? config cluster observers grace network acceptor = .ok (n, built))
    {before : List (Move M)} {x : Exchange η M} (hx : (of n).run? w before = some x)
    {remote : SocketAddress} {id : Nat}
    (hadmitted : (x.intake.traffic.acceptor.accept remote).2 = .admitted id)
    {after : List (Move M)} {y : Exchange η M}
    (hy : x.run? w (.hear (.arrived remote) :: after) = some y) :
    y.seen id ++ y.due id =
        (Connection.alone remote (w.written id) (inflow id after)).2 ∧
      y.intake.traffic.connection? id =
        (Connection.alone remote (w.written id) (inflow id after)).1.open? := by
  obtain ⟨-, hs⟩ := sound_of w hn
  have hsx := hs.run? hx
  obtain ⟨rfl, hcounted, habout, hserves⟩ := Traffic.arrive_of_admitted hadmitted
  have hnothing : x.seen x.intake.traffic.acceptor.nextId ++
      x.due x.intake.traffic.acceptor.nextId = [] := by
    have h := hsx.heard x.intake.traffic.acceptor.nextId
    rw [hsx.unknown _ (Nat.le_refl _), hsx.next_free] at h
    generalize x.seen _ ++ x.due _ = effects at h
    cases h
    rfl
  have hopened := hserves hsx.next_free
  -- the rest is what follows after the arrival
  have hafter : (x.hear w (.arrived remote)).run? w after = some y := hy
  have hgiven : x.intake.traffic.acceptor.nextId <
      (x.hear w (.arrived remote)).intake.traffic.acceptor.nextId :=
    hcounted ▸ Nat.lt_succ_self _
  have hfollows := (hsx.hear (.arrived remote)).follows_run? hgiven hafter
  have hheard : (x.hear w (.arrived remote)).seen x.intake.traffic.acceptor.nextId ++
      (x.hear w (.arrived remote)).due x.intake.traffic.acceptor.nextId =
        (Connection.opened remote).openEffects := by
    show x.seen _ ++ (x.due _ ++ Traffic.about _ (x.intake.traffic.arrive remote).2) = _
    rw [← List.append_assoc, hnothing, habout]
    rfl
  have hconnection : (x.hear w (.arrived remote)).intake.traffic.connection?
      x.intake.traffic.acceptor.nextId = (Connection.opened remote).open? := hopened
  have hall := Connection.followed_eq (w.written x.intake.traffic.acceptor.nextId)
    (Connection.opened remote) (after.filterMap (Move.incoming? x.intake.traffic.acceptor.nextId))
  constructor
  · rw [hfollows.heard_eq, hheard, hconnection, hall]
    rfl
  · rw [hfollows.connection?_eq, hconnection, hall]
    rfl

/-- Somebody else's connection comes in between and sends before it has presented itself.  The
agent's connection runs. -/
theorem isolated_from_early_traffic :
    let w := smallSetting Placeholder.codec
    let other : SocketAddress := ⟨.v4 ⟨10, 0, 0, 2⟩, 4000, 0⟩
    let after : List (Move Envelope) :=
      [.hear (.arrived other), .perform 1 0 Placeholder.sink,
        .hear (.received 1 (Frame.pong 3).toLine), .hear (.received 0 smallHandshake.toLine)]
    ∃ x y, (of smallIntake : Exchange Empty Envelope).run? w [.start smallNetwork] = some x ∧
      (x.intake.traffic.acceptor.accept smallRemote).2 = .admitted 0 ∧
      x.run? w (.hear (.arrived smallRemote) :: after) = some y ∧
      y.seen 0 ++ y.due 0 =
        [.told .connected ⟨smallRemote, none⟩, .handshake (some smallProperties),
          .write (.handshakeResponse .acceptedDuplex) none,
          .told .runDuplex ⟨smallRemote, some smallProperties⟩] ∧
      y.intake.traffic.connection? 0 = some smallConnection := by
  intro w other after
  obtain ⟨built, hn⟩ := make?_small (M := Envelope)
  have hx : (of smallIntake : Exchange Empty Envelope).run? w [.start smallNetwork] =
      some { of smallIntake with intake := smallStarted } := by
    rw [run?, next?, ← start_small]
    rfl
  obtain ⟨y, hy⟩ : ∃ y, ({ of smallIntake with intake := smallStarted } :
      Exchange Empty Envelope).run? w (.hear (.arrived smallRemote) :: after) = some y :=
    ⟨_, rfl⟩
  have hadmitted : (smallStarted.traffic.acceptor.accept smallRemote).2 = .admitted 0 := rfl
  have halone : Connection.alone smallRemote (w.written 0) (inflow 0 after) =
      (smallConnection,
        [.told .connected ⟨smallRemote, none⟩, .handshake (some smallProperties),
          .write (.handshakeResponse .acceptedDuplex) none,
          .told .runDuplex ⟨smallRemote, some smallProperties⟩]) := by
    have hin : inflow 0 after = ⟨smallHandshake.toLine ++ [], none⟩ := rfl
    rw [hin, List.append_nil, Connection.alone, Connection.takeInflow,
      Connection.receive_toLine _ rfl plain_smallHandshake (by decide +kernel)]
    rfl
  obtain ⟨hheard, hconnection⟩ := connections_isolated hn hx hadmitted hy
  rw [halone] at hheard hconnection
  exact ⟨_, y, hx, hadmitted, hy, hheard, hconnection⟩

end Exchange

end AgentIntake
