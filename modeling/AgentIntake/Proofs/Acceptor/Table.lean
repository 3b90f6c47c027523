import AgentIntake.Proofs.Acceptor.Binding
import Mathlib.Data.List.Nodup
import Mathlib.Data.List.Perm.Basic
import Mathlib.Data.List.Range

/-!
# The table of connections

The acceptor keeps a table of the connections it has let in, so that closing it can cut them off.
The table is exact: at all times it holds the numbers of the connections that were let in, have not
ended and were not cut off, each once.  Closing the acceptor while it is bound cuts off all that are
left; from then on the table stays empty, and a connection that ends late finds nothing to take out.

What was let in, what has ended and what was cut off is read off the effects (`letIn`, `finished`,
`cutOff`), and `live` is what was let in and has not ended.  The invariant is `Tracked`: the table
is `live` in reverse until it has been emptied, and `live` is at the same time the list of
connections that are served.  What is cut off, and when, is added by `CutOnce`.

## Ending

Connections end in many ways: the agent goes, its stream breaks, its handshake is rejected, it sends
something else first or a frame that is too long.  All of them are one thing here.  Observers are
told that a connection has ended exactly when it closes (`told_closed_iff`), and this is read off
the automaton that connections follow.
-/

namespace AgentIntake

namespace Connection

/-! ## 1.  When a connection ends -/

namespace Stage

variable {remote : SocketAddress} {s t : Stage} {effects : List Effect} {q : Option Properties}

/-- Nothing comes after the end. -/
theorem eq_of_path_closed (h : Path remote (closed q) effects t) : t = closed q := by
  cases h with
  | nil => rfl
  | cons hn _ =>
    cases hn with
    | logged rests | closed rests => cases rests

/-- What comes last before the end is the news of it. -/
theorem told_of_next_closed {e : Effect} (h : Next remote s e (closed q)) :
    e = .told .closed ⟨remote, q⟩ := by
  cases h with
  | logged rests => cases rests
  | closed => rfl

/-- The news of the end comes at the end. -/
theorem closed_of_next_told {peer : Peer} (h : Next remote s (.told .closed peer) t) :
    ∃ q, t = closed q := by
  generalize he : Effect.told .closed peer = e at h
  cases h with
  | closed => exact ⟨_, rfl⟩
  | @runs p =>
    -- a connection that runs is not told to have ended
    have hs : ConnectionState.closed = (decide (some p)).runState := (Effect.told.inj he).1
    unfold Decision.runState at hs
    split at hs <;> cases hs
  | _ => cases he

end Stage

variable {written : Nat → Option TransportError} {c d : Connection} {effects : List Effect}

/-- **Observers are told that an open connection has ended exactly when it closes.** -/
theorem told_closed_iff (h : c.Follows written effects d) (hc : c.isClosed = false) :
    (∃ peer, .told .closed peer ∈ effects) ↔ d.isClosed = true := by
  have hp := h.path
  constructor
  · rintro ⟨peer, hm⟩
    obtain ⟨before, after, rfl⟩ := List.append_of_mem hm
    obtain ⟨s, hb, hrest⟩ := hp.split
    cases hrest with
    | cons hn ha =>
      obtain ⟨q, rfl⟩ := Stage.closed_of_next_told hn
      have hd := Stage.eq_of_path_closed ha
      by_contra hopen
      rw [stage_of_open (eq_false_of_ne_true hopen)] at hd
      cases hq : d.properties <;> rw [hq] at hd <;> cases hd
  · intro hd
    rw [stage_of_open hc, stage_of_closed hd] at hp
    have hne : Stage.between c.properties ≠ .closed d.properties := by
      cases c.properties <;> nofun
    obtain ⟨before, e, s, rfl, -, hn⟩ := hp.exists_last hne
    obtain rfl := Stage.told_of_next_closed hn
    exact ⟨⟨c.remote, d.properties⟩, by simp⟩

end Connection

namespace Traffic

variable {η : Type} {written : Nat → Nat → Option TransportError}

/-! ## 2.  What is seen of connections -/

namespace Effect

/-- The connection that is let in. -/
def letIn? : Effect → Option Nat
  | admitted id => some id
  | dropped | of .. | cut _ | logged _ => none

/-- The connection that has ended. -/
def finished? : Effect → Option Nat
  | of id (.told .closed _) => some id
  | of .. | admitted _ | dropped | cut _ | logged _ => none

/-- The connection that is cut off. -/
def cutOff? : Effect → Option Nat
  | cut id => some id
  | admitted _ | dropped | of .. | logged _ => none

end Effect

/-- The connections that are let in, in order. -/
def letIn (effects : List Effect) : List Nat :=
  effects.filterMap Effect.letIn?

/-- The connections that have ended. -/
def finished (effects : List Effect) : List Nat :=
  effects.filterMap Effect.finished?

/-- The connections that are cut off. -/
def cutOff (effects : List Effect) : List Nat :=
  effects.filterMap Effect.cutOff?

/-- The connections that were let in and have not ended, in the order of their arrival. -/
def live (effects : List Effect) : List Nat :=
  (letIn effects).filter (· ∉ finished effects)

section

variable (first second : List Effect) (id : Nat)

@[simp] theorem letIn_append : letIn (first ++ second) = letIn first ++ letIn second :=
  List.filterMap_append

@[simp] theorem finished_append : finished (first ++ second) = finished first ++ finished second :=
  List.filterMap_append

@[simp] theorem cutOff_append : cutOff (first ++ second) = cutOff first ++ cutOff second :=
  List.filterMap_append

variable {first second id}

theorem mem_live : id ∈ live first ↔ id ∈ letIn first ∧ id ∉ finished first := by
  simp [live]

/-- Those remain that do not end now, if nobody is let in. -/
theorem live_append_of_letIn (h : letIn second = []) :
    live (first ++ second) = (live first).filter (· ∉ finished second) := by
  rw [live, letIn_append, h, List.append_nil, live, List.filter_filter]
  refine List.filter_congr fun id _ => ?_
  simp [Bool.and_comm]

/-- A connection that is let in is live, if it has not ended before its time. -/
theorem live_append_of_admitted {n : Nat} (hl : letIn second = [n]) (hf : finished second = [])
    (hn : n ∉ finished first) : live (first ++ second) = live first ++ [n] := by
  rw [live, letIn_append, finished_append, hl, hf, List.append_nil, List.filter_append, live]
  simp [hn]

end

section

variable (records : List Log.Record) (effects : List Connection.Effect) (cut : List Nat) (id : Nat)

/-- Records are about no connection. -/
@[simp] theorem seen_logged :
    letIn (records.map .logged) = [] ∧ finished (records.map .logged) = [] ∧
    cutOff (records.map .logged) = [] := by
  simp [letIn, finished, cutOff, Effect.letIn?, Effect.finished?, Effect.cutOff?,
    List.filterMap_map, Function.comp_def]

@[simp] theorem seen_record (record : Log.Record) : letIn [.logged record] = [] ∧
    finished [.logged record] = [] ∧ cutOff [.logged record] = [] :=
  seen_logged [record]

/-- What belongs to a connection neither lets one in nor cuts one off. -/
@[simp] theorem seen_of :
    letIn (effects.map (.of id)) = [] ∧ cutOff (effects.map (.of id)) = [] := by
  simp [letIn, cutOff, Effect.letIn?, Effect.cutOff?, List.filterMap_map, Function.comp_def]

@[simp] theorem seen_cut : letIn (cut.map .cut) = [] ∧ finished (cut.map .cut) = [] ∧
    cutOff (cut.map .cut) = cut := by
  simp [letIn, finished, cutOff, Effect.letIn?, Effect.finished?, Effect.cutOff?,
    List.filterMap_map, Function.comp_def]

variable {effects id}

/-- A connection has ended if observers are told so, and no other has. -/
theorem mem_finished_of {k : Nat} : k ∈ finished (effects.map (.of id)) ↔
    k = id ∧ ∃ peer, .told .closed peer ∈ effects := by
  simp only [finished, List.filterMap_map, List.mem_filterMap, Function.comp_def]
  constructor
  · rintro ⟨e, hm, he⟩
    unfold Effect.finished? at he
    split at he
    · rename_i ho
      obtain ⟨rfl, rfl⟩ := Effect.of.inj ho
      exact ⟨(Option.some.inj he).symm, _, hm⟩
    · cases he
    all_goals cases he
  · rintro ⟨rfl, peer, hm⟩
    exact ⟨_, hm, rfl⟩

end

/-- The acceptor is closed while it is bound. -/
def Entry.drains (e : Entry η) : Bool :=
  e.turn.isClosing && e.earlier.acceptor.bound.isSome

/-- The acceptor was closed while it was bound. -/
def drained (log : List (Entry η)) : Bool :=
  log.any Entry.drains

@[simp] theorem drained_append_singleton (log : List (Entry η)) (e : Entry η) :
    drained (log ++ [e]) = (drained log || e.drains) := by
  simp [drained]

theorem closed_of_drained {log : List (Entry η)} (h : drained log = true) : closed log = true := by
  obtain ⟨e, hm, he⟩ := List.any_eq_true.1 h
  exact List.any_eq_true.2 ⟨e, hm, (Bool.and_eq_true_iff.1 he).1⟩

/-! ## 3.  What is promised -/

/-- The table as it is to be after a log.

Connections are numbered in the order in which they are let in (`letIn_eq`).  No number is in the
table twice (`nodup`).  The table holds the connections that were let in, have not ended and were
not cut off (`mem_tracked_iff`).  Until the acceptor is closed while it is bound, nobody is cut off
(`cutOff_eq`).  From then on the table is empty (`tracked_eq`).  At all times those connections are
served that were let in and have not ended (`served_eq`).  No connection is cut off twice
(`nodup_cutOff`). -/
structure Exact (log : List (Entry η)) (t : Traffic η) : Prop where
  letIn_eq : letIn (trace log) = List.range t.acceptor.nextId
  nodup : t.acceptor.tracked.Nodup
  mem_tracked_iff : ∀ id, id ∈ t.acceptor.tracked ↔
    id ∈ letIn (trace log) ∧ id ∉ finished (trace log) ∧ id ∉ cutOff (trace log)
  cutOff_eq : drained log = false → cutOff (trace log) = []
  tracked_eq : drained log = true → t.acceptor.tracked = []
  served_eq : t.served.map Prod.fst = live (trace log)
  nodup_cutOff : (cutOff (trace log)).Nodup

/-- What one turn does to the table after a past.

A connection from an ignored address is dropped, and nothing else happens: it gets no number
(`ignored`).  Any other is let in under the next number, if somebody listens and the acceptor has
not been closed (`admitted`).  A connection ends at the latest when its stream does (`ended`).
Closing the acceptor while it is bound cuts off every live connection once, reports how many they
are, and empties the table (`drains`).  Nothing else cuts off a connection (`spares`).  Once the
acceptor has been closed nobody is let in, and nothing gets into the table (`late`).  Once the table
has been emptied, there is nothing to take out of it, and whatever comes of a connection leaves the
acceptor as it is (`forgotten`). -/
structure Entry.Keeps (past : List (Entry η)) (e : Entry η) : Prop where
  ignored : ∀ remote, e.turn = .event (.arrived remote) →
    remote.ip ∈ e.earlier.acceptor.ignored → e.effects = [.dropped] ∧ e.later = e.earlier
  admitted : ∀ remote, e.turn = .event (.arrived remote) →
    remote.ip ∉ e.earlier.acceptor.ignored → heard past = true → closed past = false →
      letIn e.effects = [(letIn (trace past)).length] ∧
        e.later.acceptor.tracked = (letIn (trace past)).length :: e.earlier.acceptor.tracked
  ended : ∀ id ∈ live (trace past),
    (e.turn = .event (.ended id) ∨ ∃ cause, e.turn = .event (.failed id cause)) →
      id ∈ finished e.effects
  drains : e.turn = .event .closed → ∀ address, e.earlier.acceptor.bound = some address →
    e.later.acceptor.tracked = [] ∧ ∃ cut : List Nat, cut.Perm (live (trace past)) ∧
      e.effects = cut.map .cut ++
        [.logged (Acceptor.closedRecord address (live (trace past)).length)]
  spares : e.drains = false → cutOff e.effects = []
  late : closed past = true →
    letIn e.effects = [] ∧ ∀ id ∈ e.later.acceptor.tracked, id ∈ e.earlier.acceptor.tracked
  forgotten : drained past = true → (∀ id, e.earlier.acceptor.forget id = e.earlier.acceptor) ∧
    ∀ id, (∃ bytes, e.turn = .event (.received id bytes)) ∨ e.turn = .event (.ended id) ∨
      (∃ cause, e.turn = .event (.failed id cause)) → e.later.acceptor = e.earlier.acceptor

/-! ## 4.  One turn -/

/-- What connects the table, the connections that are served and the log.

The flags of the acceptor are what the log makes of them (`agrees`).  Connections are numbered in
order (`letIn_eq`).  No connection ends before it is let in (`lt_of_finished`).  Those are served
that are live (`served_eq`).  A connection that is served has not been closed (`isOpen`).  The table
holds what is live, the latest first, until it is emptied (`tracked_eq`). -/
structure Tracked (log : List (Entry η)) (t : Traffic η) : Prop where
  agrees : Agrees log t
  letIn_eq : letIn (trace log) = List.range t.acceptor.nextId
  lt_of_finished : ∀ id ∈ finished (trace log), id < t.acceptor.nextId
  served_eq : t.served.map Prod.fst = live (trace log)
  isOpen : ∀ entry ∈ t.served, entry.2.isClosed = false
  tracked_eq : t.acceptor.tracked = if drained log then [] else (live (trace log)).reverse

variable {log : List (Entry η)} {t : Traffic η}

theorem tracked_new : Tracked [] (of (.new : Acceptor η)) where
  agrees := agrees_new
  letIn_eq := rfl
  lt_of_finished _ hm := by cases hm
  served_eq := rfl
  isOpen _ hm := by cases hm
  tracked_eq := rfl

/-- A connection that is found is among those served. -/
theorem mem_of_connection? {id : Nat} {c : Connection} (h : t.connection? id = some c) :
    (id, c) ∈ t.served := by
  obtain ⟨⟨k, d⟩, hf, rfl⟩ := Option.map_eq_some_iff.1 h
  have hk : k = id := by simpa using List.find?_some hf
  subst hk
  exact List.mem_of_find?_eq_some hf

/-- What takes place at a connection, if it is served at all: it stays open or is told to have
ended. -/
theorem serve_cases (ho : ∀ entry ∈ t.served, entry.2.isClosed = false) (id : Nat)
    (take : Connection → Connection × List Connection.Effect)
    (h : ∀ c : Connection, c.Follows (written id) (take c).2 (take c).1) :
    t.serve id take = (t, []) ∨
      ∃ c d effects, t.connection? id = some c ∧
        t.serve id take = (t.update id d, effects.map (.of id)) ∧
        take c = (d, effects) ∧ ((∃ peer, .told .closed peer ∈ effects) ↔ d.isClosed = true) := by
  cases hc : t.connection? id with
  | none =>
    rw [serve, hc]
    exact .inl rfl
  | some c =>
    have hopen := ho _ (mem_of_connection? hc)
    exact .inr ⟨c, (take c).1, (take c).2, rfl, serve_eq hc take, rfl,
      Connection.told_closed_iff (h c) hopen⟩

/-- A turn at which nobody comes and no connection ends. -/
theorem Tracked.quiet (h : Tracked log t) {e : Entry η} (ha : Agrees (log ++ [e]) e.later)
    (hl : letIn e.effects = []) (hf : finished e.effects = [])
    (hn : e.later.acceptor.nextId = t.acceptor.nextId)
    (ht : e.later.acceptor.tracked = if e.drains then [] else t.acceptor.tracked)
    (hs : e.later.served.map Prod.fst = t.served.map Prod.fst)
    (ho : ∀ entry ∈ e.later.served, entry.2.isClosed = false) : Tracked (log ++ [e]) e.later where
  agrees := ha
  letIn_eq := by rw [trace_append_singleton, letIn_append, hl, List.append_nil, hn, h.letIn_eq]
  lt_of_finished := by
    rw [trace_append_singleton, finished_append, hf, List.append_nil, hn]
    exact h.lt_of_finished
  served_eq := by
    rw [hs, h.served_eq, trace_append_singleton, live_append_of_letIn hl, hf]
    simp
  isOpen := ho
  tracked_eq := by
    rw [ht, h.tracked_eq, trace_append_singleton, live_append_of_letIn hl, hf]
    cases hd : e.drains <;> simp [hd]

/-- A connection that takes something is served in its place. -/
theorem map_fst_update (t : Traffic η) {id : Nat} {d : Connection} (hd : d.isClosed = false) :
    (t.update id d).served.map Prod.fst = t.served.map Prod.fst := by
  rw [update, if_neg (by simp [hd]), List.map_map]
  refine List.map_congr_left fun entry _ => ?_
  by_cases he : entry.1 = id <;> simp [he]

/-- A connection that takes something and stays open. -/
theorem Tracked.stays (h : Tracked log t) {e : Entry η} (ha : Agrees (log ++ [e]) e.later)
    (hdrains : e.drains = false) {id : Nat} {d : Connection} {effects : List Connection.Effect}
    (heffects : e.effects = effects.map (.of id)) (hlater : e.later = t.update id d)
    (hopen : d.isClosed = false) (huntold : ¬ ∃ peer, .told .closed peer ∈ effects) :
    Tracked (log ++ [e]) e.later := by
  have hl : letIn e.effects = [] := by simp [heffects]
  have hf : finished e.effects = [] := by
    rw [heffects, List.eq_nil_iff_forall_not_mem]
    exact fun k hk => huntold (mem_finished_of.1 hk).2
  have hu : t.update id d =
      { t with served := t.served.map fun entry => if entry.1 = id then (id, d) else entry } := by
    rw [update, if_neg (by simp [hopen])]
  refine h.quiet ha hl hf ?_ ?_ ?_ ?_
  · rw [hlater, hu]
  · rw [hlater, hu, hdrains]
    rfl
  · rw [hlater, map_fst_update t hopen]
  · rw [hlater, hu]
    intro entry hm
    obtain ⟨old, hold, rfl⟩ := List.mem_map.1 hm
    split
    · exact hopen
    · exact h.isOpen _ hold

/-- A live connection that takes something and closes. -/
theorem Tracked.leaves (h : Tracked log t) {e : Entry η} (ha : Agrees (log ++ [e]) e.later)
    (hdrains : e.drains = false) {id : Nat} {d : Connection} {effects : List Connection.Effect}
    (heffects : e.effects = effects.map (.of id)) (hlater : e.later = t.update id d)
    (hclosed : d.isClosed = true) (htold : ∃ peer, .told .closed peer ∈ effects)
    (hm : id ∈ live (trace log)) : Tracked (log ++ [e]) e.later := by
  have hl : letIn e.effects = [] := by simp [heffects]
  have hf : ∀ k, k ∈ finished e.effects ↔ k = id := by
    intro k
    rw [heffects, mem_finished_of]
    exact and_iff_left htold
  have hu : t.update id d = ⟨t.acceptor.forget id, t.served.filter (·.1 ≠ id)⟩ := by
    rw [update, if_pos hclosed]
  have hlive : live (trace (log ++ [e])) = (live (trace log)).filter (· ≠ id) := by
    rw [trace_append_singleton, live_append_of_letIn hl]
    refine List.filter_congr fun k _ => ?_
    simp [hf]
  have hid : id < t.acceptor.nextId := by
    rw [mem_live, h.letIn_eq] at hm
    exact List.mem_range.1 hm.1
  constructor
  · exact ha
  · rw [trace_append_singleton, letIn_append, hl, List.append_nil, hlater, hu, h.letIn_eq]
    rfl
  · rw [trace_append_singleton, finished_append, hlater, hu]
    intro k hk
    rcases List.mem_append.1 hk with hk | hk
    · exact h.lt_of_finished k hk
    · rw [(hf k).1 hk]
      exact hid
  · rw [hlive, ← h.served_eq, hlater, hu, List.filter_map]
    rfl
  · rw [hlater, hu]
    exact fun entry hm => h.isOpen _ (List.mem_of_mem_filter hm)
  · rw [hlive, hlater, hu, drained_append_singleton, hdrains, Bool.or_false]
    show t.acceptor.tracked.filter _ = _
    rw [h.tracked_eq]
    split
    · rfl
    · rw [List.filter_reverse]

/-- **A connection that takes something keeps the table as it is to be.** -/
theorem Tracked.serve (h : Tracked log t) {event : TrafficEvent} {id : Nat}
    {take : Connection → Connection × List Connection.Effect}
    (hf : ∀ c : Connection, c.Follows (written id) (take c).2 (take c).1)
    (he : t.next written event = t.serve id take) (hne : event ≠ .closed) :
    Tracked (log ++ [t.take written (.event event)]) (t.take written (.event event)).later := by
  have ha := h.agrees.step written (.event event)
  have hd : (t.take written (.event event)).drains = false := by
    cases event <;> first | rfl | exact absurd rfl hne
  have heffects : (t.take written (.event event)).effects = (t.serve id take).2 := by rw [← he]; rfl
  have hlater : (t.take written (.event event)).later = (t.serve id take).1 := by rw [← he]; rfl
  rcases serve_cases h.isOpen id take hf with hs | ⟨c, d, effects, hc, hs, -, htold⟩
  · rw [hs] at heffects hlater
    apply h.quiet ha (by rw [heffects]; rfl) (by rw [heffects]; rfl)
    · rw [hlater]
    · rw [hlater, hd]
      rfl
    · rw [hlater]
    · rw [hlater]
      exact h.isOpen
  · rw [hs] at heffects hlater
    cases hclosed : d.isClosed with
    | false =>
      refine h.stays ha hd heffects hlater hclosed fun ht => ?_
      rw [htold.1 ht] at hclosed
      cases hclosed
    | true =>
      refine h.leaves ha hd heffects hlater hclosed (htold.2 hclosed) ?_
      rw [← h.served_eq]
      exact List.mem_map_of_mem (mem_of_connection? hc)

/-- Nobody comes or goes where a connection is dropped. -/
theorem Tracked.drop (h : Tracked log t) {remote : SocketAddress} (records : List Log.Record)
    (hd : t.arrive remote = (t, records.map .logged ++ [.dropped])) :
    Tracked (log ++ [t.take written (.event (.arrived remote))])
      (t.take written (.event (.arrived remote))).later := by
  have he : t.take written (.event (.arrived remote)) =
      ⟨t, .event (.arrived remote), records.map .logged ++ [.dropped], .none, t⟩ := by
    simp [take, next, hd]
  have ha := h.agrees.step written (.event (.arrived remote))
  rw [he] at ha ⊢
  exact h.quiet ha (by simp; rfl) (by simp; rfl) rfl rfl rfl h.isOpen

/-- **A connection that is let in gets into the table.** -/
theorem Tracked.admit (h : Tracked log t) {remote : SocketAddress}
    (hi : remote.ip ∉ t.acceptor.ignored) (hl : t.acceptor.hasListener = true)
    (hc : t.acceptor.isClosed = false) :
    Tracked (log ++ [t.take written (.event (.arrived remote))])
      (t.take written (.event (.arrived remote))).later := by
  have ha := h.agrees.step written (.event (.arrived remote))
  have he := t.arrive_of_ready remote hi hl hc
  have hfresh : t.acceptor.nextId ∉ finished (trace log) :=
    fun hm => Nat.lt_irrefl _ (h.lt_of_finished _ hm)
  have hdrained : drained log = false := by
    by_contra hd
    have hclosed := closed_of_drained (eq_true_of_ne_false hd)
    rw [← h.agrees.isClosed, hc] at hclosed
    cases hclosed
  generalize hu : t.take written (.event (.arrived remote)) = e at ha ⊢
  have heffects : e.effects = .admitted t.acceptor.nextId ::
      (Connection.opened remote).openEffects.map (.of t.acceptor.nextId) := by
    rw [← hu]
    exact congrArg Prod.snd he
  have hlater : e.later = (t.arrive remote).1 := by
    rw [← hu]
    rfl
  rw [he] at hlater
  have hlet : letIn e.effects = [t.acceptor.nextId] := by rw [heffects]; rfl
  have hfin : finished e.effects = [] := by rw [heffects]; rfl
  have hdrains : e.drains = false := by rw [← hu]; rfl
  have hlive := live_append_of_admitted hlet hfin hfresh
  constructor
  · exact ha
  · rw [trace_append_singleton, letIn_append, hlet, h.letIn_eq, hlater, List.range_succ]
  · rw [trace_append_singleton, finished_append, hfin, List.append_nil, hlater]
    exact fun id hm => Nat.lt_succ_of_lt (h.lt_of_finished id hm)
  · rw [trace_append_singleton, hlive, ← h.served_eq, hlater]
    simp
  · rw [hlater]
    intro entry hm
    rcases List.mem_append.1 hm with hm | hm
    · exact h.isOpen entry hm
    · rw [List.mem_singleton.1 hm]
      rfl
  · rw [trace_append_singleton, hlive, drained_append_singleton, hdrained, hdrains, hlater]
    show _ :: t.acceptor.tracked = _
    rw [h.tracked_eq, hdrained]
    simp

/-- What closing the acceptor does while it is bound. -/
theorem take_closed_of_bound {address : SocketAddress} (h : t.acceptor.bound = some address) :
    t.take written (.event .closed) =
      ⟨t, .event .closed, t.acceptor.tracked.map .cut ++
        [.logged (Acceptor.closedRecord address t.acceptor.tracked.length)], .none,
        { t with acceptor :=
            { t.acceptor with isClosed := true, bound := none, tracked := [] } }⟩ := by
  simp [take, next, Acceptor.close, h]

theorem take_closed_of_unbound (h : t.acceptor.bound = none) :
    t.take written (.event .closed) =
      ⟨t, .event .closed, [], .none,
      { t with acceptor := { t.acceptor with isClosed := true } }⟩ := by
  simp [take, next, Acceptor.close_of_unbound h]

/-- **Every turn keeps the table as it is to be.** -/
theorem Tracked.step (h : Tracked log t) (turn : Turn η) :
    Tracked (log ++ [t.take written turn]) (t.take written turn).later := by
  have ha := h.agrees.step written turn
  cases turn with
  | addObserver | setListener | localAddress => exact h.quiet ha rfl rfl rfl rfl rfl h.isOpen
  | bind system host port =>
    cases hn : t.acceptor.bindable system.network host port with
    | error cause =>
      have hr := take_of_error written hn
      have hsame := hr.same.trans (earlier_take written t _)
      apply h.quiet ha (by rw [hr.unseen]; rfl) (by rw [hr.unseen]; rfl) <;> rw [hsame]
      · simp [Entry.drains, Turn.isClosing]
      · exact h.isOpen
    | ok own =>
      rw [take_of_ok hn] at ha ⊢
      exact h.quiet ha rfl rfl rfl rfl rfl h.isOpen
  | event event =>
    cases event with
    | arrived remote =>
      by_cases hi : remote.ip ∈ t.acceptor.ignored
      · exact h.drop [] (t.arrive_of_ignored remote hi)
      by_cases hr : t.acceptor.hasListener = true ∧ t.acceptor.isClosed = false
      · exact h.admit hi hr.1 hr.2
      · obtain ⟨records, hd⟩ := t.arrive_of_unready remote fun hl =>
          eq_true_of_ne_false fun hc => hr ⟨hl, hc⟩
        exact h.drop records hd
    | received id bytes =>
      exact h.serve (fun c => Connection.follows_receive _ c bytes) rfl (by simp)
    | ended id => exact h.serve (fun c => Connection.follows_finish _ c) rfl (by simp)
    | failed id cause => exact h.serve (fun c => Connection.follows_fail _ c cause) rfl (by simp)
    | ignoring addresses => exact h.quiet ha rfl rfl rfl rfl rfl h.isOpen
    | closed =>
      cases hb : t.acceptor.bound with
      | none =>
        rw [take_closed_of_unbound hb] at ha ⊢
        exact h.quiet ha rfl rfl rfl (by simp [Entry.drains, hb]) rfl h.isOpen
      | some address =>
        rw [take_closed_of_bound hb] at ha ⊢
        exact h.quiet ha (by simp) (by simp) rfl
          (by simp [Entry.drains, Turn.isClosing, hb]) rfl h.isOpen

/-! ## 5.  What follows from the invariant -/

theorem Tracked.length_letIn (h : Tracked log t) :
    (letIn (trace log)).length = t.acceptor.nextId := by
  rw [h.letIn_eq, List.length_range]

theorem Tracked.nodup_live (h : Tracked log t) : (live (trace log)).Nodup := by
  rw [live, h.letIn_eq]
  exact List.nodup_range.filter _

/-- An acceptor that is bound has never been closed, so its table is what is live. -/
theorem Tracked.tracked_of_bound (h : Tracked log t) (hb : t.acceptor.bound.isSome = true) :
    drained log = false ∧ t.acceptor.tracked = (live (trace log)).reverse := by
  have hd : drained log = false := by
    by_contra hd
    rw [h.agrees.bound, closed_of_drained (eq_true_of_ne_false hd)] at hb
    simp at hb
  exact ⟨hd, by rw [h.tracked_eq, hd]; rfl⟩

theorem Tracked.nodup (h : Tracked log t) : t.acceptor.tracked.Nodup := by
  rw [h.tracked_eq]
  split
  · exact List.nodup_nil
  · exact List.nodup_reverse.2 h.nodup_live

/-- A live connection is served. -/
theorem Tracked.exists_connection? (h : Tracked log t) {id : Nat} (hm : id ∈ live (trace log)) :
    ∃ c, t.connection? id = some c := by
  rw [← h.served_eq] at hm
  obtain ⟨entry, he, rfl⟩ := List.mem_map.1 hm
  have hs : (t.served.find? (·.1 = entry.1)).isSome = true :=
    List.find?_isSome.2 ⟨entry, he, by simp⟩
  obtain ⟨found, hf⟩ := Option.isSome_iff_exists.1 hs
  exact ⟨found.2, by rw [connection?, hf]; rfl⟩

/-- What a connection takes neither lets one in nor cuts one off. -/
theorem seen_serve (t : Traffic η) (id : Nat)
    (take : Connection → Connection × List Connection.Effect) :
    letIn (t.serve id take).2 = [] ∧ cutOff (t.serve id take).2 = [] := by
  cases hc : t.connection? id with
  | none =>
    rw [serve, hc]
    exact ⟨rfl, rfl⟩
  | some c =>
    rw [serve_eq hc]
    exact seen_of _ id

/-- A live connection that takes the end of its stream has ended. -/
theorem Tracked.ends (h : Tracked log t) {id : Nat} (hm : id ∈ live (trace log))
    {take : Connection → Connection × List Connection.Effect}
    (hf : ∀ c : Connection, c.Follows (written id) (take c).2 (take c).1)
    (hc : ∀ c : Connection, (take c).1.isClosed = true) : id ∈ finished (t.serve id take).2 := by
  obtain ⟨c, hfound⟩ := h.exists_connection? hm
  rw [serve_eq hfound]
  have hopen := h.isOpen _ (mem_of_connection? hfound)
  exact mem_finished_of.2 ⟨rfl, (Connection.told_closed_iff (hf c) hopen).2 (hc c)⟩

/-- Only closing the acceptor while it is bound cuts off connections. -/
theorem cutOff_take (t : Traffic η) {turn : Turn η} (h : (t.take written turn).drains = false) :
    cutOff (t.take written turn).effects = [] := by
  cases turn with
  | addObserver | setListener | localAddress => rfl
  | bind system host port => exact (seen_logged _).2.2
  | event event =>
    cases event with
    | arrived remote =>
      show cutOff (t.arrive remote).2 = []
      obtain ⟨records, hd⟩ | ⟨a, -, hd⟩ := arrive_cases t remote
      · rw [hd]
        simp
        rfl
      · rw [hd]
        rfl
    | received | ended | failed => exact (seen_serve t _ _).2
    | ignoring => rfl
    | closed =>
      have hb : t.acceptor.bound = none := by
        simpa [take, Entry.drains, Turn.isClosing] using h
      rw [take_closed_of_unbound hb]
      rfl

theorem Tracked.late (h : Tracked log t) (hc : closed log = true) (turn : Turn η) :
    letIn (t.take written turn).effects = [] ∧
      ∀ id ∈ (t.take written turn).later.acceptor.tracked, id ∈ t.acceptor.tracked := by
  have hclosed : t.acceptor.isClosed = true := h.agrees.isClosed.trans hc
  have hserve : ∀ id (take : Connection → Connection × List Connection.Effect),
      ∀ k ∈ (t.serve id take).1.acceptor.tracked, k ∈ t.acceptor.tracked := by
    intro id take k hk
    rcases t.acceptor_serve id take with hs | hs
    · rwa [hs] at hk
    · rw [hs] at hk
      exact List.mem_of_mem_filter hk
  cases turn with
  | addObserver | setListener | localAddress => exact ⟨rfl, fun _ hm => hm⟩
  | bind system host port =>
    have hb : t.acceptor.bindable system.network host port = .error .closed :=
      Acceptor.bindable_of_closed hclosed
    have hr := take_of_error written hb
    rw [hr.unseen, hr.same]
    exact ⟨rfl, by simp⟩
  | event event =>
    cases event with
    | arrived remote =>
      show letIn (t.arrive remote).2 = [] ∧ ∀ id ∈ (t.arrive remote).1.acceptor.tracked, _
      obtain ⟨records, hd⟩ := t.arrive_of_unready remote fun _ => hclosed
      rw [hd]
      exact ⟨by simp; rfl, fun _ hm => hm⟩
    | received | ended | failed => exact ⟨(seen_serve t _ _).1, hserve _ _⟩
    | ignoring => exact ⟨rfl, fun _ hm => hm⟩
    | closed =>
      have hb : t.acceptor.bound = none := by
        rw [← Option.not_isSome_iff_eq_none, h.agrees.bound, hc]
        simp
      rw [take_closed_of_unbound hb]
      exact ⟨rfl, fun _ hm => hm⟩

theorem Tracked.forgotten (h : Tracked log t) (hd : drained log = true) (id : Nat) :
    t.acceptor.forget id = t.acceptor := by
  have ht : t.acceptor.tracked = [] := by rw [h.tracked_eq, hd]; rfl
  rw [Acceptor.forget, ht]
  exact congrArg (fun tracked => { t.acceptor with tracked := tracked }) ht.symm

/-- **One turn does what is promised**, if the table is as it is to be. -/
theorem Tracked.keeps (h : Tracked log t) (turn : Turn η) : (t.take written turn).Keeps log where
  ignored remote ht hi := by
    obtain rfl : turn = .event (.arrived remote) := by simpa using ht
    have he := t.arrive_of_ignored remote (by simpa using hi)
    simp [take, next, he]
  admitted remote ht hi hl hc := by
    obtain rfl : turn = .event (.arrived remote) := by simpa using ht
    have he := t.arrive_of_ready remote (by simpa using hi)
      (h.agrees.hasListener.trans hl) (h.agrees.isClosed.trans hc)
    rw [h.length_letIn]
    show letIn (t.arrive remote).2 = _ ∧ (t.arrive remote).1.acceptor.tracked = _
    rw [he]
    exact ⟨rfl, rfl⟩
  ended id hm ht := by
    rcases ht with ht | ⟨cause, ht⟩
    · obtain rfl : turn = .event (.ended id) := by simpa using ht
      exact h.ends hm (fun c => Connection.follows_finish (written id) c)
        fun c => Connection.isClosed_finish _ c
    · obtain rfl : turn = .event (.failed id cause) := by simpa using ht
      exact h.ends hm (fun c => Connection.follows_fail (written id) c cause)
        fun c => Connection.isClosed_fail c cause
  drains ht address hb := by
    obtain rfl : turn = .event .closed := by simpa using ht
    have hbound : t.acceptor.bound = some address := by simpa using hb
    have htracked := (h.tracked_of_bound (by rw [hbound]; rfl)).2
    rw [take_closed_of_bound hbound]
    refine ⟨rfl, t.acceptor.tracked, ?_, ?_⟩
    · rw [htracked]
      exact List.reverse_perm _
    · rw [htracked, List.length_reverse]
  spares hd := cutOff_take t hd
  late hc := by
    rw [earlier_take]
    exact h.late hc turn
  forgotten hd := by
    rw [earlier_take]
    refine ⟨h.forgotten hd, fun id ht => ?_⟩
    have hserve : ∀ take, (t.serve id take).1.acceptor = t.acceptor := by
      intro take
      rcases t.acceptor_serve id take with hs | hs
      · exact hs
      · rw [hs, h.forgotten hd id]
    rw [turn_take] at ht
    obtain ⟨bytes, rfl⟩ | rfl | ⟨cause, rfl⟩ := ht <;> exact hserve _

/-! ## 6.  A whole life -/

theorem tracked_life (written : Nat → Nat → Option TransportError) (turns : List (Turn η)) :
    Tracked ((of .new).life written turns) ((of .new).after written turns) :=
  life_induction written tracked_new (fun _ _ turn h => h.step turn) turns

/-- What was cut off, against what is live: no connection twice, none before the acceptor is closed
while it is bound, and afterwards all that are still live. -/
structure CutOnce (log : List (Entry η)) : Prop where
  nodup : (cutOff (trace log)).Nodup
  none : drained log = false → cutOff (trace log) = []
  all : drained log = true → ∀ id ∈ live (trace log), id ∈ cutOff (trace log)

/-- A turn that does not empty the table cuts off nobody, and lets nobody in once it is empty. -/
theorem CutOnce.spare (hc : CutOnce log) (h : Tracked log t) {turn : Turn η}
    (hd : (t.take written turn).drains = false) : CutOnce (log ++ [t.take written turn]) := by
  have hcut : cutOff (trace (log ++ [t.take written turn])) = cutOff (trace log) := by
    rw [trace_append_singleton, cutOff_append, cutOff_take t hd, List.append_nil]
  constructor
  · rw [hcut]
    exact hc.nodup
  · rw [hcut, drained_append_singleton, hd, Bool.or_false]
    exact hc.none
  · rw [hcut, drained_append_singleton, hd, Bool.or_false]
    intro hdrained id hm
    have hl : letIn (t.take written turn).effects = [] :=
      (h.late (closed_of_drained hdrained) turn).1
    rw [trace_append_singleton, live_append_of_letIn hl] at hm
    exact hc.all hdrained id (List.mem_of_mem_filter hm)

/-- Closing the acceptor while it is bound, which happens once, cuts off each live connection
once. -/
theorem CutOnce.drain (hc : CutOnce log) (h : Tracked log t) {turn : Turn η}
    (hd : (t.take written turn).drains = true) : CutOnce (log ++ [t.take written turn]) := by
  obtain ⟨hclosing, hb⟩ := Bool.and_eq_true_iff.1 hd
  rw [earlier_take] at hb
  obtain ⟨address, hbound⟩ := Option.isSome_iff_exists.1 hb
  obtain rfl : turn = .event .closed := by
    rw [turn_take] at hclosing
    unfold Turn.isClosing at hclosing
    split at hclosing <;> first | rfl | cases hclosing
  obtain ⟨hfirst, htracked⟩ := h.tracked_of_bound hb
  have hcut : cutOff (trace (log ++ [t.take written (.event .closed)])) = t.acceptor.tracked := by
    rw [trace_append_singleton, cutOff_append, hc.none hfirst, take_closed_of_bound hbound]
    simp
  have hlive : live (trace (log ++ [t.take written (.event .closed)])) = live (trace log) := by
    rw [trace_append_singleton, take_closed_of_bound hbound, live_append_of_letIn (by simp)]
    simp
  constructor
  · rw [hcut]
    exact h.nodup
  · simp [hd]
  · rw [hcut, hlive, htracked]
    exact fun _ id hm => List.mem_reverse.2 hm

/-- **Every connection is cut off at most once**, and all that are live when the acceptor is closed
while it is bound. -/
theorem cutOnce_life (written : Nat → Nat → Option TransportError) (turns : List (Turn η)) :
    CutOnce ((of .new).life written turns) := by
  refine (life_induction (P := fun log t => Tracked log t ∧ CutOnce log) written
    ⟨tracked_new, List.nodup_nil, fun _ => rfl, nofun⟩ ?_ turns).2
  rintro past u turn ⟨h, hc⟩
  refine ⟨h.step turn, ?_⟩
  cases hd : (u.take written turn).drains with
  | false => exact hc.spare h hd
  | true => exact hc.drain h hd

/-- The table holds what is live and was not cut off. -/
theorem Tracked.mem_tracked_iff (h : Tracked log t) (hc : CutOnce log) (id : Nat) :
    id ∈ t.acceptor.tracked ↔
      id ∈ letIn (trace log) ∧ id ∉ finished (trace log) ∧ id ∉ cutOff (trace log) := by
  rw [h.tracked_eq, ← and_assoc, ← mem_live]
  cases hd : drained log with
  | false => simp [hc.none hd]
  | true => simpa using hc.all hd id

/-- **The table of connections is exact.**  The acceptor starts new and takes any turns: connections
arrive, send what they like and end in whatever way, others are ignored, and it is bound and
closed. -/
theorem tracking_exact (written : Nat → Nat → Option TransportError) (turns : List (Turn η)) :
    Exact ((of .new).life written turns) ((of .new).after written turns) ∧
      ∀ past e rest, (of .new).life written turns = past ++ e :: rest → e.Keeps past := by
  have h := tracked_life written turns
  have hc := cutOnce_life written turns
  constructor
  · constructor
    · exact h.letIn_eq
    · exact h.nodup
    · exact h.mem_tracked_iff hc
    · exact hc.none
    · intro hd
      rw [h.tracked_eq, hd]
      rfl
    · exact h.served_eq
    · exact hc.nodup
  · intro past e rest hlog
    exact entry_of_life written tracked_new (fun _ _ turn h => h.step turn)
      (fun _ _ turn h => h.keeps turn) hlog

/-- Two connections are let in, the first ends, and the acceptor is closed before the second
does. -/
example :
    let remote (port : UInt16) : SocketAddress := ⟨.v4 ⟨10, 0, 0, 1⟩, port, 0⟩
    let system : Acceptor.System := ⟨fun _ => .ok [], fun address => .ok address⟩
    let turns : List (Turn Unit) :=
      [.setListener, .bind system "10.0.0.9" 9994, .event (.arrived (remote 1)),
        .event (.arrived (remote 2)), .event (.ended 0), .event .closed,
        .event (.arrived (remote 3)), .event (.ended 1)]
    let log := (of .new).life (fun _ _ => none) turns
    log.map (·.later.acceptor.tracked) = [[], [], [0], [1, 0], [1], [], [], []] ∧
      letIn (trace log) = [0, 1] ∧ finished (trace log) = [0, 1] ∧ cutOff (trace log) = [1] := by
  refine ⟨?_, ?_, ?_, ?_⟩ <;> decide +kernel

end Traffic

end AgentIntake
