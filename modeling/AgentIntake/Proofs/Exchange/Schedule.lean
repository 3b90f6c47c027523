import AgentIntake.Proofs.Exchange.Correlation
import AgentIntake.Service

/-!
# The order that the program takes

An exchange may go on in any order.  The program takes one of them: what follows from an event is
done at once (`Sound.exists_heard`), and then whoever of the workers can get on does
(`Sound.exists_settled`).  So every state of the program is that of an exchange, and the frames that
the program tells of are those that the exchange has written (`Sound.exists_turns`).  What was
proved of exchanges therefore holds of the program that runs (`program_correlates`).

## Why it is enough to look at the dispatch pool

The liveness pool shares nothing with the streams: none of its effects is a frame, and an exchange
lets it get on in whatever way.
-/

namespace AgentIntake

variable {η M : Type}

/-! ## 1.  What is no frame -/

namespace Intake

theorem frames_recordsOf (id k : Nat) (records : List Log.Record) :
    (recordsOf (M := M) id records).filterMap (Effect.frameOn? k) = [] := by
  rw [recordsOf, List.filterMap_map]
  exact List.filterMap_eq_nil_iff.2 fun _ _ => rfl

/-- The receiver writes nothing itself. -/
theorem frames_listen (r : Receiver ReplyTo η) (stamp : UInt64) (sink : Sink) (id : Nat)
    (remote : SocketAddress) (effect : Connection.Effect) (k : Nat) :
    (listen (M := M) r stamp sink id remote effect).2.filterMap (Effect.frameOn? k) = [] := by
  cases effect with
  | handshake | send | request => exact frames_recordsOf id k _
  | ping packet peer =>
    show List.filterMap _ (List.map _ _) = []
    rw [List.filterMap_map]
    exact List.filterMap_eq_nil_iff.2 fun _ _ => rfl
  | told | write | logged => rfl

/-- Neither do the workers of the liveness pool. -/
theorem frames_liveness (sink : Sink) (pool : Pool Ping) (k : Nat) :
    (pool.settle fun ping =>
        (Liveness.recordWork sink ping).map (Effect.liveness (M := M) none)).2.filterMap
      (Effect.frameOn? k) = [] := by
  refine List.filterMap_eq_nil_iff.2 fun e he => ?_
  obtain ⟨ping, hp⟩ := Pool.exists_of_mem_settle he
  rw [Work.effects_map] at hp
  obtain ⟨effect, -, rfl⟩ := List.mem_map.1 hp
  rfl

/-- Nor does the acceptor when it does what the receiver asks of it. -/
theorem frames_obey (network : Acceptor.Network) (a : Acceptor η) (call : AcceptorCall η)
    (k : Nat) :
    (obey (M := M) network a call).2.filterMap (Effect.frameOn? k) = [] := by
  cases call with
  | addObserver | setIgnored | setListener => rfl
  | bind host port =>
    show List.filterMap _ (List.map _ _) = []
    rw [List.filterMap_map]
    exact List.filterMap_eq_nil_iff.2 fun _ _ => rfl
  | close =>
    show List.filterMap _ (List.map _ _ ++ List.map _ _) = []
    rw [List.filterMap_append, List.filterMap_map, List.filterMap_map, List.append_eq_nil_iff]
    exact ⟨List.filterMap_eq_nil_iff.2 fun _ _ => rfl, List.filterMap_eq_nil_iff.2 fun _ _ => rfl⟩

theorem frames_obeyAll (network : Acceptor.Network) (a : Acceptor η)
    (effects : List (Receiver.Effect η)) (k : Nat) :
    (obeyAll (M := M) network a effects).2.filterMap (Effect.frameOn? k) = [] := by
  induction effects generalizing a with
  | nil => rfl
  | cons effect effects ih =>
    cases effect with
    | health | logged => exact ih a
    | acceptor call =>
      have hall : (obeyAll (M := M) network a (.acceptor call :: effects)).2 =
          (obey network a call).2 ++
            (obeyAll network (obey (M := M) network a call).1 effects).2 := rfl
      rw [hall, List.filterMap_append, frames_obey, ih]
      rfl

/-- An effect of a connection is told, and the receiver takes it. -/
theorem listenAll_of {remotes : Nat → Option SocketAddress} {id : Nat} {remote : SocketAddress}
    {effect : Connection.Effect}
    (h : remotes id = some remote ∨ remotes id = none ∧ ∃ state peer, effect = .told state peer)
    (stamp : UInt64) (sink : Sink) (r : Receiver ReplyTo η) (rest : List Traffic.Effect) :
    listenAll (M := M) stamp sink remotes r (.of id effect :: rest) =
      ((listenAll (M := M) stamp sink remotes
          (listen (M := M) r stamp sink id remote effect).1 rest).1,
        .traffic (.of id effect) :: (listen r stamp sink id remote effect).2 ++
          (listenAll stamp sink remotes
            (listen (M := M) r stamp sink id remote effect).1 rest).2) := by
  rcases h with h | ⟨h, state, peer, rfl⟩
  · simp only [listenAll, h]
  · simp only [listenAll, h, listen]

end Intake

namespace Exchange

variable {w : Setting M} {threads capacity : Nat} {x y z : Exchange η M}

/-- One state leads to another, and what is written meanwhile are the frames of the effects. -/
structure LeadsBy (w : Setting M) (x : Exchange η M) (effects : List (Intake.Effect M))
    (y : Exchange η M) : Prop where
  leads : Leads w x y
  wire : ∀ id, y.wire id = x.wire id ++ effects.filterMap (Intake.Effect.frameOn? id)

theorem LeadsBy.refl (w : Setting M) (x : Exchange η M) : LeadsBy w x [] x :=
  ⟨.refl w x, fun _ => (List.append_nil _).symm⟩

theorem LeadsBy.trans {first second : List (Intake.Effect M)} (h : LeadsBy w x first y)
    (k : LeadsBy w y second z) : LeadsBy w x (first ++ second) z where
  leads := h.leads.trans k.leads
  wire id := by rw [k.wire, h.wire, List.filterMap_append, List.append_assoc]

/-- A step that writes nothing. -/
theorem LeadsBy.silent (h : Leads w x y) (hw : y.wire = x.wire) : LeadsBy w x [] y :=
  ⟨h, fun id => by rw [hw]; exact (List.append_nil _).symm⟩

/-! ## 2.  Readers -/

/-- What the acceptor does that is about no connection leaves nothing due. -/
theorem about_cons_of_none (effect : Traffic.Effect) {k : Nat} (h : effect.about? k = none)
    (rest : List Traffic.Effect) : Traffic.about k (effect :: rest) = Traffic.about k rest :=
  List.filterMap_cons_none h

/-- A reader does the first thing that is due, and the receiver takes it. -/
theorem exists_performed {id : Nat} {remote : SocketAddress} {e : Connection.Effect}
    {later : List Connection.Effect} (hr : x.remote id = some remote) (hd : x.due id = e :: later)
    (stamp : UInt64) (sink : Sink) :
    ∃ y, LeadsBy w x (.traffic (.of id e) ::
        (Intake.listen (M := M) x.intake.receiver stamp sink id remote e).2) y ∧
      y.intake =
        { x.intake with
          receiver := (Intake.listen (M := M) x.intake.receiver stamp sink id remote e).1 } ∧
      y.remote = x.remote ∧ y.due id = later ∧ ∀ k, k ≠ id → y.due k = x.due k := by
  obtain ⟨y, hy⟩ : ∃ y, x.perform? id stamp sink = some y := by
    rw [perform?, hr, hd]
    exact ⟨_, rfl⟩
  have hl : Leads w x y := .next (.perform id stamp sink) hy
  obtain ⟨remote', e', later', hr', hd', rfl⟩ := perform?_cases hy
  obtain rfl := Option.some.inj (hr.symm.trans hr')
  obtain ⟨rfl, rfl⟩ := List.cons.inj (hd.symm.trans hd')
  refine ⟨_, ⟨hl, fun k => ?_⟩, rfl, rfl, if_pos rfl, fun k hk => if_neg hk⟩
  rw [List.filterMap_cons, Intake.frames_listen]
  show x.wire k ++ _ = _
  cases Intake.Effect.frameOn? (M := M) k (.traffic (.of id e)) <;> rfl

/-- The readers do all that is due, in the order in which it was heard. -/
theorem exists_all_performed (stamp : UInt64) (sink : Sink) (remotes : Nat → Option SocketAddress)
    (effects : List Traffic.Effect) (hdue : ∀ k, x.due k = Traffic.about k effects)
    (hknown : ∀ id e, Traffic.Effect.of id e ∈ effects → ∃ remote, x.remote id = some remote ∧
      (remotes id = some remote ∨ remotes id = none ∧ ∃ state peer, e = .told state peer)) :
    ∃ y, LeadsBy w x
        (Intake.listenAll (M := M) stamp sink remotes x.intake.receiver effects).2 y ∧
      y.intake =
        { x.intake with
          receiver :=
            (Intake.listenAll (M := M) stamp sink remotes x.intake.receiver effects).1 } ∧
      ∀ k, y.due k = [] := by
  induction effects generalizing x with
  | nil => exact ⟨x, .refl w x, rfl, hdue⟩
  | cons effect rest ih =>
    have hrest := fun id e hm => hknown id e (List.mem_cons_of_mem _ hm)
    cases effect with
    | of id e =>
      obtain ⟨remote, hr, hremotes⟩ := hknown id e List.mem_cons_self
      have hd : x.due id = e :: Traffic.about id rest :=
        (hdue id).trans (List.filterMap_cons_some (if_pos rfl))
      obtain ⟨y, hy, hyi, hyr, hyd, hyo⟩ := exists_performed (w := w) hr hd stamp sink
      have hdue' : ∀ k, y.due k = Traffic.about k rest := by
        intro k
        by_cases hk : k = id
        · rw [hk, hyd]
        · rw [hyo k hk, hdue]
          exact about_cons_of_none (.of id e) (if_neg (Ne.symm hk)) rest
      obtain ⟨z, hz, hzi, hzd⟩ := ih hdue' (by rw [hyr]; exact hrest)
      rw [hyi] at hz hzi
      rw [Intake.listenAll_of hremotes]
      exact ⟨z, hy.trans hz, hzi, hzd⟩
    | admitted | dropped | cut | logged =>
      obtain ⟨y, hy, hyi, hyd⟩ :=
        ih (fun k => (hdue k).trans (about_cons_of_none _ rfl rest)) hrest
      exact ⟨y, ⟨hy.leads, hy.wire⟩, hyi, hyd⟩

/-- What the effects of an event are about: a connection that was served before, or one that is let
in. -/
theorem Sound.known (hs : Sound w threads capacity x) {event : TrafficEvent} {id : Nat}
    {e : Connection.Effect}
    (h : Traffic.Effect.of id e ∈ (x.intake.traffic.next w.written event).2) :
    ∃ remote, (x.hear w event).remote id = some remote ∧
      ((x.intake.traffic.connection? id).map (·.remote) = some remote ∨
        (x.intake.traffic.connection? id).map (·.remote) = none ∧
          ∃ state peer, e = .told state peer) := by
  have hm : e ∈ Traffic.about id (x.intake.traffic.next w.written event).2 :=
    List.mem_filterMap.2 ⟨_, h, if_pos rfl⟩
  have hshare : Traffic.Share _ _ _ id _ := Traffic.share_next w.written hs.next_free event
  generalize Traffic.about id (x.intake.traffic.next w.written event).2 = effects at hm hshare
  cases hshare with
  | nothing => cases hm
  | opened remote new _ serves =>
    refine ⟨remote, ?_, .inr ⟨?_, _, _, List.mem_singleton.1 hm⟩⟩
    · exact congrArg (fun c => (Option.map Connection.remote c).or (x.remote id)) serves
    · rw [← new, hs.next_free]
      rfl
  | @followed c d effects was =>
    have hheard := hs.heard id
    rw [was] at hheard
    refine ⟨c.remote, (hs.grows_hear event).remote id c.remote hheard.served.1, .inl ?_⟩
    rw [was]
    rfl

/-- **The program takes what a connection does.** -/
theorem Sound.exists_heard (hs : Sound w threads capacity x) (hrest : ∀ k, x.due k = [])
    (stamp : UInt64) (sink : Sink) (event : TrafficEvent) :
    ∃ y, LeadsBy w x (x.intake.take w.written stamp sink event).2 y ∧
      y.intake = (x.intake.take (M := M) w.written stamp sink event).1 ∧ ∀ k, y.due k = [] := by
  have hdue : ∀ k, (x.hear w event).due k =
      Traffic.about k (x.intake.traffic.next w.written event).2 := fun k =>
    (congrArg (· ++ _) (hrest k)).trans (List.nil_append _)
  obtain ⟨y, hy, hyi, hyd⟩ := exists_all_performed stamp sink
    (fun id => (x.intake.traffic.connection? id).map (·.remote)) _ hdue fun _ _ hm => hs.known hm
  exact ⟨y, ⟨.cons (.hear event) rfl hy.leads, hy.wire⟩, hyi, hyd⟩

/-! ## 3.  Workers -/

/-- A job gets on up to its first wait. -/
theorem exists_begun (before after : List (Job M)) {j : Job M}
    (hb : x.jobs = before ++ j :: after) :
    ∃ y k, LeadsBy w x j.ahead.beforeWait y ∧ y.jobs = before ++ k :: after ∧ k.ticket = j.ticket ∧
      (j.ahead.hasWait = false → k.ahead = []) ∧ y.history = x.history ∧ y.intake = x.intake ∧
      y.due = x.due := by
  -- by induction on what is still to be done
  generalize ha : j.ahead = ahead
  induction ahead generalizing x j with
  | nil => exact ⟨x, j, .refl w x, hb, rfl, fun _ => ha, rfl, rfl, rfl⟩
  | cons step ahead ih =>
    cases step with
    | wait => exact ⟨x, j, .refl w x, hb, rfl, nofun, rfl, rfl, rfl⟩
    | effect e =>
      have hn : j.next? = some ({ j with done := j.done ++ [e], ahead := ahead }, some e) := by
        rw [Job.next?, ha]
      have hy := act?_of_next? hb hn
      obtain ⟨z, l, hl, hzb, hlt, hla, hzh, hzi, hzd⟩ :=
        ih (x := { x with wire := _, jobs := before ++ _ :: after })
          (j := { j with done := j.done ++ [e], ahead := ahead }) rfl rfl
      have hleads := Leads.cons (.act before.length) hy hl.leads
      refine ⟨z, l, ⟨hleads, fun id => ?_⟩, hzb, hlt, hla, hzh, hzi, hzd⟩
      rw [hl.wire, Work.beforeWait, List.filterMap_cons]
      show x.wire id ++ _ ++ _ = _
      rw [List.append_assoc]
      cases hf : e.frameOn? id <;> simp [hf]

/-- A worker leaves when its pool lets it. -/
theorem Sound.leave?_eq (hs : Sound w threads capacity x) {worker : Nat}
    {pool : Pool (Pool.Ticket (Delivery ReplyTo))} (h : x.history.pool.leave? worker = some pool) :
    x.leave? worker =
      some
        { x with
          intake := withDispatch x.intake (pool.map Prod.fst)
          history := { x.history with pool := pool } } := by
  unfold Exchange.leave?
  rw [hs.dispatch_eq, Pool.leave?_map, h]
  simp [Pool.History.next?, h]

/-- The idle workers leave, one after the other, when nothing is left for them. -/
theorem Sound.exists_dismissed (hs : Sound w threads capacity x) :
    ∃ y, LeadsBy w x [] y ∧ y.history.pool = x.history.pool.dismiss ∧
      y.intake = withDispatch x.intake (x.history.pool.dismiss.map Prod.fst) ∧ y.due = x.due := by
  generalize hn : x.history.pool.workers.countP Worker.isIdle = n
  induction n using Nat.strongRecOn generalizing x with
  | ind n ih =>
    obtain hd | ⟨worker, pool, hl, hd, hlt⟩ := Pool.dismiss_cases x.history.pool
    · refine ⟨x, .refl w x, hd.symm, ?_, rfl⟩
      rw [hd, ← hs.dispatch_eq]
      rfl
    · have hy := hs.leave?_eq hl
      obtain ⟨z, hz, hzp, hzi, hzd⟩ := ih _ (hn ▸ hlt) (hs.leads (.next (.leave worker) hy)) rfl
      exact ⟨z, .trans (.silent (.next (.leave worker) hy) rfl) hz, hzp.trans hd,
        hzi.trans (congrArg (fun p => withDispatch x.intake (Pool.map Prod.fst p)) hd), hzd⟩

/-- What a worker does with a task. -/
def Setting.work (w : Setting M) (handler : Handler M) (ticket : Pool.Ticket (Delivery ReplyTo)) :
    Work (Intake.Effect M) :=
  Intake.dispatchWork w.codec handler w.reply ticket.1

/-- A worker takes a task and gets on with it, up to its first wait or until it is done with it. -/
theorem Sound.exists_worked (hs : Sound w threads capacity x) (handler : Handler M) {worker : Nat}
    {ticket : Pool.Ticket (Delivery ReplyTo)} {q : Pool (Pool.Ticket (Delivery ReplyTo))}
    (ht : x.history.pool.take? worker = some (ticket, q)) :
    ∃ y, LeadsBy w x (w.work handler ticket).beforeWait y ∧
      y.history.pool = (if (w.work handler ticket).hasWait then q else q.finish worker) ∧
      y.intake = withDispatch x.intake (y.history.pool.map Prod.fst) ∧ y.due = x.due := by
  have hx := hs.take?_eq ht handler
  have hsx := hs.leads (.next (.take worker handler) hx)
  obtain ⟨y, k, hy, hyb, hkt, hka, hyh, hyi, hyd⟩ :=
    exists_begun (w := w) (x := { x with intake := _, history := _, jobs := _ }) x.jobs [] rfl
  have hl := LeadsBy.trans (.silent (.next (.take worker handler) hx) rfl) hy
  by_cases hw : (w.work handler ticket).hasWait = true
  · refine ⟨y, hl, ?_, ?_, hyd⟩
    · rw [hyh, if_pos hw]
    · rw [hyi, hyh]
  · obtain ⟨before, after, queue, rfl, -, -, hq⟩ := Pool.take?_cases ht
    have hf : q.finish? before.length =
        some (ticket, { q with workers := before ++ .idle :: after }) :=
      Pool.finish?_of_busy (by rw [hq])
    have hfinish := (hsx.leads hy.leads).finish?_eq (k := k) (by rw [hyh, hkt]; exact hf)
      (by rw [hyb]; exact List.mem_append_right _ (List.mem_singleton_self k))
      (hka (Bool.eq_false_iff.2 hw)) .returned
    have hz := hl.trans (.silent (.next (.finish before.length .returned) hfinish) rfl)
    rw [List.nil_append, List.append_nil] at hz
    refine ⟨_, hz, ?_, ?_, hyd⟩
    · rw [if_neg hw, Pool.finish, hf]
      rfl
    · rw [hyi]
      rfl

/-- Whoever of the workers of the dispatch pool can get on does. -/
theorem Sound.exists_eager (hs : Sound w threads capacity x) (handler : Handler M) :
    ∃ y, LeadsBy w x (x.history.pool.settle (w.work handler)).2 y ∧
      y.intake =
        withDispatch x.intake ((x.history.pool.settle (w.work handler)).1.map Prod.fst) ∧
      y.due = x.due := by
  generalize hp : x.history.pool = p
  fun_induction Pool.settle (w.work handler) p generalizing x with
  | case1 p h =>
    obtain ⟨y, hy, -, hyi, hyd⟩ := hs.exists_dismissed
    exact ⟨y, hy, hp ▸ hyi, hyd⟩
  | case2 p worker ticket q h next r effects he =>
    rename_i ih
    rw [← hp] at h
    obtain ⟨y, hy, hyp, hyi, hyd⟩ := hs.exists_worked handler (Pool.take?_of_takeNext? h)
    obtain ⟨z, hz, hzi, hzd⟩ := ih (hs.leads hy.leads) hyp
    rw [he] at hz hzi
    refine ⟨z, hy.trans hz, ?_, hzd.trans hyd⟩
    rw [hzi, hyi]
    rfl

/-- **The workers of the program get on.** -/
theorem Sound.exists_settled (hs : Sound w threads capacity x) (handler : Handler M) (sink : Sink) :
    ∃ y, LeadsBy w x (x.intake.settle w.codec handler w.reply sink).2 y ∧
      y.intake = (x.intake.settle w.codec handler w.reply sink).1 ∧ y.due = x.due := by
  obtain ⟨y, hy, hyi, hyd⟩ := hs.exists_eager handler
  have hsettle : x.intake.receiver.dispatch.settle (Intake.dispatchWork w.codec handler w.reply) =
      ((x.history.pool.settle (w.work handler)).1.map Prod.fst,
        (x.history.pool.settle (w.work handler)).2) := by
    rw [hs.dispatch_eq]
    exact Pool.settle_map Prod.fst _ _
  unfold Intake.settle
  rw [hsettle]
  cases he : x.intake.receiver.events with
  | none => exact ⟨y, hy, hyi, hyd⟩
  | some pool =>
    let events := (pool.settle fun ping =>
      (Liveness.recordWork sink ping).map (Intake.Effect.liveness (M := M) none)).1
    have hz := hy.trans (.silent (.next (.liveness (some events)) rfl) rfl)
    rw [List.append_nil] at hz
    refine ⟨_, ⟨hz.leads, fun id => ?_⟩, ?_, hyd⟩
    · rw [hz.wire, List.filterMap_append, Intake.frames_liveness, List.append_nil]
    · rw [hyi]
      rfl

end Exchange

/-! ## 4.  The program -/

/-- What the program does in one go: the intake is started; it takes what a connection does, at a
time and with a sink; or the workers get on, with the handler and the sink that they find. -/
inductive Turn (M : Type) where
  | start (network : Acceptor.Network)
  | take (stamp : UInt64) (sink : Sink) (event : TrafficEvent)
  | settle (handler : Handler M) (sink : Sink)

namespace Intake

/-- The intake after a turn, and the effects of the turn. -/
def turn (w : Exchange.Setting M) (n : Intake η) : Turn M → Intake η × List (Effect M)
  | .start network => ((n.start (M := M) network).1, (n.start network).2.1)
  | .take stamp sink event => n.take w.written stamp sink event
  | .settle handler sink => n.settle w.codec handler w.reply sink

/-- The intake after turns in order, and the effects on the way there. -/
def turns (w : Exchange.Setting M) (n : Intake η) : List (Turn M) → Intake η × List (Effect M)
  | [] => (n, [])
  | turn :: rest =>
    (((n.turn w turn).1.turns w rest).1, (n.turn w turn).2 ++ ((n.turn w turn).1.turns w rest).2)

end Intake

/-- The service takes two turns for each event. -/
theorem Service.next_eq_turns (n : Collector) (written : Nat → Nat → Option TransportError)
    (stamp : UInt64) (event : TrafficEvent) :
    Service.next n written stamp event =
      n.turns ⟨Placeholder.codec, written, fun _ _ => .value ()⟩
        [.take stamp Placeholder.sink event, .settle Placeholder.handler Placeholder.sink] := by
  rw [Intake.turns, Intake.turns, Intake.turns, List.append_nil]
  rfl

namespace Exchange

variable {w : Setting M} {threads capacity : Nat} {x : Exchange η M}

theorem Sound.exists_turn (hs : Sound w threads capacity x) (hrest : ∀ k, x.due k = [])
    (turn : Turn M) :
    ∃ y, LeadsBy w x (x.intake.turn w turn).2 y ∧ y.intake = (x.intake.turn w turn).1 ∧
      ∀ k, y.due k = [] := by
  cases turn with
  | start network =>
    refine ⟨_, ⟨.next (.start network) rfl, fun k => ?_⟩, rfl, hrest⟩
    show x.wire k = x.wire k ++ List.filterMap _ (Intake.obeyAll network _ _).2
    rw [Intake.frames_obeyAll, List.append_nil]
  | take stamp sink event => exact hs.exists_heard hrest stamp sink event
  | settle handler sink =>
    obtain ⟨y, hy, hyi, hyd⟩ := hs.exists_settled handler sink
    exact ⟨y, hy, hyi, fun k => (congrFun hyd k).trans (hrest k)⟩

/-- **The program's states are states of an exchange**, and the frames it tells of are those
written. -/
theorem Sound.exists_turns (hs : Sound w threads capacity x) (hrest : ∀ k, x.due k = [])
    (turns : List (Turn M)) :
    ∃ y, LeadsBy w x (x.intake.turns w turns).2 y ∧ y.intake = (x.intake.turns w turns).1 ∧
      ∀ k, y.due k = [] := by
  induction turns generalizing x with
  | nil => exact ⟨x, .refl w x, rfl, hrest⟩
  | cons turn rest ih =>
    obtain ⟨y, hy, hyi, hyd⟩ := hs.exists_turn hrest turn
    obtain ⟨z, hz, hzi, hzd⟩ := ih (hs.leads hy.leads) hyd
    rw [hyi] at hz hzi
    exact ⟨z, hy.trans hz, hzi, hzd⟩

/-- **What the program writes goes where it belongs.**  An intake is made, and the program takes
turns of whatever kind.  Then nothing is left to do for a reader, and each connection was written
what belongs to it. -/
theorem program_correlates (hw : w.Writes) {config : Config} {cluster : Option η}
    {observers : List η} {grace : Nat} {network : Acceptor.Network} {acceptor : Acceptor η}
    {n : Intake η} {built : List (Intake.Effect M)}
    (hn : Intake.make? config cluster observers grace network acceptor = .ok (n, built))
    (turns : List (Turn M)) :
    ∃ x : Exchange η M, Leads w (of n) x ∧ x.intake = (n.turns w turns).1 ∧ ∀ id, x.due id = [] ∧
      x.wire id = (n.turns w turns).2.filterMap (Intake.Effect.frameOn? id) ∧
        Correlated w.codec x id := by
  obtain ⟨ht, hs⟩ := sound_of w hn
  obtain ⟨x, hx, hxi, hxd⟩ := hs.exists_turns (fun _ => rfl) turns
  exact ⟨x, hx.leads, hxi, fun id =>
    ⟨hxd id, (hx.wire id).trans (List.nil_append _), (hs.leads hx.leads).correlated hw ht id⟩⟩

end Exchange

end AgentIntake
