import AgentIntake.Proofs.Exchange.Fidelity

/-!
# Answers go where they belong

What is written to a connection is a sequence of whole lines, each with one frame.  Counted, the
frames are the answers that the connection's own reader gives, one to each handshake and each sign
of life, and answers to requests: to each request of this connection that the pool accepted one at
most, under the request's identifier and with the encoded result of the handler for the request's
payload.  Nothing else is written, and the answer to the handshake comes first.

`Correlated` says all of it about one connection, and `replies_correlate` proves it of every
connection at every moment, in whatever order readers and workers take turns.

## Why the identifiers do not matter

An agent may use an identifier again, on this connection or another.  A request is known here by the
number of its submission, which occurs once, and its answer is made from the task that carries both
the connection and the identifier.  So nothing has to be looked up by the identifier, and nothing
is.
-/

namespace AgentIntake

variable {η M : Type}

/-! ## 1.  Answers to requests -/

/-- The frame answers the task: it is a request of this connection, and the frame carries its
identifier and the encoded result of the handler. -/
inductive Answers (codec : Codec M) (handler : Handler M) (id : Nat) :
    Delivery ReplyTo → Frame → Prop where
  | intro {packet : RequestPacket ReplyTo} {m answer : M} {payload : List UInt8}
    (here : packet.reply.connection = id)
    (reads : (codec.decode packet.payload).outcome = .returned m)
    (passes : codec.probe m = .ok none)
    (returns : (handler.request m).outcome = .returned (some answer))
    (encodes : (codec.encode answer).outcome = .returned payload) :
    Answers codec handler id (.request packet) (.response packet.reply.request payload)

theorem Answers.kind_eq {codec : Codec M} {handler : Handler M} {id : Nat}
    {delivery : Delivery ReplyTo} {frame : Frame} (h : Answers codec handler id delivery frame) :
    frame.kind = .response := by
  cases h
  rfl

/-- All frames of a task's work on a connection: none, or one that answers it. -/
theorem frames_of_dispatchWork (codec : Codec M) (handler : Handler M)
    (reply : ReplyTo → ReplySender)
    (delivery : Delivery ReplyTo) (id : Nat) :
    (Intake.dispatchWork codec handler reply delivery).effects.filterMap
        (Intake.Effect.frameOn? id) = [] ∨
      ∃ frame, Answers codec handler id delivery frame ∧
        (Intake.dispatchWork codec handler reply delivery).effects.filterMap
          (Intake.Effect.frameOn? id) = [frame] := by
  cases delivery with
  | send | other =>
    exact .inl (Intake.frames_dispatchWork_of_ne codec handler reply (fun _ hd => by cases hd) id)
  | request packet =>
    rw [Intake.frames_dispatchWork, Dispatch.handleRequest_handle, Dispatch.replies_told]
    by_cases here : packet.reply.connection = id
    · rw [if_pos here]
      have hr := Dispatch.requested_requestWay codec handler (reply packet.reply) packet.payload
      generalize (Dispatch.requestWay codec handler (reply packet.reply) packet.payload).1.effects =
        effects at hr
      cases hr with
      | unread | unanswered => exact .inl rfl
      | @answered m answer payload reads passes returns encodes =>
        cases hs : Dispatch.sends (reply packet.reply) payload with
        | false => exact .inl rfl
        | true => exact .inr ⟨_, .intro here reads passes returns encodes, rfl⟩
    · exact .inl (if_neg here)

theorem prefix_singleton_cases {α : Type} {l : List α} {a : α} (h : l <+: [a]) :
    l = [] ∨ l = [a] := by
  cases l with
  | nil => exact .inl rfl
  | cons b l =>
    obtain ⟨rfl, hl⟩ := List.cons_prefix_cons.1 h
    rw [List.prefix_nil.1 hl]
    exact .inr rfl

/-- Keys that occur once still do when each is kept or left out. -/
theorem nodup_flatMap_key {α β : Type} {f : α → List β} {key : α → Nat} {l : List α}
    (h : ∀ a ∈ l, (f a).length ≤ 1) (hn : (l.map key).Nodup) :
    (l.flatMap fun a => (f a).map fun _ => key a).Nodup := by
  suffices hs : (l.flatMap fun a => (f a).map fun _ => key a).Sublist (l.map key) from hs.nodup hn
  clear hn
  induction l with
  | nil => exact .slnil
  | cons a l ih =>
    rw [List.flatMap_cons, List.map_cons, ← List.singleton_append]
    refine List.Sublist.append ?_ (ih fun b hb => h b (List.mem_cons_of_mem _ hb))
    have ha := h a List.mem_cons_self
    match hf : f a with
    | [] => exact List.nil_sublist _
    | [b] => exact .refl _
    | b :: c :: rest =>
      rw [hf] at ha
      simp at ha

namespace Exchange

/-- The requests that were answered on a connection, each with its answer. -/
def answered (x : Exchange η M) (id : Nat) : List (Pool.Ticket (Delivery ReplyTo) × Frame) :=
  x.jobs.flatMap fun j => (j.frames id).map fun frame => (j.ticket, frame)

/-- What is written to a connection is what belongs to it.

The bytes are whole lines, one for each frame (`segments_eq`).  Each line holds its frame
(`read_back`).  The frames are the answers to handshakes and signs of life, but for one that may be
due, and answers to requests (`accounted`).  The requests of the connection were submitted one by
one, as they were handed on (`submitted`).  No request is answered twice (`once`).  A request that
is answered was submitted and accepted (`accepted`).  It is answered with the result of the handler
that its task found (`answers`).  The answer to the handshake comes first, and there is one
(`first`). -/
structure Correlated (codec : Codec M) (x : Exchange η M) (id : Nat) : Prop where
  segments_eq : Frame.Line.segments (x.bytes id) = (x.wire id).map Frame.toLine
  read_back : ∀ frame ∈ x.wire id, Frame.Line.ofBytes? frame.toLine = some (.frame frame)
  accounted : ∃ due : List Frame, due.length ≤ 1 ∧ (x.due id = [] → due = []) ∧
    (x.wire id ++ due).Perm (Connection.answers (x.seen id) ++ (x.answered id).map (·.2))
  submitted : x.history.submitted.filterMap (Delivery.requestOn? id) =
    Connection.requests (x.seen id)
  once : ((x.answered id).map (·.1.2)).Nodup
  accepted : ∀ a ∈ x.answered id, x.history.submitted[a.1.2]? = some a.1.1 ∧
    a.1 ∈ x.history.accepted ∧
    a.1.2 ∉ x.history.refused.map (·.1.2)
  answers : ∀ a ∈ x.answered id, ∃ j ∈ x.jobs, j.ticket = a.1 ∧ Answers codec j.handler id a.1.1 a.2
  first : x.wire id = [] ∨ ∃ decision rest, x.wire id = .handshakeResponse decision :: rest ∧
    ∀ frame ∈ rest, frame.kind ≠ .handshakeResponse

variable {w : Setting M} {threads capacity : Nat} {x : Exchange η M}

/-! ## 2.  Jobs -/

/-- What a job has written on a connection: nothing, or an answer. -/
theorem Sound.frames_of_job (hs : Sound w threads capacity x) {j : Job M} (hj : j ∈ x.jobs)
    (id : Nat) :
    j.frames id = [] ∨
      ∃ frame, Answers w.codec j.handler id j.ticket.1 frame ∧ j.frames id = [frame] := by
  have hp : j.frames id <+:
      (Intake.dispatchWork w.codec j.handler w.reply j.ticket.1).effects.filterMap
        (Intake.Effect.frameOn? id) := by
    rw [← hs.work j hj, List.filterMap_append]
    exact List.prefix_append _ _
  rcases frames_of_dispatchWork w.codec j.handler w.reply j.ticket.1 id with hn | ⟨frame, ha, hf⟩
  · rw [hn] at hp
    exact .inl (List.prefix_nil.1 hp)
  · rw [hf] at hp
    rcases prefix_singleton_cases hp with hn | hn
    · exact .inl hn
    · exact .inr ⟨frame, ha, hn⟩

theorem map_snd_answered (x : Exchange η M) (id : Nat) :
    (x.answered id).map (·.2) = x.jobs.flatMap (Job.frames id) := by
  rw [answered, List.map_flatMap]
  simp only [List.map_map]
  exact congrArg (List.flatMap · x.jobs) (funext fun j => List.map_id _)

theorem mem_answered {id : Nat} {a : Pool.Ticket (Delivery ReplyTo) × Frame}
    (h : a ∈ x.answered id) :
    ∃ j ∈ x.jobs, j.ticket = a.1 ∧ a.2 ∈ j.frames id := by
  obtain ⟨j, hj, hm⟩ := List.mem_flatMap.1 h
  obtain ⟨frame, hf, rfl⟩ := List.mem_map.1 hm
  exact ⟨j, hj, rfl, hf⟩

theorem Sound.answers (hs : Sound w threads capacity x) {id : Nat}
    {a : Pool.Ticket (Delivery ReplyTo) × Frame} (h : a ∈ x.answered id) :
    ∃ j ∈ x.jobs, j.ticket = a.1 ∧ Answers w.codec j.handler id a.1.1 a.2 := by
  obtain ⟨j, hj, ht, hf⟩ := mem_answered h
  rcases hs.frames_of_job hj id with hn | ⟨frame, ha, hn⟩
  · rw [hn] at hf
    cases hf
  · rw [hn] at hf
    rw [← List.mem_singleton.1 hf] at ha
    exact ⟨j, hj, ht, ht ▸ ha⟩

/-- The answers of the jobs are responses. -/
theorem Sound.kind_of_job (hs : Sound w threads capacity x) {id : Nat} {frame : Frame}
    (h : frame ∈ x.jobs.flatMap (Job.frames id)) : frame.kind = .response := by
  obtain ⟨j, hj, hf⟩ := List.mem_flatMap.1 h
  rcases hs.frames_of_job hj id with hn | ⟨_, ha, hn⟩
  · rw [hn] at hf
    cases hf
  · rw [hn] at hf
    rw [List.mem_singleton.1 hf]
    exact ha.kind_eq

theorem Sound.once (hs : Sound w threads capacity x) (id : Nat) :
    ((x.answered id).map (·.1.2)).Nodup := by
  rw [answered, List.map_flatMap]
  simp only [List.map_map]
  refine nodup_flatMap_key (f := Job.frames id) (fun j hj => ?_) hs.nodup_jobs
  rcases hs.frames_of_job hj id with hf | ⟨frame, -, hf⟩ <;> rw [hf] <;> simp

/-! ## 3.  Readers -/

/-- When no write fails a reader has written what it tried to write. -/
theorem Sound.frames_eq_attempts (hs : Sound w threads capacity x) (hw : w.Writes) (id : Nat) :
    Connection.frames (x.seen id) = Connection.attempts (x.seen id) := by
  refine Connection.frames_eq_attempts fun frame failure hm => ?_
  obtain ⟨n, hn⟩ := (hs.heard id).exists_written (List.mem_append_left _ hm)
  rw [hn, hw.written_eq]

/-- The frames of a reader are its answers, but for one that may be due. -/
theorem Sound.exists_due (hs : Sound w threads capacity x) (hw : w.Writes) (id : Nat) :
    ∃ due : List Frame, due.length ≤ 1 ∧ (x.due id = [] → due = []) ∧
      Connection.frames (x.seen id) ++ due = Connection.answers (x.seen id) := by
  rw [hs.frames_eq_attempts hw]
  by_cases hd : x.due id = []
  · refine ⟨[], Nat.zero_le 1, fun _ => rfl, ?_⟩
    rcases (hs.heard id).exists_path with he | ⟨remote, t, -, hp, ht⟩
    · rw [(List.append_eq_nil_iff.1 he).1]
      rfl
    · rw [hd, List.append_nil] at hp
      rw [← ht]
      exact Connection.Stage.path_attempts hp
  · rcases hs.path_seen id with hn | ⟨remote, t, -, hp⟩
    · refine ⟨[], Nat.zero_le 1, fun _ => rfl, ?_⟩
      rw [hn]
      rfl
    · exact ⟨t.due, t.length_due_le, fun h => absurd h hd, Connection.Stage.path_attempts hp⟩

/-- The frames of a reader are an opening, if there are any. -/
theorem Sound.opening (hs : Sound w threads capacity x) (hw : w.Writes) (id : Nat) :
    Connection.frames (x.seen id) = [] ∨
      Connection.Stage.Opening (Connection.frames (x.seen id)) := by
  rw [hs.frames_eq_attempts hw]
  rcases hs.path_seen id with hn | ⟨remote, t, -, hp⟩
  · exact .inl (hn ▸ rfl)
  · exact Connection.Stage.path_opening hp

/-- **The answer to the handshake comes first.** -/
theorem Sound.first (hs : Sound w threads capacity x) (hw : w.Writes) (id : Nat) :
    x.wire id = [] ∨ ∃ decision rest, x.wire id = .handshakeResponse decision :: rest ∧
      ∀ frame ∈ rest, frame.kind ≠ .handshakeResponse := by
  have hh := hs.head_eq id
  have hp := hs.wire_perm id
  rcases hs.opening hw id with hn | ⟨q, ids, ho⟩
  · rw [hn] at hh
    exact .inl (List.head?_eq_none_iff.1 hh)
  · rw [ho] at hh hp
    obtain ⟨rest, hr⟩ := List.head?_eq_some_iff.1 hh
    refine .inr ⟨decide q, rest, hr, fun frame hm => ?_⟩
    rw [hr] at hp
    rcases List.mem_append.1 (hp.cons_inv.subset hm) with hm | hm
    · obtain ⟨number, -, rfl⟩ := List.mem_map.1 hm
      exact nofun
    · rw [hs.kind_of_job hm]
      exact nofun

/-- No handshake is written. -/
theorem Sound.plain (hs : Sound w threads capacity x) (hw : w.Writes) {id : Nat} {frame : Frame}
    (h : frame ∈ x.wire id) : frame.Plain := by
  refine Frame.plain_of_kind_ne ?_
  rcases List.mem_append.1 ((hs.wire_perm id).subset h) with hm | hm
  · rcases hs.opening hw id with hn | ⟨q, ids, ho⟩
    · rw [hn] at hm
      cases hm
    · rw [ho] at hm
      rcases List.mem_cons.1 hm with rfl | hm
      · exact nofun
      · obtain ⟨number, -, rfl⟩ := List.mem_map.1 hm
        exact nofun
  · rw [hs.kind_of_job hm]
    exact nofun

/-! ## 4.  Every connection at every moment -/

theorem Sound.correlated (hs : Sound w threads capacity x) (hw : w.Writes) (ht : 0 < threads)
    (id : Nat) : Correlated w.codec x id where
  segments_eq := Frame.segments_flatMap_toLine fun _ hm => hs.plain hw hm
  read_back _ hm := Frame.ofBytes?_toLine (hs.plain hw hm)
  accounted := by
    obtain ⟨due, hl, hn, hd⟩ := hs.exists_due hw id
    refine ⟨due, hl, hn, ?_⟩
    rw [map_snd_answered, ← hd]
    refine ((hs.wire_perm id).append_right due).trans ?_
    rw [List.append_assoc, List.append_assoc]
    exact (List.perm_append_comm).append_left _
  submitted := hs.submitted id
  once := hs.once id
  accepted a ha := by
    obtain ⟨j, hj, hja, -⟩ := mem_answered ha
    have hm := hs.mem_accepted hj
    have hfate := hs.history.oneFate ht
    rw [← hja]
    refine ⟨hfate.identified _ hm, hm, fun hr => ?_⟩
    obtain ⟨r, hr, hn⟩ := List.mem_map.1 hr
    refine hfate.refused_idle r hr ?_
    rw [hn, Pool.History.startedNumbers, ← hs.tickets]
    exact List.mem_map_of_mem (List.mem_map_of_mem hj)
  answers _ ha := hs.answers ha
  first := hs.first hw id

/-- **Answers go where they belong.**  An intake is made and anything happens to it, with any number
of connections and workers and in any order, and every write succeeds.  Then every connection gets
what belongs to it. -/
theorem replies_correlate {w : Setting M} (hw : w.Writes) {config : Config} {cluster : Option η}
    {observers : List η} {grace : Nat} {network : Acceptor.Network} {acceptor : Acceptor η}
    {n : Intake η} {built : List (Intake.Effect M)}
    (hn : Intake.make? config cluster observers grace network acceptor = .ok (n, built))
    {x : Exchange η M} (hx : Leads w (of n) x) (id : Nat) : Correlated w.codec x id := by
  obtain ⟨ht, hs⟩ := sound_of w hn
  exact (hs.leads hx).correlated hw ht id

/-- A codec that leaves payloads as they are. -/
def plainCodec : Codec (List UInt8) :=
  ⟨.value, .value, fun _ => .ok none⟩

/-- A handler that answers every message with the message. -/
def echo : Handler (List UInt8) :=
  ⟨fun _ => .value (), fun m => .value (some m)⟩

/-- The agent asks twice under one identifier and shows a sign of life, and the second answer is
written before the sign of life is answered. -/
theorem replies_in_a_small_exchange :
    let w := smallSetting plainCodec
    w.Writes ∧ ∃ x : Exchange Empty (List UInt8), Leads w (of smallIntake) x ∧
      x.wire 0 =
        [.handshakeResponse .acceptedDuplex, .response 7 [1], .response 7 [2], .pong 3] ∧
      Correlated plainCodec x 0 := by
  intro w
  have hw : w.Writes := ⟨fun _ _ => rfl, fun _ _ => rfl⟩
  obtain ⟨built, hn⟩ := make?_small (M := List UInt8)
  have hplain : ∀ {f : Frame}, f.kind ≠ .handshake → f.Plain := Frame.plain_of_kind_ne
  have heard : Leads w (smallExchange plainCodec) _ :=
    .cons (.hear (.received 0 (Frame.request 7 [1]).toLine))
      (congrArg some (hear_toLine rfl rfl (hplain nofun) (by decide +kernel)))
      (.cons (.hear (.received 0 (Frame.request 7 [2]).toLine))
        (congrArg some (hear_toLine rfl rfl (hplain nofun) (by decide +kernel)))
        (.next (.hear (.received 0 (Frame.ping 3).toLine))
          (congrArg some (hear_toLine rfl rfl (hplain nofun) (by decide +kernel)))))
  have handed : Leads w (smallExchange plainCodec) _ :=
    heard.trans ⟨List.replicate 7 (.perform 0 0 Placeholder.sink), rfl⟩
  have done : Leads w (smallExchange plainCodec) _ :=
    handed.trans ⟨[.take 0 echo, .act 0, .act 0, .finish 0 .returned, .take 0 echo, .act 1, .act 1,
      .perform 0 0 Placeholder.sink], rfl⟩
  have hx := (leads_small plainCodec).trans done
  exact ⟨hw, _, hx, rfl, replies_correlate hw hn hx 0⟩

end Exchange

end AgentIntake
