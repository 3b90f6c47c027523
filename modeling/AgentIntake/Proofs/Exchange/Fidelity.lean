import AgentIntake.Proofs.Connection.Reception
import AgentIntake.Proofs.Envelope.Codec
import AgentIntake.Proofs.Exchange.Growth

/-!
# Messages arrive as they were sent

A message whose numbers are whole is sent as a line on a connection that runs, and the dispatch pool
is open and has room when the connection's reader comes to it.  Then the handler is called for it
once, with the same message, and if that call returns an answer then one line is written for it, on
the same connection, under the same identifier, and with a payload that gives back the answer.  A
probe that wants an answer is not shown to the handler, and nothing else is written for a message.

Four codes lie on the way, each inside the next: the message as a document, the document as
hexadecimal digits, those in a frame, and the frame on a line.  That each is undone is said in
`Envelope.decode_encode` and `LineReader.feed_rest`; here the message goes its way between them.

## Why a place and a number

Much may happen between the moment at which the line is heard and the one at which it is handed on,
and much between that and the call.  On its connection the message is known by its place among all
that was heard, and afterwards by the number of its submission (`Faithful`).
-/

namespace AgentIntake

variable {η M : Type}

/-! ## 1.  What belongs to a message -/

/-- The call of the handler, if the effect is one. -/
def Intake.Effect.call? : Intake.Effect M → Option (Dispatch.Path × M)
  | sent effect | requested _ effect => effect.call?
  | health _ | traffic _ | liveness .. | logged _ => none

namespace Manner

/-- The task of a message. -/
def delivery (id : Nat) (remote : SocketAddress) : Manner → List UInt8 → Delivery ReplyTo
  | send, payload => .send ⟨payload, remote⟩
  | request number, payload => .request ⟨payload, remote, ⟨id, number⟩⟩

/-- The calls that belong to a message. -/
def calls (m : Envelope) : Manner → List (Dispatch.Path × Envelope)
  | send => [(.send, m)]
  | request _ => if m.isProbe then [] else [(.request, m)]

/-- The lines that belong to a message, with the connections they are written to: none if no answer
is wanted, if the message is a probe, or if the handler returns no answer, fails or panics. -/
inductive Lines (handler : Handler Envelope) (id : Nat) (m : Envelope) :
    Manner → List (Nat × Frame) → Prop where
  | send : Lines handler id m .send []
  | probe {number : UInt64} (probes : m.isProbe = true) : Lines handler id m (.request number) []
  | unanswered {number : UInt64} (reaches : m.isProbe = false)
    (silent : ∀ r, (handler.request m).outcome ≠ .returned (some r)) :
    Lines handler id m (.request number) []
  | answered {number : UInt64} {r : Envelope} {payload : List UInt8} (reaches : m.isProbe = false)
    (returns : (handler.request m).outcome = .returned (some r))
    (decodes : r.Plain → Envelope.decode payload = .ok r) :
    Lines handler id m (.request number) [(id, .response number payload)]

theorem delivery?_effect (id : Nat) (remote : SocketAddress) (manner : Manner)
    (payload : List UInt8) :
    (manner.effect remote payload).delivery? id remote =
      some (manner.delivery id remote payload) := by
  cases manner <;> rfl

theorem written?_effect (remote : SocketAddress) (manner : Manner) (payload : List UInt8) :
    (manner.effect remote payload).written? = none := by
  cases manner <;> rfl

end Manner

/-! ## 2.  The way of a message -/

theorem Placeholder.probe_eq_none {m : Envelope} :
    Placeholder.codec.probe m = .ok none ↔ m.isProbe = false := by
  show Except.ok (if m.isProbe then _ else none) = _ ↔ _
  cases m.isProbe <;> simp

theorem Intake.calls_dispatchWork (codec : Codec M) (handler : Handler M)
    (reply : ReplyTo → ReplySender) (delivery : Delivery ReplyTo) :
    (dispatchWork codec handler reply delivery).effects.filterMap Effect.call? =
      Dispatch.calls (Receiver.dispatchWork codec handler reply delivery).effects := by
  unfold dispatchWork
  rw [Work.effects_map, List.filterMap_map]
  cases delivery <;> rfl

theorem Intake.lines_dispatchWork (codec : Codec M) (handler : Handler M)
    (reply : ReplyTo → ReplySender) (packet : RequestPacket ReplyTo) :
    (dispatchWork codec handler reply (.request packet)).effects.filterMap Effect.frame? =
      (Dispatch.replies (Dispatch.handleRequest codec handler (packet.handle reply)
        packet.payload).1.effects).map
          fun payload => (packet.reply.connection, packet.reply.response payload) := by
  rw [dispatchWork, Work.effects_map, List.filterMap_map, Dispatch.replies, List.map_filterMap]
  refine List.filterMap_congr fun effect _ => ?_
  cases effect with
  | replied payload sent => cases sent <;> rfl
  | called | logged => rfl

section Way

variable {m : Envelope} (hm : m.Plain) (handler : Handler Envelope) {reply : ReplyTo → ReplySender}
  (hreply : ∀ r payload, (reply r payload).outcome = .returned ())

include hm

theorem sent_message (remote : SocketAddress) :
    Dispatch.calls (Dispatch.handleSend Placeholder.codec handler ⟨m.encode, remote⟩).effects =
      [(.send, m)] := by
  rw [Dispatch.handleSend, Dispatch.calls_told]
  have hs := Dispatch.sent_sendWay Placeholder.codec handler m.encode
  generalize (Dispatch.sendWay Placeholder.codec handler m.encode).1.effects = effects at hs
  cases hs with
  | unread fails => exact absurd (Placeholder.decode_encode hm) (fails m)
  | handled reads =>
    rw [Placeholder.decode_encode hm] at reads
    cases reads
    rfl

include hreply in
theorem requested_message (packet : RequestPacket ReplyTo) (hp : packet.payload = m.encode) :
    Dispatch.calls (Dispatch.handleRequest Placeholder.codec handler (packet.handle reply)
        packet.payload).1.effects =
        Manner.calls m (.request packet.reply.request) ∧
      Manner.Lines handler packet.reply.connection m (.request packet.reply.request)
        ((Dispatch.replies (Dispatch.handleRequest Placeholder.codec handler (packet.handle reply)
          packet.payload).1.effects).map
            fun payload => (packet.reply.connection, packet.reply.response payload)) := by
  rw [Dispatch.handleRequest_handle, Dispatch.calls_told, Dispatch.replies_told, hp]
  have hr := Dispatch.requested_requestWay Placeholder.codec handler (reply packet.reply) m.encode
  generalize
    (Dispatch.requestWay Placeholder.codec handler (reply packet.reply) m.encode).1.effects =
    effects at hr
  have hread : ∀ n, (Placeholder.codec.decode m.encode).outcome = .returned n → m = n := by
    intro n hn
    rw [Placeholder.decode_encode hm] at hn
    cases hn
    rfl
  cases hr with
  | unread fails =>
    have probes : m.isProbe = true := by
      cases hp : m.isProbe with
      | true => rfl
      | false =>
        exact absurd (Placeholder.probe_eq_none.2 hp) (fails m (Placeholder.decode_encode hm))
    exact ⟨(if_pos probes).symm, .probe probes⟩
  | unanswered reads passes fails =>
    obtain rfl := hread _ reads
    have reaches := Placeholder.probe_eq_none.1 passes
    exact ⟨(if_neg (Bool.eq_false_iff.1 reaches)).symm,
      .unanswered reaches fun r hr => fails r hr r.encode rfl⟩
  | @answered _ r payload reads passes returns encodes =>
    obtain rfl := hread _ reads
    have reaches := Placeholder.probe_eq_none.1 passes
    have hsends : Dispatch.sends (reply packet.reply) payload = true := by
      rw [Dispatch.sends, hreply]
    rw [hsends]
    cases encodes
    exact ⟨(if_neg (Bool.eq_false_iff.1 reaches)).symm,
      .answered reaches returns fun hr => Envelope.decode_encode hr⟩

include hreply in
/-- **What is done for a message**: its calls and its lines. -/
theorem work_of_message (manner : Manner) (id : Nat) (remote : SocketAddress) :
    (Intake.dispatchWork Placeholder.codec handler reply
        (manner.delivery id remote m.encode)).effects.filterMap Intake.Effect.call? =
        manner.calls m ∧
      manner.Lines handler id m
        ((Intake.dispatchWork Placeholder.codec handler reply
          (manner.delivery id remote m.encode)).effects.filterMap Intake.Effect.frame?) := by
  rw [Intake.calls_dispatchWork]
  cases manner with
  | send =>
    refine ⟨sent_message hm handler remote, ?_⟩
    have hn : (Intake.dispatchWork Placeholder.codec handler reply
        (.send ⟨m.encode, remote⟩)).effects.filterMap Intake.Effect.frame? = [] := by
      rw [Intake.dispatchWork, Work.effects_map, List.filterMap_map]
      exact List.filterMap_eq_nil_iff.2 fun _ _ => rfl
    rw [Manner.delivery, hn]
    exact .send
  | request number =>
    have h := requested_message hm handler hreply ⟨m.encode, remote, ⟨id, number⟩⟩ rfl
    rw [Manner.delivery, Intake.lines_dispatchWork]
    exact h

end Way

namespace Job

/-- The calls made for a task. -/
def calls (j : Job M) : List (Dispatch.Path × M) :=
  j.done.filterMap Intake.Effect.call?

/-- The lines written for a task, with the connections they were written to. -/
def lines (j : Job M) : List (Nat × Frame) :=
  j.done.filterMap Intake.Effect.frame?

end Job

namespace Exchange

/-! ## 3.  What became of a task -/

/-- The calls made for the task with a number. -/
def callsOf (x : Exchange η M) (number : Nat) : List (Dispatch.Path × M) :=
  (x.jobs.filter (·.ticket.2 = number)).flatMap Job.calls

/-- The lines written for the task with a number, with the connections they were written to. -/
def linesOf (x : Exchange η M) (number : Nat) : List (Nat × Frame) :=
  (x.jobs.filter (·.ticket.2 = number)).flatMap Job.lines

/-- What becomes of the task of a message, at any moment after it was accepted.

No calls are made for it but those that belong to the message (`calls_prefix`).  No lines are
written for it but those that belong to the message (`lines_prefix`).  They are on the streams to
which they belong (`written`).  When it has finished all calls were made and all lines were written
(`finished`).  It can be finished (`finishes`).  It has finished when the last worker has left
(`left`). -/
structure Faithful (w : Setting Envelope) (x : Exchange η Envelope) (number : Nat) (manner : Manner)
    (id : Nat) (m : Envelope) : Prop where
  calls_prefix : x.callsOf number <+: manner.calls m
  lines_prefix : ∀ j ∈ x.jobs, j.ticket.2 = number →
    ∃ lines, manner.Lines j.handler id m lines ∧ x.linesOf number <+: lines
  written : ∀ line ∈ x.linesOf number, line.2 ∈ x.wire line.1
  finished : number ∈ x.history.finishedNumbers → x.callsOf number = manner.calls m ∧
    ∃ j ∈ x.jobs, j.ticket.2 = number ∧ manner.Lines j.handler id m (x.linesOf number)
  finishes : ∃ y, Leads w x y ∧ number ∈ y.history.finishedNumbers
  left : x.history.pool.live = 0 → number ∈ x.history.finishedNumbers

variable {w : Setting Envelope} {threads capacity : Nat} {x : Exchange η Envelope}

theorem Sound.callsOf_eq (hs : Sound w threads capacity x) {j : Job Envelope} (hj : j ∈ x.jobs) :
    x.callsOf j.ticket.2 = j.calls ∧ x.linesOf j.ticket.2 = j.lines := by
  have hf := Pool.filter_key_eq (fun j : Job Envelope => j.ticket.2) hs.nodup_jobs hj
  rw [callsOf, linesOf, hf, List.flatMap_singleton, List.flatMap_singleton]
  exact ⟨rfl, rfl⟩

/-- A task is known by its number. -/
theorem Sound.ticket_eq (hs : Sound w threads capacity x) {j : Job Envelope} (hj : j ∈ x.jobs)
    {ticket : Pool.Ticket (Delivery ReplyTo)} (ht : ticket ∈ x.history.accepted)
    (hn : j.ticket.2 = ticket.2) : j.ticket = ticket :=
  List.inj_on_of_nodup_map hs.history.nodup_accepted (hs.mem_accepted hj) ht hn

/-- A frame is a line on its own connection. -/
theorem mem_frames_of_mem_lines {j : Job M} {line : Nat × Frame} (h : line ∈ j.lines) :
    line.2 ∈ j.frames line.1 := by
  obtain ⟨e, he, hl⟩ := List.mem_filterMap.1 h
  refine List.mem_filterMap.2 ⟨e, he, ?_⟩
  rw [Intake.Effect.frameOn?, hl]
  exact if_pos rfl

/-- What was accepted can be finished. -/
theorem Sound.exists_finishedNumber (hs : Sound w threads capacity x) (ht : 0 < threads)
    {ticket : Pool.Ticket (Delivery ReplyTo)} (ha : ticket ∈ x.history.accepted) :
    ∃ y, Leads w x y ∧ ticket.2 ∈ y.history.finishedNumbers := by
  obtain ⟨y, hl, hq, hr⟩ := hs.drains ht Placeholder.handler
  have hy := (hs.leads hl).history.accounted
  rw [hq, hr, List.nil_append, List.nil_append] at hy
  exact ⟨y, hl, Pool.History.mem_finishedNumbers (hy.subset ((hs.grows hl).accepted.subset ha))⟩

/-- **The task of a message is done faithfully.** -/
theorem Sound.faithful (hs : Sound w threads capacity x) (ht : 0 < threads)
    (hcodec : w.codec = Placeholder.codec)
    (hreply : ∀ r payload, (w.reply r payload).outcome = .returned ()) {m : Envelope} (hm : m.Plain)
    {manner : Manner} {id number : Nat} {remote : SocketAddress}
    (ha : (manner.delivery id remote m.encode, number) ∈ x.history.accepted) :
    Faithful w x number manner id m := by
  -- the work of the task's job is that of the message
  have hwork : ∀ j ∈ x.jobs, j.ticket.2 = number →
      (j.done ++ j.ahead.effects).filterMap Intake.Effect.call? = manner.calls m ∧
        manner.Lines j.handler id m
          ((j.done ++ j.ahead.effects).filterMap Intake.Effect.frame?) := by
    intro j hj hn
    rw [hs.work j hj, hs.ticket_eq hj ha hn, hcodec]
    exact work_of_message hm j.handler hreply manner id remote
  have hjob : ∀ j ∈ x.jobs, j.ticket.2 = number →
      x.callsOf number = j.calls ∧ x.linesOf number = j.lines := by
    rintro j hj rfl
    exact hs.callsOf_eq hj
  have hnone : (∀ j ∈ x.jobs, j.ticket.2 ≠ number) →
      x.jobs.filter (·.ticket.2 = number) = [] := fun h =>
    List.filter_eq_nil_iff.2 fun j hj => by simpa using h j hj
  exact
    { calls_prefix := by
        by_cases h : ∃ j ∈ x.jobs, j.ticket.2 = number
        · obtain ⟨j, hj, hn⟩ := h
          rw [(hjob j hj hn).1, ← (hwork j hj hn).1, List.filterMap_append]
          exact List.prefix_append _ _
        · rw [callsOf, hnone fun j hj hn => h ⟨j, hj, hn⟩]
          exact List.nil_prefix
      lines_prefix := fun j hj hn => by
        refine ⟨_, (hwork j hj hn).2, ?_⟩
        rw [(hjob j hj hn).2, List.filterMap_append]
        exact List.prefix_append _ _
      written := fun line hl => by
        obtain ⟨j, hj, hm⟩ := List.mem_flatMap.1 hl
        refine (hs.wire_perm line.1).symm.subset (List.mem_append_right _ ?_)
        exact List.mem_flatMap.2 ⟨j, (List.mem_filter.1 hj).1, mem_frames_of_mem_lines hm⟩
      finished := fun hf => by
        obtain ⟨t, htf, rfl⟩ := List.mem_map.1 hf
        have hstarted := hs.history.mem_started htf
        rw [← hs.tickets] at hstarted
        obtain ⟨j, hj, hjt⟩ := List.mem_map.1 hstarted
        have hn : j.ticket.2 = t.1.2 := congrArg Prod.snd hjt
        have hw := hwork j hj hn
        rw [hs.settled t htf j hj hjt] at hw
        have hdone : j.done ++ Work.effects [] = j.done := List.append_nil _
        rw [hdone] at hw
        rw [(hjob j hj hn).1, (hjob j hj hn).2]
        exact ⟨hw.1, j, hj, hn, hw.2⟩
      finishes := hs.exists_finishedNumber ht ha
      left := fun hl =>
        Pool.History.mem_finishedNumbers ((hs.history.oneFate ht).all_finished hl _ ha).1 }

/-! ## 4.  From the line to the task -/

/-- A reader hands on a task that is accepted: it is submitted once and under the next number, and
nothing is written and no other task started. -/
structure HandsOn (x y : Exchange η M) (delivery : Delivery ReplyTo) : Prop where
  submitted : y.history.submitted = x.history.submitted ++ [delivery]
  accepted : y.history.accepted = x.history.accepted ++ [(delivery, x.history.submitted.length)]
  wire : y.wire = x.wire
  jobs : y.jobs = x.jobs

/-- What comes on the stream of a connection is due after what is due already. -/
theorem due_hear_received {id : Nat} {c : Connection} (h : x.intake.traffic.connection? id = some c)
    (bytes : List UInt8) :
    (x.hear w (.received id bytes)).due id = x.due id ++ (c.receive (w.written id) bytes).2 := by
  show x.due id ++
    Traffic.about id (x.intake.traffic.serve id fun d => d.receive (w.written id) bytes).2 = _
  rw [Traffic.serve_eq h, Traffic.about_map_self]

theorem submit_of_room {h : Pool.History (Delivery ReplyTo)} (hc : h.pool.isClosed = false)
    (hq : h.pool.queue.length < h.pool.capacity) (delivery : Delivery ReplyTo) :
    (h.submit delivery).submitted = h.submitted ++ [delivery] ∧
      (h.submit delivery).accepted = h.accepted ++ [(delivery, h.submitted.length)] := by
  have hs : h.pool.submit (delivery, h.submitted.length) =
      .ok { h.pool with queue := h.pool.queue ++ [(delivery, h.submitted.length)] } := by
    rw [Pool.submit, if_neg (by simp [hc]), if_neg (Nat.not_le_of_lt hq)]
  unfold Pool.History.submit
  dsimp only
  rw [hs]
  exact ⟨rfl, rfl⟩

/-- A reader that comes to a message hands it on, when the pool is open and has room. -/
theorem Sound.exists_handsOn (hs : Sound w threads capacity x) {id : Nat} {remote : SocketAddress}
    {manner : Manner} {payload : List UInt8} {later : List Connection.Effect}
    (hr : x.remote id = some remote) (hd : x.due id = manner.effect remote payload :: later)
    (hopen : x.intake.receiver.dispatch.isClosed = false)
    (hroom : x.intake.receiver.dispatch.queue.length < x.intake.receiver.dispatch.capacity)
    (stamp : UInt64) (sink : Sink) :
    ∃ y, x.perform? id stamp sink = some y ∧ HandsOn x y (manner.delivery id remote payload) := by
  rw [hs.dispatch_eq] at hopen hroom
  have hq : x.history.pool.queue.length < x.history.pool.capacity := by
    rwa [Pool.map, List.length_map] at hroom
  have hsubmit := submit_of_room hopen hq (manner.delivery id remote payload)
  rw [Exchange.perform?, hr, hd]
  refine ⟨_, rfl, ?_⟩
  exact
    { submitted := by
        rw [manner.delivery?_effect id remote payload]
        exact hsubmit.1
      accepted := by
        rw [manner.delivery?_effect id remote payload]
        exact hsubmit.2
      wire := by
        funext k
        show x.wire k ++ _ = _
        rw [Intake.frameOn?_traffic, manner.written?_effect remote payload, ite_self]
        exact List.append_nil _
      jobs := rfl }

/-- **Messages arrive as they were sent.**  An intake is made and anything happens to it.  On a
connection whose handshake was accepted comes the line of a message, or the rest of it, and perhaps
more.  Then its message is due, after all that is due already.  When the connection's reader comes
to it and the dispatch pool is open and has room, the message becomes a task, and whatever happens
from then on, the task is done faithfully. -/
theorem message_fidelity {w : Setting Envelope} (hcodec : w.codec = Placeholder.codec)
    (hreply : ∀ r payload, (w.reply r payload).outcome = .returned ()) {config : Config}
    {cluster : Option η} {observers : List η} {grace : Nat} {network : Acceptor.Network}
    {acceptor : Acceptor η} {n : Intake η} {built : List (Intake.Effect Envelope)}
    (hn : Intake.make? config cluster observers grace network acceptor = .ok (n, built))
    {x : Exchange η Envelope} (hx : Leads w (of n) x) {id : Nat} {c : Connection} {p : Properties}
    (hserved : x.intake.traffic.connection? id = some c) (haccepted : c.properties = some p)
    {m : Envelope} (hm : m.Plain) (manner : Manner) {begun rest : List UInt8}
    (hreader : c.reader = .within begun) (hrest : rest ≠ [])
    (hline : begun ++ rest = (manner.frame m.encode).toLine)
    (hlimit : (manner.frame m.encode).toLine.length ≤ Frame.lineLimit) (more : List UInt8) :
    let y := x.hear w (.received id (rest ++ more))
    y.wire = x.wire ∧ y.history = x.history ∧
      (∃ later, y.due id = x.due id ++ manner.effect c.remote m.encode :: later) ∧
      ∀ z, Leads w y z → (z.seen id).length = (x.seen id ++ x.due id).length →
        z.intake.receiver.dispatch.isClosed = false →
        z.intake.receiver.dispatch.queue.length < z.intake.receiver.dispatch.capacity →
        ∀ stamp sink, ∃ v, z.perform? id stamp sink = some v ∧
          HandsOn z v (manner.delivery id c.remote m.encode) ∧
          ∀ u, Leads w v u → Faithful w u z.history.submitted.length manner id m := by
  intro y
  obtain ⟨ht, hs⟩ := sound_of w hn
  have hsx := hs.leads hx
  have hheard := hsx.heard id
  rw [hserved] at hheard
  obtain ⟨hremote, hopen⟩ := hheard.served
  have hdue : ∃ later, y.due id = x.due id ++ manner.effect c.remote m.encode :: later :=
    ⟨_, (due_hear_received hserved _).trans (congrArg _
      (Connection.receive_message _ haccepted hopen hreader hrest hline hlimit more))⟩
  obtain ⟨following, hdue⟩ := hdue
  refine ⟨rfl, rfl, ⟨_, hdue⟩, fun z hz hplace hpool hroom stamp sink => ?_⟩
  have hsy : Sound w _ _ y := hsx.hear _
  have hsz := hsy.leads hz
  have hgz := hsy.grows hz
  -- what is due first is known by its place
  have hdz : ∃ later, z.due id = manner.effect c.remote m.encode :: later := by
    obtain ⟨others, ho⟩ := hgz.heard id
    have hseen : y.seen id = x.seen id := rfl
    rw [hdue, hseen, ← List.append_assoc, List.append_assoc] at ho
    exact ⟨_, (List.append_inj ho hplace.symm).2.symm⟩
  obtain ⟨later, hdz⟩ := hdz
  have hrz := hgz.remote id c.remote ((hsx.grows_hear _).remote id _ hremote)
  obtain ⟨v, hv, hands⟩ := hsz.exists_handsOn hrz hdz hpool hroom stamp sink
  refine ⟨v, hv, hands, fun u hu => ?_⟩
  have hsv := hsz.perform? hv
  have haccepted : (manner.delivery id c.remote m.encode, z.history.submitted.length) ∈
      v.history.accepted := by
    rw [hands.accepted]
    exact List.mem_append_right _ (List.mem_singleton_self _)
  exact (hsv.leads hu).faithful ht hcodec hreply hm ((hsv.grows hu).accepted.subset haccepted)

/-! ## 5.  A small exchange

One worker, room for two tasks, and an agent whose handshake was accepted. -/

/-- What comes of a line that is heard as a whole. -/
def takeFrame (x : Exchange η M) (w : Setting M) (id : Nat) (c : Connection) (f : Frame) :
    Exchange η M :=
  let (d, effects) := c.takeLines (w.written id) [.frame f]
  let traffic := x.intake.traffic.update id d
  { x with
    intake := { x.intake with traffic := traffic }
    remote := fun k => ((traffic.connection? k).map (·.remote)).or (x.remote k)
    due := fun k => x.due k ++ Traffic.about k (effects.map (.of id)) }

theorem hear_toLine {w : Setting M} {x : Exchange η M} {id : Nat} {c : Connection}
    (hc : x.intake.traffic.connection? id = some c) (hr : c.reader = .start) {f : Frame}
    (hf : f.Plain) (hl : f.toLine.length ≤ Frame.lineLimit) :
    x.hear w (.received id f.toLine) = x.takeFrame w id c f := by
  have h : x.intake.traffic.next w.written (.received id f.toLine) = _ :=
    Traffic.serve_eq hc fun c => c.receive (w.written id) f.toLine
  rw [Connection.receive_toLine (w.written id) hr hf hl] at h
  rw [hear, h, takeFrame]

/-- Properties that the gate accepts. -/
def smallProperties : Properties where
  bindings :=
    [("agent-id", .string "a"), ("application-name", .string "b"), ("hostname", .string "c"),
      ("ip", .string "d"), ("pid", .number (.whole 1 (by decide))),
      ("service-type", .number (.whole 2 (by decide))),
      ("start-timestamp", .number (.whole 3 (by decide))), ("version", .string "e")]
  isCanonical := by
    refine ⟨by unfold Json.Sorted; decide, ?_⟩
    simp only [List.forall_mem_cons]
    exact ⟨rfl, rfl, rfl, rfl, rfl, rfl, rfl, rfl, nofun⟩

/-- The handshake that presents them. -/
def smallHandshake : Frame :=
  .handshake (some smallProperties)

theorem plain_smallHandshake : smallHandshake.Plain where
  whole := by
    simp [smallHandshake, Frame.toJson, Frame.members, Properties.toJson, smallProperties,
      Json.Whole, Json.WholeMembers]
  depth_le := by decide

/-- A network in which everything succeeds. -/
def smallNetwork : Acceptor.Network :=
  ⟨fun _ => .ok [], .ok⟩

/-- One worker, and room for two tasks. -/
def smallConfig : Config :=
  { Config.default with workerThreads := 1, workerQueueSize := 2, eventWorkerThreads := 0 }

/-- The intake of the configuration, before it is started. -/
def smallIntake : Intake Empty where
  receiver :=
    { host := "0.0.0.0"
      port := 9994
      probeHosts := []
      observers := []
      observersAdded := false
      isStarted := false
      isStopped := false
      grace := 0
      dispatch := ⟨Receiver.dispatchPoolName, 2, [], [.idle], false⟩
      events := none }
  traffic := .of .new

/-- The intake after it was started. -/
def smallStarted : Intake Empty where
  receiver := { smallIntake.receiver with observersAdded := true, isStarted := true }
  traffic :=
    .of
      { Acceptor.new with
        hasListener := true
        bound := some ⟨.v4 ⟨0, 0, 0, 0⟩, 9994, 0⟩ }

theorem make?_small :
    ∃ built : List (Intake.Effect M),
      Intake.make? smallConfig none [] 0 smallNetwork .new = .ok (smallIntake, built) :=
  ⟨_, rfl⟩

theorem start_small : (smallIntake.start (M := M) smallNetwork).1 = smallStarted := by
  rfl

/-- A setting in which every write succeeds. -/
def smallSetting (codec : Codec M) : Setting M :=
  ⟨codec, fun _ _ => none, fun _ _ => .value ()⟩

/-- Where the agent is. -/
def smallRemote : SocketAddress :=
  ⟨.v4 ⟨10, 0, 0, 1⟩, 4000, 0⟩

/-- The agent's connection after its handshake. -/
def smallConnection : Connection :=
  ⟨smallRemote, some smallProperties, .start, 1, false⟩

/-- The exchange after the agent's handshake was heard. -/
def smallExchange (codec : Codec M) : Exchange Empty M :=
  (hear { (of smallIntake) with intake := smallStarted } (smallSetting codec)
    (.arrived smallRemote)).takeFrame (smallSetting codec) 0 (.opened smallRemote) smallHandshake

theorem leads_small (codec : Codec M) :
    Leads (smallSetting codec) (of smallIntake) (smallExchange codec) := by
  have hstart :
      (of smallIntake : Exchange Empty M).next? (smallSetting codec) (.start smallNetwork) =
        some { of smallIntake with intake := smallStarted } := by
    rw [next?, ← start_small]
    rfl
  have hlimit : smallHandshake.toLine.length ≤ Frame.lineLimit := by decide +kernel
  refine .cons _ hstart (.cons (.hear (.arrived smallRemote)) rfl
    (.next (.hear (.received 0 smallHandshake.toLine)) ?_))
  exact congrArg some (hear_toLine rfl rfl plain_smallHandshake hlimit)

/-- The agent asks for an answer, and its message becomes the first task. -/
theorem message_in_a_small_exchange :
    let w := smallSetting Placeholder.codec
    let m : Envelope := ⟨"greeting", Value.null⟩
    let line := ((Manner.request 7).frame m.encode).toLine
    let y := (smallExchange Placeholder.codec).hear w (.received 0 (line ++ []))
    m.Plain ∧ line.length ≤ Frame.lineLimit ∧
      ∃ z v, Leads w y z ∧ (z.seen 0).length = 4 ∧ z.intake.receiver.dispatch.isClosed = false ∧
        z.intake.receiver.dispatch.queue.length < z.intake.receiver.dispatch.capacity ∧
        z.perform? 0 0 Placeholder.sink = some v ∧
        HandsOn z v ((Manner.request 7).delivery 0 smallRemote m.encode) ∧
        ∀ u, Leads w v u → Faithful w u 0 (.request 7) 0 m := by
  intro w m line y
  have hm : m.Plain := ⟨trivial, by decide⟩
  have hlimit : line.length ≤ Frame.lineLimit := by decide +kernel
  refine ⟨hm, hlimit, ?_⟩
  obtain ⟨built, hn⟩ := make?_small (M := Envelope)
  have hserved : (smallExchange Placeholder.codec).intake.traffic.connection? 0 =
      some smallConnection := rfl
  have hline : [] ++ line = ((Manner.request 7).frame m.encode).toLine := rfl
  obtain ⟨-, -, -, h⟩ := message_fidelity (w := w) rfl (fun _ _ => rfl) hn
    (leads_small Placeholder.codec) hserved rfl hm (.request 7) rfl (by decide +kernel)
      hline hlimit []
  have hy : y = (smallExchange Placeholder.codec).takeFrame w 0 smallConnection
      ((Manner.request 7).frame m.encode) := by
    show hear _ w (.received 0 (line ++ [])) = _
    rw [List.append_nil]
    exact hear_toLine hserved rfl (Manner.plain_frame _ _) hlimit
  have hz : ∃ z, Leads w y z ∧ (z.seen 0).length = 4 ∧ z.history.submitted = [] ∧
      z.intake.receiver.dispatch.isClosed = false ∧
      z.intake.receiver.dispatch.queue.length < z.intake.receiver.dispatch.capacity := by
    rw [hy]
    exact ⟨_, ⟨[.perform 0 0 Placeholder.sink, .perform 0 0 Placeholder.sink,
      .perform 0 0 Placeholder.sink, .perform 0 0 Placeholder.sink], rfl⟩,
      rfl, rfl, rfl, Nat.two_pos⟩
  obtain ⟨z, hl, hplace, hsubmitted, hopen, hroom⟩ := hz
  obtain ⟨v, hv, hands, hfaithful⟩ := h z hl hplace hopen hroom 0 Placeholder.sink
  rw [hsubmitted] at hfaithful
  exact ⟨z, v, hl, hplace, hopen, hroom, hv, hands, hfaithful⟩

end Exchange

end AgentIntake
