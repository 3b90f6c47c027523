import AgentIntake.Proofs.Connection.Answers
import AgentIntake.Proofs.Dispatch.Ways
import AgentIntake.Proofs.Exchange.Basic

/-!
# The parts of an exchange

What is known of each part is brought into the form in which an exchange uses it.  The pool of the
receiver is the pool of the history without the numbers (`dispatch_listen`).  Starting the intake
leaves its connections as they are (`connection?_start`).  And of all that is done for a task only
the reply to a request puts a frame on a stream, on that of its own connection
(`frames_dispatchWork`).
-/

namespace AgentIntake

variable {η M : Type}

/-! ## 1.  The pool of the receiver -/

/-- A task that is submitted to the pool is submitted to the history. -/
theorem Receiver.dispatch_deliver {r : Receiver ReplyTo η} {h : Pool.History (Delivery ReplyTo)}
    (he : r.dispatch = h.pool.map Prod.fst) (path : Dispatch.Path) (remote : SocketAddress)
    (delivery : Delivery ReplyTo) :
    (r.deliver path remote delivery).1.dispatch = (h.submit delivery).pool.map Prod.fst := by
  have hs := Pool.submit_map Prod.fst h.pool (delivery, h.submitted.length)
  unfold Receiver.deliver Pool.History.submit
  rw [he]
  dsimp only at hs ⊢
  rw [hs]
  cases h.pool.submit (delivery, h.submitted.length) with
  | error e => exact he
  | ok pool => rfl

/-- What a connection hands on is submitted if it is a task, and else leaves the pool alone. -/
theorem Intake.dispatch_listen {r : Receiver ReplyTo η} {h : Pool.History (Delivery ReplyTo)}
    (he : r.dispatch = h.pool.map Prod.fst) (stamp : UInt64) (sink : Sink) (id : Nat)
    (remote : SocketAddress) (effect : Connection.Effect) :
    (listen (M := M) r stamp sink id remote effect).1.dispatch =
      (((effect.delivery? id remote).map h.submit).getD h).pool.map Prod.fst := by
  cases effect with
  | send packet => exact Receiver.dispatch_deliver he _ _ _
  | request request payload => exact Receiver.dispatch_deliver he _ _ _
  | handshake | ping | told | write | logged => exact he

/-! ## 2.  Starting -/

namespace Intake

variable (network : Acceptor.Network)

theorem nextId_obey (a : Acceptor η) (call : AcceptorCall η) :
    (obey (M := M) network a call).1.nextId = a.nextId := by
  cases call with
  | addObserver | setIgnored | setListener => rfl
  | bind host port =>
    show (a.bind network host port).1.nextId = _
    unfold Acceptor.bind
    split <;> rfl
  | close =>
    show a.close.1.nextId = _
    unfold Acceptor.close
    split <;> rfl

theorem nextId_obeyAll (a : Acceptor η) (effects : List (Receiver.Effect η)) :
    (obeyAll (M := M) network a effects).1.nextId = a.nextId := by
  induction effects generalizing a with
  | nil => rfl
  | cons effect effects ih =>
    cases effect with
    | health | logged => exact ih a
    | acceptor call => exact (ih _).trans (nextId_obey network a call)

theorem dispatch_start (n : Intake η) :
    (n.start (M := M) network).1.receiver.dispatch = n.receiver.dispatch := by
  show (n.receiver.start network.lookup (n.bound network)).1.dispatch = _
  unfold Receiver.start
  split
  · rfl
  · split
    · rfl
    · dsimp only
      split <;> rfl

theorem nextId_start (n : Intake η) :
    (n.start (M := M) network).1.traffic.acceptor.nextId = n.traffic.acceptor.nextId :=
  nextId_obeyAll network _ _

theorem connection?_start (n : Intake η) (id : Nat) :
    (n.start (M := M) network).1.traffic.connection? id = n.traffic.connection? id :=
  rfl

end Intake

/-! ## 3.  Jobs -/

theorem Job.next?_cases {j k : Job M} {effect : Option (Intake.Effect M)}
    (h : j.next? = some (k, effect)) :
    k.ticket = j.ticket ∧ k.handler = j.handler ∧ k.done = j.done ++ effect.toList ∧
      j.ahead.effects = effect.toList ++ k.ahead.effects ∧ j.ahead ≠ [] := by
  unfold Job.next? at h
  split at h
  · cases h
  · rename_i e ahead ha
    cases h
    rw [ha]
    exact ⟨rfl, rfl, rfl, rfl, List.cons_ne_nil _ _⟩
  · rename_i ahead ha
    cases h
    rw [ha]
    exact ⟨rfl, rfl, (List.append_nil _).symm, rfl, List.cons_ne_nil _ _⟩

namespace Intake

/-- A connection's effect puts a frame on its own stream. -/
theorem frameOn?_traffic (id k : Nat) (effect : Connection.Effect) :
    Effect.frameOn? (M := M) id (.traffic (.of k effect)) =
      if k = id then effect.written? else none := by
  cases effect with
  | write frame failure =>
    cases failure <;> simp [Effect.frameOn?, Effect.frame?, Connection.Effect.written?]
  | told | handshake | send | request | ping | logged =>
    simp [Effect.frameOn?, Effect.frame?, Connection.Effect.written?]

/-- A worker's effect puts a frame on the stream of the connection to be answered. -/
theorem frameOn?_requested (id : Nat) (reply : ReplyTo) (effect : Dispatch.Effect M) :
    Effect.frameOn? id (.requested reply effect) =
      if reply.connection = id then effect.reply?.map reply.response else none := by
  cases effect with
  | replied payload sent =>
    cases sent <;> simp [Effect.frameOn?, Effect.frame?, Dispatch.Effect.reply?]
  | called | logged => simp [Effect.frameOn?, Effect.frame?, Dispatch.Effect.reply?]

variable (codec : Codec M) (handler : Handler M) (reply : ReplyTo → ReplySender)

/-- **The frames of a request's work are its replies, and they go to its own connection.** -/
theorem frames_dispatchWork (packet : RequestPacket ReplyTo) (id : Nat) :
    (dispatchWork codec handler reply (.request packet)).effects.filterMap (Effect.frameOn? id) =
      if packet.reply.connection = id then
        (Dispatch.replies (Dispatch.handleRequest codec handler (packet.handle reply)
          packet.payload).1.effects).map packet.reply.response
      else [] := by
  rw [dispatchWork, Work.effects_map, List.filterMap_map]
  show List.filterMap (fun effect => Effect.frameOn? id (.requested packet.reply effect)) _ = _
  simp only [frameOn?_requested]
  by_cases h : packet.reply.connection = id
  · rw [if_pos h, Dispatch.replies, List.map_filterMap]
    simp only [if_pos h]
    rfl
  · rw [if_neg h]
    exact List.filterMap_eq_nil_iff.2 fun _ _ => if_neg h

/-- What is no request writes no frames. -/
theorem frames_dispatchWork_of_ne {delivery : Delivery ReplyTo}
    (h : ∀ packet, delivery ≠ .request packet) (id : Nat) :
    (dispatchWork codec handler reply delivery).effects.filterMap (Effect.frameOn? id) = [] := by
  cases delivery with
  | request packet => exact absurd rfl (h packet)
  | send packet =>
    rw [dispatchWork, Work.effects_map, List.filterMap_map]
    exact List.filterMap_eq_nil_iff.2 fun _ _ => rfl
  | other => rfl

/-- A frame comes from a request of its connection. -/
theorem exists_request_of_frameOn? {delivery : Delivery ReplyTo} {id : Nat} {e : Effect M}
    {frame : Frame} (he : e ∈ (dispatchWork codec handler reply delivery).effects)
    (hf : e.frameOn? id = some frame) :
    ∃ packet : RequestPacket ReplyTo,
      delivery = .request packet ∧ packet.reply.connection = id := by
  have hm : frame ∈
      (dispatchWork codec handler reply delivery).effects.filterMap (Effect.frameOn? id) :=
    List.mem_filterMap.2 ⟨e, he, hf⟩
  cases delivery with
  | send | other =>
    rw [frames_dispatchWork_of_ne codec handler reply (fun _ hd => by cases hd) id] at hm
    cases hm
  | request packet =>
    rw [frames_dispatchWork codec handler reply packet id] at hm
    by_cases h : packet.reply.connection = id
    · exact ⟨packet, rfl, h⟩
    · rw [if_neg h] at hm
      cases hm

end Intake

end AgentIntake
