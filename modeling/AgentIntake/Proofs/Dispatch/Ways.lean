import AgentIntake.Dispatch.Basic

/-!
# What becomes of a packet

Of what a worker does for a packet, the calls of the handler and the replies matter to others.  A
packet that wants an answer leads to one call at most and then to one reply at most, and the reply
is the encoded result of the call (`requested_requestWay`).  A packet that wants none leads to one
call at most and to no reply (`sent_sendWay`).

Records are made after everything else and are neither, so they are put aside first
(`calls_told`, `replies_told`).
-/

namespace AgentIntake

variable {M ρ : Type}

namespace Work

variable {ε δ : Type}

@[simp] theorem effects_one (e : ε) : effects (one e) = [e] :=
  rfl

/-- The effects of work with other effects. -/
theorem effects_map (f : ε → δ) (w : Work ε) : effects (w.map f) = w.effects.map f := by
  induction w with
  | nil => rfl
  | cons step rest ih =>
    cases step with
    | effect e => exact congrArg (f e :: ·) ih
    | wait => exact ih

end Work

namespace Dispatch

/-- The call of the handler, if the effect is one. -/
def Effect.call? : Effect M → Option (Path × M)
  | called path message => some (path, message)
  | replied .. | logged _ => none

/-- The payload of a reply that was sent, if the effect is one. -/
def Effect.reply? : Effect M → Option (List UInt8)
  | replied payload true => some payload
  | replied _ false | called .. | logged _ => none

/-- The calls of the handler. -/
def calls (effects : List (Effect M)) : List (Path × M) :=
  effects.filterMap Effect.call?

/-- The payloads of the replies that were sent. -/
def replies (effects : List (Effect M)) : List (List UInt8) :=
  effects.filterMap Effect.reply?

/-! ## 1.  Records are put aside -/

theorem effects_told (path : Path) (remote : SocketAddress) (payload : List UInt8)
    (way : Work (Effect M) × Except DispatchError Outcome) :
    (told path remote payload way).effects =
      way.1.effects ++ (records path remote payload way.2).map .logged := by
  have h : ∀ rs : List Log.Record,
      Work.effects (rs.map fun r => WorkStep.effect (Effect.logged (M := M) r)) =
        rs.map .logged := by
    intro rs
    induction rs with
    | nil => rfl
    | cons r rs ih => exact congrArg (Effect.logged r :: ·) ih
  rw [told, Work.effects_append, h]

theorem calls_told (path : Path) (remote : SocketAddress) (payload : List UInt8)
    (way : Work (Effect M) × Except DispatchError Outcome) :
    calls (told path remote payload way).effects = calls way.1.effects := by
  rw [effects_told, calls, List.filterMap_append, List.filterMap_map]
  exact (congrArg _ (List.filterMap_eq_nil_iff.2 fun _ _ => rfl)).trans (List.append_nil _)

theorem replies_told (path : Path) (remote : SocketAddress) (payload : List UInt8)
    (way : Work (Effect M) × Except DispatchError Outcome) :
    replies (told path remote payload way).effects = replies way.1.effects := by
  rw [effects_told, replies, List.filterMap_append, List.filterMap_map]
  exact (congrArg _ (List.filterMap_eq_nil_iff.2 fun _ _ => rfl)).trans (List.append_nil _)

/-! ## 2.  Packets that want no answer -/

/-- What a packet that wants no answer leads to, before the records. -/
inductive Sent (codec : Codec M) (payload : List UInt8) : List (Effect M) → Prop where
  | unread (fails : ∀ m, (codec.decode payload).outcome ≠ .returned m) : Sent codec payload []
  | handled {m : M} (reads : (codec.decode payload).outcome = .returned m) :
    Sent codec payload [.called .send m]

theorem outcomeOf_eq_ok {ε α : Type} {stage : ε → DispatchError} {attempt : Attempt ε α} {a : α} :
    outcomeOf stage attempt = .ok a ↔ attempt = .returned a := by
  cases attempt <;> simp [outcomeOf]

theorem outcomeOf_eq_error {ε α : Type} {stage : ε → DispatchError} {attempt : Attempt ε α}
    {e : DispatchError} (h : outcomeOf stage attempt = .error e) (a : α) :
    attempt ≠ .returned a := by
  rintro rfl
  cases h

theorem sent_sendWay (codec : Codec M) (handler : Handler M) (payload : List UInt8) :
    Sent codec payload (sendWay codec handler payload).1.effects := by
  unfold sendWay
  dsimp only
  split
  · rename_i h
    rw [Work.effects_waiting]
    exact .unread (outcomeOf_eq_error h)
  · rename_i h
    simp only [Work.effects_append, Work.effects_waiting, Work.effects_one, List.nil_append,
      List.append_nil]
    exact .handled (outcomeOf_eq_ok.1 h)

/-! ## 3.  Packets that want an answer -/

/-- The reply handle sends the payload. -/
def sends (reply : ReplySender) (payload : List UInt8) : Bool :=
  match (reply payload).outcome with
  | .returned () => true
  | _ => false

/-- What a packet that wants an answer leads to, before the records. -/
inductive Requested (codec : Codec M) (handler : Handler M) (reply : ReplySender)
    (payload : List UInt8) : List (Effect M) → Prop where
  | unread (fails : ∀ m, (codec.decode payload).outcome = .returned m → codec.probe m ≠ .ok none) :
    Requested codec handler reply payload []
  | unanswered {m : M} (reads : (codec.decode payload).outcome = .returned m)
    (passes : codec.probe m = .ok none)
    (fails : ∀ answer, (handler.request m).outcome = .returned (some answer) →
      ∀ bytes, (codec.encode answer).outcome ≠ .returned bytes) :
    Requested codec handler reply payload [.called .request m]
  | answered {m answer : M} {bytes : List UInt8}
    (reads : (codec.decode payload).outcome = .returned m) (passes : codec.probe m = .ok none)
    (returns : (handler.request m).outcome = .returned (some answer))
    (encodes : (codec.encode answer).outcome = .returned bytes) :
    Requested codec handler reply payload [.called .request m, .replied bytes (sends reply bytes)]

/-- A result of the handler is replied if it can be encoded. -/
theorem requested_answerWay {codec : Codec M} {handler : Handler M} {reply : ReplySender}
    {payload : List UInt8} {m answer : M} (reads : (codec.decode payload).outcome = .returned m)
    (passes : codec.probe m = .ok none)
    (returns : (handler.request m).outcome = .returned (some answer)) :
    Requested codec handler reply payload
      (.called .request m :: (answerWay codec reply answer).1.effects) := by
  unfold answerWay
  dsimp only
  split
  · rename_i he
    rw [Work.effects_waiting]
    refine .unanswered reads passes fun other ha bytes => ?_
    rw [returns] at ha
    cases ha
    exact outcomeOf_eq_error he bytes
  · rename_i bytes he
    rw [Work.effects_append, Work.effects_append, Work.effects_waiting, Work.effects_waiting]
    exact .answered reads passes returns (outcomeOf_eq_ok.1 he)

/-- The reply handle of a packet has said where the packet came from. -/
theorem handleRequest_handle (codec : Codec M) (handler : Handler M) (send : ρ → ReplySender)
    (packet : RequestPacket ρ) :
    handleRequest codec handler (packet.handle send) packet.payload =
      (told .request packet.remote packet.payload
        (requestWay codec handler (send packet.reply) packet.payload), .ok ()) :=
  rfl

/-- **What a packet that wants an answer leads to.** -/
theorem requested_requestWay (codec : Codec M) (handler : Handler M) (reply : ReplySender)
    (payload : List UInt8) :
    Requested codec handler reply payload (requestWay codec handler reply payload).1.effects := by
  unfold requestWay
  dsimp only
  split
  · rename_i h
    rw [Work.effects_waiting]
    exact .unread fun m hm => absurd hm (outcomeOf_eq_error h m)
  · rename_i m h
    have reads := outcomeOf_eq_ok.1 h
    have hread : ∀ n, (codec.decode payload).outcome = .returned n → n = m := by
      intro n hn
      rw [reads] at hn
      cases hn
      rfl
    split
    · rename_i hp
      rw [Work.effects_waiting]
      refine .unread fun n hn => ?_
      rw [hread n hn, hp]
      nofun
    · rename_i hp
      rw [Work.effects_waiting]
      refine .unread fun n hn => ?_
      rw [hread n hn, hp]
      nofun
    · rename_i passes
      split
      · rename_i hh
        simp only [Work.effects_append, Work.effects_waiting, Work.effects_one, List.nil_append,
          List.append_nil]
        exact .unanswered reads passes fun answer ha => absurd ha (outcomeOf_eq_error hh _)
      · rename_i hh
        simp only [Work.effects_append, Work.effects_waiting, Work.effects_one, List.nil_append,
          List.append_nil]
        refine .unanswered reads passes fun answer ha => ?_
        rw [outcomeOf_eq_ok.1 hh] at ha
        cases ha
      · rename_i answer hh
        simp only [Work.effects_append, Work.effects_waiting, Work.effects_one, List.nil_append,
          List.append_nil]
        exact requested_answerWay reads passes (outcomeOf_eq_ok.1 hh)

end Dispatch

end AgentIntake
