import AgentIntake.Proofs.Dispatch.Ways
import AgentIntake.Receiver.Basic

/-!
# Ways with the calls of the codec

What a worker does for a packet shows the calls of the handler and the replies.  The calls of the
codec leave nothing that others see, so the program's work does not show them.  Here it does: an
`Act` is a call of the codec or an effect, and `Receiver.dispatchActs` is all that is done for a
task, in order.

It adds nothing but those calls.  Without them it is the program's work, wait by wait and effect by
effect (`keep_dispatchActs`).  A packet is decoded once, whatever becomes of it afterwards
(`decodes_dispatchActs`).
-/

namespace AgentIntake

variable {M ρ : Type}

namespace Work

variable {ε δ α β : Type}

/-- The same work with its effects changed by `f`, but for those that `f` leaves out. -/
def keep (f : ε → Option δ) : Work ε → Work δ
  | [] => []
  | .effect e :: rest => (f e).toList.map .effect ++ keep f rest
  | .wait :: rest => .wait :: keep f rest

@[simp] theorem keep_nil (f : ε → Option δ) : keep f [] = [] :=
  rfl

@[simp] theorem keep_append (f : ε → Option δ) (v w : Work ε) :
    keep f (v ++ w) = keep f v ++ keep f w := by
  induction v with
  | nil => rfl
  | cons step rest ih =>
    cases step with
    | effect e => rw [List.cons_append, keep, keep, ih, List.append_assoc]
    | wait => exact congrArg (WorkStep.wait :: ·) ih

theorem effects_keep (f : ε → Option δ) (w : Work ε) :
    (keep f w).effects = w.effects.filterMap f := by
  induction w with
  | nil => rfl
  | cons step rest ih =>
    cases step with
    | effect e =>
      rw [keep, effects_append, ih, effects, List.filterMap_cons]
      cases f e <;> rfl
    | wait => exact ih

@[simp] theorem keep_waiting (f : ε → Option δ) (r : Reaction α β) :
    keep f (waiting r) = waiting r := by
  unfold waiting
  split <;> rfl

@[simp] theorem keep_one (f : ε → Option δ) (e : ε) :
    keep f (one e) = (f e).elim [] one := by
  rw [one, keep]
  cases f e <;> rfl

end Work

namespace Dispatch

/-! ## 1.  Acts -/

/-- One thing that is done on a way: the codec is asked for the message of a payload, whether a
message is a probe, or for the payload of an answer; or something happens that others see. -/
inductive Act (M : Type) where
  | decode (payload : List UInt8)
  | probe (message : M)
  | encode (answer : M)
  | effect (e : Effect M)

/-- What others see of it. -/
def Act.effect? : Act M → Option (Effect M)
  | effect e => some e
  | decode _ | probe _ | encode _ => none

/-- The payload that is decoded. -/
def Act.decoded? : Act M → Option (List UInt8)
  | decode payload => some payload
  | probe _ | encode _ | effect _ => none

/-- The payloads that are decoded, in order. -/
def decodes (acts : List (Act M)) : List (List UInt8) :=
  acts.filterMap Act.decoded?

@[simp] theorem decodes_nil : decodes ([] : List (Act M)) = [] :=
  rfl

@[simp] theorem decodes_cons (a : Act M) (acts : List (Act M)) :
    decodes (a :: acts) = a.decoded?.toList ++ decodes acts := by
  cases a <;> rfl

@[simp] theorem decodes_append (first second : List (Act M)) :
    decodes (first ++ second) = decodes first ++ decodes second :=
  List.filterMap_append

/-! ## 2.  Ways -/

/-- The way of a message that wants no answer. -/
def sendActs (codec : Codec M) (handler : Handler M) (payload : List UInt8) : Work (Act M) :=
  let decoded := codec.decode payload
  .one (.decode payload) ++ .waiting decoded ++
    match decoded.outcome with
    | .returned message =>
      .one (.effect (.called .send message)) ++ .waiting (handler.send message)
    | .failed _ | .panicked _ => []

/-- The way of an answer. -/
def answerActs (codec : Codec M) (reply : ReplySender) (answer : M) : Work (Act M) :=
  let encoded := codec.encode answer
  .one (.encode answer) ++ .waiting encoded ++
    match encoded.outcome with
    | .returned payload =>
      .waiting (reply payload) ++ .one (.effect (.replied payload (sends reply payload)))
    | .failed _ | .panicked _ => []

/-- The way of a message that wants an answer. -/
def requestActs (codec : Codec M) (handler : Handler M) (reply : ReplySender)
    (payload : List UInt8) : Work (Act M) :=
  let decoded := codec.decode payload
  .one (.decode payload) ++ .waiting decoded ++
    match decoded.outcome with
    | .returned message =>
      .one (.probe message) ++
        match codec.probe message with
        | .ok none =>
          let handled := handler.request message
          .one (.effect (.called .request message)) ++ .waiting handled ++
            match handled.outcome with
            | .returned (some answer) => answerActs codec reply answer
            | .returned none | .failed _ | .panicked _ => []
        | .ok (some _) | .error _ => []
    | .failed _ | .panicked _ => []

/-- The records at the end of a way. -/
def recordActs (path : Path) (remote : SocketAddress) (payload : List UInt8)
    (outcome : Except DispatchError Outcome) : Work (Act M) :=
  (records path remote payload outcome).map fun r => .effect (.effect (.logged r))

theorem keep_sendActs (codec : Codec M) (handler : Handler M) (payload : List UInt8) :
    (sendActs codec handler payload).keep Act.effect? = (sendWay codec handler payload).1 := by
  unfold sendActs sendWay
  cases h : (codec.decode payload).outcome with
  | returned message => simp [outcomeOf, Act.effect?, h]
  | failed | panicked => simp [outcomeOf, Act.effect?, h]

theorem keep_answerActs (codec : Codec M) (reply : ReplySender) (answer : M) :
    (answerActs codec reply answer).keep Act.effect? = (answerWay codec reply answer).1 := by
  unfold answerActs answerWay
  cases h : (codec.encode answer).outcome with
  | returned payload =>
    simp [outcomeOf, Act.effect?, h]
    rfl
  | failed | panicked => simp [outcomeOf, Act.effect?, h]

theorem keep_requestActs (codec : Codec M) (handler : Handler M) (reply : ReplySender)
    (payload : List UInt8) :
    (requestActs codec handler reply payload).keep Act.effect? =
      (requestWay codec handler reply payload).1 := by
  unfold requestActs requestWay
  cases h : (codec.decode payload).outcome with
  | failed | panicked => simp [outcomeOf, Act.effect?, h]
  | returned message =>
    cases hp : codec.probe message with
    | error p => simp [outcomeOf, Act.effect?, h, hp]
    | ok text =>
      cases text with
      | some text => simp [outcomeOf, Act.effect?, h, hp]
      | none =>
        cases hh : (handler.request message).outcome with
        | failed | panicked => simp [outcomeOf, Act.effect?, h, hp, hh]
        | returned answer =>
          cases answer with
          | none => simp [outcomeOf, Act.effect?, h, hp, hh]
          | some answer =>
            simp [outcomeOf, Act.effect?, h, hp, hh, keep_answerActs]

theorem keep_recordActs (path : Path) (remote : SocketAddress) (payload : List UInt8)
    (outcome : Except DispatchError Outcome) :
    (recordActs (M := M) path remote payload outcome).keep Act.effect? =
      (records path remote payload outcome).map fun r => .effect (.logged r) := by
  unfold recordActs
  induction records path remote payload outcome with
  | nil => rfl
  | cons r rs ih => exact congrArg (WorkStep.effect (Effect.logged r) :: ·) ih

/-! ## 3.  What is decoded -/

theorem decodes_sendActs (codec : Codec M) (handler : Handler M) (payload : List UInt8) :
    decodes (sendActs codec handler payload).effects = [payload] := by
  unfold sendActs
  cases h : (codec.decode payload).outcome <;> simp [h, Act.decoded?]

theorem decodes_answerActs (codec : Codec M) (reply : ReplySender) (answer : M) :
    decodes (answerActs codec reply answer).effects = [] := by
  unfold answerActs
  cases h : (codec.encode answer).outcome <;> simp [h, Act.decoded?]

theorem decodes_requestActs (codec : Codec M) (handler : Handler M) (reply : ReplySender)
    (payload : List UInt8) :
    decodes (requestActs codec handler reply payload).effects = [payload] := by
  unfold requestActs
  cases h : (codec.decode payload).outcome with
  | failed | panicked => simp [h, Act.decoded?]
  | returned message =>
    cases hp : codec.probe message with
    | error => simp [h, hp, Act.decoded?]
    | ok text =>
      cases text with
      | some text => simp [h, hp, Act.decoded?]
      | none =>
        cases hh : (handler.request message).outcome with
        | failed | panicked => simp [h, hp, hh, Act.decoded?]
        | returned answer =>
          cases answer with
          | none => simp [h, hp, hh, Act.decoded?]
          | some answer => simp [h, hp, hh, Act.decoded?, decodes_answerActs]

theorem decodes_recordActs (path : Path) (remote : SocketAddress) (payload : List UInt8)
    (outcome : Except DispatchError Outcome) :
    decodes (recordActs (M := M) path remote payload outcome).effects = [] := by
  unfold recordActs
  induction records path remote payload outcome with
  | nil => rfl
  | cons r rs ih => exact ih

/-! ## 4.  What is logged -/

theorem target_of_mem_records {path : Path} {remote : SocketAddress} {payload : List UInt8}
    {outcome : Except DispatchError Outcome} {r : Log.Record}
    (h : r ∈ records path remote payload outcome) : r.target = target := by
  rcases outcome with e | (_ | text)
  · rcases List.mem_cons.1 h with rfl | h
    · rfl
    · exact congrArg Log.Record.target (List.mem_singleton.1 h)
  · cases h
  · exact congrArg Log.Record.target (List.mem_singleton.1 h)

/-- A way makes no records before it is told. -/
theorem target_of_mem_told {path : Path} {remote : SocketAddress} {payload : List UInt8}
    {way : Work (Effect M) × Except DispatchError Outcome} {r : Log.Record}
    (hway : .logged r ∉ way.1.effects) (h : .logged r ∈ (told path remote payload way).effects) :
    r.target = target := by
  rw [effects_told] at h
  rcases List.mem_append.1 h with h | h
  · exact absurd h hway
  · obtain ⟨s, hs, he⟩ := List.mem_map.1 h
    cases he
    exact target_of_mem_records hs

theorem not_logged_sendWay (codec : Codec M) (handler : Handler M) (payload : List UInt8)
    (r : Log.Record) : .logged r ∉ (sendWay codec handler payload).1.effects := by
  have hs := sent_sendWay codec handler payload
  generalize (sendWay codec handler payload).1.effects = effects at hs ⊢
  cases hs <;> simp

theorem not_logged_requestWay (codec : Codec M) (handler : Handler M) (reply : ReplySender)
    (payload : List UInt8) (r : Log.Record) :
    .logged r ∉ (requestWay codec handler reply payload).1.effects := by
  have hs := requested_requestWay codec handler reply payload
  generalize (requestWay codec handler reply payload).1.effects = effects at hs ⊢
  cases hs <;> simp

end Dispatch

/-! ## 5.  Tasks -/

/-- The packet that a task is for: its way, where it comes from and its payload. -/
def Delivery.packet? : Delivery ρ → Option (Dispatch.Path × SocketAddress × List UInt8)
  | send packet => some (.send, packet.remote, packet.payload)
  | request packet => some (.request, packet.remote, packet.payload)
  | other => none

namespace Receiver

open Dispatch

/-- All that a worker of the dispatch pool does for a task. -/
def dispatchActs (codec : Codec M) (handler : Handler M) (reply : ρ → ReplySender) :
    Delivery ρ → Work (Act M)
  | .send packet =>
    sendActs codec handler packet.payload ++
      recordActs .send packet.remote packet.payload (sendWay codec handler packet.payload).2
  | .request packet =>
    requestActs codec handler (reply packet.reply) packet.payload ++
      recordActs .request packet.remote packet.payload
        (requestWay codec handler (reply packet.reply) packet.payload).2
  | .other => []

/-- **Without the calls of the codec it is the program's work.** -/
theorem keep_dispatchActs (codec : Codec M) (handler : Handler M) (reply : ρ → ReplySender)
    (task : Delivery ρ) :
    (dispatchActs codec handler reply task).keep Act.effect? =
      dispatchWork codec handler reply task := by
  cases task with
  | send packet =>
    rw [dispatchActs, Work.keep_append, keep_sendActs, keep_recordActs]
    rfl
  | request packet =>
    rw [dispatchActs, Work.keep_append, keep_requestActs, keep_recordActs]
    rfl
  | other => rfl

theorem effect?_dispatchActs (codec : Codec M) (handler : Handler M) (reply : ρ → ReplySender)
    (task : Delivery ρ) :
    (dispatchActs codec handler reply task).effects.filterMap Act.effect? =
      (dispatchWork codec handler reply task).effects := by
  rw [← keep_dispatchActs, Work.effects_keep]

/-- The records that are made for a task are records of dispatch. -/
theorem target_of_logged {codec : Codec M} {handler : Handler M} {reply : ρ → ReplySender}
    {task : Delivery ρ} {r : Log.Record}
    (h : .effect (.logged r) ∈ (dispatchActs codec handler reply task).effects) :
    r.target = Dispatch.target := by
  have hm : .logged r ∈ (dispatchWork codec handler reply task).effects := by
    rw [← effect?_dispatchActs]
    exact List.mem_filterMap.2 ⟨_, h, rfl⟩
  cases task with
  | send packet => exact target_of_mem_told (not_logged_sendWay _ _ _ _) hm
  | request packet => exact target_of_mem_told (not_logged_requestWay _ _ _ _ _) hm
  | other => cases hm

/-- **A packet is decoded once.** -/
theorem decodes_dispatchActs (codec : Codec M) (handler : Handler M) (reply : ρ → ReplySender)
    {task : Delivery ρ} {path : Path} {remote : SocketAddress} {payload : List UInt8}
    (h : task.packet? = some (path, remote, payload)) :
    decodes (dispatchActs codec handler reply task).effects = [payload] := by
  cases task with
  | send packet =>
    cases h
    rw [dispatchActs, Work.effects_append, decodes_append, decodes_sendActs, decodes_recordActs]
    rfl
  | request packet =>
    cases h
    rw [dispatchActs, Work.effects_append, decodes_append, decodes_requestActs, decodes_recordActs]
    rfl
  | other => cases h

end Receiver

end AgentIntake
