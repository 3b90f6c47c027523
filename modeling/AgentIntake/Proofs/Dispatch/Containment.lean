import AgentIntake.Proofs.Dispatch.Trace

/-!
# What escapes from dispatch

A call of the codec, the handler or the reply handle returns, fails or panics, and a panic unwinds
everything up to whoever catches it.  The program's ways decide by cases what becomes of each.  Here
the same is written down with unwinding: a `Run` ends with a value, an error or a panic, whatever
follows in a `do` block is done only after a value, and `caught` is the one place where a panic is
stopped.

The two agree (`sendRun_eq`, `requestRun_eq`): what is done in the run of a packet is what the
program does for it, the calls of the codec included.  No error and no panic of a stage is seen by
whoever starts the run.  One thing is: a request's reply handle is asked for its address before
there is anything that catches, and a panic of that goes through (`panic_escapes`).

What is asked of the handler and of the reply handle is then a matter of which calls return
(`dispatch_contained`).
-/

namespace AgentIntake

/-- The attempt with its error under another name. -/
@[simp] def Attempt.mapError {ε δ α : Type} (f : ε → δ) : Attempt ε α → Attempt δ α
  | returned a => .returned a
  | failed e => .failed (f e)
  | panicked p => .panicked p

/-- The attempt of a call that returns no error: it has a value, or it panics. -/
@[simp] def Attempt.ofCall {ε α : Type} : Except PanicPayload α → Attempt ε α
  | .ok a => .returned a
  | .error p => .panicked p

namespace Dispatch

variable {M ρ α β : Type}

/-! ## 1.  Runs -/

/-- What is done, in order, and how it ends. -/
structure Run (M α : Type) where
  work : Work (Act M)
  outcome : Attempt DispatchError α

namespace Run

/-- Nothing is done. -/
protected def pure (a : α) : Run M α :=
  ⟨[], .returned a⟩

/-- What follows is done after a value only. -/
protected def bind (r : Run M α) (f : α → Run M β) : Run M β :=
  match r.outcome with
  | .returned a => ⟨r.work ++ (f a).work, (f a).outcome⟩
  | .failed e => ⟨r.work, .failed e⟩
  | .panicked p => ⟨r.work, .panicked p⟩

instance : Monad (Run M) where
  pure := Run.pure
  bind := Run.bind

/-- A call, whose failure is that of a stage. -/
def call {ε : Type} (act : Act M) (stage : ε → DispatchError) (reaction : Reaction ε α) : Run M α :=
  ⟨.one act ++ .waiting reaction, reaction.outcome.mapError stage⟩

/-- The codec is asked whether a message is a probe. -/
def probing (codec : Codec M) (message : M) : Run M (Option String) :=
  ⟨.one (.probe message), .ofCall (codec.probe message)⟩

/-- The reply handle is asked where its request came from. -/
def locating (reply : ReplyHandle) : Run M SocketAddress :=
  ⟨[], .ofCall reply.remote⟩

/-- A payload is given to the reply handle. -/
def replying (reply : ReplySender) (payload : List UInt8) : Run M Unit where
  work := .waiting (reply payload) ++ .one (.effect (.replied payload (sends reply payload)))
  outcome := (reply payload).outcome.mapError .reply

/-- Whatever it ends with is a value now: a panic has become an error. -/
def caught (r : Run M α) : Run M (Except DispatchError α) :=
  ⟨r.work, .returned (outcomeOf id r.outcome)⟩

/-- Records are made of an outcome. -/
def recording (path : Path) (remote : SocketAddress) (payload : List UInt8)
    (outcome : Except DispatchError Outcome) : Run M Unit :=
  ⟨recordActs path remote payload outcome, .returned ()⟩

/-- The way of a message that wants no answer. -/
def sending (codec : Codec M) (handler : Handler M) (payload : List UInt8) : Run M Outcome := do
  let message ← call (.decode payload) .decode (codec.decode payload)
  call (.effect (.called .send message)) .handler (handler.send message)
  return .handled

/-- The way of an answer. -/
def answering (codec : Codec M) (reply : ReplySender) (answer : M) : Run M Outcome := do
  let bytes ← call (.encode answer) .encode (codec.encode answer)
  replying reply bytes
  return .handled

/-- The way of a message that wants an answer. -/
def requesting (codec : Codec M) (handler : Handler M) (reply : ReplySender)
    (payload : List UInt8) : Run M Outcome := do
  let message ← call (.decode payload) .decode (codec.decode payload)
  match ← probing codec message with
  | some text => return .probe text
  | none =>
    match ← call (.effect (.called .request message)) .handler (handler.request message) with
    | some answer => answering codec reply answer
    | none => return .handled

/-- What is done for a packet: its way, and then the records of how that has ended. -/
def entry (path : Path) (remote : SocketAddress) (payload : List UInt8) (way : Run M Outcome) :
    Run M Unit := do
  recording path remote payload (← way.caught)

/-! ## 2.  What a run does -/

@[simp] theorem work_pure (a : α) : (pure a : Run M α).work = [] :=
  rfl

@[simp] theorem outcome_pure (a : α) : (pure a : Run M α).outcome = .returned a :=
  rfl

/-- Nothing is done after an error or a panic. -/
@[simp] theorem work_bind (r : Run M α) (f : α → Run M β) :
    (r >>= f).work = r.work ++
      match r.outcome with
      | .returned a => (f a).work
      | .failed _ | .panicked _ => [] := by
  show (Run.bind r f).work = _
  unfold Run.bind
  cases r.outcome <;> simp

/-- Either is how the whole run ends. -/
@[simp] theorem outcome_bind (r : Run M α) (f : α → Run M β) :
    (r >>= f).outcome =
      match r.outcome with
      | .returned a => (f a).outcome
      | .failed e => .failed e
      | .panicked p => .panicked p := by
  show (Run.bind r f).outcome = _
  unfold Run.bind
  cases r.outcome <;> rfl

section Calls

variable {ε : Type} (act : Act M) (stage : ε → DispatchError) (reaction : Reaction ε α)

@[simp] theorem work_call : (call act stage reaction).work = .one act ++ .waiting reaction :=
  rfl

@[simp] theorem outcome_call :
    (call act stage reaction).outcome = reaction.outcome.mapError stage :=
  rfl

end Calls

section Asking

variable (codec : Codec M) (message : M) (reply : ReplySender) (payload : List UInt8)

@[simp] theorem work_probing : (probing codec message).work = .one (.probe message) :=
  rfl

@[simp] theorem outcome_probing : (probing codec message).outcome = .ofCall (codec.probe message) :=
  rfl

@[simp] theorem work_replying :
    (replying (M := M) reply payload).work =
      .waiting (reply payload) ++ .one (.effect (.replied payload (sends reply payload))) :=
  rfl

@[simp] theorem outcome_replying :
    (replying (M := M) reply payload).outcome = (reply payload).outcome.mapError .reply :=
  rfl

end Asking

/-! ## 3.  The program's ways -/

/-- The run is the program's way: it does what the way with the calls of the codec does, and its
outcome, once caught, is the outcome of the way. -/
structure Follows (r : Run M Outcome) (acts : Work (Act M))
    (outcome : Except DispatchError Outcome) : Prop where
  work : r.work = acts
  outcome : outcomeOf id r.outcome = outcome

section

variable (codec : Codec M) (handler : Handler M) (reply : ReplySender)

theorem follows_sending (payload : List UInt8) :
    Follows (sending codec handler payload) (sendActs codec handler payload)
      (sendWay codec handler payload).2 := by
  unfold sending sendActs sendWay
  cases hd : (codec.decode payload).outcome with
  | failed | panicked => constructor <;> simp [outcomeOf, hd]
  | returned message =>
    cases hh : (handler.send message).outcome <;>
      constructor <;> simp [outcomeOf, Except.map, hd, hh]

theorem follows_answering (answer : M) :
    Follows (answering codec reply answer) (answerActs codec reply answer)
      (answerWay codec reply answer).2 := by
  unfold answering answerActs answerWay
  cases he : (codec.encode answer).outcome with
  | failed | panicked => constructor <;> simp [outcomeOf, he]
  | returned bytes =>
    cases hr : (reply bytes).outcome <;>
      constructor <;> simp [outcomeOf, Except.map, he, hr]

theorem follows_requesting (payload : List UInt8) :
    Follows (requesting codec handler reply payload) (requestActs codec handler reply payload)
      (requestWay codec handler reply payload).2 := by
  unfold requesting requestActs requestWay
  cases hd : (codec.decode payload).outcome with
  | failed | panicked => constructor <;> simp [outcomeOf, hd]
  | returned message =>
    cases hp : codec.probe message with
    | error p => constructor <;> simp [outcomeOf, hd, hp]
    | ok text =>
      cases text with
      | some text => constructor <;> simp [outcomeOf, hd, hp]
      | none =>
        cases hh : (handler.request message).outcome with
        | failed | panicked => constructor <;> simp [outcomeOf, hd, hp, hh]
        | returned answer =>
          cases answer with
          | none => constructor <;> simp [outcomeOf, hd, hp, hh]
          | some answer =>
            have ha := follows_answering codec reply answer
            constructor
            · simp [hd, hp, hh, ha.work]
            · simp [outcomeOf, hd, hp, hh, ← ha.outcome]

end

/-- The records are made of how the way has ended, and nothing comes out of that. -/
theorem entry_of_follows {r : Run M Outcome} {acts : Work (Act M)}
    {outcome : Except DispatchError Outcome} (h : Follows r acts outcome) (path : Path)
    (remote : SocketAddress) (payload : List UInt8) :
    entry path remote payload r =
      ⟨acts ++ recordActs path remote payload outcome, .returned ()⟩ := by
  rw [← h.work, ← h.outcome]
  rfl

end Run

/-! ## 4.  Packets -/

section

variable (codec : Codec M) (handler : Handler M) (send : ρ → ReplySender)

/-- All that is done for a packet that wants no answer. -/
def sendRun (packet : SendPacket) : Run M Unit :=
  .entry .send packet.remote packet.payload (.sending codec handler packet.payload)

/-- All that is done for the payload of a packet that wants an answer. -/
def requestRun (reply : ReplyHandle) (payload : List UInt8) : Run M Unit := do
  let remote ← .locating reply
  .entry .request remote payload (.requesting codec handler reply.send payload)

theorem sendRun_eq (packet : SendPacket) :
    sendRun codec handler packet =
      ⟨Receiver.dispatchActs codec handler send (.send packet), .returned ()⟩ :=
  Run.entry_of_follows (Run.follows_sending codec handler packet.payload) ..

theorem requestRun_of_panic (sender : ReplySender) (payload : List UInt8) (p : PanicPayload) :
    requestRun codec handler ⟨.error p, sender⟩ payload = ⟨[], .panicked p⟩ :=
  rfl

theorem requestRun_eq (packet : RequestPacket ρ) :
    requestRun codec handler (packet.handle send) packet.payload =
      ⟨Receiver.dispatchActs codec handler send (.request packet), .returned ()⟩ :=
  Run.entry_of_follows
    (Run.follows_requesting codec handler (send packet.reply) packet.payload) ..

end

/-! ## 5.  What is asked of the others -/

/-- The act, if it is a call of the codec. -/
def Act.consult? : Act M → Option (Act M)
  | effect _ => none
  | act => some act

/-- The calls of the codec. -/
def consults (acts : List (Act M)) : List (Act M) :=
  acts.filterMap Act.consult?

/-- The payload that is given to the reply handle, if the effect is that, whether or not it is
sent. -/
def Effect.attempt? : Effect M → Option (List UInt8)
  | replied payload _ => some payload
  | called .. | logged _ => none

/-- The payloads that are given to the reply handle. -/
def attempts (effects : List (Effect M)) : List (List UInt8) :=
  effects.filterMap Effect.attempt?

theorem attempts_told (path : Path) (remote : SocketAddress) (payload : List UInt8)
    (way : Work (Effect M) × Except DispatchError Outcome) :
    attempts (told path remote payload way).effects = attempts way.1.effects := by
  rw [effects_told, attempts, List.filterMap_append, List.filterMap_map]
  exact (congrArg _ (List.filterMap_eq_nil_iff.2 fun _ _ => rfl)).trans (List.append_nil _)

theorem consults_recordActs (path : Path) (remote : SocketAddress) (payload : List UInt8)
    (outcome : Except DispatchError Outcome) :
    consults (recordActs (M := M) path remote payload outcome).effects = [] := by
  unfold recordActs
  induction records path remote payload outcome with
  | nil => rfl
  | cons r rs ih => exact ih

theorem consults_sendActs (codec : Codec M) (handler : Handler M) (payload : List UInt8) :
    consults (sendActs codec handler payload).effects = [.decode payload] := by
  unfold sendActs
  cases h : (codec.decode payload).outcome <;> simp [consults, Act.consult?, h]

/-- The list has the one thing with the property, or nothing if nothing has it. -/
structure Only (p : α → Prop) (xs : List α) : Prop where
  one (a : α) : xs = [a] ↔ p a
  none : xs = [] ↔ ∀ a, ¬ p a

theorem Only.nil {p : α → Prop} (h : ∀ a, ¬ p a) : Only p [] where
  one a := ⟨nofun, fun ha => absurd ha (h a)⟩
  none := ⟨fun _ => h, fun _ => rfl⟩

theorem Only.singleton {p : α → Prop} {a : α} (h : p a) (unique : ∀ b, p b → b = a) :
    Only p [a] where
  one b := ⟨fun he => List.singleton_inj.1 he ▸ h, fun hb => by rw [unique b hb]⟩
  none := ⟨nofun, fun hn => absurd h (hn a)⟩

/-- The message of the payload is for the handler of messages that want an answer: it is there, and
it is no probe. -/
structure Passes (codec : Codec M) (payload : List UInt8) (m : M) : Prop where
  reads : (codec.decode payload).outcome = .returned m
  clear : codec.probe m = .ok none

/-- The handler has an answer to the message of the payload, and these are its bytes. -/
structure Answers (codec : Codec M) (handler : Handler M) (payload : List UInt8) (m answer : M)
    (bytes : List UInt8) : Prop where
  passes : Passes codec payload m
  returns : (handler.request m).outcome = .returned (some answer)
  encodes : (codec.encode answer).outcome = .returned bytes

section

variable {codec : Codec M} {handler : Handler M} {payload : List UInt8}

theorem reads_unique {m n : M} (hm : (codec.decode payload).outcome = .returned m)
    (hn : (codec.decode payload).outcome = .returned n) : n = m := by
  cases hm.symm.trans hn
  rfl

theorem Answers.unique {m answer n other : M} {bytes more : List UInt8}
    (hm : Answers codec handler payload m answer bytes)
    (hn : Answers codec handler payload n other more) : more = bytes := by
  obtain rfl := reads_unique hm.passes.reads hn.passes.reads
  cases hm.returns.symm.trans hn.returns
  cases hm.encodes.symm.trans hn.encodes
  rfl

end

/-! ## 6.  What packets lead to -/

/-- What a packet that wants no answer leads to.

The run does what the program does (`work`).  Neither an error nor a panic comes out of it
(`contained`).  The handler is called once, with the message, if there is one, and not at all
otherwise (`called`).  The codec is asked for the message, and for nothing else (`consulted`).
Nothing is given to a reply handle (`unanswered`). -/
structure SendContained (codec : Codec M) (handler : Handler M) (packet : SendPacket) : Prop where
  work : (sendRun codec handler packet).work.keep Act.effect? = handleSend codec handler packet
  contained : (sendRun codec handler packet).outcome = .returned ()
  called : Only
    (fun call => call.1 = .send ∧ (codec.decode packet.payload).outcome = .returned call.2)
    (calls (handleSend codec handler packet).effects)
  consulted : consults (sendRun codec handler packet).work.effects = [.decode packet.payload]
  unanswered : attempts (handleSend codec handler packet).effects = []

/-- What the payload of a packet that wants an answer leads to.  Only a panic of the reply handle
that is asked for its address comes out of it (`contained`), and then nothing has been done
(`undone`).  Otherwise the handler is called once, with the message, if there is one and it is no
probe (`called`), and the reply handle is given the bytes of the handler's answer, once, if there
are such bytes (`attempted`). -/
structure RequestContained (codec : Codec M) (handler : Handler M) (reply : ReplyHandle)
    (payload : List UInt8) : Prop where
  work : (requestRun codec handler reply payload).work.keep Act.effect? =
    (handleRequest codec handler reply payload).1
  ends : (requestRun codec handler reply payload).outcome =
    .ofCall (handleRequest codec handler reply payload).2
  contained : (handleRequest codec handler reply payload).2 = reply.remote.map fun _ => ()
  undone {p : PanicPayload} : reply.remote = .error p →
    (requestRun codec handler reply payload).work = []
  called : Only
    (fun call => (∃ remote, reply.remote = .ok remote) ∧ call.1 = .request ∧
      Passes codec payload call.2)
    (calls (handleRequest codec handler reply payload).1.effects)
  attempted : Only
    (fun bytes => (∃ remote, reply.remote = .ok remote) ∧
      ∃ m answer, Answers codec handler payload m answer bytes)
    (attempts (handleRequest codec handler reply payload).1.effects)

section

variable (codec : Codec M) (handler : Handler M)

theorem sendContained (packet : SendPacket) : SendContained codec handler packet := by
  have hrun := sendRun_eq codec handler (fun _ : Unit => fun _ => .value ()) packet
  have hs := sent_sendWay codec handler packet.payload
  have hc : calls (handleSend codec handler packet).effects =
      calls (sendWay codec handler packet.payload).1.effects := calls_told ..
  have ha : attempts (handleSend codec handler packet).effects =
      attempts (sendWay codec handler packet.payload).1.effects := attempts_told ..
  generalize (sendWay codec handler packet.payload).1.effects = effects at hs hc ha
  refine
    { work := ?work, contained := ?contained, called := ?called, consulted := ?consulted
      unanswered := ?unanswered }
  case work =>
    rw [hrun]
    exact Receiver.keep_dispatchActs codec handler (fun _ : Unit => fun _ => .value ())
      (.send packet)
  case contained => rw [hrun]
  case called =>
    rw [hc]
    cases hs with
    | unread fails => exact .nil fun call h => fails call.2 h.2
    | handled reads =>
      exact .singleton ⟨rfl, reads⟩ fun call h => Prod.ext h.1 (reads_unique reads h.2)
  case consulted =>
    rw [hrun, Receiver.dispatchActs, Work.effects_append, consults, List.filterMap_append,
      ← consults, ← consults, consults_sendActs, consults_recordActs, List.append_nil]
  case unanswered =>
    rw [ha]
    cases hs <;> rfl

/-- A reply handle that does not say where its request came from ends everything. -/
theorem requestContained_of_panic (send : ReplySender) (payload : List UInt8) (p : PanicPayload) :
    RequestContained codec handler ⟨.error p, send⟩ payload where
  work := rfl
  ends := rfl
  contained := rfl
  undone _ := rfl
  called := .nil fun _ ⟨⟨_, h⟩, _⟩ => nomatch h
  attempted := .nil fun _ ⟨⟨_, h⟩, _⟩ => nomatch h

theorem requestContained_of_located (remote : SocketAddress) (send : ReplySender)
    (payload : List UInt8) : RequestContained codec handler ⟨.ok remote, send⟩ payload := by
  have hrun := requestRun_eq codec handler (fun _ : Unit => send) ⟨payload, remote, ()⟩
  have hs := requested_requestWay codec handler send payload
  have hc : calls (handleRequest codec handler ⟨.ok remote, send⟩ payload).1.effects =
      calls (requestWay codec handler send payload).1.effects :=
    calls_told ..
  have ha : attempts (handleRequest codec handler ⟨.ok remote, send⟩ payload).1.effects =
      attempts (requestWay codec handler send payload).1.effects :=
    attempts_told ..
  have hlocated : ∃ r, (Except.ok remote : Except PanicPayload SocketAddress) = .ok r :=
    ⟨remote, rfl⟩
  generalize (requestWay codec handler send payload).1.effects = effects at hs hc ha
  refine
    { work := ?work, ends := ?ends, contained := rfl, undone := nofun, called := ?called
      attempted := ?attempted }
  case work =>
    refine (congrArg (fun r => r.work.keep Act.effect?) hrun).trans ?_
    exact Receiver.keep_dispatchActs codec handler (fun _ : Unit => send)
      (.request ⟨payload, remote, ()⟩)
  case ends => exact congrArg Run.outcome hrun
  case called =>
    rw [hc]
    cases hs with
    | unread fails => exact .nil fun call h => fails call.2 h.2.2.reads h.2.2.clear
    | unanswered reads clear | answered reads clear =>
      exact .singleton ⟨hlocated, rfl, reads, clear⟩
        fun call h => Prod.ext h.2.1 (reads_unique reads h.2.2.reads)
  case attempted =>
    rw [ha]
    cases hs with
    | unread fails =>
      exact .nil fun bytes ⟨_, m, answer, h⟩ => fails m h.passes.reads h.passes.clear
    | unanswered reads clear fails =>
      refine .nil fun bytes ⟨_, m, answer, h⟩ => ?_
      obtain rfl := reads_unique reads h.passes.reads
      exact fails answer h.returns bytes h.encodes
    | answered reads clear returns encodes =>
      have h : Answers codec handler payload _ _ _ := ⟨⟨reads, clear⟩, returns, encodes⟩
      exact .singleton ⟨hlocated, _, _, h⟩ fun more ⟨_, _, _, hm⟩ => h.unique hm

theorem requestContained (reply : ReplyHandle) (payload : List UInt8) :
    RequestContained codec handler reply payload := by
  obtain ⟨remote, send⟩ := reply
  cases remote with
  | error p => exact requestContained_of_panic codec handler send payload p
  | ok remote => exact requestContained_of_located codec handler remote send payload

end

/-- **What escapes from dispatch, and when the handler and the reply handle are called.**

Whatever the codec, the handler and the reply handle do, return, fail or panic, nothing comes out of
the run of a packet that wants no answer; out of the run of one that wants an answer comes a panic
of the reply handle when it is asked where the request came from, after which nothing is done, and
nothing else.  The runs do what the program does.

A packet that wants no answer leads to one call of the handler, with its message, or to none if it
has no message; the codec is asked for nothing but the message, and nothing is replied.  A packet
that wants an answer leads to one call if it has a message that is no probe, and to one reply if the
call has an answer that has bytes: those bytes. -/
theorem dispatch_contained (codec : Codec M) (handler : Handler M) :
    (∀ packet : SendPacket, SendContained codec handler packet) ∧
      ∀ reply payload, RequestContained codec handler reply payload :=
  ⟨sendContained codec handler, requestContained codec handler⟩

/-- A codec whose messages carry nothing. -/
def blankCodec : Codec Unit where
  decode _ := .value ()
  encode _ := .value []
  probe _ := .ok none

/-- A handler that answers every message with itself. -/
def echoHandler : Handler Unit where
  send _ := .value ()
  request m := .value (some m)

/-- A panic of the reply handle that is asked for its address is not contained, although the message
is no probe and has an answer. -/
theorem panic_escapes :
    (handleRequest blankCodec echoHandler ⟨.error (.text "gone"), fun _ => .value ()⟩ []).2 =
        .error (.text "gone") ∧
      Answers blankCodec echoHandler [] () () [] ∧
      calls (handleRequest blankCodec echoHandler
        ⟨.error (.text "gone"), fun _ => .value ()⟩ []).1.effects = [] :=
  ⟨rfl, ⟨⟨rfl, rfl⟩, rfl, rfl⟩, rfl⟩

end Dispatch

end AgentIntake
