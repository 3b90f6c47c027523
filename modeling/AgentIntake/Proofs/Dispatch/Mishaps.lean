import AgentIntake.Proofs.Dispatch.Containment
import AgentIntake.Proofs.Text.RoundTrip
import AgentIntake.Log.Filter

/-!
# What goes wrong is logged

A stage of a way goes wrong when its call fails or panics.  Which stage that is, and how it goes
wrong, is said here of the collaborators alone (`SendMishap`, `RequestMishap`): a later stage goes
wrong only where the earlier ones have gone well.

Then every mishap has its error (`error_of_sendMishap`, `error_of_requestMishap`), a way without one
ends well (`sendWay_cases`, `requestWay_cases`), and what the log shows of a packet follows from the
records of its outcome (`mishaps_logged`).  The log is what the telemetry lets through, level by
level: a filter that asks for no fields does nothing else (`exists_enabled`).  The dump of the
payload stands right behind the warning and can be read back.
-/

namespace AgentIntake

namespace Dispatch

variable {M ε α : Type}

/-! ## 1.  Mishaps -/

/-- The calls on the ways. -/
inductive Stage where
  | decode
  | probe
  | handler
  | encode
  | reply
  deriving DecidableEq

/-- The name of a stage. -/
def Stage.text : Stage → String
  | decode => "decode"
  | probe => "probe"
  | handler => "handler"
  | encode => "encode"
  | reply => "reply"

/-- How a call goes wrong: it returns an error with this wording, or it panics. -/
inductive Mishap where
  | failed (text : String)
  | panicked (payload : PanicPayload)

/-- How the call went wrong, if it did. -/
def mishap? [Diagnostic ε] : Attempt ε α → Option Mishap
  | .returned _ => none
  | .failed e => some (.failed (Diagnostic.message e))
  | .panicked p => some (.panicked p)

/-- The wording of the warning: a stage that failed is named, a panic is told. -/
def Mishap.error (stage : Stage) : Mishap → String
  | failed _ => stage.text ++ " failed"
  | panicked p => "dispatch panicked: " ++ p.message

/-- The wording of the stage's own error, if it returned one. -/
def Mishap.cause? : Mishap → Option String
  | failed text => some text
  | panicked _ => none

/-- A stage goes wrong on the way of a message that wants no answer. -/
inductive SendMishap (codec : Codec M) (handler : Handler M) (payload : List UInt8) :
    Stage → Mishap → Prop where
  | decode {how : Mishap} (wrong : mishap? (codec.decode payload).outcome = some how) :
    SendMishap codec handler payload .decode how
  | handler {m : M} {how : Mishap} (reads : (codec.decode payload).outcome = .returned m)
    (wrong : mishap? (handler.send m).outcome = some how) :
    SendMishap codec handler payload .handler how

/-- A stage goes wrong on the way of a message that wants an answer. -/
inductive RequestMishap (codec : Codec M) (handler : Handler M) (reply : ReplySender)
    (payload : List UInt8) : Stage → Mishap → Prop where
  | decode {how : Mishap} (wrong : mishap? (codec.decode payload).outcome = some how) :
    RequestMishap codec handler reply payload .decode how
  | probe {m : M} {p : PanicPayload} (reads : (codec.decode payload).outcome = .returned m)
    (wrong : codec.probe m = .error p) :
    RequestMishap codec handler reply payload .probe (.panicked p)
  | handler {m : M} {how : Mishap} (passes : Passes codec payload m)
    (wrong : mishap? (handler.request m).outcome = some how) :
    RequestMishap codec handler reply payload .handler how
  | encode {m answer : M} {how : Mishap} (passes : Passes codec payload m)
    (returns : (handler.request m).outcome = .returned (some answer))
    (wrong : mishap? (codec.encode answer).outcome = some how) :
    RequestMishap codec handler reply payload .encode how
  | reply {m answer : M} {bytes : List UInt8} {how : Mishap}
    (answers : Answers codec handler payload m answer bytes)
    (wrong : mishap? (reply bytes).outcome = some how) :
    RequestMishap codec handler reply payload .reply how

/-- The message of the payload is a probe with this text. -/
def Probes (codec : Codec M) (payload : List UInt8) (text : String) : Prop :=
  ∃ m, (codec.decode payload).outcome = .returned m ∧ codec.probe m = .ok (some text)

/-! ## 2.  Errors of mishaps -/

/-- The error tells of the mishap. -/
structure Tells (e : DispatchError) (stage : Stage) (how : Mishap) : Prop where
  message : e.message = how.error stage
  cause : e.cause? = how.cause?

/-- The errors of a stage name it, and the stage's own error lies behind them. -/
structure Names [Diagnostic ε] (error : ε → DispatchError) (stage : Stage) : Prop where
  tells (e : ε) : Tells (error e) stage (.failed (Diagnostic.message e))

theorem names_decode : Names DispatchError.decode .decode :=
  ⟨fun _ => ⟨rfl, rfl⟩⟩

theorem names_handler : Names DispatchError.handler .handler :=
  ⟨fun _ => ⟨rfl, rfl⟩⟩

theorem names_encode : Names DispatchError.encode .encode :=
  ⟨fun _ => ⟨rfl, rfl⟩⟩

theorem names_reply : Names DispatchError.reply .reply :=
  ⟨fun _ => ⟨rfl, rfl⟩⟩

theorem tells_panicked (stage : Stage) (p : PanicPayload) :
    Tells (.panicked p.message) stage (.panicked p) :=
  ⟨rfl, rfl⟩

section

variable [Diagnostic ε] {error : ε → DispatchError} {stage : Stage} {attempt : Attempt ε α}

/-- A mishap becomes an error that tells of it. -/
theorem exists_outcomeOf (hn : Names error stage) {how : Mishap} (h : mishap? attempt = some how) :
    ∃ e, outcomeOf error attempt = .error e ∧ Tells e stage how := by
  cases attempt with
  | returned a => cases h
  | failed e =>
    cases h
    exact ⟨_, rfl, hn.tells e⟩
  | panicked p =>
    cases h
    exact ⟨_, rfl, tells_panicked stage p⟩

/-- Every error comes from a mishap. -/
theorem exists_mishap {e : DispatchError} (h : outcomeOf error attempt = .error e) :
    ∃ how, mishap? attempt = some how := by
  cases attempt with
  | returned a => cases h
  | failed e => exact ⟨_, rfl⟩
  | panicked p => exact ⟨_, rfl⟩

end

section

variable {codec : Codec M} {handler : Handler M} {reply : ReplySender} {payload : List UInt8}
  {stage : Stage} {how : Mishap}

theorem error_of_sendMishap (h : SendMishap codec handler payload stage how) :
    ∃ e, (sendWay codec handler payload).2 = .error e ∧ Tells e stage how := by
  cases h with
  | decode wrong =>
    obtain ⟨e, he, ht⟩ := exists_outcomeOf names_decode wrong
    exact ⟨e, by simp [sendWay, he], ht⟩
  | handler reads wrong =>
    obtain ⟨e, he, ht⟩ := exists_outcomeOf names_handler wrong
    exact ⟨e, by simp [sendWay, outcomeOf_eq_ok.2 reads, he, Except.map], ht⟩

theorem error_of_requestMishap (h : RequestMishap codec handler reply payload stage how) :
    ∃ e, (requestWay codec handler reply payload).2 = .error e ∧ Tells e stage how := by
  cases h with
  | decode wrong =>
    obtain ⟨e, he, ht⟩ := exists_outcomeOf names_decode wrong
    exact ⟨e, by simp [requestWay, he], ht⟩
  | probe reads wrong =>
    exact ⟨_, by simp [requestWay, outcomeOf_eq_ok.2 reads, wrong], tells_panicked _ _⟩
  | handler passes wrong =>
    obtain ⟨e, he, ht⟩ := exists_outcomeOf names_handler wrong
    exact ⟨e, by simp [requestWay, outcomeOf_eq_ok.2 passes.reads, passes.clear, he], ht⟩
  | encode passes returns wrong =>
    obtain ⟨e, he, ht⟩ := exists_outcomeOf names_encode wrong
    exact ⟨e, by simp [requestWay, outcomeOf_eq_ok.2 passes.reads, passes.clear,
      outcomeOf_eq_ok.2 returns, answerWay, he], ht⟩
  | reply answers wrong =>
    obtain ⟨e, he, ht⟩ := exists_outcomeOf names_reply wrong
    exact ⟨e, by simp [requestWay, outcomeOf_eq_ok.2 answers.passes.reads, answers.passes.clear,
      outcomeOf_eq_ok.2 answers.returns, answerWay, outcomeOf_eq_ok.2 answers.encodes, he,
      Except.map], ht⟩

theorem probe_of_probes {text : String} (h : Probes codec payload text) :
    (requestWay codec handler reply payload).2 = .ok (.probe text) := by
  obtain ⟨m, reads, hp⟩ := h
  simp [requestWay, outcomeOf_eq_ok.2 reads, hp]

end

/-- A message that wants no answer is handled, or a stage goes wrong. -/
theorem sendWay_cases (codec : Codec M) (handler : Handler M) (payload : List UInt8) :
    (sendWay codec handler payload).2 = .ok .handled ∨
      ∃ stage how, SendMishap codec handler payload stage how := by
  cases hd : outcomeOf .decode (codec.decode payload).outcome with
  | error e =>
    obtain ⟨how, wrong⟩ := exists_mishap hd
    exact .inr ⟨_, _, .decode wrong⟩
  | ok m =>
    cases hh : outcomeOf .handler (handler.send m).outcome with
    | error e =>
      obtain ⟨how, wrong⟩ := exists_mishap hh
      exact .inr ⟨_, _, .handler (outcomeOf_eq_ok.1 hd) wrong⟩
    | ok a => exact .inl (by simp [sendWay, hd, hh, Except.map])

/-- A message that wants an answer is handled, or it is a probe, or a stage goes wrong. -/
theorem requestWay_cases (codec : Codec M) (handler : Handler M) (reply : ReplySender)
    (payload : List UInt8) :
    (requestWay codec handler reply payload).2 = .ok .handled ∨
      (∃ text, Probes codec payload text) ∨
      ∃ stage how, RequestMishap codec handler reply payload stage how := by
  cases hd : outcomeOf .decode (codec.decode payload).outcome with
  | error e =>
    obtain ⟨how, wrong⟩ := exists_mishap hd
    exact .inr (.inr ⟨_, _, .decode wrong⟩)
  | ok m =>
    have reads := outcomeOf_eq_ok.1 hd
    cases hp : codec.probe m with
    | error p => exact .inr (.inr ⟨_, _, .probe reads hp⟩)
    | ok text =>
      cases text with
      | some text => exact .inr (.inl ⟨text, m, reads, hp⟩)
      | none =>
        cases hh : outcomeOf .handler (handler.request m).outcome with
        | error e =>
          obtain ⟨how, wrong⟩ := exists_mishap hh
          exact .inr (.inr ⟨_, _, .handler ⟨reads, hp⟩ wrong⟩)
        | ok answer =>
          cases answer with
          | none => exact .inl (by simp [requestWay, hd, hp, hh])
          | some answer =>
            have returns := outcomeOf_eq_ok.1 hh
            cases he : outcomeOf .encode (codec.encode answer).outcome with
            | error e =>
              obtain ⟨how, wrong⟩ := exists_mishap he
              exact .inr (.inr ⟨_, _, .encode ⟨reads, hp⟩ returns wrong⟩)
            | ok bytes =>
              cases hr : outcomeOf .reply (reply bytes).outcome with
              | error e =>
                obtain ⟨how, wrong⟩ := exists_mishap hr
                exact .inr (.inr ⟨_, _, .reply ⟨⟨reads, hp⟩, returns, outcomeOf_eq_ok.1 he⟩ wrong⟩)
              | ok a => exact .inl (by simp [requestWay, answerWay, hd, hp, hh, he, hr, Except.map])

/-! ## 3.  The log -/

/-- The record of an effect, if it makes one. -/
def Effect.record? : Effect M → Option Log.Record
  | logged r => some r
  | called .. | replied .. => none

/-- The records of the levels that are enabled. -/
def seen (enabled : Log.Level → Bool) (records : List Log.Record) : List Log.Record :=
  records.filter fun r => enabled r.level

/-- What the log shows of effects under the target of dispatch. -/
def log (enabled : Log.Level → Bool) (effects : List (Effect M)) : List Log.Record :=
  seen enabled ((effects.filterMap Effect.record?).filter fun r => r.target == target)

/-- A filter whose directives ask for no fields asks nothing of the records of one target but their
level. -/
theorem exists_enabled {filter : Log.Filter} (h : ∀ d ∈ filter, d.fields = []) (target : String) :
    ∃ enabled : Log.Level → Bool, ∀ r : Log.Record, r.target = target →
      filter.passes r = enabled r.level := by
  induction filter with
  | nil => exact ⟨fun _ => false, fun _ _ => rfl⟩
  | cons d rest ih =>
    obtain ⟨enabled, he⟩ := ih fun e hm => h e (List.mem_cons_of_mem d hm)
    have hd : ∀ r : Log.Record, r.target = target → d.concerns r =
        d.target.all fun own => own.toList.isPrefixOf target.toList := by
      rintro r rfl
      rw [Log.Directive.concerns, h d List.mem_cons_self, List.all_nil, Bool.and_true]
    cases hc : d.target.all fun own => own.toList.isPrefixOf target.toList with
    | true =>
      refine ⟨fun level => level.rank ≤ d.level, fun r hr => ?_⟩
      simp only [Log.Filter.passes, List.find?_cons, hd r hr, hc, Log.Record.isWithin]
    | false =>
      refine ⟨enabled, fun r hr => ?_⟩
      simp only [← he r hr, Log.Filter.passes, List.find?_cons, hd r hr, hc]

/-- The log shows the records of a way that makes none before its end. -/
theorem log_told {way : Work (Effect M) × Except DispatchError Outcome}
    (hway : ∀ r, .logged r ∉ way.1.effects) (enabled : Log.Level → Bool) (path : Path)
    (remote : SocketAddress) (payload : List UInt8) :
    log enabled (told path remote payload way).effects =
      seen enabled (records path remote payload way.2) := by
  have hnone : way.1.effects.filterMap Effect.record? = [] := by
    refine List.filterMap_eq_nil_iff.2 fun e he => ?_
    cases e with
    | called | replied => rfl
    | logged r => exact absurd he (hway r)
  have hall : (records path remote payload way.2).filter (fun r => r.target == target) =
      records path remote payload way.2 :=
    List.filter_eq_self.2 fun r hr => beq_iff_eq.2 (target_of_mem_records hr)
  have hsome : ((records path remote payload way.2).map (Effect.logged (M := M))).filterMap
      Effect.record? = records path remote payload way.2 := by
    rw [List.filterMap_map]
    exact List.filterMap_some
  rw [log, effects_told, List.filterMap_append, hnone, List.nil_append, hsome, hall]

/-- The warning about a mishap. -/
def warning (path : Path) (remote : SocketAddress) (stage : Stage) (how : Mishap) : Log.Record where
  level := .warn
  target := target
  message := "dropping message"
  fields := [("path", .text path.text), ("remote", .shown remote.text),
    ("error", .shown (how.error stage))] ++ (how.cause?.map fun c => ("cause", .text c)).toList

/-- The record is a dump of the payload, from which it can be read back. -/
def IsDump (path : Path) (remote : SocketAddress) (payload : List UInt8) (r : Log.Record) : Prop :=
  r.level = .debug ∧ r.target = target ∧
    ∃ digits, r.fields = [("path", .text path.text), ("remote", .shown remote.text),
        ("len", .whole payload.length), ("payload", .shown digits)] ∧
      Hex.decode (Utf8.encode digits) = .ok payload

/-- The record is of a probe. -/
def IsProbe (remote : SocketAddress) (text : String) (r : Log.Record) : Prop :=
  r.level = .debug ∧ r.target = target ∧
    r.fields = [("remote", .shown remote.text), ("probe", .shown text)]

/-- The records of a mishap. -/
theorem records_error {e : DispatchError} {stage : Stage} {how : Mishap} (h : Tells e stage how)
    (path : Path) (remote : SocketAddress) (payload : List UInt8) :
    ∃ dump, IsDump path remote payload dump ∧
      records path remote payload (.error e) = [warning path remote stage how, dump] := by
  rw [records, failureRecords, causeField, h.message, h.cause]
  refine ⟨_, ?_, rfl⟩
  exact ⟨rfl, rfl, _, rfl, Hex.decode_encode payload⟩

/-- What the log shows of a packet, when `wrong` is what can go wrong and `probes` says that its
message is a probe.  A mishap is warned of, once, and right behind the warning the payload is
dumped, once (`mishap`); a probe leaves one record (`probe`), and a message that was handled none
(`handled`).  There is a warning exactly if there is a mishap and warnings are let through
(`warned`). -/
structure Shows (path : Path) (remote : SocketAddress) (payload : List UInt8)
    (wrong : Stage → Mishap → Prop) (probes : String → Prop) (enabled : Log.Level → Bool)
    (log : List Log.Record) : Prop where
  mishap {stage : Stage} {how : Mishap} : wrong stage how →
    ∃ dump, IsDump path remote payload dump ∧
    log = seen enabled [warning path remote stage how, dump]
  probe {text : String} : probes text → ∃ r, IsProbe remote text r ∧ log = seen enabled [r]
  handled : (∀ stage how, ¬ wrong stage how) → (∀ text, ¬ probes text) → log = []
  warned : (∃ r ∈ log, r.level = .warn) ↔ enabled .warn = true ∧ ∃ stage how, wrong stage how

/-- The log shows what it is to show when each outcome comes from where it is to come from. -/
theorem shows_seen {path : Path} {remote : SocketAddress} {payload : List UInt8}
    {wrong : Stage → Mishap → Prop} {probes : String → Prop}
    {outcome : Except DispatchError Outcome} (enabled : Log.Level → Bool)
    (herror : ∀ {stage how}, wrong stage how → ∃ e, outcome = .error e ∧ Tells e stage how)
    (hprobe : ∀ {text}, probes text → outcome = .ok (.probe text))
    (hcases : outcome = .ok .handled ∨ (∃ text, probes text) ∨ ∃ stage how, wrong stage how) :
    Shows path remote payload wrong probes enabled
      (seen enabled (records path remote payload outcome)) := by
  have hmishap : ∀ {stage how}, wrong stage how → ∃ dump, IsDump path remote payload dump ∧
      seen enabled (records path remote payload outcome) =
        seen enabled [warning path remote stage how, dump] := by
    intro stage how h
    obtain ⟨e, rfl, ht⟩ := herror h
    obtain ⟨dump, hdump, hrecords⟩ := records_error ht path remote payload
    exact ⟨dump, hdump, congrArg (seen enabled) hrecords⟩
  refine
    { mishap := hmishap, probe := fun h => ?probe, handled := fun hm hp => ?handled
      warned := ⟨?only, ?every⟩ }
  case probe =>
    rw [hprobe h]
    exact ⟨probeRecord remote _, ⟨rfl, rfl, rfl⟩, rfl⟩
  case handled =>
    obtain rfl | ⟨text, h⟩ | ⟨stage, how, h⟩ := hcases
    · rfl
    · exact absurd h (hp text)
    · exact absurd h (hm stage how)
  case only =>
    rintro ⟨r, hr, hw⟩
    have henabled : enabled .warn = true := hw ▸ (List.mem_filter.1 hr).2
    obtain rfl | ⟨text, h⟩ | h := hcases
    · cases hr
    · rw [hprobe h] at hr
      cases List.mem_singleton.1 (List.mem_filter.1 hr).1
      cases hw
    · exact ⟨henabled, h⟩
  case every =>
    rintro ⟨henabled, stage, how, h⟩
    obtain ⟨dump, -, hlog⟩ := hmishap h
    rw [hlog]
    exact ⟨_, List.mem_filter.2 ⟨List.mem_cons_self, henabled⟩, rfl⟩

/-- **Every mishap is logged once, and faithfully.**

`enabled` says which levels the telemetry lets through.  When a stage goes wrong, by an error or by
a panic, the log of dispatch shows one warning, with the path, where the packet came from, the error
and its cause, and right behind it, if details are enabled, one dump from which the payload can be
read back.  The error names the stage that returned one, with the wording of that as the cause.  Of
a panic it has the text, whichever stage that was in, and there is no cause.  A message that was
handled leaves nothing in the log, and a probe one record that is no warning.

Of a request the reply handle gives the address here. -/
theorem mishaps_logged (codec : Codec M) (handler : Handler M) (enabled : Log.Level → Bool) :
    (∀ packet : SendPacket,
      Shows .send packet.remote packet.payload (SendMishap codec handler packet.payload)
        (fun _ => False) enabled (log enabled (handleSend codec handler packet).effects)) ∧
      ∀ (remote : SocketAddress) (send : ReplySender) (payload : List UInt8),
        Shows .request remote payload (RequestMishap codec handler send payload)
          (Probes codec payload) enabled
          (log enabled (handleRequest codec handler ⟨.ok remote, send⟩ payload).1.effects) := by
  constructor
  · intro packet
    rw [handleSend, log_told (not_logged_sendWay codec handler packet.payload)]
    refine shows_seen enabled error_of_sendMishap False.elim ?_
    exact (sendWay_cases codec handler packet.payload).imp_right .inr
  · intro remote send payload
    rw [handleRequest, log_told (not_logged_requestWay codec handler send payload)]
    exact shows_seen enabled error_of_requestMishap probe_of_probes (requestWay_cases ..)

/-- A codec that panics when it reads. -/
def unreadableCodec : Codec Unit :=
  { blankCodec with decode := fun _ => ⟨false, .panicked (.text "boom")⟩ }

/-- A handler that panics. -/
def panickingHandler : Handler Unit where
  send _ := ⟨false, .panicked (.text "boom")⟩
  request _ := ⟨false, .panicked (.text "boom")⟩

/-- Nobody can read off the whole log which stage has panicked: a codec that panics and a handler
that panics with the same text leave the same records. -/
theorem panicking_stage_unread :
    ¬ ∃ stageOf : List Log.Record → Stage,
      ∀ (codec : Codec Unit) (handler : Handler Unit) (packet : SendPacket) (stage : Stage)
        (how : Mishap), SendMishap codec handler packet.payload stage how →
          stageOf (log (fun _ => true) (handleSend codec handler packet).effects) = stage := by
  rintro ⟨stageOf, h⟩
  let packet : SendPacket := ⟨[], ⟨.v4 ⟨10, 0, 0, 7⟩, 41000, 0⟩⟩
  have hdecode := h unreadableCodec echoHandler packet .decode (.panicked (.text "boom"))
    (.decode rfl)
  have hhandler := h blankCodec panickingHandler packet .handler (.panicked (.text "boom"))
    (.handler rfl rfl)
  have hlog : (log fun _ => true) (handleSend unreadableCodec echoHandler packet).effects =
      (log fun _ => true) (handleSend blankCodec panickingHandler packet).effects := by
    rw [handleSend, handleSend, log_told (not_logged_sendWay _ _ _),
      log_told (not_logged_sendWay _ _ _)]
    rfl
  rw [hlog, hhandler] at hdecode
  cases hdecode

end Dispatch

end AgentIntake
