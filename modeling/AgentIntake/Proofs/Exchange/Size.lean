import AgentIntake.Proofs.Exchange.Correlation
import AgentIntake.Proofs.Frame.Size

/-!
# The lines that are written

Whoever reads a line that is too long reads nothing more, so every line should be one that can be
read.  Of the three kinds of frames that are written, decisions and pongs are always short
(`lines_read_back`).  A response is as long as its payload makes it, and its length is not looked at
when it is written: it is lost, and the stream with it, as soon as twice its payload and the rest of
the line pass the bound.

A handler that gives back what it was given passes it by one byte, on a request that has just been
read (`echo_exceeds_limit`).

## Why the kinds come first

The length of a decision or a pong is bounded whatever it says.  So it is enough to know that a
reader writes nothing else (`Stage.kind_of_written`), whichever of its writes fail.
-/

namespace AgentIntake

variable {η M : Type}

/-! ## 1.  The kinds of frames that are written -/

/-- A connection's reader writes decisions and pongs. -/
theorem Connection.Stage.kind_of_written {remote : SocketAddress} {s t : Stage}
    {effects : List Effect} (h : Path remote s effects t) {frame : Frame}
    (hm : frame ∈ frames effects) :
    (∃ decision, frame = .handshakeResponse decision) ∨ ∃ number, frame = .pong number := by
  induction h with
  | nil => cases hm
  | @cons s t u e effects hn _ ih =>
    rw [← List.singleton_append, frames_append, List.mem_append, frames_singleton] at hm
    rcases hm with hm | hm
    · cases hn with
      | rejected | accepted =>
        rw [Effect.written?, Option.toList_some, List.mem_singleton] at hm
        exact .inl ⟨_, hm⟩
      | pong =>
        rw [Effect.written?, Option.toList_some, List.mem_singleton] at hm
        exact .inr ⟨_, hm⟩
      | _ => cases hm
    · exact ih hm

/-- What is read from the line of a frame is the frame, or that the line is too long, which happens
only to a response with too long a payload. -/
structure Frame.ReadBack (frame : Frame) : Prop where
  ofStream_eq : Line.ofStream frame.toLine =
    if frame.toLine.length ≤ lineLimit then [.frame frame] else [.tooLong]
  over_iff : lineLimit < frame.toLine.length ↔ ∃ number payload,
    frame = .response number payload ∧ lineLimit < 39 + digitsOf number + 2 * payload.length

/-- A frame that always fits. -/
theorem Frame.readBack_of_le {frame : Frame} (hp : frame.Plain) (hk : frame.kind ≠ .response)
    (hl : frame.toLine.length ≤ lineLimit) : frame.ReadBack where
  ofStream_eq := ofStream_toLine hp
  over_iff := by
    constructor
    · intro ho
      exact absurd ho (Nat.not_lt.2 hl)
    · rintro ⟨number, payload, rfl, -⟩
      exact absurd rfl hk

theorem Frame.readBack_response (number : UInt64) (payload : List UInt8) :
    (response number payload).ReadBack where
  ofStream_eq := ofStream_toLine (plain_of_kind_ne nofun)
  over_iff := by
    rw [length_toLine_response]
    constructor
    · intro ho
      exact ⟨number, payload, rfl, ho⟩
    · rintro ⟨_, _, ⟨⟩, ho⟩
      exact ho

namespace Exchange

variable {w : Setting M} {threads capacity : Nat} {x : Exchange η M}

/-- Every frame on a stream is a decision, a pong or a response. -/
theorem Sound.kind_of_wire (hs : Sound w threads capacity x) {id : Nat} {frame : Frame}
    (h : frame ∈ x.wire id) :
    (∃ decision, frame = .handshakeResponse decision) ∨ (∃ number, frame = .pong number) ∨
      frame.kind = .response := by
  rcases List.mem_append.1 ((hs.wire_perm id).subset h) with hm | hm
  · rcases hs.path_seen id with hn | ⟨remote, t, -, hp⟩
    · rw [hn] at hm
      cases hm
    · exact (Connection.Stage.kind_of_written hp hm).imp_right .inl
  · exact .inr (.inr (hs.kind_of_job hm))

/-! ## 2.  Lines that can be read -/

/-- **What is read from the lines that are written.**  An intake is made and anything happens to it.
Every line that is written is read as its frame, but for a response with a payload of about half the
bound.  A response with the payload of its request is too long exactly if the line of the request
was as long as a line may be. -/
theorem lines_read_back {w : Setting M} {config : Config} {cluster : Option η}
    {observers : List η} {grace : Nat} {network : Acceptor.Network} {acceptor : Acceptor η}
    {n : Intake η} {built : List (Intake.Effect M)}
    (hn : Intake.make? config cluster observers grace network acceptor = .ok (n, built))
    {x : Exchange η M} (hx : Leads w (of n) x) (id : Nat) :
    (∀ frame ∈ x.wire id, frame.ReadBack) ∧
      ∀ (number : UInt64) (payload : List UInt8),
        (Frame.request number payload).toLine.length ≤ Frame.lineLimit →
          (Frame.lineLimit < (Frame.response number payload).toLine.length ↔
            (Frame.request number payload).toLine.length = Frame.lineLimit) := by
  obtain ⟨-, hs⟩ := sound_of w hn
  constructor
  · intro frame hf
    rcases (hs.leads hx).kind_of_wire hf with ⟨decision, rfl⟩ | ⟨number, rfl⟩ | hk
    · exact Frame.readBack_of_le (Frame.plain_of_kind_ne nofun) nofun
        (Frame.length_toLine_handshakeResponse_le decision)
    · exact Frame.readBack_of_le (Frame.plain_of_kind_ne nofun) nofun
        (Frame.length_toLine_pong_le number)
    · cases frame with
      | response number payload => exact Frame.readBack_response number payload
      | _ => cases hk
  · intro number payload hl
    rw [Frame.length_toLine_response_eq]
    omega

/-- A decision and a response are written, and both are short. -/
theorem lines_in_a_small_exchange :
    let w := smallSetting plainCodec
    ∃ x : Exchange Empty (List UInt8), Leads w (of smallIntake) x ∧
      x.wire 0 = [.handshakeResponse .acceptedDuplex, .response 7 [1]] ∧
      ∀ frame ∈ x.wire 0, frame.ReadBack := by
  intro w
  obtain ⟨built, hn⟩ := make?_small (M := List UInt8)
  have hplain : (Frame.request 7 [1]).Plain := Frame.plain_of_kind_ne nofun
  have heard : Leads w (smallExchange plainCodec) _ :=
    .next (.hear (.received 0 (Frame.request 7 [1]).toLine))
      (congrArg some (hear_toLine rfl rfl hplain (by decide +kernel)))
  have done : Leads w (smallExchange plainCodec) _ :=
    heard.trans ⟨List.replicate 5 (.perform 0 0 Placeholder.sink) ++
      [.take 0 echo, .act 0, .act 0], rfl⟩
  have hx := (leads_small plainCodec).trans done
  exact ⟨_, hx, rfl, (lines_read_back hn hx 0).1⟩

/-! ## 3.  A line that cannot be read -/

/-- A handler that gives back every message. -/
def returning : Handler M :=
  ⟨fun _ => .value (), fun m => .value (some m)⟩

/-- What it gives back to a message is the payload that the message came in. -/
theorem replies_returning {m : Envelope} (hm : m.Plain) (hp : m.isProbe = false)
    (remote : SocketAddress) :
    Dispatch.replies (Dispatch.handleRequest Placeholder.codec returning
      ⟨.ok remote, fun _ => .value ()⟩ m.encode).1.effects = [m.encode] := by
  have hdecode := Placeholder.decode_encode hm
  have hsame : ∀ other : Envelope,
      (Placeholder.codec.decode m.encode).outcome = .returned other → other = m := by
    intro other ho
    rw [hdecode] at ho
    cases ho
    rfl
  show Dispatch.replies (Dispatch.told _ _ _ _).effects = _
  rw [Dispatch.replies_told]
  have hr := Dispatch.requested_requestWay Placeholder.codec returning
    (fun _ => .value () : ReplySender) m.encode
  generalize (Dispatch.requestWay Placeholder.codec returning (fun _ => .value () : ReplySender)
    m.encode).1.effects = effects at hr
  cases hr with
  | unread fails => exact absurd (Placeholder.probe_eq_none.2 hp) (fails m hdecode)
  | unanswered reads passes fails => exact absurd rfl (fails _ rfl _)
  | answered reads passes returns encodes =>
    cases hsame _ reads
    cases returns
    cases encodes
    rfl

/-- A message whose body is a text of this length. -/
def wordy (length : Nat) : Envelope :=
  ⟨"t", Value.ofJson (.string (String.ofList (List.replicate length 'a')))⟩

theorem length_encode_wordy (length : Nat) : (wordy length).encode.length = 22 + length := by
  have htype : (Json.renderString "type").length = 6 := by decide
  have hkind : (wordy length).kind = "t" := rfl
  have ht : (Json.renderString "t").length = 3 := by decide
  have hbody : (Json.renderString "body").length = 6 := by decide
  have htext : (wordy length).body.json.render.length = length + 2 := by
    have hs := Json.length_renderString (s := String.ofList (List.replicate length 'a'))
    rw [String.toList_ofList, List.length_replicate] at hs
    refine hs fun c hc => ?_
    rw [List.eq_of_mem_replicate hc]
    decide
  rw [Envelope.encode, Envelope.toJson, Json.render, Json.render, List.length_cons,
    List.length_append, List.length_cons, List.length_append, Json.length_renderMembers_cons,
    Json.length_renderMembers_nil, hkind, htype, ht, hbody, htext]
  omega

/-- **A line that was read leads to one that cannot be.**  The line of a request is as long as a
line may be, the handler gives the message back, and the response is one byte too long. -/
theorem echo_exceeds_limit :
    ∃ m : Envelope,
      (Frame.request 10 m.encode).toLine.length = Frame.lineLimit ∧
      Frame.Line.ofStream (Frame.request 10 m.encode).toLine = [.frame (.request 10 m.encode)] ∧
      Dispatch.replies (Dispatch.handleRequest Placeholder.codec returning
        ⟨.ok smallRemote, fun _ => .value ()⟩ m.encode).1.effects = [m.encode] ∧
      (Frame.response 10 m.encode).toLine.length = Frame.lineLimit + 1 ∧
      Frame.Line.ofStream (Frame.response 10 m.encode).toLine = [.tooLong] := by
  have hdigits : Frame.digitsOf 10 = 2 := by decide
  have hm : (wordy 524246).Plain := ⟨trivial, by decide⟩
  have hrequest : (Frame.request 10 (wordy 524246).encode).toLine.length = Frame.lineLimit := by
    rw [Frame.length_toLine_request, length_encode_wordy, hdigits, Frame.lineLimit]
  have hresponse : (Frame.response 10 (wordy 524246).encode).toLine.length =
      Frame.lineLimit + 1 := by
    rw [Frame.length_toLine_response_eq, hrequest]
  refine ⟨wordy 524246, hrequest, ?_, replies_returning hm rfl _, hresponse, ?_⟩
  · rw [Frame.ofStream_toLine (Frame.plain_of_kind_ne (by decide)), if_pos (Nat.le_of_eq hrequest)]
  · rw [Frame.ofStream_toLine (Frame.plain_of_kind_ne (by decide)), if_neg]
    rw [hresponse]
    exact Nat.not_succ_le_self _

end Exchange

end AgentIntake
