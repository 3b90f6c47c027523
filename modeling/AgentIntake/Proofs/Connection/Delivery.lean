import AgentIntake.Proofs.Connection.Answers
import AgentIntake.Proofs.Connection.LifeCycle
import AgentIntake.Proofs.Connection.Reception
import AgentIntake.Proofs.Frame.Stream
import Mathlib.Logic.Relation

/-!
# Exact delivery

What a connection makes of its stream, when its writes succeed, depends on the frames of the stream
alone (`Frame.ofStream`): on what its segments hold before one that is too long, and not on the
pieces in which it came.

The way there has three steps.  Pieces are taken as the lines that end in them, since the reader has
no part in what lines lead to (`receiveAll_eq`, `life_eq`).  Lines are taken one by one, and what
each leads to is one of the steps of `Story`; an induction over them, first for a connection that
runs and then for one that waits, gives the effects of all of them, but for the records, as an
`outline` of their frames (`shown_lived_of_runs`, `shown_lived_of_waits`).  And the outline says
what the listener is called for and what is written (`Delivered`).

A line that is blank or malformed is no frame of the stream, and a frame that a connection passes
over after its handshake has no place in the outline.  So such lines may be put in and taken out
(`Inserted`).
-/

namespace AgentIntake

namespace Connection

open AgentIntake.Frame (Line)

variable {written : Nat → Option TransportError}

/-! ## 1.  From pieces to lines -/

/-- The connection with another reader. -/
def withReader (c : Connection) (reader : LineReader) : Connection :=
  { c with reader := reader }

@[simp] theorem isClosed_withReader (c : Connection) (reader : LineReader) :
    (c.withReader reader).isClosed = c.isClosed :=
  rfl

theorem write_withReader (c : Connection) (reader : LineReader) (frame : Frame) :
    (c.withReader reader).write written frame =
      ((c.write written frame).1.withReader reader, (c.write written frame).2) := by
  unfold write
  have hw : (c.withReader reader).writes = c.writes := rfl
  rw [hw]
  cases written c.writes <;> rfl

theorem shake_withReader (c : Connection) (reader : LineReader) (q : Option Properties) :
    (c.withReader reader).shake written q =
      ((c.shake written q).1.withReader reader, (c.shake written q).2) := by
  unfold shake
  dsimp only
  rw [write_withReader]
  generalize c.write written (.handshakeResponse (decide q)) = result
  obtain ⟨d, effects, flow⟩ := result
  cases flow with
  | close => rfl
  | next =>
    dsimp only
    cases (decide q).isAccepted <;> rfl

theorem handle_withReader (c : Connection) (reader : LineReader) (frame : Frame) :
    (c.withReader reader).handle written frame =
      ((c.handle written frame).1.withReader reader, (c.handle written frame).2) := by
  have hp : (c.withReader reader).properties = c.properties := rfl
  unfold handle
  rw [hp]
  cases c.properties with
  | none =>
    cases frame with
    | handshake q => exact shake_withReader c reader q
    | _ => rfl
  | some p =>
    cases frame with
    | ping id =>
      dsimp only
      rw [write_withReader]
      rfl
    | _ => rfl

theorem takeLine_withReader (c : Connection) (reader : LineReader) (line : Line) :
    takeLine written (c.withReader reader, []) line =
      ((takeLine written (c, []) line).1.withReader reader,
        (takeLine written (c, []) line).2) := by
  have hh : (c.withReader reader).handleLine written line =
      ((c.handleLine written line).1.withReader reader, (c.handleLine written line).2) := by
    cases line with
    | frame frame => exact handle_withReader c reader frame
    | malformed | tooLong => rfl
  cases hc : c.isClosed with
  | true => simp [takeLine, hc]
  | false =>
    simp only [takeLine, isClosed_withReader, hc, hh]
    generalize c.handleLine written line = result
    obtain ⟨d, more, flow⟩ := result
    cases flow <;> rfl

theorem takeLines_of_isClosed {c : Connection} (h : c.isClosed = true) (lines : List Line) :
    c.takeLines written lines = (c, []) := by
  induction lines with
  | nil => rfl
  | cons line lines ih =>
    have ht : takeLine written (c, []) line = (c, []) := by simp [takeLine, h]
    rw [takeLines, List.foldl_cons, ht]
    exact ih

theorem takeLines_cons (c : Connection) (line : Line) (lines : List Line) :
    c.takeLines written (line :: lines) =
      (((takeLine written (c, []) line).1.takeLines written lines).1,
        (takeLine written (c, []) line).2 ++
          ((takeLine written (c, []) line).1.takeLines written lines).2) := by
  rw [takeLines, List.foldl_cons, foldl_takeLine]

/-- The reader has no part in what lines lead to. -/
theorem takeLines_withReader (c : Connection) (reader : LineReader) (lines : List Line) :
    (c.withReader reader).takeLines written lines =
      ((c.takeLines written lines).1.withReader reader, (c.takeLines written lines).2) := by
  induction lines generalizing c with
  | nil => rfl
  | cons line lines ih =>
    rw [takeLines_cons, takeLines_cons, takeLine_withReader]
    dsimp only
    rw [ih]

theorem takeLines_append (c : Connection) (first second : List Line) :
    c.takeLines written (first ++ second) =
      (((c.takeLines written first).1.takeLines written second).1,
        (c.takeLines written first).2 ++
          ((c.takeLines written first).1.takeLines written second).2) := by
  rw [takeLines, List.foldl_append, foldl_takeLine, foldl_takeLine, List.nil_append]

/-- Pieces of the stream are taken as the lines that end in them. -/
theorem receiveAll_eq (pieces : List (List UInt8)) (c : Connection) :
    c.receiveAll written pieces =
      (((c.takeLines written (c.reader.feedAll pieces).2).1).withReader (c.reader.feedAll pieces).1,
        (c.takeLines written (c.reader.feedAll pieces).2).2) := by
  induction pieces generalizing c with
  | nil => rfl
  | cons bytes more ih =>
    have hr : c.receive written bytes =
        (c.withReader (c.reader.feed bytes).1).takeLines written (c.reader.feed bytes).2 := rfl
    rw [receiveAll, hr, takeLines_withReader]
    dsimp only
    rw [ih]
    have hreader : ((c.takeLines written (c.reader.feed bytes).2).1.withReader
        (c.reader.feed bytes).1).reader = (c.reader.feed bytes).1 := rfl
    rw [hreader, takeLines_withReader, LineReader.feedAll]
    dsimp only
    rw [takeLines_append]
    rfl

/-- All that lines lead to when the stream ends after them. -/
def lived (c : Connection) (written : Nat → Option TransportError) (lines : List Line) :
    List Effect :=
  let (d, effects) := c.takeLines written lines
  effects ++ if d.isClosed then [] else d.close.2

theorem finish_eq (c : Connection) :
    (c.finish written).2 = c.lived written c.reader.finish.toList := by
  unfold finish lived
  dsimp only
  split
  · rw [List.append_nil]
  · rfl

theorem lived_withReader (c : Connection) (reader : LineReader) (lines : List Line) :
    (c.withReader reader).lived written lines = c.lived written lines := by
  unfold lived
  rw [takeLines_withReader]
  rfl

theorem lived_append (c : Connection) (first second : List Line) :
    c.lived written (first ++ second) =
      (c.takeLines written first).2 ++ (c.takeLines written first).1.lived written second := by
  unfold lived
  rw [takeLines_append]
  exact List.append_assoc _ _ _

/-- **A connection lives by the lines of its stream**, in whatever pieces they come. -/
theorem life_eq (remote : SocketAddress) (written : Nat → Option TransportError)
    (pieces : List (List UInt8)) :
    life remote written pieces none =
      (opened remote).openEffects ++
        (opened remote).lived written (Line.ofStream pieces.flatten) := by
  have hl := (LineReader.feed_finish pieces.flatten [] List.not_mem_nil (Nat.zero_le _)).1
  have hbegin : LineReader.within [] = .start := rfl
  have hstart : (opened remote).reader = .start := rfl
  rw [hbegin, List.nil_append, ← LineReader.feedAll_eq] at hl
  rw [← hl, lived_append, life, soFar]
  dsimp only
  rw [receiveAll_eq, conclude, finish_eq, lived_withReader, hstart, List.append_assoc]
  rfl

theorem lived_nil {c : Connection} (h : c.isClosed = false) :
    c.lived written [] = [.told .closed c.peer] := by
  have ht : c.takeLines written [] = (c, []) := rfl
  rw [lived, ht]
  dsimp only
  rw [h]
  rfl

/-- The first line, and what comes of the others if they are read. -/
theorem lived_cons {c : Connection} (h : c.isClosed = false) (line : Line) (lines : List Line) :
    c.lived written (line :: lines) =
      match c.handleLine written line with
      | (d, more, .next) => more ++ d.lived written lines
      | (d, more, .close) => more ++ [.told .closed d.peer] := by
  rw [← List.singleton_append, lived_append]
  have ht : c.takeLines written [line] = takeLine written (c, []) line := rfl
  rw [ht, takeLine]
  simp only [h]
  generalize c.handleLine written line = result
  obtain ⟨d, more, flow⟩ := result
  cases flow with
  | next => rfl
  | close =>
    dsimp only [close]
    have hclosed : ({ d with isClosed := true } : Connection).lived written lines = [] := by
      rw [lived, takeLines_of_isClosed rfl]
      rfl
    rw [if_neg (by decide)]
    dsimp only
    rw [hclosed, List.append_nil]
    rfl

/-! ## 2.  What frames lead to -/

namespace Effect

/-- It is seen outside the program's own records. -/
def isShown : Effect → Bool
  | told .. | handshake _ | send _ | request .. | ping .. | write .. => true
  | logged _ => false

/-- The listener is called. -/
def isCall : Effect → Bool
  | handshake _ | send _ | request .. | ping .. => true
  | told .. | write .. | logged _ => false

end Effect

/-- The effects but for the records. -/
def shown (effects : List Effect) : List Effect :=
  effects.filter Effect.isShown

/-- The calls of the listener. -/
def calls (effects : List Effect) : List Effect :=
  effects.filter Effect.isCall

/-- The call that a frame leads to on a connection that runs. -/
def call? (peer : Peer) : Frame → Option Effect
  | .send payload => some (.send ⟨payload, peer.remote⟩)
  | .request id payload => some (.request id payload)
  | .ping id => some (.ping ⟨id⟩ peer)
  | .handshake _ | .handshakeResponse _ | .response .. | .pong _ => none

/-- The frame that answers a frame on a connection that runs. -/
def echo? : Frame → Option Frame
  | .ping id => some (.pong id)
  | .handshake _ | .handshakeResponse _ | .send _ | .request .. | .response .. | .pong _ => none

/-- What a frame leads to on a connection that runs. -/
def leads (peer : Peer) (f : Frame) : List Effect :=
  (call? peer f).toList ++ (echo? f).toList.map fun answer => .write answer none

/-- What the frames of a stream lead to, after the news that the connection is there. -/
def outline (remote : SocketAddress) : List Frame → List Effect
  | .handshake q :: rest =>
    [.handshake q, .write (.handshakeResponse (decide q)) none] ++
      if (decide q).isAccepted then
        .told (decide q).runState ⟨remote, q⟩ ::
          (rest.flatMap (leads ⟨remote, q⟩) ++ [.told .closed ⟨remote, q⟩])
      else [.told .closed ⟨remote, none⟩]
  | _ => [.told .closed ⟨remote, none⟩]

@[simp] theorem shown_append (first second : List Effect) :
    shown (first ++ second) = shown first ++ shown second :=
  List.filter_append ..

@[simp] theorem shown_leads (peer : Peer) (f : Frame) : shown (leads peer f) = leads peer f := by
  cases f <;> rfl

/-- What is passed over leads to nothing on a connection that runs. -/
theorem PassesOver.flatMap_leads {c : Connection} {line : Line} (h : c.PassesOver line)
    (peer : Peer) (lines : List Line) :
    (Line.frames (line :: lines)).flatMap (leads peer) =
      (Line.frames lines).flatMap (leads peer) := by
  cases line with
  | malformed => rfl
  | tooLong => cases h
  | frame f =>
    cases f with
    | send | request | ping => cases h
    | _ => rfl

/-- What is passed over before the handshake is no frame. -/
theorem PassesOver.frames_cons {c : Connection} {line : Line} (h : c.PassesOver line)
    (hp : c.properties = none) (lines : List Line) :
    Line.frames (line :: lines) = Line.frames lines := by
  cases line with
  | malformed => rfl
  | tooLong => cases h
  | frame f =>
    cases f with
    | send | request | ping => cases h
    | _ => exact absurd hp h

/-- Only a line that is too long ends a connection that runs. -/
theorem BreaksAt.eq_tooLong {c : Connection} {p : Properties} {line : Line} (h : c.BreaksAt line)
    (hp : c.properties = some p) : line = .tooLong := by
  cases line with
  | tooLong => rfl
  | malformed => cases h
  | frame f =>
    cases f with
    | handshake => cases h
    | _ => cases hp.symm.trans h

/-- What ends a connection before the handshake leads to its end. -/
theorem BreaksAt.outline_eq {c : Connection} {line : Line} (h : c.BreaksAt line)
    (remote : SocketAddress) (lines : List Line) :
    outline remote (Line.frames (line :: lines)) = [.told .closed ⟨remote, none⟩] := by
  cases line with
  | tooLong => rfl
  | malformed => cases h
  | frame f =>
    cases f with
    | handshake => cases h
    | _ => rfl

section

variable (hw : ∀ n, written n = none)
include hw

/-- **A connection that runs** makes of its lines what their frames lead to. -/
theorem shown_lived_of_runs {c : Connection} {p : Properties} (hopen : c.isClosed = false)
    (hp : c.properties = some p) (lines : List Line) :
    shown (c.lived written lines) =
      (Line.frames lines).flatMap (leads c.peer) ++ [.told .closed c.peer] := by
  induction lines generalizing c with
  | nil =>
    rw [lived_nil hopen]
    rfl
  | cons line lines ih =>
    rw [lived_cons hopen]
    have hs := step_handleLine written c line
    generalize c.handleLine written line = result at hs ⊢
    obtain ⟨d, more, flow⟩ := result
    dsimp only at hs
    cases hs with
    | passed passes =>
      rw [passes.flatMap_leads, ← ih hopen hp]
      rfl
    | broken breaks =>
      obtain rfl := breaks.eq_tooLong hp
      rfl
    | unanswered waits | rejected waits | accepted waits => cases hp.symm.trans waits
    | send runs | request runs =>
      dsimp only
      rw [shown_append, ih hopen hp]
      rfl
    | @ping q id runs =>
      have hpeer : c.peer = ⟨c.remote, some q⟩ := by rw [peer, runs]
      dsimp only
      rw [shown_append, ih (c := { c with writes := c.writes + 1 }) hopen hp, hpeer]
      show _ ++ (List.flatMap (leads c.peer) _ ++ [.told .closed c.peer]) = _
      rw [hpeer]
      rfl
    | pingUnanswered _ fails => cases (hw _).symm.trans fails

/-- **A connection that waits** makes of its lines what the outline of their frames says. -/
theorem shown_lived_of_waits {c : Connection} (hopen : c.isClosed = false)
    (hp : c.properties = none) (lines : List Line) :
    shown (c.lived written lines) = outline c.remote (Line.frames lines) := by
  have hpeer : c.peer = ⟨c.remote, none⟩ := by rw [peer, hp]
  induction lines with
  | nil =>
    rw [lived_nil hopen, hpeer]
    rfl
  | cons line lines ih =>
    rw [lived_cons hopen]
    have hs := step_handleLine written c line
    generalize c.handleLine written line = result at hs ⊢
    obtain ⟨d, more, flow⟩ := result
    dsimp only at hs
    cases hs with
    | passed passes =>
      rw [passes.frames_cons hp, ← ih]
      rfl
    | broken breaks =>
      rw [breaks.outline_eq, ← hpeer]
      rfl
    | unanswered _ fails => cases (hw _).symm.trans fails
    | @rejected q record _ _ rejects =>
      rw [Line.frames, outline, rejects, ← hpeer]
      rfl
    | @accepted p _ _ accepts =>
      have hruns := shown_lived_of_runs hw
        (c := { c with writes := c.writes + 1, properties := some p }) hopen rfl lines
      dsimp only
      rw [shown_append, hruns, Line.frames, outline, accepts]
      rfl
    | send runs | request runs | ping runs | pingUnanswered runs => cases hp.symm.trans runs

/-- **What a stream leads to is what the outline of its frames says**, in whatever pieces it
comes. -/
theorem shown_life (remote : SocketAddress) (pieces : List (List UInt8)) :
    shown (life remote written pieces none) =
      .told .connected ⟨remote, none⟩ :: outline remote (Frame.ofStream pieces.flatten) := by
  rw [life_eq, shown_append, shown_lived_of_waits hw rfl rfl, Line.frames_ofStream]
  rfl

end

/-! ## 3.  Lines that make no difference -/

/-- The second stream is the first one with one line more, which is blank or malformed, or is
ignored: a handshake was accepted before, and the line holds another one or a frame that only the
collector sends. -/
inductive Inserted : List UInt8 → List UInt8 → Prop where
  | idle {before body after : List UInt8} (ended : Line.Ended before)
      (newline_not_mem : Byte.newline ∉ body)
      (length_le : (body ++ [Byte.newline]).length ≤ Frame.lineLimit)
      (idle : Line.ofBytes? (body ++ [Byte.newline]) = none ∨ ∃ bytes fault,
        Line.ofBytes? (body ++ [Byte.newline]) = some (.malformed bytes fault)) :
      Inserted (before ++ after) (before ++ (body ++ [Byte.newline] ++ after))
  | ignored {before body after : List UInt8} {q : Option Properties} {rest : List Frame} {f : Frame}
      (ended : Line.Ended before) (newline_not_mem : Byte.newline ∉ body)
      (length_le : (body ++ [Byte.newline]).length ≤ Frame.lineLimit)
      (shaken : Frame.ofStream before = .handshake q :: rest)
      (accepts : (decide q).isAccepted = true)
      (holds : Line.ofBytes? (body ++ [Byte.newline]) = some (.frame f))
      (ignored : f.kind ∈ [Frame.Kind.handshake, .handshakeResponse, .response, .pong]) :
      Inserted (before ++ after) (before ++ (body ++ [Byte.newline] ++ after))

theorem leads_of_ignored {f : Frame}
    (h : f.kind ∈ [Frame.Kind.handshake, .handshakeResponse, .response, .pong]) (peer : Peer) :
    leads peer f = [] := by
  cases f with
  | send | request | ping => simp [Frame.kind] at h
  | _ => rfl

/-- **Such a line is not in the outline.** -/
theorem Inserted.outline_eq {first second : List UInt8} (h : Inserted first second)
    (remote : SocketAddress) :
    outline remote (Frame.ofStream second) = outline remote (Frame.ofStream first) := by
  cases h with
  | @idle before body after ended hn hl idle =>
    have hs : Frame.ofSegment? (body ++ [Byte.newline]) = none := by
      rw [Frame.ofSegment?_eq]
      obtain hb | ⟨bytes, fault, hb⟩ := idle <;> rw [hb]
    rw [Frame.ofStream_append_of_ended ended, Frame.ofStream_append_of_ended ended,
      Frame.ofStream_line hn hl, hs]
    rfl
  | @ignored before body after q rest f ended hn hl shaken accepts holds ignored =>
    have hs : Frame.ofSegment? (body ++ [Byte.newline]) = some f := by
      rw [Frame.ofSegment?_eq, holds]
    rw [Frame.ofStream_append_of_ended ended, Frame.ofStream_append_of_ended ended,
      Frame.ofStream_line hn hl, hs, shaken]
    split
    · simp [outline, accepts, leads_of_ignored ignored]
    · rfl

/-- Any number of such lines, inserted and deleted. -/
theorem outline_eq_of_eqvGen {first second : List UInt8}
    (h : Relation.EqvGen Inserted first second) (remote : SocketAddress) :
    outline remote (Frame.ofStream second) = outline remote (Frame.ofStream first) := by
  induction h with
  | rel first second h => exact h.outline_eq remote
  | refl => rfl
  | symm _ _ _ ih => exact ih.symm
  | trans _ _ _ _ _ ih ih' => exact ih'.trans ih

/-! ## 4.  Calls and frames that are written -/

theorem calls_shown (effects : List Effect) : calls (shown effects) = calls effects := by
  rw [calls, shown, List.filter_filter]
  congr 1
  funext e
  cases e <;> rfl

/-- What is read off the effects, and not off the records, is read off what is shown. -/
theorem filterMap_shown {β : Type} {f : Effect → Option β}
    (hf : ∀ record, f (.logged record) = none)
    (effects : List Effect) : (shown effects).filterMap f = effects.filterMap f := by
  rw [shown, List.filterMap_filter]
  congr 1
  funext e
  cases e with
  | logged record => exact (hf record).symm
  | _ => rfl

@[simp] theorem calls_append (first second : List Effect) :
    calls (first ++ second) = calls first ++ calls second :=
  List.filter_append ..

theorem calls_flatMap_leads (peer : Peer) (frames : List Frame) :
    calls (frames.flatMap (leads peer)) = frames.filterMap (call? peer) := by
  induction frames with
  | nil => rfl
  | cons f frames ih =>
    rw [List.flatMap_cons, calls_append, ih, List.filterMap_cons]
    cases f <;> rfl

theorem attempts_flatMap_leads (peer : Peer) (frames : List Frame) :
    attempts (frames.flatMap (leads peer)) = frames.filterMap echo? := by
  induction frames with
  | nil => rfl
  | cons f frames ih =>
    rw [List.flatMap_cons, attempts_append, ih, List.filterMap_cons]
    cases f <;> rfl

/-- Every frame in an outline is written. -/
theorem failure_eq_none_of_mem_outline {remote : SocketAddress} {frames : List Frame}
    {frame : Frame} {failure : Option TransportError}
    (h : .write frame failure ∈ outline remote frames) : failure = none := by
  have hleads : ∀ peer f, .write frame failure ∈ leads peer f → failure = none := by
    intro peer f hm
    cases f <;> simp_all [leads, call?, echo?]
  unfold outline at h
  split at h
  · rename_i q rest
    split at h
    · simp only [List.mem_append, List.mem_cons, List.mem_flatMap, Effect.write.injEq, reduceCtorEq,
        List.not_mem_nil, false_or, or_false] at h
      obtain h | ⟨f, -, hf⟩ := h
      · exact h.2
      · exact hleads _ _ hf
    · simp only [List.mem_append, List.mem_cons, Effect.write.injEq, reduceCtorEq,
        List.not_mem_nil, false_or, or_false] at h
      exact h.2
  · simp at h

/-- The calls, the frames that are written and the end of a connection, by the frames of its stream.

Every frame that is tried to be written is written (`frames_eq`).  Without a handshake in front the
listener is never called and nothing is written (`silent`).  A handshake in front that is rejected
is the only call, the decision is the only frame, and the connection closes (`rejected`).  After one
that is accepted the calls are for the messages and the signs of life of the other frames, each once
and in order, and the signs of life are answered (`accepted`). -/
structure Delivered (remote : SocketAddress) (frames : List Frame) (effects : List Effect) :
    Prop where
  frames_eq : Connection.frames effects = attempts effects
  silent : (∀ q rest, frames ≠ .handshake q :: rest) → calls effects = [] ∧ attempts effects = []
  rejected : ∀ q rest, frames = .handshake q :: rest → (decide q).isAccepted = false →
    calls effects = [.handshake q] ∧ attempts effects = [.handshakeResponse (decide q)] ∧
      told effects = [.connected, .closed]
  accepted : ∀ q rest, frames = .handshake q :: rest → (decide q).isAccepted = true →
    calls effects = .handshake q :: rest.filterMap (call? ⟨remote, q⟩) ∧
      attempts effects = .handshakeResponse (decide q) :: rest.filterMap echo?

theorem delivered_of_shown {remote : SocketAddress} {frames : List Frame} {effects : List Effect}
    (h : shown effects = .told .connected ⟨remote, none⟩ :: outline remote frames) :
    Delivered remote frames effects := by
  have hcalls : calls effects = calls (outline remote frames) := by
    rw [← calls_shown, h]
    rfl
  have hattempts : attempts effects = attempts (outline remote frames) := by
    rw [attempts, ← filterMap_shown (fun _ => rfl), h]
    rfl
  have hframes : Connection.frames effects = Connection.frames (outline remote frames) := by
    rw [Connection.frames, ← filterMap_shown (fun _ => rfl), h]
    rfl
  have htold : told effects = .connected :: told (outline remote frames) := by
    rw [told, ← filterMap_shown (fun _ => rfl), h]
    rfl
  rw [← List.singleton_append] at htold
  constructor
  · rw [hframes, hattempts]
    exact frames_eq_attempts fun frame failure hm => failure_eq_none_of_mem_outline hm
  · intro hne
    rw [hcalls, hattempts]
    unfold outline
    split
    · exact absurd rfl (hne _ _)
    · exact ⟨rfl, rfl⟩
  · rintro q rest rfl hr
    rw [hcalls, hattempts, htold, outline, hr]
    exact ⟨rfl, rfl, rfl⟩
  · rintro q rest rfl ha
    rw [hcalls, hattempts, outline, if_pos ha, ← calls_flatMap_leads ⟨remote, q⟩,
      ← attempts_flatMap_leads ⟨remote, q⟩]
    constructor
    · show .handshake q :: calls (rest.flatMap (leads ⟨remote, q⟩) ++ [.told .closed _]) = _
      rw [calls_append]
      exact congrArg (_ :: ·) (List.append_nil _)
    · show .handshakeResponse (decide q) ::
        attempts (rest.flatMap (leads ⟨remote, q⟩) ++ [.told .closed _]) = _
      rw [attempts_append]
      exact congrArg (_ :: ·) (List.append_nil _)

/-- **Exact delivery of a stream.**  When writes succeed, the frames of the stream say what the
listener is called for and what is written, in whatever pieces the stream comes.  With lines more or
less that are blank or malformed, or that are passed over after an accepted handshake, every effect
but the records is the same. -/
theorem exact_delivery (remote : SocketAddress) {written : Nat → Option TransportError}
    (hw : ∀ n, written n = none) (pieces : List (List UInt8)) :
    Delivered remote (Frame.ofStream pieces.flatten) (life remote written pieces none) ∧
      ∀ others : List (List UInt8), Relation.EqvGen Inserted pieces.flatten others.flatten →
        shown (life remote written others none) = shown (life remote written pieces none) := by
  refine ⟨delivered_of_shown (shown_life hw remote pieces), fun others h => ?_⟩
  rw [shown_life hw, shown_life hw, outline_eq_of_eqvGen h]

/-- The properties of an agent that is accepted. -/
def sampleProperties : Properties :=
  .ofMembers [("agent-id", .string "a"), ("application-name", .string "b"),
    ("hostname", .string "c"), ("ip", .string "d"), ("pid", .number (.whole 21 (by decide))),
    ("service-type", .number (.whole 22 (by decide))),
    ("start-timestamp", .number (.whole 23 (by decide))), ("version", .string "e")]

theorem plain_sampleHandshake : (Frame.handshake (some sampleProperties)).Plain where
  whole := ⟨trivial, ⟨trivial, trivial, trivial, trivial, trivial, trivial, trivial, trivial,
    trivial⟩, trivial⟩
  depth_le := by decide +kernel

/-- A handshake, a message and a sign of life, with a blank line before them and a stray answer
among them. -/
theorem delivery_of_three_frames :
    let remote : SocketAddress := ⟨.v4 ⟨10, 0, 0, 1⟩, 4000, 0⟩
    let shake := Frame.handshake (some sampleProperties)
    let after := (Frame.send [1]).toLine ++ (Frame.ping 2).toLine
    let effects := life remote (fun _ => none)
      [[Byte.newline], shake.toLine ++ (Frame.pong 3).toLine, after] none
    calls effects = [.handshake (some sampleProperties), .send ⟨[1], remote⟩,
        .ping ⟨2⟩ ⟨remote, some sampleProperties⟩] ∧
      attempts effects = [.handshakeResponse .acceptedDuplex, .pong 2] := by
  intro remote shake after effects
  have hplain : ∀ f ∈ [shake, .send [1], .ping 2], f.Plain := by
    simp only [List.forall_mem_cons]
    exact ⟨plain_sampleHandshake, Frame.plain_of_kind_ne nofun, Frame.plain_of_kind_ne nofun, nofun⟩
  have hlimit : ∀ f ∈ [shake, .send [1], .ping 2], f.toLine.length ≤ Frame.lineLimit := by
    decide +kernel
  have haccepts : decide (some sampleProperties) = .acceptedDuplex := rfl
  have hshaken : Frame.ofStream shake.toLine = [shake] := by
    have hlaid := Frame.laid_flatMap [shake]
    rw [List.flatMap_cons, List.flatMap_nil, List.append_nil] at hlaid
    exact hlaid.frames_eq (fun f hf => hplain f (List.mem_append_left [_, _] hf))
      fun f hf => hlimit f (List.mem_append_left [_, _] hf)
  have hpong : (Frame.pong 3).Plain := Frame.plain_of_kind_ne nofun
  have hstray :
    Inserted (shake.toLine ++ after) (shake.toLine ++ ((Frame.pong 3).toLine ++ after)) :=
    .ignored (.inr List.getLast?_concat) (Frame.printable_encode hpong).newline_not_mem
      (by decide +kernel) hshaken (by rw [haccepts]; rfl) (Frame.ofBytes?_toLine hpong) (by decide)
  have hblank : Inserted (shake.toLine ++ ((Frame.pong 3).toLine ++ after))
      (Byte.newline :: (shake.toLine ++ ((Frame.pong 3).toLine ++ after))) :=
    @Inserted.idle [] [] _ (.inl rfl) List.not_mem_nil (by decide) (.inl rfl)
  have hsame : Relation.EqvGen Inserted [shake.toLine ++ after].flatten
      [[Byte.newline], shake.toLine ++ (Frame.pong 3).toLine, after].flatten := by
    simp only [List.flatten_cons, List.flatten_nil, List.append_nil, List.append_assoc,
      List.singleton_append]
    exact .trans _ _ _ (.rel _ _ hstray) (.rel _ _ hblank)
  obtain ⟨hdelivered, heq⟩ := exact_delivery remote (fun _ => rfl) [shake.toLine ++ after]
  have hframes : Frame.ofStream [shake.toLine ++ after].flatten = [shake, .send [1], .ping 2] := by
    have hlaid := Frame.laid_flatMap [shake, .send [1], .ping 2]
    simp only [List.flatMap_cons, List.flatMap_nil, List.append_nil] at hlaid
    rw [List.flatten_cons, List.flatten_nil, List.append_nil]
    exact hlaid.frames_eq hplain hlimit
  obtain ⟨hcalls, hattempts⟩ := hdelivered.accepted _ _ hframes (by rw [haccepts]; rfl)
  have hshown := heq _ hsame
  constructor
  · rw [← calls_shown, hshown, calls_shown, hcalls]
    rfl
  · rw [attempts, ← filterMap_shown (fun _ => rfl), hshown, filterMap_shown (fun _ => rfl),
      ← attempts, hattempts, haccepts]
    rfl

end Connection

end AgentIntake
