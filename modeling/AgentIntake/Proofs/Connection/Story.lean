import AgentIntake.Connection.Basic
import Mathlib.Data.List.Induction

/-!
# What a connection leads to

`Step` says once what a line can lead to, and every other fact about lines is read off it.

The effects of a connection come in an order that a small automaton follows.  Its states, the
`Stage`s, are finer than those of a connection: they also tell apart what has been seen of a line
and what of it is still to come, a handshake that was put to the listener and not answered yet, an
answer that was written while observers have not been told, a sign of life whose answer is due.  So
the automaton follows a connection that is stopped between any two of its effects, and not only
between two lines.

`follows_takeLines` is the invariant: what lines lead to is a path of the automaton from the stage
of the connection before to the stage of the connection after.  It passes to every piece of the
stream (`follows_receive`) and to its end (`follows_finish`, `follows_fail`).

## Why the gate is needed

Whether a handshake was accepted is not remembered anywhere but in the properties: a connection has
some exactly if it runs.  That is right only because the gate never accepts a handshake without
properties (`exists_properties_of_isAccepted`).
-/

namespace AgentIntake

theorem exists_properties_of_isAccepted {q : Option Properties}
    (h : (decide q).isAccepted = true) : ∃ p, q = some p := by
  cases q with
  | none => cases h
  | some p => exact ⟨p, rfl⟩

theorem filterMap_singleton {α β : Type} (f : α → Option β) (a : α) :
    [a].filterMap f = (f a).toList := by
  cases h : f a <;> simp [h]

namespace Connection

variable {written : Nat → Option TransportError}

/-! ## 1.  What a line can lead to -/

/-- The line is passed over: it holds no frame, or one that a connection that runs does not act
on. -/
def PassesOver (c : Connection) : Frame.Line → Prop
  | .malformed .. => True
  | .tooLong | .frame (.send _) | .frame (.request ..) | .frame (.ping _) => False
  | .frame (.handshake _) | .frame (.handshakeResponse _) | .frame (.response ..) |
    .frame (.pong _) => c.properties ≠ none

/-- The line ends the connection at once: it is too long, or traffic before the handshake. -/
def BreaksAt (c : Connection) : Frame.Line → Prop
  | .tooLong => True
  | .malformed .. | .frame (.handshake _) => False
  | .frame _ => c.properties = none

/-- What a line leads to: the connection afterwards, the effects and whether the next line is
read. -/
inductive Step (written : Nat → Option TransportError) (c : Connection) :
    Frame.Line → Connection → List Effect → Flow → Prop where
  | passed {line : Frame.Line} {record : Log.Record} (passes : c.PassesOver line) :
    Step written c line c [.logged record] .next
  | broken {line : Frame.Line} {record : Log.Record} (breaks : c.BreaksAt line) :
    Step written c line c [.logged record] .close
  | unanswered {q : Option Properties} {e : TransportError} {record : Log.Record}
    (waits : c.properties = none) (fails : written c.writes = some e) :
    Step written c (.frame (.handshake q)) { c with writes := c.writes + 1 }
      [.handshake q, .write (.handshakeResponse (decide q)) (some e), .logged record] .close
  | rejected {q : Option Properties} {record : Log.Record} (waits : c.properties = none)
    (succeeds : written c.writes = none) (rejects : (decide q).isAccepted = false) :
    Step written c (.frame (.handshake q)) { c with writes := c.writes + 1 }
      [.handshake q, .write (.handshakeResponse (decide q)) none, .logged record] .close
  | accepted {p : Properties} (waits : c.properties = none) (succeeds : written c.writes = none)
    (accepts : (decide (some p)).isAccepted = true) :
    Step written c (.frame (.handshake (some p)))
      { c with writes := c.writes + 1, properties := some p }
      [.handshake (some p), .write (.handshakeResponse (decide (some p))) none,
        .told (decide (some p)).runState ⟨c.remote, some p⟩] .next
  | send {p : Properties} {payload : List UInt8} (runs : c.properties = some p) :
    Step written c (.frame (.send payload)) c [.send ⟨payload, c.remote⟩] .next
  | request {p : Properties} {id : UInt64} {payload : List UInt8} (runs : c.properties = some p) :
    Step written c (.frame (.request id payload)) c [.request id payload] .next
  | ping {p : Properties} {id : Int32} (runs : c.properties = some p)
    (succeeds : written c.writes = none) :
    Step written c (.frame (.ping id)) { c with writes := c.writes + 1 }
      [.ping ⟨id⟩ ⟨c.remote, some p⟩, .write (.pong id) none] .next
  | pingUnanswered {p : Properties} {id : Int32} {e : TransportError} {record : Log.Record}
    (runs : c.properties = some p) (fails : written c.writes = some e) :
    Step written c (.frame (.ping id)) { c with writes := c.writes + 1 }
      [.ping ⟨id⟩ ⟨c.remote, some p⟩, .write (.pong id) (some e), .logged record] .close

theorem step_shake (c : Connection) {q : Option Properties} (h : c.properties = none) :
    Step written c (.frame (.handshake q)) (c.shake written q).1 (c.shake written q).2.1
      (c.shake written q).2.2 := by
  unfold shake write
  cases hw : written c.writes with
  | some e => exact .unanswered h hw
  | none =>
    cases hd : (decide q).isAccepted with
    | false =>
      simp only [hd]
      exact .rejected h hw hd
    | true =>
      obtain ⟨p, rfl⟩ := exists_properties_of_isAccepted hd
      simp only [hd]
      exact .accepted h hw hd

theorem step_handle (c : Connection) (frame : Frame) :
    Step written c (.frame frame) (c.handle written frame).1 (c.handle written frame).2.1
      (c.handle written frame).2.2 := by
  cases hp : c.properties with
  | none =>
    cases frame with
    | handshake q =>
      simp only [handle, hp]
      exact step_shake c hp
    | _ =>
      simp only [handle, hp]
      exact .broken hp
  | some p =>
    have runs : c.properties ≠ none := by simp [hp]
    cases frame with
    | send payload =>
      simp only [handle, hp]
      exact .send hp
    | request id payload =>
      simp only [handle, hp]
      exact .request hp
    | ping id =>
      have hpeer : c.peer = ⟨c.remote, some p⟩ := by rw [peer, hp]
      cases hw : written c.writes with
      | none =>
        have h : Step written c (.frame (.ping id)) _ _ _ := .ping hp hw
        simpa only [handle, hp, write, hw, hpeer] using h
      | some e =>
        have h : ∀ record, Step written c (.frame (.ping id)) _ [_, _, .logged record] _ :=
          fun record => .pingUnanswered hp hw
        simpa only [handle, hp, write, hw, hpeer, note] using h _
    | _ =>
      simp only [handle, hp]
      exact .passed runs

variable (written) in
/-- **A line leads to one of these steps.** -/
theorem step_handleLine (c : Connection) (line : Frame.Line) :
    Step written c line (c.handleLine written line).1 (c.handleLine written line).2.1
      (c.handleLine written line).2.2 := by
  cases line with
  | frame frame => exact step_handle c frame
  | malformed bytes fault => exact .passed trivial
  | tooLong => exact .broken trivial

/-! ## 2.  The automaton -/

/-- How far a connection has got, as its effects show it: nobody was told of it; it waits for its
handshake; that was put to the listener; it was accepted and the answer written; the connection
runs; a sign of life was handed on and is to be answered; the connection is about to be closed; it
is closed. -/
inductive Stage where
  | fresh
  | waiting
  | asked (q : Option Properties)
  | answered (p : Properties)
  | running (p : Properties)
  | pinged (p : Properties) (id : Int32)
  | ended (q : Option Properties)
  | closed (q : Option Properties)

namespace Stage

/-- The properties of a connection at a stage at which nothing is under way. -/
def rest? : Stage → Option (Option Properties)
  | waiting => some none
  | running p => some (some p)
  | ended q => some q
  | fresh | asked _ | answered _ | pinged .. | closed _ => none

/-- The stage of an open connection between two lines. -/
def between : Option Properties → Stage
  | none => waiting
  | some p => running p

@[simp] theorem rest?_between (q : Option Properties) : (between q).rest? = some q := by
  cases q <;> rfl

/-- What can come next, and the stage that it leads to. -/
inductive Next (remote : SocketAddress) : Stage → Effect → Stage → Prop where
  | connected : Next remote .fresh (.told .connected ⟨remote, none⟩) .waiting
  | logged {s : Stage} {q : Option Properties} {record : Log.Record} (rests : s.rest? = some q) :
    Next remote s (.logged record) s
  | closed {s : Stage} {q : Option Properties} (rests : s.rest? = some q) :
    Next remote s (.told .closed ⟨remote, q⟩) (.closed q)
  | asked {q : Option Properties} : Next remote .waiting (.handshake q) (.asked q)
  | unanswered {q : Option Properties} {e : TransportError} :
    Next remote (.asked q) (.write (.handshakeResponse (decide q)) (some e)) (.ended none)
  | rejected {q : Option Properties} (rejects : (decide q).isAccepted = false) :
    Next remote (.asked q) (.write (.handshakeResponse (decide q)) none) (.ended none)
  | accepted {p : Properties} (accepts : (decide (some p)).isAccepted = true) :
    Next remote (.asked (some p)) (.write (.handshakeResponse (decide (some p))) none) (.answered p)
  | runs {p : Properties} :
    Next remote (.answered p) (.told (decide (some p)).runState ⟨remote, some p⟩) (.running p)
  | send {p : Properties} {payload : List UInt8} :
    Next remote (.running p) (.send ⟨payload, remote⟩) (.running p)
  | request {p : Properties} {id : UInt64} {payload : List UInt8} :
    Next remote (.running p) (.request id payload) (.running p)
  | ping {p : Properties} {id : Int32} :
    Next remote (.running p) (.ping ⟨id⟩ ⟨remote, some p⟩) (.pinged p id)
  | pong {p : Properties} {id : Int32} :
    Next remote (.pinged p id) (.write (.pong id) none) (.running p)
  | unponged {p : Properties} {id : Int32} {e : TransportError} :
    Next remote (.pinged p id) (.write (.pong id) (some e)) (.ended (some p))

/-- Effects in order, from a stage to a stage. -/
inductive Path (remote : SocketAddress) : Stage → List Effect → Stage → Prop where
  | nil (s : Stage) : Path remote s [] s
  | cons {s t u : Stage} {e : Effect} {effects : List Effect} (first : Next remote s e t)
    (others : Path remote t effects u) : Path remote s (e :: effects) u

variable {remote : SocketAddress} {s t u : Stage}

theorem Path.append {first second : List Effect} (h : Path remote s first t)
    (k : Path remote t second u) : Path remote s (first ++ second) u := by
  induction h with
  | nil => exact k
  | cons hn _ ih => exact .cons hn (ih k)

/-- A path is cut anywhere. -/
theorem Path.split {first second : List Effect} (h : Path remote s (first ++ second) u) :
    ∃ t, Path remote s first t ∧ Path remote t second u := by
  induction first generalizing s with
  | nil => exact ⟨s, .nil s, h⟩
  | cons e first ih =>
    cases h with
    | cons hn hp =>
      obtain ⟨t, hf, hs⟩ := ih hp
      exact ⟨t, .cons hn hf, hs⟩

/-- The last effect of a path between two stages. -/
theorem Path.exists_last {effects : List Effect} (h : Path remote s effects u) (hne : s ≠ u) :
    ∃ before e t, effects = before ++ [e] ∧ Path remote s before t ∧ Next remote t e u := by
  rcases List.eq_nil_or_concat effects with rfl | ⟨before, e, rfl⟩
  · cases h
    exact absurd rfl hne
  · rw [List.concat_eq_append] at h
    obtain ⟨t, hb, hl⟩ := h.split
    cases hl with
    | cons hn hnil =>
      cases hnil
      exact ⟨before, e, t, List.concat_eq_append, hb, hn⟩

theorem Next.path {e : Effect} (h : Next remote s e t) : Path remote s [e] t :=
  .cons h (.nil t)

/-- What holds of no effects and is kept by each effect holds of a path. -/
theorem Path.rec_last {P : Stage → List Effect → Prop} (nil : P s [])
    (snoc : ∀ {t u : Stage} {effects : List Effect} {e : Effect}, Path remote s effects t →
      P t effects → Next remote t e u → P u (effects ++ [e]))
    {effects : List Effect} (h : Path remote s effects t) : P t effects := by
  induction effects using List.reverseRecOn generalizing t with
  | nil =>
    cases h
    exact nil
  | append_singleton effects e ih =>
    obtain ⟨r, hf, hl⟩ := h.split
    cases hl with
    | cons hn hnil =>
      cases hnil
      exact snoc hf (ih hf) hn

end Stage

/-- The stage of a connection between two lines. -/
def stage (c : Connection) : Stage :=
  if c.isClosed then .closed c.properties else .between c.properties

theorem stage_of_open {c : Connection} (h : c.isClosed = false) : c.stage = .between c.properties :=
  if_neg (by simp [h])

theorem stage_of_closed {c : Connection} (h : c.isClosed = true) : c.stage = .closed c.properties :=
  if_pos h

/-! ## 3.  Every connection follows it -/

variable {c d : Connection} {line : Frame.Line} {effects : List Effect}

/-- A line changes neither the address nor the reader, and it does not close the connection by
itself. -/
theorem Step.frame_eq {flow : Flow} (h : Step written c line d effects flow) :
    d.remote = c.remote ∧ d.reader = c.reader ∧ d.isClosed = c.isClosed := by
  cases h <;> exact ⟨rfl, rfl, rfl⟩

theorem Step.path_of_next (h : Step written c line d effects .next) :
    Stage.Path c.remote (.between c.properties) effects (.between d.properties) := by
  cases h with
  | passed => exact (Stage.Next.logged (Stage.rest?_between _)).path
  | accepted waits _ accepts =>
    rw [waits]
    exact .cons .asked (.cons (.accepted accepts) (.cons .runs (.nil _)))
  | send runs =>
    rw [runs]
    exact Stage.Next.send.path
  | request runs =>
    rw [runs]
    exact Stage.Next.request.path
  | ping runs =>
    rw [runs]
    exact .cons .ping (.cons .pong (.nil _))

theorem Step.path_of_close (h : Step written c line d effects .close) :
    Stage.Path c.remote (.between c.properties) (effects ++ [.told .closed d.peer])
      (.closed d.properties) := by
  cases h with
  | broken =>
    exact .cons (.logged (Stage.rest?_between _)) (Stage.Next.closed (Stage.rest?_between _)).path
  | unanswered waits =>
    rw [peer, waits]
    exact .cons .asked (.cons .unanswered (.cons (.logged rfl) (Stage.Next.closed rfl).path))
  | rejected waits _ rejects =>
    rw [peer, waits]
    exact .cons .asked
      (.cons (.rejected rejects) (.cons (.logged rfl) (Stage.Next.closed rfl).path))
  | pingUnanswered runs =>
    rw [peer, runs]
    exact .cons .ping (.cons .unponged (.cons (.logged rfl) (Stage.Next.closed rfl).path))

/-- Writes fail as they are said to. -/
theorem Step.exists_written {flow : Flow} (h : Step written c line d effects flow) {frame : Frame}
    {failure : Option TransportError} (hm : .write frame failure ∈ effects) :
    ∃ n, failure = written n := by
  cases h with
  | unanswered _ hw | rejected _ hw | accepted _ hw | ping _ hw | pingUnanswered _ hw =>
    refine ⟨c.writes, ?_⟩
    simp only [List.mem_cons, Effect.write.injEq, List.not_mem_nil, reduceCtorEq,
      false_or, or_false] at hm
    rw [hm.2, hw]
  | _ => simp at hm

/-- A connection follows the automaton from what it was to what it is.

The address is the same (`remote_eq`).  The effects are a path (`path`).  Writes fail as they are
said to (`exists_written`). -/
structure Follows (written : Nat → Option TransportError) (c : Connection) (effects : List Effect)
    (d : Connection) : Prop where
  remote_eq : d.remote = c.remote
  path : Stage.Path c.remote c.stage effects d.stage
  exists_written : ∀ frame failure, .write frame failure ∈ effects → ∃ n, failure = written n

variable (written)

theorem Follows.refl (c : Connection) : c.Follows written [] c :=
  ⟨rfl, .nil _, fun _ _ hm => nomatch hm⟩

variable {written} in
theorem Follows.trans {e : Connection} {more : List Effect} (h : c.Follows written effects d)
    (k : d.Follows written more e) : c.Follows written (effects ++ more) e where
  remote_eq := k.remote_eq.trans h.remote_eq
  path := h.path.append (h.remote_eq ▸ k.path)
  exists_written frame failure hm := by
    rcases List.mem_append.1 hm with hm | hm
    · exact h.exists_written frame failure hm
    · exact k.exists_written frame failure hm

/-- Taking a line adds to the effects what the connection follows. -/
theorem exists_follows_takeLine (c : Connection) (before : List Effect) (line : Frame.Line) :
    ∃ d more, takeLine written (c, before) line = (d, before ++ more) ∧
      c.Follows written more d := by
  cases hc : c.isClosed with
  | true => exact ⟨c, [], by simp [takeLine, hc], .refl written c⟩
  | false =>
    simp only [takeLine, hc]
    have hs := step_handleLine written c line
    generalize c.handleLine written line = result at hs
    obtain ⟨d, more, flow⟩ := result
    obtain ⟨hr, -, hd⟩ := hs.frame_eq
    cases flow with
    | next =>
      refine ⟨d, more, rfl, hr, ?_, fun _ _ hm => hs.exists_written hm⟩
      rw [stage_of_open hc, stage_of_open (hd.trans hc)]
      exact hs.path_of_next
    | close =>
      refine ⟨d.close.1, more ++ d.close.2, by simp [close], hr, ?_, fun _ _ hm => ?_⟩
      · rw [stage_of_open hc, stage_of_closed rfl]
        exact hs.path_of_close
      · rcases List.mem_append.1 hm with hm | hm
        · exact hs.exists_written hm
        · simp [close] at hm

theorem exists_follows_foldl (lines : List Frame.Line) (c : Connection) (before : List Effect) :
    ∃ d more, lines.foldl (takeLine written) (c, before) = (d, before ++ more) ∧
      c.Follows written more d := by
  induction lines generalizing c before with
  | nil => exact ⟨c, [], by simp, .refl written c⟩
  | cons line lines ih =>
    obtain ⟨d, more, hd, hf⟩ := exists_follows_takeLine written c before line
    obtain ⟨e, last, he, hg⟩ := ih d (before ++ more)
    exact ⟨e, more ++ last, by rw [List.foldl_cons, hd, he, List.append_assoc], hf.trans hg⟩

/-- **What lines lead to, the automaton follows.** -/
theorem follows_takeLines (c : Connection) (lines : List Frame.Line) :
    c.Follows written (c.takeLines written lines).2 (c.takeLines written lines).1 := by
  obtain ⟨d, more, hd, hf⟩ := exists_follows_foldl written lines c []
  rw [takeLines, hd]
  exact hf

theorem follows_receive (c : Connection) (bytes : List UInt8) :
    c.Follows written (c.receive written bytes).2 (c.receive written bytes).1 := by
  -- the reader has no part in the stage
  have h := follows_takeLines written { c with reader := (c.reader.feed bytes).1 }
    (c.reader.feed bytes).2
  exact ⟨h.remote_eq, h.path, h.exists_written⟩

theorem follows_close (h : c.isClosed = false) : c.Follows written c.close.2 c.close.1 := by
  refine ⟨rfl, ?_, fun _ _ hm => by simp [close] at hm⟩
  rw [stage_of_open h, stage_of_closed rfl]
  exact (Stage.Next.closed (Stage.rest?_between _)).path

theorem follows_finish (c : Connection) :
    c.Follows written (c.finish written).2 (c.finish written).1 := by
  have h := follows_takeLines written c c.reader.finish.toList
  unfold finish
  dsimp only
  cases hd : (c.takeLines written c.reader.finish.toList).1.isClosed with
  | true => exact h
  | false => exact h.trans (follows_close written hd)

theorem follows_fail (c : Connection) (cause : String) :
    c.Follows written (c.fail cause).2 (c.fail cause).1 := by
  unfold fail
  cases hc : c.isClosed with
  | true => exact .refl written c
  | false =>
    refine ⟨rfl, .cons ?_ (follows_close written hc).path,
      fun _ _ hm => by simp [close, note] at hm⟩
    rw [stage_of_open hc]
    exact .logged (Stage.rest?_between _)

theorem isClosed_finish (c : Connection) : (c.finish written).1.isClosed = true := by
  unfold finish
  dsimp only
  cases hd : (c.takeLines written c.reader.finish.toList).1.isClosed with
  | true => exact hd
  | false => rfl

theorem isClosed_fail (c : Connection) (cause : String) : (c.fail cause).1.isClosed = true := by
  unfold fail
  cases hc : c.isClosed with
  | true => exact hc
  | false => rfl

end Connection

end AgentIntake
