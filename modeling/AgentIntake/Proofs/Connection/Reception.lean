import AgentIntake.Proofs.Connection.Story
import AgentIntake.Proofs.Frame.RoundTrip

/-!
# The line of a message is taken

A connection that runs hands on the message of a line, once and before anything that comes later on
the stream (`receive_message`).  The line may have been cut anywhere: the connection may have read a
part of it before, and more may come with its rest.
-/

namespace AgentIntake

/-- How an agent sends a message: with no wish for an answer, or for one under an identifier. -/
inductive Manner where
  | send
  | request (id : UInt64)
  deriving DecidableEq

namespace Manner

/-- The frame of a message. -/
def frame : Manner → List UInt8 → Frame
  | send, payload => .send payload
  | request id, payload => .request id payload

/-- What the listener is given. -/
def effect (remote : SocketAddress) : Manner → List UInt8 → Connection.Effect
  | send, payload => .send ⟨payload, remote⟩
  | request id, payload => .request id payload

theorem plain_frame (manner : Manner) (payload : List UInt8) : (manner.frame payload).Plain :=
  Frame.plain_of_kind_ne (by cases manner <;> exact nofun)

end Manner

namespace Connection

variable (written : Nat → Option TransportError)

/-- A connection that runs hands on a message and is as before. -/
theorem takeLine_message {c : Connection} {p : Properties} (hp : c.properties = some p)
    (hopen : c.isClosed = false) (manner : Manner) (payload : List UInt8) :
    takeLine written (c, []) (.frame (manner.frame payload)) =
      (c, [manner.effect c.remote payload]) := by
  have h : c.handle written (manner.frame payload) =
      (c, [manner.effect c.remote payload], .next) := by
    cases manner <;> simp only [Manner.frame, handle, hp] <;> rfl
  simp [takeLine, hopen, handleLine, h]

/-- What happened before has no part in what a line leads to. -/
theorem takeLine_eq (c : Connection) (before : List Effect) (line : Frame.Line) :
    takeLine written (c, before) line =
      ((takeLine written (c, []) line).1, before ++ (takeLine written (c, []) line).2) := by
  cases hc : c.isClosed with
  | true => simp [takeLine, hc]
  | false =>
    simp only [takeLine, hc]
    generalize c.handleLine written line = result
    obtain ⟨d, more, flow⟩ := result
    cases flow <;> simp

theorem foldl_takeLine (lines : List Frame.Line) (c : Connection) (before : List Effect) :
    lines.foldl (takeLine written) (c, before) =
      ((c.takeLines written lines).1, before ++ (c.takeLines written lines).2) := by
  induction lines generalizing c before with
  | nil => simp [takeLines]
  | cons line lines ih =>
    rw [takeLines, List.foldl_cons, List.foldl_cons, takeLine_eq, ih, ih, List.append_assoc]

/-- A line that comes as a whole is taken as a whole. -/
theorem receive_toLine {c : Connection} (hr : c.reader = .start) {f : Frame} (hf : f.Plain)
    (hl : f.toLine.length ≤ Frame.lineLimit) :
    c.receive written f.toLine = c.takeLines written [.frame f] := by
  have hc : { c with reader := .start } = c := by rw [← hr]
  unfold receive
  rw [hr, LineReader.feed_toLine hf hl]
  exact congrArg (takeLines · written [.frame f]) hc

/-- **A connection that runs hands on the message of a line**, before anything that comes later. -/
theorem receive_message {c : Connection} {p : Properties} (hp : c.properties = some p)
    (hopen : c.isClosed = false) {manner : Manner} {payload begun rest : List UInt8}
    (hreader : c.reader = .within begun) (hrest : rest ≠ [])
    (hline : begun ++ rest = (manner.frame payload).toLine)
    (hlimit : (manner.frame payload).toLine.length ≤ Frame.lineLimit) (more : List UInt8) :
    (c.receive written (rest ++ more)).2 =
      manner.effect c.remote payload :: ({ c with reader := .start }.receive written more).2 := by
  have hfeed := LineReader.feed_rest (manner.plain_frame payload) hlimit hline hrest
  unfold receive
  rw [hreader, LineReader.feed_append, hfeed]
  have hfirst := fun reader => takeLine_message written (c := { c with reader := reader }) hp hopen
    manner payload
  show (List.foldl (takeLine written) _ ([_] ++ _)).2 = _
  rw [List.singleton_append, List.foldl_cons, hfirst, foldl_takeLine]
  rfl

end Connection

end AgentIntake
