import AgentIntake.Intake
import AgentIntake.Proofs.Acceptor.Share
import AgentIntake.Proofs.Pool.View

/-!
# The intake, one step at a time

The program takes what a connection does and everything that follows from it in one go
(`Intake.take`), and lets its workers get on as far as they can (`Intake.settle`).  Here the same is
done in the smallest steps that others can see, and in any order: a connection's reader hands one
thing on or writes one frame, a worker takes a task, does one thing for it, is done with it.
Readers and workers share nothing but the pool and the streams they write to, and a line is written
in one step because whoever writes it holds the stream meanwhile.

An `Exchange` is an intake with what is under way: for each connection what has been read and is
still to be done (`due`), and for each task that was started what is still to be done for it
(`Job`).  It also remembers the past, as far as anybody wants to speak of it: what each connection's
reader has done (`seen`), the frames on each stream (`wire`), and the history of the pool.

## Why the handler comes with the task

A handler is not the collector's own and may answer the same message differently from time to time.
So every task that is started brings the handler that it finds, and nothing is assumed of how they
are related.
-/

namespace AgentIntake

variable {η M : Type}

/-! ## 1.  Effects by connection -/

/-- The frame that an effect puts on one connection. -/
def Intake.Effect.frameOn? (id : Nat) (e : Intake.Effect M) : Option Frame :=
  e.frame?.bind fun (k, frame) => if k = id then some frame else none

/-- The task that a connection's effect hands to the dispatch pool. -/
def Connection.Effect.delivery? (id : Nat) (remote : SocketAddress) :
    Connection.Effect → Option (Delivery ReplyTo)
  | send packet => some (.send packet)
  | .request number payload => some (.request ⟨payload, remote, ⟨id, number⟩⟩)
  | told .. | handshake _ | ping .. | write .. | logged _ => none

/-- The request of a connection that a task is: its identifier and its payload. -/
def Delivery.requestOn? (id : Nat) : Delivery ReplyTo → Option (UInt64 × List UInt8)
  | request packet =>
    if packet.reply.connection = id then some (packet.reply.request, packet.payload) else none
  | send _ | other => none

/-! ## 2.  Jobs -/

/-- A task that was started: the task and the number of its submission, the handler that it finds,
what was done for it, in order, and what is still to be done. -/
structure Job (M : Type) where
  ticket : Pool.Ticket (Delivery ReplyTo)
  handler : Handler M
  done : List (Intake.Effect M)
  ahead : Work (Intake.Effect M)

namespace Job

/-- The job after its next step, and the effect of the step. -/
def next? (j : Job M) : Option (Job M × Option (Intake.Effect M)) :=
  match j.ahead with
  | [] => none
  | .effect e :: ahead => some ({ j with done := j.done ++ [e], ahead := ahead }, some e)
  | .wait :: ahead => some ({ j with ahead := ahead }, none)

/-- The frames that the job has put on a connection. -/
def frames (id : Nat) (j : Job M) : List Frame :=
  j.done.filterMap (Intake.Effect.frameOn? id)

end Job

/-! ## 3.  States -/

/-- What an intake works with that is not its own: the codec, the failure, if any, of each write of
a connection's reader, by the number of the write, and what sends the answers to requests. -/
structure Exchange.Setting (M : Type) where
  codec : Codec M
  written : Nat → Nat → Option TransportError
  reply : ReplyTo → ReplySender

/-- Every write succeeds. -/
structure Exchange.Setting.Writes (w : Exchange.Setting M) : Prop where
  written_eq : ∀ id n, w.written id n = none
  reply_eq : ∀ r payload, (w.reply r payload).outcome = Attempt.returned ()

/-- An intake with what is under way, and its past: where each connection comes from that was let
in, what each connection's reader has still to do for what was read and what it has done, the frames
written to each connection, the history of the dispatch pool, and the tasks that were started, in
the order of their start. -/
structure Exchange (η M : Type) where
  intake : Intake η
  remote : Nat → Option SocketAddress
  due : Nat → List Connection.Effect
  seen : Nat → List Connection.Effect
  wire : Nat → List Frame
  history : Pool.History (Delivery ReplyTo)
  jobs : List (Job M)

/-- Something that happens to an intake.  It is started, or somebody tries to; a connection arrives,
or something comes on the stream of one, or the acceptor is closed (`hear`); a connection's reader
does the next thing for what was read (`perform`); a worker takes a task and finds a handler, gets
on, finishes or leaves; the dispatch pool is closed; the liveness pool gets on, in whatever way. -/
inductive Exchange.Move (M : Type) where
  | start (network : Acceptor.Network)
  | hear (event : TrafficEvent)
  | perform (id : Nat) (stamp : UInt64) (sink : Sink)
  | take (worker : Nat) (handler : Handler M)
  | act (job : Nat)
  | finish (worker : Nat) (ending : Pool.Ending)
  | leave (worker : Nat)
  | close
  | liveness (events : Option (Pool Ping))

namespace Exchange

/-- The bytes written to a connection. -/
def bytes (x : Exchange η M) (id : Nat) : List UInt8 :=
  (x.wire id).flatMap Frame.toLine

/-- An intake to which nothing has happened. -/
def of (n : Intake η) : Exchange η M where
  intake := n
  remote _ := none
  due _ := []
  seen _ := []
  wire _ := []
  history :=
    .start (Pool.History.fresh n.receiver.dispatch.name n.receiver.dispatch.workers.length
      n.receiver.dispatch.capacity)
  jobs := []

/-! ## 4.  Moves -/

/-- The intake with its dispatch pool in another state. -/
def withDispatch (n : Intake η) (dispatch : Pool (Delivery ReplyTo)) : Intake η :=
  { n with receiver := { n.receiver with dispatch := dispatch } }

/-- What was heard is due, after what is due already. -/
def hear (x : Exchange η M) (w : Exchange.Setting M) (event : TrafficEvent) : Exchange η M :=
  let (traffic, effects) := x.intake.traffic.next w.written event
  { x with
    intake := { x.intake with traffic := traffic }
    remote := fun id => ((traffic.connection? id).map (·.remote)).or (x.remote id)
    due := fun id => x.due id ++ Traffic.about id effects }

/-- The reader of a connection does the first thing that is due. -/
def perform? (x : Exchange η M) (id : Nat) (stamp : UInt64) (sink : Sink) :
    Option (Exchange η M) :=
  match x.remote id, x.due id with
  | some remote, effect :: rest =>
    some
      { x with
        intake :=
          { x.intake with
            receiver := (Intake.listen (M := M) x.intake.receiver stamp sink id remote effect).1 }
        due := fun k => if k = id then rest else x.due k
        seen := fun k => if k = id then x.seen id ++ [effect] else x.seen k
        wire := fun k =>
          x.wire k ++ (Intake.Effect.frameOn? (M := M) k (.traffic (.of id effect))).toList
        history := ((effect.delivery? id remote).map x.history.submit).getD x.history }
  | _, _ => none

/-- A worker takes the first task of the pool. -/
def take? (x : Exchange η M) (w : Exchange.Setting M) (worker : Nat) (handler : Handler M) :
    Option (Exchange η M) := do
  let (delivery, dispatch) ← x.intake.receiver.dispatch.take? worker
  let (ticket, _) ← x.history.pool.take? worker
  let history ← x.history.next? (.take worker)
  return { x with
    intake := withDispatch x.intake dispatch
    history := history
    jobs := x.jobs ++
      [⟨ticket, handler, [], Intake.dispatchWork w.codec handler w.reply delivery⟩] }

/-- A job gets on by one step. -/
def act? (x : Exchange η M) (job : Nat) : Option (Exchange η M) := do
  let j ← x.jobs[job]?
  let (k, effect) ← j.next?
  return { x with
    wire := fun id => x.wire id ++ (effect.bind (·.frameOn? id)).toList
    jobs := x.jobs.set job k }

/-- Everything has been done for the task with a number. -/
def isDone (x : Exchange η M) (number : Nat) : Bool :=
  x.jobs.all fun j => j.ticket.2 ≠ number || j.ahead.isEmpty

/-- A worker is done with its task, when everything has been done for it. -/
def finish? (x : Exchange η M) (worker : Nat) (ending : Pool.Ending) : Option (Exchange η M) := do
  let (_, dispatch) ← x.intake.receiver.dispatch.finish? worker
  let (ticket, _) ← x.history.pool.finish? worker
  let history ← x.history.next? (.finish worker ending)
  if x.isDone ticket.2 then
    some { x with intake := withDispatch x.intake dispatch, history := history }
  else none

/-- A worker leaves. -/
def leave? (x : Exchange η M) (worker : Nat) : Option (Exchange η M) := do
  let dispatch ← x.intake.receiver.dispatch.leave? worker
  let history ← x.history.next? (.leave worker)
  return { x with intake := withDispatch x.intake dispatch, history := history }

/-- The state after a move, if it can happen. -/
def next? (x : Exchange η M) (w : Exchange.Setting M) : Move M → Option (Exchange η M)
  | .start network => some { x with intake := (x.intake.start (M := M) network).1 }
  | .hear event => some (x.hear w event)
  | .perform id stamp sink => x.perform? id stamp sink
  | .take worker handler => x.take? w worker handler
  | .act job => x.act? job
  | .finish worker ending => x.finish? worker ending
  | .leave worker => x.leave? worker
  | .close =>
    some
      { x with
        intake := withDispatch x.intake x.intake.receiver.dispatch.close
        history := { x.history with pool := x.history.pool.close } }
  | .liveness events =>
    some { x with intake :=
      { x.intake with receiver := { x.intake.receiver with events := events } } }

/-- The state after moves in order, if they can happen. -/
def run? (x : Exchange η M) (w : Exchange.Setting M) : List (Move M) → Option (Exchange η M)
  | [] => some x
  | move :: moves =>
    match x.next? w move with
    | none => none
    | some y => y.run? w moves

end Exchange

end AgentIntake
