import AgentIntake.Proofs.Connection.Story

/-!
# What a connection answers by itself

A connection answers handshakes and signs of life while it reads, each by one frame, and in the
order in which they were handed on.  So the frames that it tried to write are those answers, but
perhaps for the last one, which is still due (`path_attempts`).  The answer to the handshake comes
first, and no other follows it (`path_opening`); and when a request is handed on that answer has
been written already (`requests_eq_nil_of_frames`).

Requests are answered by someone else.  What is said here about them is only that they come later
than the answer to the handshake, which is what keeps that answer in the first place when others
write, too.
-/

namespace AgentIntake.Connection

/-! ## 1.  Answers -/

namespace Effect

/-- The frame that answers what is handed on, if the connection answers it itself. -/
def answer? : Effect → Option Frame
  | handshake q => some (.handshakeResponse (decide q))
  | ping packet _ => some (.pong packet.id)
  | told .. | send _ | request .. | write .. | logged _ => none

/-- The frame that is tried to be written. -/
def attempt? : Effect → Option Frame
  | write frame _ => some frame
  | told .. | handshake _ | send _ | request .. | ping .. | logged _ => none

/-- The frame that is written. -/
def written? : Effect → Option Frame
  | write frame none => some frame
  | write _ (some _) | told .. | handshake _ | send _ | request .. | ping .. | logged _ => none

/-- The request that is handed on: its identifier and its payload. -/
def request? : Effect → Option (UInt64 × List UInt8)
  | request id payload => some (id, payload)
  | told .. | handshake _ | send _ | ping .. | write .. | logged _ => none

end Effect

/-- The answers to what was handed on, in order. -/
def answers (effects : List Effect) : List Frame :=
  effects.filterMap Effect.answer?

/-- The frames that were tried to be written, in order. -/
def attempts (effects : List Effect) : List Frame :=
  effects.filterMap Effect.attempt?

/-- The frames that were written, in order. -/
def frames (effects : List Effect) : List Frame :=
  effects.filterMap Effect.written?

/-- The requests that were handed on, in order. -/
def requests (effects : List Effect) : List (UInt64 × List UInt8) :=
  effects.filterMap Effect.request?

@[simp] theorem answers_append (first second : List Effect) :
    answers (first ++ second) = answers first ++ answers second :=
  List.filterMap_append

@[simp] theorem attempts_append (first second : List Effect) :
    attempts (first ++ second) = attempts first ++ attempts second :=
  List.filterMap_append

@[simp] theorem frames_append (first second : List Effect) :
    frames (first ++ second) = frames first ++ frames second :=
  List.filterMap_append

@[simp] theorem requests_append (first second : List Effect) :
    requests (first ++ second) = requests first ++ requests second :=
  List.filterMap_append

@[simp] theorem answers_singleton (e : Effect) : answers [e] = e.answer?.toList :=
  filterMap_singleton _ e

@[simp] theorem attempts_singleton (e : Effect) : attempts [e] = e.attempt?.toList :=
  filterMap_singleton _ e

@[simp] theorem frames_singleton (e : Effect) : frames [e] = e.written?.toList :=
  filterMap_singleton _ e

@[simp] theorem requests_singleton (e : Effect) : requests [e] = e.request?.toList :=
  filterMap_singleton _ e

/-- When no write fails, what was tried was written. -/
theorem frames_eq_attempts {effects : List Effect}
    (h : ∀ frame failure, .write frame failure ∈ effects → failure = none) :
    frames effects = attempts effects := by
  induction effects with
  | nil => rfl
  | cons e effects ih =>
    have ih := ih fun frame failure hm => h frame failure (List.mem_cons_of_mem _ hm)
    rw [← List.singleton_append, frames_append, attempts_append, ih, frames_singleton,
      attempts_singleton]
    cases e with
    | write frame failure =>
      rw [h frame failure List.mem_cons_self]
      rfl
    | _ => rfl

namespace Stage

variable {remote : SocketAddress} {t : Stage} {effects : List Effect}

/-- The answer that is due. -/
def due : Stage → List Frame
  | asked q => [.handshakeResponse (decide q)]
  | pinged _ id => [.pong id]
  | fresh | waiting | answered _ | running _ | ended _ | closed _ => []

theorem due_of_rest? {q : Option Properties} (h : t.rest? = some q) : t.due = [] := by
  cases t with
  | waiting | running | ended => rfl
  | _ => cases h

/-- One answer is due at most. -/
theorem length_due_le (t : Stage) : t.due.length ≤ 1 := by
  cases t <;> simp [due]

/-- **What was handed on is answered in order, but for what is due.** -/
theorem path_attempts (h : Path remote fresh effects t) :
    attempts effects ++ t.due = answers effects := by
  refine Path.rec_last (P := fun t effects => attempts effects ++ t.due = answers effects) rfl ?_ h
  intro t u effects e _ ih hn
  rw [attempts_append, answers_append, attempts_singleton, answers_singleton, ← ih]
  cases hn with
  | logged rests => simp [Effect.attempt?, Effect.answer?]
  | closed rests =>
    rw [due_of_rest? rests]
    simp [Effect.attempt?, Effect.answer?, due]
  | _ => simp [Effect.attempt?, Effect.answer?, due]

/-! ## 2.  The answer to the handshake comes first -/

/-- The frames begin with the answer to a handshake, and answers to signs of life follow. -/
def Opening (frames : List Frame) : Prop :=
  ∃ (q : Option Properties) (ids : List Int32),
    frames = .handshakeResponse (decide q) :: ids.map Frame.pong

/-- The frames of a stage: none before the answer to the handshake, and an opening after it. -/
def Opens : Stage → List Frame → Prop
  | fresh, frames | waiting, frames | asked _, frames => frames = []
  | answered _, frames | running _, frames | pinged .., frames | ended _, frames => Opening frames
  | closed _, frames => frames = [] ∨ Opening frames

theorem path_opens (h : Path remote fresh effects t) : t.Opens (attempts effects) := by
  refine Path.rec_last (s := fresh) (P := fun t effects => t.Opens (attempts effects)) rfl ?_ h
  intro t u effects e _ ih hn
  rw [attempts_append, attempts_singleton]
  cases hn with
  | closed rests =>
    simp only [Effect.attempt?, Option.toList_none, List.append_nil]
    cases t with
    | waiting => exact .inl ih
    | running | ended => exact .inr ih
    | _ => cases rests
  | @unanswered q | @rejected q =>
    rw [show attempts effects = [] from ih]
    exact ⟨q, [], rfl⟩
  | @accepted p =>
    rw [show attempts effects = [] from ih]
    exact ⟨some p, [], rfl⟩
  | @pong p id | @unponged p id =>
    obtain ⟨q, ids, hq⟩ := ih
    exact ⟨q, ids ++ [id], by rw [hq, List.map_append]; rfl⟩
  | _ =>
    simp only [Effect.attempt?, Option.toList_none, List.append_nil]
    exact ih

/-- **The frames of a connection are an opening, if there are any.** -/
theorem path_opening (h : Path remote fresh effects t) :
    attempts effects = [] ∨ Opening (attempts effects) := by
  have ho := path_opens h
  cases t with
  | fresh | waiting | asked => exact .inl ho
  | closed => exact ho
  | _ => exact .inr ho

/-- The answer to the handshake was written, and it is an acceptance. -/
def isAccepted : Stage → Bool
  | answered _ | running _ | pinged .. => true
  | fresh | waiting | asked _ | ended _ | closed _ => false

theorem frames_ne_nil_of_isAccepted (h : Path remote fresh effects t) (ht : t.isAccepted = true) :
    frames effects ≠ [] := by
  refine Path.rec_last (s := fresh)
    (P := fun t effects => t.isAccepted = true → frames effects ≠ []) (fun hf => nomatch hf) ?_ h ht
  intro t u effects e _ ih hn hu hf
  rw [frames_append, List.append_eq_nil_iff] at hf
  cases hn with
  | accepted => cases hf.2
  | logged => exact ih hu hf.1
  | runs | send | request | ping | pong => exact ih rfl hf.1
  | _ => cases hu

/-- **No request is handed on before the first frame is written.** -/
theorem requests_eq_nil_of_frames (h : Path remote fresh effects t) (hf : frames effects = []) :
    requests effects = [] := by
  refine Path.rec_last
    (P := fun t effects => frames effects = [] → requests effects = []) (fun _ => rfl) ?_ h hf
  intro t u effects e hp ih hn hu
  rw [frames_append, List.append_eq_nil_iff] at hu
  rw [requests_append, requests_singleton, ih hu.1]
  cases hn with
  | request => exact absurd hu.1 (frames_ne_nil_of_isAccepted hp rfl)
  | _ => rfl

end Stage

/-- Between two lines nothing is due. -/
theorem due_stage (c : Connection) : c.stage.due = [] := by
  cases hc : c.isClosed with
  | true =>
    rw [stage_of_closed hc]
    rfl
  | false =>
    rw [stage_of_open hc]
    exact Stage.due_of_rest? (Stage.rest?_between _)

end AgentIntake.Connection
