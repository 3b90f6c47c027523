import AgentIntake.Proofs.Connection.Story

/-!
# The life of a connection

Whatever an agent sends, however its stream is cut into pieces and wherever it ends, and whichever
writes fail, observers see the same life: the connection is there, then perhaps it runs, and last it
is closed.  Messages are handed on only while it runs.  The properties that anybody sees are none
before that, and from then on those of the one handshake that was put to the listener.

All of it is read off the automaton of `Story`.  `path_told` and `path_shaken` say what lies behind
a connection at each stage; what lies ahead follows, since every life ends at a closed stage.

## Why prefixes

"Before the connection runs" and "from then on" are about the middle of a life.  So the statements
cut the effects at any place, `before ++ e :: after`, and speak of the two parts.
-/

namespace AgentIntake

/-- It is a state in which the connection runs. -/
def ConnectionState.runs : ConnectionState → Bool
  | runDuplex | runSimplex => true
  | connected | closed => false

@[simp] theorem ConnectionState.runs_connected : connected.runs = false :=
  rfl

@[simp] theorem ConnectionState.runs_closed : closed.runs = false :=
  rfl

@[simp] theorem Decision.runs_runState (d : Decision) : d.runState.runs = true := by
  cases d <;> rfl

namespace Connection

/-! ## 1.  What is seen of effects -/

namespace Effect

/-- The state that observers are told of. -/
def state? : Effect → Option ConnectionState
  | told state _ => some state
  | handshake _ | send _ | request .. | ping .. | write .. | logged _ => none

/-- The handshake that the listener decides. -/
def asked? : Effect → Option (Option Properties)
  | handshake q => some q
  | told .. | send _ | request .. | ping .. | write .. | logged _ => none

/-- The decision that is written. -/
def answered? : Effect → Option Decision
  | write (.handshakeResponse decision) none => some decision
  | write .. | told .. | handshake _ | send _ | request .. | ping .. | logged _ => none

/-- The connection as it is shown. -/
def peer? : Effect → Option Peer
  | told _ peer | ping _ peer => some peer
  | handshake _ | send _ | request .. | write .. | logged _ => none

/-- The listener is given something other than a handshake. -/
def isMessage : Effect → Bool
  | send _ | request .. | ping .. => true
  | told .. | handshake _ | write .. | logged _ => false

end Effect

/-- The states that observers are told of, in order. -/
def told (effects : List Effect) : List ConnectionState :=
  effects.filterMap Effect.state?

/-- The handshakes that the listener decides, in order. -/
def asked (effects : List Effect) : List (Option Properties) :=
  effects.filterMap Effect.asked?

/-- The decisions that are written, in order. -/
def answered (effects : List Effect) : List Decision :=
  effects.filterMap Effect.answered?

/-- Observers have been told that the connection runs. -/
def hasRun (effects : List Effect) : Bool :=
  (told effects).any ConnectionState.runs

/-- The properties are those to be seen after the effects.

Before the connection runs there are none (`unseen`).  From then on they are those of the handshake
(`seen`). -/
structure Known (effects : List Effect) (properties : Option Properties) : Prop where
  unseen : hasRun effects = false → properties = none
  seen : hasRun effects = true → ∃ p, properties = some p ∧ asked effects = [some p]

/-- A life as others see it.

First observers are told that the connection is there (`begins`).  Last they are told that it has
ended (`ends`).  Between the two they are told at most once that it runs (`told_eq`).  The listener
decides one handshake at most (`length_asked_le`).  The connection runs duplex exactly if that was
decided and the decision written (`duplex_iff`).  It runs simplex exactly if that was decided and
the decision written (`simplex_iff`).  Observers are told that it runs right after the decision was
written (`answered_before`).  Messages are handed on after observers were told that it runs and
before they are told that it has ended (`between`).  Whenever it is shown, its properties are those
to be seen then (`observed`). -/
structure LifeCycle (remote : SocketAddress) (effects : List Effect) : Prop where
  begins : effects.head? = some (.told .connected ⟨remote, none⟩)
  ends : ∃ peer, effects.getLast? = some (.told .closed peer)
  told_eq : told effects = [.connected, .closed] ∨
    told effects = [.connected, .runDuplex, .closed] ∨
    told effects = [.connected, .runSimplex, .closed]
  length_asked_le : (asked effects).length ≤ 1
  duplex_iff : .runDuplex ∈ told effects ↔
    ∃ q, .handshake q ∈ effects ∧ decide q = .acceptedDuplex ∧
      .write (.handshakeResponse (decide q)) none ∈ effects
  simplex_iff : .runSimplex ∈ told effects ↔
    ∃ q, .handshake q ∈ effects ∧ decide q = .acceptedSimplex ∧
      .write (.handshakeResponse (decide q)) none ∈ effects
  answered_before : ∀ before state peer after, effects = before ++ .told state peer :: after →
    state.runs = true → ∃ p earlier,
      before = earlier ++
          [.handshake (some p), .write (.handshakeResponse (decide (some p))) none] ∧
        (decide (some p)).isAccepted = true ∧ state = (decide (some p)).runState
  between : ∀ before e after, effects = before ++ e :: after → e.isMessage = true →
    ∃ state, state.runs = true ∧ told before = [.connected, state] ∧ told after = [.closed]
  observed : ∀ before e after peer, effects = before ++ e :: after → e.peer? = some peer →
    peer.remote = remote ∧ Known (before ++ [e]) peer.properties

@[simp] theorem told_append (first second : List Effect) :
    told (first ++ second) = told first ++ told second :=
  List.filterMap_append

@[simp] theorem asked_append (first second : List Effect) :
    asked (first ++ second) = asked first ++ asked second :=
  List.filterMap_append

@[simp] theorem answered_append (first second : List Effect) :
    answered (first ++ second) = answered first ++ answered second :=
  List.filterMap_append

@[simp] theorem told_singleton (e : Effect) : told [e] = e.state?.toList :=
  filterMap_singleton _ e

@[simp] theorem asked_singleton (e : Effect) : asked [e] = e.asked?.toList :=
  filterMap_singleton _ e

@[simp] theorem answered_singleton (e : Effect) : answered [e] = e.answered?.toList :=
  filterMap_singleton _ e

theorem mem_asked {effects : List Effect} {q : Option Properties} :
    q ∈ asked effects ↔ .handshake q ∈ effects := by
  refine ⟨fun h => ?_, fun h => List.mem_filterMap.2 ⟨_, h, rfl⟩⟩
  obtain ⟨e, he, hq⟩ := List.mem_filterMap.1 h
  cases e with
  | handshake r =>
    cases hq
    exact he
  | _ => cases hq

theorem mem_answered {effects : List Effect} {d : Decision} :
    d ∈ answered effects ↔ .write (.handshakeResponse d) none ∈ effects := by
  refine ⟨fun h => ?_, fun h => List.mem_filterMap.2 ⟨_, h, rfl⟩⟩
  obtain ⟨e, he, hd⟩ := List.mem_filterMap.1 h
  unfold Effect.answered? at hd
  split at hd
  · cases hd
    exact he
  all_goals cases hd

/-! ## 2.  What lies behind a stage -/

namespace Stage

/-- The properties of a connection that observers were told runs. -/
def run? : Stage → Option Properties
  | running p | pinged p _ | ended (some p) | closed (some p) => some p
  | fresh | waiting | asked _ | answered _ | ended none | closed none => none

/-- What observers have been told. -/
def told : Stage → List ConnectionState
  | fresh => []
  | waiting | asked _ | answered _ | ended none => [.connected]
  | running p | pinged p _ | ended (some p) => [.connected, (decide (some p)).runState]
  | closed none => [.connected, .closed]
  | closed (some p) => [.connected, (decide (some p)).runState, .closed]

/-- What was asked and what was answered. -/
def Shaken : Stage → List (Option Properties) → List Decision → Prop
  | fresh, questions, answers | waiting, questions, answers => questions = [] ∧ answers = []
  | asked q, questions, answers => questions = [q] ∧ answers = []
  | answered p, questions, answers | running p, questions, answers | pinged p _, questions, answers
  | ended (some p), questions, answers | closed (some p), questions, answers =>
    questions = [some p] ∧ answers = [decide (some p)] ∧ (decide (some p)).isAccepted = true
  | ended none, questions, answers | closed none, questions, answers =>
    questions.length ≤ 1 ∧ ∀ d ∈ answers, d.isAccepted = false

variable {remote : SocketAddress} {s t u : Stage} {effects : List Effect}

theorem told_of_rest? {q : Option Properties} (h : s.rest? = some q) :
    (closed q).told = s.told ++ [.closed] := by
  cases s with
  | waiting =>
    cases h
    rfl
  | running p =>
    cases h
    rfl
  | ended r =>
    cases h
    cases q <;> rfl
  | _ => cases h

theorem Shaken.of_rest? {q : Option Properties} (h : s.rest? = some q)
    {questions : List (Option Properties)} {answers : List Decision}
    (k : s.Shaken questions answers) : (closed q).Shaken questions answers := by
  cases s with
  | waiting =>
    cases h
    obtain ⟨rfl, rfl⟩ := k
    exact ⟨Nat.zero_le _, fun d hd => by cases hd⟩
  | running p =>
    cases h
    exact k
  | ended r =>
    cases h
    cases q <;> exact k
  | _ => cases h

/-- **The stage tells what observers were told.** -/
theorem path_told (h : Path remote fresh effects t) : Connection.told effects = t.told := by
  refine Path.rec_last (P := fun t effects => Connection.told effects = t.told) rfl ?_ h
  intro t u effects e _ ih hn
  rw [told_append, ih, told_singleton]
  cases hn with
  | closed rests => exact (told_of_rest? rests).symm
  | logged => exact List.append_nil _
  | _ => rfl

/-- **The stage tells what was asked and answered.** -/
theorem path_shaken (h : Path remote fresh effects t) :
    t.Shaken (Connection.asked effects) (Connection.answered effects) := by
  refine Path.rec_last (s := fresh)
    (P := fun t effects => t.Shaken (Connection.asked effects) (Connection.answered effects))
    ⟨rfl, rfl⟩ ?_ h
  intro t u effects e _ ih hn
  rw [asked_append, answered_append, asked_singleton, answered_singleton]
  cases hn with
  | closed rests => simpa [Effect.asked?, Effect.answered?] using ih.of_rest? rests
  | asked => exact ⟨by rw [ih.1]; rfl, by rw [ih.2]; rfl⟩
  | unanswered => simp [Shaken, Effect.asked?, Effect.answered?, ih.1, ih.2]
  | rejected rejects => simp [Shaken, Effect.asked?, Effect.answered?, ih.1, ih.2, rejects]
  | accepted accepts => simp [Shaken, Effect.asked?, Effect.answered?, ih.1, ih.2, accepts]
  | _ =>
    simp only [Effect.asked?, Effect.answered?, Option.toList_none, List.append_nil]
    exact ih

/-- Observers were told that the connection runs exactly if it has properties by its stage. -/
theorem path_hasRun (h : Path remote fresh effects t) : hasRun effects = t.run?.isSome := by
  rw [hasRun, path_told h]
  cases t with
  | ended q | closed q => cases q <;> simp [told, run?]
  | _ => simp [told, run?]

theorem Shaken.asked_eq {p : Properties} (h : t.run? = some p)
    {questions : List (Option Properties)} {answers : List Decision}
    (k : t.Shaken questions answers) :
    questions = [some p] ∧ answers = [decide (some p)] ∧ (decide (some p)).isAccepted = true := by
  cases t with
  | ended q | closed q =>
    cases q with
    | none => cases h
    | some r =>
      cases h
      exact k
  | running r | pinged r id =>
    cases h
    exact k
  | _ => cases h

/-- **The properties by the stage are those to be seen.** -/
theorem path_known (h : Path remote fresh effects t) : Known effects t.run? where
  unseen hr := by
    rw [path_hasRun h] at hr
    exact Option.not_isSome_iff_eq_none.1 (by simp [hr])
  seen hr := by
    rw [path_hasRun h] at hr
    obtain ⟨p, hp⟩ := Option.isSome_iff_exists.1 hr
    exact ⟨p, hp, ((path_shaken h).asked_eq hp).1⟩

/-- A connection is shown with the properties of the stage that follows. -/
theorem Next.peer_eq {e : Effect} {peer : Peer} (h : Next remote s e t) (k : e.peer? = some peer) :
    peer = ⟨remote, t.run?⟩ := by
  cases h with
  | @closed s q rests =>
    cases k
    cases q <;> rfl
  | connected | runs | ping =>
    cases k
    rfl
  | _ => cases k

/-- Messages come at a stage at which the connection runs. -/
theorem Next.exists_running {e : Effect} (h : Next remote s e t) (k : e.isMessage = true) :
    ∃ p, s = running p ∧ t.told = s.told := by
  cases h with
  | send | request | ping => exact ⟨_, rfl, rfl⟩
  | _ => cases k

/-- A decision that accepts was written right after it was made. -/
theorem exists_shake_of_answered {p : Properties} (h : Path remote fresh effects (answered p)) :
    (decide (some p)).isAccepted = true ∧ ∃ earlier, effects =
      earlier ++ [.handshake (some p), .write (.handshakeResponse (decide (some p))) none] := by
  obtain ⟨before, e, s, rfl, hb, hn⟩ := h.exists_last nofun
  cases hn with
  | logged rests => cases rests
  | accepted accepts =>
    obtain ⟨earlier, f, t, rfl, -, hf⟩ := hb.exists_last nofun
    cases hf with
    | logged rests => cases rests
    | asked => exact ⟨accepts, earlier, by simp⟩

/-- The last effect on the way to a closed stage is the news of it. -/
theorem exists_last_of_closed {q : Option Properties} (h : Path remote fresh effects (closed q)) :
    ∃ before, effects = before ++ [.told .closed ⟨remote, q⟩] := by
  obtain ⟨before, e, s, rfl, -, hn⟩ := h.exists_last nofun
  cases hn with
  | logged rests => cases rests
  | closed => exact ⟨before, rfl⟩

/-- The stages of a path that is cut before one of its effects. -/
theorem Path.exists_next {before after : List Effect} {e : Effect}
    (h : Path remote s (before ++ e :: after) u) :
    ∃ t t', Path remote s before t ∧ Next remote t e t' ∧ Path remote t' after u := by
  obtain ⟨t, hb, ht⟩ := h.split
  cases ht with
  | cons hn ha => exact ⟨t, _, hb, hn, ha⟩

end Stage

/-! ## 3.  From a path to a life -/

section

variable {remote : SocketAddress} {effects : List Effect} {q : Option Properties}

theorem runState_eq_iff {d e : Decision} (hd : d.isAccepted = true) (he : e.isAccepted = true) :
    d.runState = e.runState ↔ d = e := by
  cases d <;> cases e <;> simp_all [Decision.isAccepted, Decision.runState]

/-- Observers are told of the running state of a decision that accepts exactly if it was made and
written. -/
theorem runState_mem_told_iff (h : Stage.Path remote .fresh effects (.closed q)) {d : Decision}
    (hd : d.isAccepted = true) :
    d.runState ∈ told effects ↔ ∃ r, .handshake r ∈ effects ∧ decide r = d ∧
      .write (.handshakeResponse (decide r)) none ∈ effects := by
  have hruns := d.runs_runState
  have hne : d.runState ≠ .connected ∧ d.runState ≠ .closed := by
    constructor <;> intro he <;> rw [he] at hruns <;> cases hruns
  have hs := Stage.path_shaken h
  simp only [← mem_asked, ← mem_answered]
  rw [Stage.path_told h]
  cases q with
  | none =>
    constructor
    · intro hm
      simp [Stage.told, hne] at hm
    · rintro ⟨r, -, rfl, hr⟩
      rw [hs.2 _ hr] at hd
      cases hd
  | some p =>
    obtain ⟨hq, ha, accepts⟩ := hs
    rw [hq, ha]
    constructor
    · intro hm
      have he : d = decide (some p) := by
        simpa [Stage.told, hne, runState_eq_iff hd accepts] using hm
      exact ⟨some p, List.mem_singleton_self _, he.symm, List.mem_singleton_self _⟩
    · rintro ⟨r, hr, rfl, -⟩
      cases List.mem_singleton.1 hr
      simp [Stage.told]

/-- A message is handed on between what observers are told of the run and of the end. -/
theorem told_around {before after : List Effect} {e : Effect}
    (h : Stage.Path remote .fresh (before ++ e :: after) (.closed q)) (hm : e.isMessage = true) :
    ∃ state, state.runs = true ∧ told before = [.connected, state] ∧ told after = [.closed] := by
  have htold := Stage.path_told h
  obtain ⟨s, t, hb, hn, ha⟩ := h.exists_next
  obtain ⟨p, rfl, ht⟩ := hn.exists_running hm
  have hbt := Stage.path_told hb
  refine ⟨(decide (some p)).runState, Decision.runs_runState _, hbt, ?_⟩
  have hs : told [e] = [] := by
    cases e with
    | send | request | ping => rfl
    | _ => cases hm
  rw [← List.singleton_append, told_append, told_append, hs, hbt] at htold
  cases q with
  | none =>
    -- the connection would have been told closed where it was told to run
    have hr := Decision.runs_runState (decide (some p))
    simp only [Stage.told, List.nil_append, List.cons_append, List.cons.injEq] at htold
    rw [htold.2.1] at hr
    cases hr
  | some r =>
    simp only [Stage.told, List.nil_append, List.cons_append, List.cons.injEq] at htold
    exact htold.2.2

/-- **A path from nothing to a closed stage is a life.** -/
theorem lifeCycle_of_path (h : Stage.Path remote .fresh effects (.closed q)) :
    LifeCycle remote effects where
  begins := by
    cases h with
    | cons hn _ =>
      cases hn with
      | connected => rfl
      | logged rests | closed rests => cases rests
  ends := by
    obtain ⟨before, rfl⟩ := Stage.exists_last_of_closed h
    exact ⟨_, List.getLast?_concat⟩
  told_eq := by
    rw [Stage.path_told h]
    cases q with
    | none => exact .inl rfl
    | some p =>
      refine .inr ?_
      rw [Stage.told, Decision.runState]
      split
      · exact .inl rfl
      · exact .inr rfl
  length_asked_le := by
    have hs := Stage.path_shaken h
    cases q with
    | none => exact hs.1
    | some p =>
      rw [hs.1]
      exact Nat.le_refl 1
  duplex_iff := runState_mem_told_iff h (d := .acceptedDuplex) rfl
  simplex_iff := runState_mem_told_iff h (d := .acceptedSimplex) rfl
  answered_before before state peer after he hr := by
    subst he
    obtain ⟨s, t, hb, hn, -⟩ := h.exists_next
    cases hn with
    | connected | closed => cases hr
    | @runs p =>
      obtain ⟨accepts, earlier, hbefore⟩ := Stage.exists_shake_of_answered hb
      exact ⟨p, earlier, hbefore, accepts, rfl⟩
  between _ _ _ he hm := told_around (he ▸ h) hm
  observed before e after peer he hp := by
    subst he
    obtain ⟨s, t, hb, hn, -⟩ := h.exists_next
    cases hn.peer_eq hp
    exact ⟨rfl, Stage.path_known (hb.append hn.path)⟩

end

/-! ## 4.  Whole connections -/

/-- Takes pieces of the stream in order. -/
def receiveAll (c : Connection) (written : Nat → Option TransportError) :
    List (List UInt8) → Connection × List Effect
  | [] => (c, [])
  | bytes :: more =>
    let (d, effects) := c.receive written bytes
    let (e, others) := d.receiveAll written more
    (e, effects ++ others)

/-- Takes the end of the stream: its last byte has come or, with a cause, it can no longer be
read. -/
def conclude (c : Connection) (written : Nat → Option TransportError) :
    Option String → Connection × List Effect
  | none => c.finish written
  | some cause => c.fail cause

/-- A new connection after the pieces of its stream so far, and all that it led to. -/
def soFar (remote : SocketAddress) (written : Nat → Option TransportError)
    (pieces : List (List UInt8)) : Connection × List Effect :=
  let c := opened remote
  let (d, effects) := c.receiveAll written pieces
  (d, c.openEffects ++ effects)

/-- All that a connection leads to whose stream comes in pieces and then ends. -/
def life (remote : SocketAddress) (written : Nat → Option TransportError)
    (pieces : List (List UInt8)) (ending : Option String) : List Effect :=
  let (d, effects) := soFar remote written pieces
  effects ++ (d.conclude written ending).2

/-- A stream in one piece that ends after its last byte is served. -/
theorem life_singleton (remote : SocketAddress) (bytes : List UInt8) :
    life remote written [bytes] none = serve remote written bytes := by
  simp [life, soFar, serve, receiveAll, conclude]

variable (written : Nat → Option TransportError)

theorem follows_receiveAll (pieces : List (List UInt8)) (c : Connection) :
    c.Follows written (c.receiveAll written pieces).2 (c.receiveAll written pieces).1 := by
  induction pieces generalizing c with
  | nil => exact .refl written c
  | cons bytes more ih => exact (follows_receive written c bytes).trans (ih _)

theorem follows_conclude (c : Connection) (ending : Option String) :
    c.Follows written (c.conclude written ending).2 (c.conclude written ending).1 := by
  cases ending with
  | none => exact follows_finish written c
  | some cause => exact follows_fail written c cause

theorem isClosed_conclude (c : Connection) (ending : Option String) :
    (c.conclude written ending).1.isClosed = true := by
  cases ending with
  | none => exact isClosed_finish written c
  | some cause => exact isClosed_fail c cause

/-- A connection has followed the automaton from nothing. -/
theorem path_soFar (remote : SocketAddress) (pieces : List (List UInt8)) :
    Stage.Path remote .fresh (soFar remote written pieces).2
      (soFar remote written pieces).1.stage :=
  Stage.Next.connected.path.append (follows_receiveAll written pieces (opened remote)).path

theorem path_life (remote : SocketAddress) (pieces : List (List UInt8)) (ending : Option String) :
    ∃ q, Stage.Path remote .fresh (life remote written pieces ending) (.closed q) := by
  have hf := follows_conclude written (soFar remote written pieces).1 ending
  have hr : (soFar remote written pieces).1.remote = remote :=
    (follows_receiveAll written pieces (opened remote)).remote_eq
  have hp := hf.path
  rw [stage_of_closed (isClosed_conclude written _ _), hr] at hp
  exact ⟨_, (path_soFar written remote pieces).append hp⟩

theorem run?_stage (c : Connection) : c.stage.run? = c.properties := by
  unfold stage
  split
  · cases c.properties <;> rfl
  · cases c.properties <;> rfl

/-- **The life cycle of a connection.**  Whatever comes on the stream, in whatever pieces, wherever
and however it ends, and whichever writes fail: the effects are a life, and the properties that the
connection keeps after the pieces so far are those to be seen then. -/
theorem life_cycle (remote : SocketAddress) (written : Nat → Option TransportError)
    (pieces : List (List UInt8)) (ending : Option String) :
    LifeCycle remote (life remote written pieces ending) ∧
      Known (soFar remote written pieces).2 (soFar remote written pieces).1.properties := by
  obtain ⟨q, hp⟩ := path_life written remote pieces ending
  refine ⟨lifeCycle_of_path hp, ?_⟩
  rw [← run?_stage]
  exact Stage.path_known (path_soFar written remote pieces)

end Connection

end AgentIntake
