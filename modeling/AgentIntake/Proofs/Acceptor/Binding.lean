import AgentIntake.Proofs.Acceptor.Life

/-!
# Binding and closing

An acceptor is bound once in its life and closed for good.  Until it has been closed, an attempt to
bind it can fail for five reasons, which are looked for in a fixed order: it is bound, nobody
listens for messages, its host cannot be resolved or stands for no address, and the system refuses
the address.  An attempt that fails leaves everything as it was, so a later one may succeed.
Closing it once more, or before it was ever bound, does nothing but keep it closed.

`binds_and_closes` states this of each turn of a life, whatever turns were taken before.  What the
acceptor knows of its past are three flags, and `Agrees` says that they are what the log makes of
them; every turn keeps that (`Agrees.step`), and what a turn does is then read off the flags.
-/

namespace AgentIntake

namespace Acceptor

variable {η : Type} {a : Acceptor η} {network : Network} {host : String} {port : UInt16}

/-! ## 1.  Whether an acceptor can be bound -/

theorem bindable_of_closed (h : a.isClosed = true) :
    a.bindable network host port = .error .closed := by
  simp [bindable, h]

theorem bindable_of_bound (hc : a.isClosed = false) (hb : a.bound.isSome = true) :
    a.bindable network host port = .error .alreadyBound := by
  simp [bindable, hc, hb]

theorem bindable_of_unheard (hc : a.isClosed = false) (hb : a.bound.isSome = false)
    (hl : a.hasListener = false) : a.bindable network host port = .error .missingListener := by
  simp [bindable, hc, hb, hl]

/-- Once the acceptor itself is ready, all depends on the system. -/
theorem bindable_of_ready (hc : a.isClosed = false) (hb : a.bound.isSome = false)
    (hl : a.hasListener = true) :
    a.bindable network host port = (resolve network host port).bind network.listen := by
  simp [bindable, hc, hb, hl]

/-- An acceptor that can be bound is ready. -/
theorem ready_of_bindable {own : SocketAddress} (h : a.bindable network host port = .ok own) :
    a.isClosed = false ∧ a.bound.isSome = false ∧ a.hasListener = true := by
  unfold bindable at h
  split at h
  · cases h
  split at h
  · cases h
  split at h
  · rename_i hc hb hl
    exact ⟨eq_false_of_ne_true hc, eq_false_of_ne_true hb, hl⟩
  · cases h

/-- The acceptor can be bound exactly if it is ready, the host resolves and the system lets it
listen at the address. -/
theorem bindable_eq_ok_iff {system : System} {own : SocketAddress} :
    a.bindable system.network host port = .ok own ↔
      (a.isClosed = false ∧ a.bound.isSome = false ∧ a.hasListener = true) ∧
        ∃ address, resolve system.network host port = .ok address ∧
          system.listen address = .ok own := by
  constructor
  · intro h
    obtain ⟨hc, hb, hl⟩ := ready_of_bindable h
    refine ⟨⟨hc, hb, hl⟩, ?_⟩
    rw [bindable_of_ready hc hb hl] at h
    cases hr : resolve system.network host port with
    | error e =>
      rw [hr] at h
      cases h
    | ok address =>
      rw [hr] at h
      exact ⟨address, rfl, System.listen_network_eq_ok_iff.1 h⟩
  · rintro ⟨⟨hc, hb, hl⟩, address, hr, hs⟩
    rw [bindable_of_ready hc hb hl, hr]
    exact System.listen_network_eq_ok_iff.2 hs

/-- A host that is no address and cannot be looked up is not resolved. -/
theorem resolve_of_failed {cause : String} (ht : IpAddress.ofText? host = none)
    (h : network.lookup host = .error cause) :
    resolve network host port = .error (.resolve host port cause) := by
  simp [resolve, ht, h]

/-- Nor is one that stands for no address. -/
theorem resolve_of_empty (ht : IpAddress.ofText? host = none) (h : network.lookup host = .ok []) :
    resolve network host port = .error (.resolveEmpty host port) := by
  simp [resolve, ht, h]

/-! ## 2.  What a close does to an acceptor that is not bound -/

theorem close_of_unbound (h : a.bound = none) :
    a.close = ({ a with isClosed := true }, [], []) := by
  rw [close, h]

theorem isClosed_close (a : Acceptor η) : a.close.1.isClosed = true := by
  unfold close
  split <;> rfl

theorem bound_close (a : Acceptor η) : a.close.1.bound = none := by
  cases h : a.bound with
  | none => rw [close_of_unbound h, h]
  | some address => rw [close, h]

theorem hasListener_close (a : Acceptor η) : a.close.1.hasListener = a.hasListener := by
  unfold close
  split <;> rfl

/-- The flags of two acceptors are the same. -/
structure Alike (a b : Acceptor η) : Prop where
  hasListener : b.hasListener = a.hasListener
  isClosed : b.isClosed = a.isClosed
  bound : b.bound = a.bound

theorem Alike.refl (a : Acceptor η) : Alike a a :=
  ⟨rfl, rfl, rfl⟩

theorem alike_forget (a : Acceptor η) (id : Nat) : Alike a (a.forget id) :=
  ⟨rfl, rfl, rfl⟩

theorem alike_accept (a : Acceptor η) (remote : SocketAddress) : Alike a (a.accept remote).1 := by
  unfold accept
  repeat' split
  all_goals exact ⟨rfl, rfl, rfl⟩

end Acceptor

namespace Traffic

open Acceptor (Alike)

variable {η : Type} {written : Nat → Nat → Option TransportError}

theorem acceptor_arrive (t : Traffic η) (remote : SocketAddress) :
    (t.arrive remote).1.acceptor = (t.acceptor.accept remote).1 := by
  unfold arrive
  dsimp only
  split <;> rfl

variable (written) in
/-- Only closing it changes the flags of an acceptor, whatever happens otherwise. -/
theorem alike_next (t : Traffic η) {event : TrafficEvent} (h : event ≠ .closed) :
    Alike t.acceptor (t.next written event).1.acceptor := by
  have hserve : ∀ id take, Alike t.acceptor (t.serve id take).1.acceptor := by
    intro id take
    rcases t.acceptor_serve id take with hs | hs
    · rw [hs]
      exact .refl _
    · rw [hs]
      exact Acceptor.alike_forget _ id
  cases event with
  | arrived remote =>
    show Alike _ (t.arrive remote).1.acceptor
    rw [acceptor_arrive]
    exact Acceptor.alike_accept _ remote
  | received | ended | failed => exact hserve _ _
  | ignoring => exact ⟨rfl, rfl, rfl⟩
  | closed => exact absurd rfl h

/-! ## 3.  What is promised -/

/-- An attempt to bind is refused: nobody sees anything of it, and everything is as it was. -/
structure Entry.Refused (e : Entry η) (cause : TransportError) : Prop where
  answer : e.answer = .bound (.error cause)
  unseen : e.effects = []
  same : e.later = e.earlier

/-- What an attempt to bind comes to, after a past.  Before the acceptor has been closed it succeeds
exactly if no other has, somebody listens, the host resolves and the system lets the acceptor listen
at the address (`succeeds_iff`); then it gives the acceptor its address and is recorded, and that is
all (`succeeds`).

Otherwise the first of these is the reason why it is refused: the acceptor has been closed, bound or
not (`late`); it is bound (`again`); nobody listens (`unheard`); the host cannot be looked up
(`unresolved`) or stands for no address (`resolvedEmpty`); the system does not let the acceptor
listen at the address (`unlistened`). -/
structure Entry.Attempts (past : List (Entry η)) (e : Entry η) (system : Acceptor.System)
    (host : String) (port : UInt16) : Prop where
  late : closed past = true → e.Refused .closed
  succeeds_iff : closed past = false → (e.answer = .bound (.ok ()) ↔
    succeeded past = false ∧ heard past = true ∧ ∃ address own,
      Acceptor.resolve system.network host port = .ok address ∧ system.listen address = .ok own)
  succeeds : e.answer = .bound (.ok ()) → ∃ address own,
    Acceptor.resolve system.network host port = .ok address ∧ system.listen address = .ok own ∧
      e.effects = [.logged (Acceptor.boundRecord own)] ∧
      e.later = { e.earlier with acceptor := { e.earlier.acceptor with bound := some own } }
  again : closed past = false → succeeded past = true → e.Refused .alreadyBound
  unheard : closed past = false → succeeded past = false → heard past = false →
    e.Refused .missingListener
  unresolved : closed past = false → succeeded past = false → heard past = true →
    ∀ cause, IpAddress.ofText? host = none → system.lookup host = .error cause →
      e.Refused (.resolve host port cause)
  resolvedEmpty : closed past = false → succeeded past = false → heard past = true →
    IpAddress.ofText? host = none → system.lookup host = .ok [] →
    e.Refused (.resolveEmpty host port)
  unlistened : closed past = false → succeeded past = false → heard past = true →
    ∀ address cause, Acceptor.resolve system.network host port = .ok address →
      system.listen address = .error cause → e.Refused (.bindTcp address cause)

/-- What one turn does after a past.

What an attempt to bind comes to (`binds`).  The acceptor has an address exactly if an attempt has
succeeded and it has not been closed; to ask for it changes nothing (`address`).  To close it once
more, or before it was ever bound, sets the flag and does nothing else (`idle`). -/
structure Entry.Fits (past : List (Entry η)) (e : Entry η) : Prop where
  binds : ∀ system host port, e.turn = .bind system host port → e.Attempts past system host port
  address : e.turn = .localAddress → e.effects = [] ∧ e.later = e.earlier ∧ ∃ own,
    e.answer = .address own ∧ (own.isSome = true ↔ succeeded past = true ∧ closed past = false)
  idle : e.turn = .event .closed → closed past = true ∨ succeeded past = false →
    e.effects = [] ∧
      e.later = { e.earlier with acceptor := { e.earlier.acceptor with isClosed := true } }

/-- The flags of an acceptor are what the log makes of them. -/
structure Agrees (log : List (Entry η)) (t : Traffic η) : Prop where
  hasListener : t.acceptor.hasListener = heard log
  isClosed : t.acceptor.isClosed = closed log
  bound : t.acceptor.bound.isSome = (succeeded log && !closed log)

/-! ## 4.  One turn -/

section

variable {t : Traffic η} {system : Acceptor.System} {host : String} {port : UInt16}

variable (written) in
/-- An attempt to bind an acceptor that cannot be bound is refused. -/
theorem take_of_error {cause : TransportError}
    (h : t.acceptor.bindable system.network host port = .error cause) :
    (t.take written (.bind system host port)).Refused cause := by
  constructor <;> simp [take, Acceptor.bind_of_error h]

theorem take_of_ok {own : SocketAddress}
    (h : t.acceptor.bindable system.network host port = .ok own) :
    t.take written (.bind system host port) =
      ⟨t, .bind system host port, [.logged (Acceptor.boundRecord own)], .bound (.ok ()),
        { t with acceptor := { t.acceptor with bound := some own } }⟩ := by
  simp [take, Acceptor.bind_of_ok h]

/-- An attempt succeeds exactly if the acceptor can be bound. -/
theorem answer_take_eq_ok_iff :
    (t.take written (.bind system host port)).answer = .bound (.ok ()) ↔
      ∃ own, t.acceptor.bindable system.network host port = .ok own := by
  cases h : t.acceptor.bindable system.network host port with
  | error cause => simp [(take_of_error written h).answer]
  | ok own => simp [take_of_ok h]

end

variable {log : List (Entry η)} {t : Traffic η}

/-- A new acceptor has no past. -/
theorem agrees_new : Agrees [] (of (.new : Acceptor η)) :=
  ⟨rfl, rfl, rfl⟩

variable (written) in
/-- **Every turn keeps the flags in agreement with the log.** -/
theorem Agrees.step (h : Agrees log t) (turn : Turn η) :
    Agrees (log ++ [t.take written turn]) (t.take written turn).later := by
  obtain ⟨hl, hc, hb⟩ := h
  cases turn with
  | addObserver observer =>
    constructor <;> simpa [take, Turn.isListener, Turn.isClosing, Answer.isBound]
  | setListener =>
    constructor
    · simp [take, Turn.isListener, Acceptor.setListener]
    · simpa [take, Turn.isClosing]
    · simpa [take, Turn.isClosing, Answer.isBound]
  | localAddress =>
    constructor <;> simpa [take, Turn.isListener, Turn.isClosing, Answer.isBound]
  | bind system host port =>
    cases hn : t.acceptor.bindable system.network host port with
    | error cause =>
      have hr := take_of_error written hn
      constructor <;> simpa [hr.same, hr.answer, Turn.isListener, Turn.isClosing, Answer.isBound]
    | ok own =>
      obtain ⟨hopen, -, -⟩ := Acceptor.ready_of_bindable hn
      rw [take_of_ok hn]
      constructor
      · simpa [Turn.isListener]
      · simpa [Turn.isClosing]
      · simp [Turn.isClosing, Answer.isBound, ← hc, hopen]
  | event event =>
    by_cases he : event = .closed
    · subst he
      show Agrees _ { t with acceptor := t.acceptor.close.1 }
      constructor
      · simpa [take, next, Turn.isListener, Acceptor.hasListener_close]
      · simp [take, next, Turn.isClosing, Acceptor.isClosed_close]
      · simp [take, next, Turn.isClosing, Acceptor.bound_close]
    · have ha := alike_next written t he
      have hn : (Turn.event event : Turn η).isClosing = false := by
        cases event <;> first | rfl | exact absurd rfl he
      constructor
      · simpa [take, Turn.isListener] using ha.hasListener.trans hl
      · simpa [take, hn] using ha.isClosed.trans hc
      · simpa [take, hn, Answer.isBound] using (congrArg Option.isSome ha.bound).trans hb

/-- What an attempt to bind comes to, if the flags agree with the log. -/
theorem Agrees.attempts (h : Agrees log t) (system : Acceptor.System) (host : String)
    (port : UInt16) :
    (t.take written (.bind system host port)).Attempts log system host port := by
  have unbound : closed log = false → succeeded log = false → t.acceptor.bound.isSome = false := by
    intro hc hs
    rw [h.bound, hs, Bool.false_and]
  -- what the system answers is what is left once the acceptor is ready
  have ready : closed log = false → succeeded log = false → heard log = true →
      t.acceptor.bindable system.network host port =
        (Acceptor.resolve system.network host port).bind system.network.listen := by
    intro hc hs hl
    exact Acceptor.bindable_of_ready (h.isClosed.trans hc) (unbound hc hs) (h.hasListener.trans hl)
  constructor
  · intro hc
    exact take_of_error written (Acceptor.bindable_of_closed (h.isClosed.trans hc))
  · intro hc
    rw [answer_take_eq_ok_iff]
    simp only [Acceptor.bindable_eq_ok_iff, h.isClosed, h.bound, h.hasListener, hc, Bool.not_false,
      Bool.and_true, true_and]
    constructor
    · rintro ⟨own, ⟨hs, hl⟩, address, hr, ho⟩
      exact ⟨hs, hl, address, own, hr, ho⟩
    · rintro ⟨hs, hl, address, own, hr, ho⟩
      exact ⟨own, ⟨hs, hl⟩, address, hr, ho⟩
  · intro ha
    obtain ⟨own, hn⟩ := answer_take_eq_ok_iff.1 ha
    obtain ⟨-, address, hr, ho⟩ := Acceptor.bindable_eq_ok_iff.1 hn
    rw [take_of_ok hn]
    exact ⟨address, own, hr, ho, rfl, rfl⟩
  · intro hc hs
    refine take_of_error written (Acceptor.bindable_of_bound (h.isClosed.trans hc) ?_)
    rw [h.bound, hs, hc]
    rfl
  · intro hc hs hl
    exact take_of_error written
      (Acceptor.bindable_of_unheard (h.isClosed.trans hc) (unbound hc hs) (h.hasListener.trans hl))
  · intro hc hs hl cause ht hf
    apply take_of_error
    rw [ready hc hs hl, Acceptor.resolve_of_failed ht hf]
    rfl
  · intro hc hs hl ht hf
    apply take_of_error
    rw [ready hc hs hl, Acceptor.resolve_of_empty ht hf]
    rfl
  · intro hc hs hl address cause hr hf
    apply take_of_error
    rw [ready hc hs hl, hr]
    exact Acceptor.System.listen_network_of_error hf

/-- **One turn does what is promised**, if the flags agree with the log. -/
theorem Agrees.fits (h : Agrees log t) (turn : Turn η) : (t.take written turn).Fits log where
  binds system host port ht := by
    obtain rfl : turn = .bind system host port := by simpa using ht
    exact h.attempts system host port
  address ht := by
    obtain rfl : turn = .localAddress := by simpa using ht
    refine ⟨rfl, rfl, t.acceptor.bound, rfl, ?_⟩
    simp [h.bound]
  idle ht hi := by
    obtain rfl : turn = .event .closed := by simpa using ht
    have hb : t.acceptor.bound = none := by
      rw [← Option.not_isSome_iff_eq_none, h.bound]
      rcases hi with hc | hs
      · simp [hc]
      · simp [hs]
    simp [take, next, Acceptor.close_of_unbound hb]

/-! ## 5.  A whole life -/

/-- The flags agree with the log all along. -/
theorem agrees_life (written : Nat → Nat → Option TransportError) (turns : List (Turn η)) :
    Agrees ((of .new).life written turns) ((of .new).after written turns) :=
  life_induction written agrees_new (fun _ _ turn h => h.step written turn) turns

/-- **No two attempts succeed.** -/
theorem countP_isBound_le_one (written : Nat → Nat → Option TransportError)
    (turns : List (Turn η)) :
    ((of .new).life written turns).countP (·.answer.isBound) ≤ 1 := by
  refine (life_induction
    (P := fun log t => Agrees log t ∧ log.countP (·.answer.isBound) ≤ 1) written
    ⟨agrees_new, Nat.zero_le _⟩ ?_ turns).2
  rintro past u turn ⟨h, hle⟩
  refine ⟨h.step written turn, ?_⟩
  rw [List.countP_append, List.countP_singleton]
  split
  · rename_i hb
    -- an attempt that succeeds is the first
    have hfirst : succeeded past = false := by
      cases turn with
      | bind system host port =>
        cases hn : u.acceptor.bindable system.network host port with
        | error cause =>
          rw [(take_of_error written hn).answer] at hb
          cases hb
        | ok own =>
          obtain ⟨hc, hs, -⟩ := Acceptor.ready_of_bindable hn
          rw [h.bound, ← h.isClosed, hc] at hs
          simpa using hs
      | addObserver | setListener | localAddress | event => cases hb
    have hzero : past.countP (·.answer.isBound) = 0 := by
      rw [List.countP_eq_zero]
      intro e he
      simpa using (List.any_eq_false.1 hfirst) e he
    omega
  · omega

/-- **Binding and closing in any order do what is promised.**  The acceptor starts new; each attempt
finds the system in whatever state it is, and connections come and go between the turns. -/
theorem binds_and_closes (written : Nat → Nat → Option TransportError) (turns : List (Turn η)) :
    ((of .new).life written turns).map Entry.turn = turns ∧
      Agrees ((of .new).life written turns) ((of .new).after written turns) ∧
      (∀ past e rest, (of .new).life written turns = past ++ e :: rest → e.Fits past) ∧
      ((of .new).life written turns).countP (·.answer.isBound) ≤ 1 := by
  refine ⟨map_turn_life written _ turns, agrees_life written turns, ?_,
    countP_isBound_le_one written turns⟩
  intro past e rest h
  exact entry_of_life written agrees_new (fun _ _ turn h => h.step written turn)
    (fun _ _ turn h => h.fits turn) h

/-- An acceptor is bound without a listener, to a name that stands for no address, to an address
that is taken, at last, and once more; then it is closed twice and bound again. -/
example :
    let system (own : Except String SocketAddress) : Acceptor.System :=
      ⟨fun host => if host = "nowhere" then .ok [] else .ok [.v4 ⟨10, 0, 0, 1⟩], fun _ => own⟩
    let own : SocketAddress := ⟨.v4 ⟨10, 0, 0, 1⟩, 9994, 0⟩
    let turns : List (Turn Unit) :=
      [.bind (system (.ok own)) "here" 9994, .setListener, .bind (system (.ok own)) "nowhere" 9994,
        .bind (system (.error "in use")) "here" 9994, .bind (system (.ok own)) "here" 9994,
        .localAddress, .bind (system (.ok own)) "here" 9994, .event .closed, .event .closed,
        .localAddress, .bind (system (.ok own)) "here" 9994]
    ((of .new).life (fun _ _ => none) turns).map Entry.answer =
      [.bound (.error .missingListener), .none, .bound (.error (.resolveEmpty "nowhere" 9994)),
        .bound (.error (.bindTcp own "in use")), .bound (.ok ()), .address (some own),
        .bound (.error .alreadyBound), .none, .none, .address none, .bound (.error .closed)] := by
  rfl

end Traffic

end AgentIntake
