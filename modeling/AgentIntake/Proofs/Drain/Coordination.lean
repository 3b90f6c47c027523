import AgentIntake.Proofs.Pool.Draining
import AgentIntake.Receiver.Drain

/-!
# A shutdown and the pools it closes

A shutdown closes the pools of a list, and then waits for one after the other.  While it does so the
pools go on by themselves, others submit tasks to them, and time passes.  A `Shutdown` is all of
that in the smallest steps and in any order: `Step.other` is what happens besides, at any moment,
and the other steps are the shutdown's own.  The same pool may stand in the list twice, and may have
been closed before.

What the shutdown has done is remembered: which pools it has closed, and a `Visit` for each wait
that has come to an end.  `Orderly` is the invariant; its main equations say that what was closed
and what is still to be closed are together the list, and that so are the pools that were waited for
and those that are still to be waited for.

## What a record counts

A wait that ends because the time is up ends with workers left, and how many there are is counted
only then, for the record.  Some may leave in between, even the last one: the record of a pool that
was still busy may say that nobody is left in it.  So a visit remembers both numbers, and the
outcome depends on the first (`Visit.left`) and not on the second (`Visit.counted`).
-/

namespace AgentIntake

namespace Drain

variable {κ α : Type}

/-! ## 1.  Pools side by side -/

/-- Pools with their past, and the time. -/
structure Site (κ α : Type) where
  pools : κ → Pool.History α
  clock : Nat

/-- Something that happens to pools. -/
inductive Event (κ α : Type) where
  | move (k : κ) (move : Pool.Move α)
  | pass (time : Nat)

namespace Site

/-- How many workers of a pool have not left. -/
def live (s : Site κ α) (k : κ) : Nat :=
  (s.pools k).pool.live

/-- The name of a pool. -/
def name (s : Site κ α) (k : κ) : String :=
  (s.pools k).pool.name

variable [DecidableEq κ]

/-- The pools after an event, if it can happen. -/
def next? (s : Site κ α) : Event κ α → Option (Site κ α)
  | .move k move =>
    ((s.pools k).next? move).map fun h => { s with pools := Function.update s.pools k h }
  | .pass time => some { s with clock := s.clock + time }

/-- The pools after events in order, if they can happen. -/
def run? (s : Site κ α) : List (Event κ α) → Option (Site κ α)
  | [] => some s
  | event :: events => (s.next? event).bind (·.run? events)

/-- A pool is closed. -/
def close (s : Site κ α) (k : κ) : Site κ α :=
  { s with
    pools := Function.update s.pools k { s.pools k with pool := (s.pools k).pool.close } }

end Site

/-- The second site is the first one after a while.

Pools keep their names (`name_eq`).  Closed pools stay closed (`isClosed`).  No worker comes back
(`live_le`).  Time does not go back (`clock_le`). -/
structure Site.Later (s t : Site κ α) : Prop where
  name_eq : ∀ k, t.name k = s.name k
  isClosed : ∀ k, (s.pools k).pool.isClosed = true → (t.pools k).pool.isClosed = true
  live_le : ∀ k, t.live k ≤ s.live k
  clock_le : s.clock ≤ t.clock

theorem Site.Later.refl (s : Site κ α) : s.Later s :=
  ⟨fun _ => rfl, fun _ => id, fun _ => Nat.le_refl _, Nat.le_refl _⟩

theorem Site.later_pass (s : Site κ α) (time : Nat) :
    s.Later { s with clock := s.clock + time } :=
  ⟨fun _ => rfl, fun _ => id, fun _ => Nat.le_refl _, Nat.le_add_right _ _⟩

theorem Site.later_move [DecidableEq κ] {s : Site κ α} {k : κ} {move : Pool.Move α}
    {h : Pool.History α} (next : (s.pools k).next? move = some h) :
    s.Later { s with pools := Function.update s.pools k h } := by
  have hname := (Pool.History.pool_next? next).1
  have hclosed := (Pool.History.grows_next? next).closed
  have hlive := (Pool.History.live_next? next).1
  -- the other pools are as before
  have hpool : ∀ {P : Pool.History α → Pool.History α → Prop}, (∀ g, P g g) → P (s.pools k) h →
      ∀ j, P (s.pools j) (Function.update s.pools k h j) := by
    intro P hrefl hk j
    by_cases hj : j = k
    · subst hj
      rwa [Function.update_self]
    · rw [Function.update_of_ne hj]
      exact hrefl _
  exact
    { name_eq := hpool (P := fun g g' => g'.pool.name = g.pool.name) (fun _ => rfl) hname
      isClosed := hpool (P := fun g g' => g.pool.isClosed = true → g'.pool.isClosed = true)
        (fun _ => id) fun hc => (hclosed hc).1
      live_le := hpool (P := fun g g' => g'.pool.live ≤ g.pool.live) (fun _ => Nat.le_refl _)
        (hlive ▸ Nat.le_add_right _ _)
      clock_le := Nat.le_refl _ }

/-- A pool can always be closed. -/
theorem Site.next?_close (s : Site κ α) (k : κ) :
    (s.pools k).next? .close = some { s.pools k with pool := (s.pools k).pool.close } :=
  rfl

theorem Site.later_close [DecidableEq κ] (s : Site κ α) (k : κ) : s.Later (s.close k) :=
  later_move (s.next?_close k)

/-! ## 2.  Shutdowns -/

/-- The wait for a pool, when it has come to an end and a record has been made of it: how long it
was, and how many workers were left when it ended and when the record was made. -/
structure Visit (κ : Type) where
  pool : κ
  lasted : Nat
  left : Nat
  counted : Nat
  record : Log.Record

/-- The pool was still busy when the wait for it ended. -/
def Visit.isLate (v : Visit κ) : Bool :=
  v.left ≠ 0

/-- How far a shutdown has got.  It has still to close these pools (`closing`); it has closed all,
and has still to wait for these (`between`); it has been waiting for a pool since some time
(`waiting`); it has given up waiting for a pool, with workers left, and has made no record of it yet
(`late`). -/
inductive Phase (κ : Type) where
  | closing (ahead : List κ)
  | between (ahead : List κ)
  | waiting (k : κ) (since : Nat) (ahead : List κ)
  | late (k : κ) (lasted left : Nat) (ahead : List κ)

namespace Phase

/-- It has still to close pools. -/
def isClosing : Phase κ → Bool
  | closing _ => true
  | between _ | waiting .. | late .. => false

/-- The pools that it has still to close. -/
def unclosed : Phase κ → List κ
  | closing ahead => ahead
  | between _ | waiting .. | late .. => []

/-- The phase after some pools have been closed: all, or those before `ahead`. -/
def after (closed : List κ) : List κ → Phase κ
  | [] => between closed
  | k :: ahead => closing (k :: ahead)

/-- The pools whose visits are still to come, once all are closed. -/
def unvisited : Phase κ → List κ
  | closing _ => []
  | between ahead => ahead
  | waiting k _ ahead | late k _ _ ahead => k :: ahead

theorem unclosed_eq_nil {phase : Phase κ} (h : phase.isClosing = false) : phase.unclosed = [] := by
  cases phase with
  | closing => cases h
  | between | waiting | late => rfl

end Phase

/-- Pools that are shut down, how far the shutdown has got, and what it has done: the pools that it
has closed, in order, the time when it closed the last of them, the waits that have come to an end,
the records, and what the waits have come to. -/
structure Shutdown (κ α : Type) where
  site : Site κ α
  phase : Phase κ
  closed : List κ
  shutAt : Nat
  visits : List (Visit κ)
  records : List Log.Record
  outcome : ShutdownOutcome

/-- Something that happens while pools are shut down: the shutdown has no part in it (`other`), or
it closes a pool, begins to wait for the next one, looks whether workers are left in the pool that
it waits for, or makes a record of one that is still busy. -/
inductive Step (κ α : Type) where
  | other (event : Event κ α)
  | close (k : κ)
  | wait
  | look
  | report

namespace Shutdown

/-- A shutdown of the pools of a list begins. -/
def start (present : List κ) (s : Site κ α) : Shutdown κ α where
  site := s
  phase := .after [] present
  closed := []
  shutAt := s.clock
  visits := []
  records := []
  outcome := .drained

/-- All pools have been waited for. -/
def IsOver (x : Shutdown κ α) : Prop :=
  x.phase = .between []

/-- The wait for a pool has ended because no worker is left in it. -/
def drain (x : Shutdown κ α) (k : κ) (lasted : Nat) (ahead : List κ) : Shutdown κ α :=
  let record := drainedRecord (x.site.name k)
  { x with
    phase := .between ahead
    visits := x.visits ++ [⟨k, lasted, 0, 0, record⟩]
    records := x.records ++ [record] }

/-- A record is made of a pool that is still busy. -/
def report (x : Shutdown κ α) (grace : Nat) (k : κ) (lasted left : Nat) (ahead : List κ) :
    Shutdown κ α :=
  let record := busyRecord (x.site.name k) grace (x.site.live k)
  { x with
    phase := .between ahead
    visits := x.visits ++ [⟨k, lasted, left, x.site.live k, record⟩]
    records := x.records ++ [record]
    outcome := .timedOut }

/-- What a look at the pool comes to that the shutdown has been waiting for. -/
def look (x : Shutdown κ α) (grace : Nat) (k : κ) (since : Nat) (ahead : List κ) : Shutdown κ α :=
  let lasted := x.site.clock - since
  match DrainOutcome.ofLook? grace lasted (x.site.live k) with
  | none => x
  | some .drained => x.drain k lasted ahead
  | some .timedOut => { x with phase := .late k lasted (x.site.live k) ahead }

variable [DecidableEq κ]

/-- A pool is closed; those of `ahead` are left. -/
def close (x : Shutdown κ α) (k : κ) (ahead : List κ) : Shutdown κ α :=
  { x with
    site := x.site.close k
    phase := .after (x.closed ++ [k]) ahead
    closed := x.closed ++ [k]
    shutAt := x.site.clock
    records := x.records ++ (x.site.pools k).pool.closeRecords }

/-- The shutdown after a step, if it can happen; each pool is waited for as long as `grace`. -/
def next? (grace : Nat) (x : Shutdown κ α) : Step κ α → Option (Shutdown κ α)
  | .other event => (x.site.next? event).map fun s => { x with site := s }
  | .close k =>
    match x.phase with
    | .closing (j :: ahead) => if j = k then some (x.close k ahead) else none
    | _ => none
  | .wait =>
    match x.phase with
    | .between (k :: ahead) => some { x with phase := .waiting k x.site.clock ahead }
    | _ => none
  | .look =>
    match x.phase with
    | .waiting k since ahead => some (x.look grace k since ahead)
    | _ => none
  | .report =>
    match x.phase with
    | .late k lasted left ahead => some (x.report grace k lasted left ahead)
    | _ => none

/-- The shutdown after steps in order, if they can happen. -/
def run? (grace : Nat) (x : Shutdown κ α) : List (Step κ α) → Option (Shutdown κ α)
  | [] => some x
  | step :: steps => (x.next? grace step).bind (run? grace · steps)

/-! ## 3.  What a step does -/

/-- What a step of a shutdown does.  A look finds workers and there is time (`stay`), or it finds no
worker (`drain`), or workers when the time is up (`late`). -/
inductive Goes (grace : Nat) (x : Shutdown κ α) : Step κ α → Shutdown κ α → Prop where
  | move {k : κ} {move : Pool.Move α} {h : Pool.History α}
    (next : (x.site.pools k).next? move = some h) :
    Goes grace x (.other (.move k move))
      { x with site := { x.site with pools := Function.update x.site.pools k h } }
  | pass (time : Nat) :
    Goes grace x (.other (.pass time))
      { x with site := { x.site with clock := x.site.clock + time } }
  | close {k : κ} {ahead : List κ} (phase : x.phase = .closing (k :: ahead)) :
    Goes grace x (.close k) (x.close k ahead)
  | wait {k : κ} {ahead : List κ} (phase : x.phase = .between (k :: ahead)) :
    Goes grace x .wait { x with phase := .waiting k x.site.clock ahead }
  | stay {k : κ} {since : Nat} {ahead : List κ} (phase : x.phase = .waiting k since ahead) :
    Goes grace x .look x
  | drain {k : κ} {since : Nat} {ahead : List κ} (phase : x.phase = .waiting k since ahead)
    (live : x.site.live k = 0) :
    Goes grace x .look (x.drain k (x.site.clock - since) ahead)
  | late {k : κ} {since : Nat} {ahead : List κ} (phase : x.phase = .waiting k since ahead)
    (live : x.site.live k ≠ 0) (expired : grace < x.site.clock - since) :
    Goes grace x .look
      { x with phase := .late k (x.site.clock - since) (x.site.live k) ahead }
  | report {k : κ} {lasted left : Nat} {ahead : List κ}
    (phase : x.phase = .late k lasted left ahead) :
    Goes grace x .report (x.report grace k lasted left ahead)

variable {grace : Nat} {x y z : Shutdown κ α}

theorem goes_of_next? {step : Step κ α} (h : x.next? grace step = some y) :
    Goes grace x step y := by
  cases step with
  | other event =>
    obtain ⟨s, hs, rfl⟩ := Option.map_eq_some_iff.1 h
    cases event with
    | move k move =>
      obtain ⟨g, hg, rfl⟩ := Option.map_eq_some_iff.1 hs
      exact .move hg
    | pass time =>
      cases hs
      exact .pass time
  | close k =>
    rw [next?] at h
    split at h
    · rename_i j ahead hphase
      split at h
      · rename_i hjk
        subst hjk
        cases h
        exact .close hphase
      · cases h
    · cases h
  | wait =>
    rw [next?] at h
    split at h
    · rename_i k ahead hphase
      cases h
      exact .wait hphase
    · cases h
  | look =>
    rw [next?] at h
    split at h
    · rename_i k since ahead hphase
      cases h
      rw [look]
      rcases DrainOutcome.ofLook?_cases grace (x.site.clock - since) (x.site.live k) with
        ⟨hl, he⟩ | ⟨hl, ht, he⟩ | ⟨-, -, he⟩
      · rw [he]
        exact .drain hphase hl
      · rw [he]
        exact .late hphase hl ht
      · rw [he]
        exact .stay hphase
    · cases h
  | report =>
    rw [next?] at h
    split at h
    · rename_i k lasted left ahead hphase
      cases h
      exact .report hphase
    · cases h

/-! ## 4.  What the pools undergo -/

end Shutdown

/-- The move that a step makes in a pool. -/
def Step.move? [DecidableEq κ] (k : κ) : Step κ α → Option (Pool.Move α)
  | .other (.move j move) => if j = k then some move else none
  | .close j => if j = k then some .close else none
  | .other (.pass _) | .wait | .look | .report => none

namespace Shutdown

variable [DecidableEq κ] {grace : Nat} {x y z : Shutdown κ α}

/-- A move in one pool is none in the others. -/
theorem run?_update {pools : κ → Pool.History α} {j : κ} {move : Pool.Move α} {g : Pool.History α}
    (h : (pools j).next? move = some g) (k : κ) :
    (pools k).run? (if j = k then some move else none).toList =
      some (Function.update pools j g k) := by
  by_cases hj : j = k
  · subst hj
    rw [if_pos rfl, Function.update_self]
    exact ((pools j).run?_singleton move).trans h
  · rw [if_neg hj, Function.update_of_ne (Ne.symm hj)]
    rfl

theorem pools_next? {step : Step κ α} (h : x.next? grace step = some y) (k : κ) :
    (x.site.pools k).run? (step.move? k).toList = some (y.site.pools k) := by
  cases goes_of_next? h with
  | move next => exact run?_update next k
  | @close j ahead phase => exact run?_update (x.site.next?_close j) k
  | pass | wait | stay | drain | late | report => rfl

/-- **A pool undergoes the moves of others and is closed**, and that is all. -/
theorem pools_run? {steps : List (Step κ α)} (h : x.run? grace steps = some y) (k : κ) :
    (x.site.pools k).run? (steps.filterMap (Step.move? k)) = some (y.site.pools k) := by
  induction steps generalizing x with
  | nil =>
    cases h
    rfl
  | cons step steps ih =>
    obtain ⟨z, hz, hy⟩ := Option.bind_eq_some_iff.1 h
    have hfirst := pools_next? hz k
    have hsplit : (step :: steps).filterMap (Step.move? k) =
        (step.move? k).toList ++ steps.filterMap (Step.move? k) := by
      rw [List.filterMap_cons]
      cases step.move? k <;> rfl
    rw [hsplit, Pool.History.run?_append, hfirst]
    exact ih hy

/-! ## 5.  The invariant -/

end Shutdown

/-- The record of a visit is as it should be; `name` is the name of the pool.  It says whether the
pool was drained when the wait ended, and if not, how many workers it has, which were left when the
wait ended; and then the wait was as long as it may be. -/
structure Visit.Proper (grace : Nat) (name : String) (v : Visit κ) : Prop where
  record_eq : v.record =
    if v.left = 0 then drainedRecord name else busyRecord name grace v.counted
  patient : v.left ≠ 0 → grace < v.lasted
  counted_le : v.counted ≤ v.left

namespace Shutdown

/-- How a shutdown of the pools of a list gets on that began with `s`.

The pools that it has closed and those that it has still to close are the list (`closes`).  What it
has closed is closed (`shut`).  It waits for none before it has closed all (`waits_late`).  Then the
pools that it has waited for and those that it has still to wait for are the list (`waits`).  The
record of each visit is as it should be (`proper`).  Besides those of closing, the records are those
of the visits (`records_eq`).  Time was up for one pool at least, or for none (`outcome_eq`). -/
structure Orderly (grace : Nat) (present : List κ) (s : Site κ α) (y : Shutdown κ α) : Prop where
  closes : y.closed ++ y.phase.unclosed = present
  shut : ∀ k ∈ y.closed, (y.site.pools k).pool.isClosed = true
  waits_late : y.phase.isClosing = true → y.visits = []
  waits : y.phase.isClosing = false → y.visits.map (·.pool) ++ y.phase.unvisited = present
  proper : ∀ v ∈ y.visits, v.Proper grace (s.name v.pool)
  records_eq : y.records.filter (·.target = target) = y.visits.map (·.record)
  outcome_eq : y.outcome = if y.visits.any Visit.isLate then .timedOut else .drained

/-- What holds of a shutdown at every moment.

Pools keep their names (`name_eq`).  As long as it closes pools there is one to be closed
(`unclosed_ne`).  It closed the last pool some time ago (`shutAt_le`).  A wait begins when all pools
are closed (`since_le`).  It is given up when the time is up and workers are left (`given_up`). -/
structure Sound (grace : Nat) (present : List κ) (s : Site κ α) (y : Shutdown κ α) : Prop
    extends Orderly grace present s y where
  name_eq : ∀ k, y.site.name k = s.name k
  unclosed_ne : y.phase ≠ .closing []
  shutAt_le : y.shutAt ≤ y.site.clock
  since_le : ∀ k since ahead, y.phase = .waiting k since ahead → y.shutAt ≤ since
  given_up : ∀ k lasted left ahead, y.phase = .late k lasted left ahead →
    left ≠ 0 ∧ grace < lasted ∧ y.site.live k ≤ left

variable {grace : Nat} {present : List κ} {s : Site κ α} {x y z : Shutdown κ α}

/-- The records of closing a pool are not among those of a shutdown. -/
theorem filter_closeRecords {β : Type} (p : Pool β) :
    p.closeRecords.filter (·.target = target) = [] := by
  rw [Pool.closeRecords]
  split <;> rfl

theorem unclosed_after (closed ahead : List κ) : (Phase.after closed ahead).unclosed = ahead := by
  cases ahead <;> rfl

theorem sound_start (grace : Nat) (present : List κ) (s : Site κ α) :
    (start present s).Sound grace present s where
  closes := unclosed_after [] present
  shut := nofun
  waits_late _ := rfl
  waits h := by
    cases present with
    | nil => rfl
    | cons k ahead => cases h
  proper := nofun
  records_eq := rfl
  outcome_eq := rfl
  name_eq _ := rfl
  unclosed_ne h := by
    cases present <;> cases h
  shutAt_le := Nat.le_refl _
  since_le _ _ _ h := by
    cases present <;> cases h
  given_up _ _ _ _ h := by
    cases present <;> cases h

/-- What happens besides changes nothing of what the shutdown has done. -/
theorem Sound.later (hs : y.Sound grace present s) {t : Site κ α} (h : y.site.Later t) :
    ({ y with site := t } : Shutdown κ α).Sound grace present s :=
  { hs with
    shut := fun k hk => h.isClosed k (hs.shut k hk)
    name_eq := fun k => (h.name_eq k).trans (hs.name_eq k)
    shutAt_le := Nat.le_trans hs.shutAt_le h.clock_le
    given_up := fun k lasted left ahead hphase =>
      have ⟨hleft, hlasted, hle⟩ := hs.given_up k lasted left ahead hphase
      ⟨hleft, hlasted, Nat.le_trans (h.live_le k) hle⟩ }

theorem Sound.close [DecidableEq κ] (hs : y.Sound grace present s) {k : κ} {ahead : List κ}
    (phase : y.phase = .closing (k :: ahead)) : (y.close k ahead).Sound grace present s := by
  have hlater := y.site.later_close k
  have hcloses : y.closed ++ k :: ahead = present := by
    rw [← hs.closes, phase]
    rfl
  have hvisits : y.visits = [] := hs.waits_late (by rw [phase]; rfl)
  exact
    { closes := by
        show (y.closed ++ [k]) ++ (Phase.after (y.closed ++ [k]) ahead).unclosed = present
        rw [unclosed_after, List.append_assoc]
        exact hcloses
      shut := by
        intro j hj
        rcases List.mem_append.1 hj with hj | hj
        · exact hlater.isClosed j (hs.shut j hj)
        · rw [List.mem_singleton.1 hj]
          show (Function.update y.site.pools k _ k).pool.isClosed = true
          rw [Function.update_self]
          rfl
      waits_late := fun _ => hvisits
      waits := by
        intro h
        cases ahead with
        | nil =>
          show y.visits.map (·.pool) ++ (y.closed ++ [k]) = present
          rw [hvisits]
          exact hcloses
        | cons j ahead => cases h
      proper := hs.proper
      records_eq := by
        show (y.records ++ _).filter _ = y.visits.map (·.record)
        rw [List.filter_append, filter_closeRecords, List.append_nil]
        exact hs.records_eq
      outcome_eq := hs.outcome_eq
      name_eq := fun j => (hlater.name_eq j).trans (hs.name_eq j)
      unclosed_ne := by
        intro h
        cases ahead <;> cases h
      shutAt_le := Nat.le_refl _
      since_le := by
        intro j since rest h
        cases ahead <;> cases h
      given_up := by
        intro j lasted left rest h
        cases ahead <;> cases h }

/-- A wait begins or is given up: the pools that are still to be waited for are the same. -/
theorem Sound.onward (hs : y.Sound grace present s) {phase : Phase κ}
    (hclosing : y.phase.isClosing = false) (hclosing' : phase.isClosing = false)
    (hunvisited : phase.unvisited = y.phase.unvisited)
    (since_le : ∀ k since ahead, phase = .waiting k since ahead → y.shutAt ≤ since)
    (given_up : ∀ k lasted left ahead, phase = .late k lasted left ahead →
      left ≠ 0 ∧ grace < lasted ∧ y.site.live k ≤ left) :
    ({ y with phase := phase } : Shutdown κ α).Sound grace present s :=
  have hne : phase ≠ .closing [] := by
    rintro rfl
    cases hclosing'
  { hs with
    closes := by
      rw [Phase.unclosed_eq_nil hclosing', ← Phase.unclosed_eq_nil hclosing]
      exact hs.closes
    waits_late := fun h => absurd (hclosing'.symm.trans h) Bool.false_ne_true
    waits := fun _ => by
      rw [hunvisited]
      exact hs.waits hclosing
    unclosed_ne := hne
    since_le := since_le
    given_up := given_up }

/-- A wait has come to an end: the invariant goes on with one more visit, if its record is as it
should be. -/
theorem Sound.visit (hs : y.Sound grace present s) {v : Visit κ} {ahead : List κ}
    (hclosing : y.phase.isClosing = false) (hunvisited : y.phase.unvisited = v.pool :: ahead)
    (hproper : v.Proper grace (s.name v.pool)) (htarget : v.record.target = target) :
    Sound grace present s
      { y with
        phase := .between ahead
        visits := y.visits ++ [v]
        records := y.records ++ [v.record]
        outcome := if v.isLate then .timedOut else y.outcome } := by
  have hwaits := hs.waits hclosing
  have hclosed := hs.closes
  rw [hunvisited] at hwaits
  rw [Phase.unclosed_eq_nil hclosing] at hclosed
  exact
    { hs with
      closes := hclosed
      waits_late := nofun
      waits := fun _ => by rw [List.map_append, List.append_assoc]; exact hwaits
      proper := by
        intro w hw
        rcases List.mem_append.1 hw with hw | hw
        · exact hs.proper w hw
        · rw [List.mem_singleton.1 hw]
          exact hproper
      records_eq := by
        rw [List.filter_append, hs.records_eq, List.map_append]
        simp [htarget]
      outcome_eq := by
        rw [hs.outcome_eq, List.any_append]
        cases hv : v.isLate <;> cases y.visits.any Visit.isLate <;> simp [hv]
      unclosed_ne := nofun
      since_le := nofun
      given_up := nofun }

/-- **The invariant holds after each step.** -/
theorem Sound.next? [DecidableEq κ] (hs : x.Sound grace present s) {step : Step κ α}
    (h : x.next? grace step = some y) : y.Sound grace present s := by
  cases goes_of_next? h with
  | move next => exact hs.later (Site.later_move next)
  | pass time => exact hs.later (x.site.later_pass time)
  | close phase => exact hs.close phase
  | @wait k ahead phase =>
    refine hs.onward (by rw [phase]; rfl) rfl (by rw [phase]; rfl) ?_ nofun
    rintro j since rest ⟨⟩
    exact hs.shutAt_le
  | stay => exact hs
  | @drain k since ahead phase live =>
    have hname := hs.name_eq k
    refine hs.visit (v := ⟨k, x.site.clock - since, 0, 0, drainedRecord (x.site.name k)⟩)
      (by rw [phase]; rfl) (by rw [phase]; rfl) ?_ rfl
    exact ⟨by rw [hname]; rfl, fun h => absurd rfl h, Nat.le_refl _⟩
  | @late k since ahead phase live expired =>
    refine hs.onward (by rw [phase]; rfl) rfl (by rw [phase]; rfl) nofun ?_
    rintro j lasted left rest ⟨⟩
    exact ⟨live, expired, Nat.le_refl _⟩
  | @report k lasted left ahead phase =>
    have hname := hs.name_eq k
    obtain ⟨hleft, hlasted, hle⟩ := hs.given_up k lasted left ahead phase
    have hlate : left ≠ 0 := hleft
    have := hs.visit
      (v := ⟨k, lasted, left, x.site.live k, busyRecord (x.site.name k) grace (x.site.live k)⟩)
      (by rw [phase]; rfl) (by rw [phase]; rfl) ?_ rfl
    · simpa [Visit.isLate, hleft, report] using this
    · exact ⟨by rw [if_neg hlate, hname], fun _ => hlasted, hle⟩

/-- **The invariant holds at every moment of a shutdown.** -/
theorem Sound.run? [DecidableEq κ] (hs : x.Sound grace present s) {steps : List (Step κ α)}
    (h : x.run? grace steps = some y) : y.Sound grace present s := by
  induction steps generalizing x with
  | nil =>
    cases h
    exact hs
  | cons step steps ih =>
    obtain ⟨z, hz, hy⟩ := Option.bind_eq_some_iff.1 h
    exact ih (hs.next? hz) hy

/-! ### What follows -/

/-- A pool that a shutdown waits for is one of the list. -/
theorem Sound.mem_present (hs : y.Sound grace present s) {k : κ} {ahead : List κ}
    (hclosing : y.phase.isClosing = false) (hunvisited : y.phase.unvisited = k :: ahead) :
    k ∈ present := by
  rw [← hs.waits hclosing, hunvisited]
  exact List.mem_append_right _ List.mem_cons_self

theorem any_isLate {visits : List (Visit κ)} :
    visits.any Visit.isLate = true ↔ ∃ v ∈ visits, v.left ≠ 0 := by
  simp [List.any_eq_true, Visit.isLate]

/-- What the waits have come to says whether a pool was busy when the wait for it ended. -/
theorem Orderly.outcome_iff (h : y.Orderly grace present s) :
    (y.outcome = .timedOut ↔ ∃ v ∈ y.visits, v.left ≠ 0) ∧
      (y.outcome = .drained ↔ ∀ v ∈ y.visits, v.left = 0) := by
  rw [h.outcome_eq, ← any_isLate]
  have hnone : (∀ v ∈ y.visits, v.left = 0) ↔ y.visits.any Visit.isLate = false := by
    simp [List.any_eq_false, Visit.isLate]
  rw [hnone]
  cases y.visits.any Visit.isLate <;> simp

/-- Two shutdowns have come to the same if time was up for both or for none. -/
theorem Orderly.outcome_congr {other : List κ} {t : Site κ α} (hy : y.Orderly grace present s)
    (hz : z.Orderly grace other t) (h : y.outcome = .timedOut ↔ z.outcome = .timedOut) :
    y.outcome = z.outcome := by
  rw [hy.outcome_eq, hz.outcome_eq] at h ⊢
  generalize y.visits.any Visit.isLate = late at h ⊢
  generalize z.visits.any Visit.isLate = late' at h ⊢
  cases late <;> cases late' <;> simp_all

/-! ## 6.  Getting to the end -/

end Shutdown

/-- Nobody but the shutdown does anything to a pool. -/
def Step.isOwn : Step κ α → Bool
  | .other (.move ..) => false
  | .other (.pass _) | .close _ | .wait | .look | .report => true

namespace Shutdown

variable [DecidableEq κ] {grace : Nat} {x y z : Shutdown κ α}

theorem run?_append (x : Shutdown κ α) (first second : List (Step κ α)) :
    x.run? grace (first ++ second) = (x.run? grace first).bind (·.run? grace second) := by
  induction first generalizing x with
  | nil => rfl
  | cons step steps ih =>
    rw [List.cons_append, run?, run?]
    cases x.next? grace step with
    | none => rfl
    | some y => exact ih y

/-- The shutdown gets from one state to another while nobody else does anything to the pools. -/
def Reaches (grace : Nat) (x z : Shutdown κ α) : Prop :=
  ∃ steps : List (Step κ α), (∀ step ∈ steps, step.isOwn = true) ∧ x.run? grace steps = some z

theorem Reaches.refl (x : Shutdown κ α) : Reaches grace x x :=
  ⟨[], nofun, rfl⟩

theorem Reaches.head {step : Step κ α} (hown : step.isOwn = true) (hy : x.next? grace step = some y)
    (hz : Reaches grace y z) : Reaches grace x z := by
  obtain ⟨steps, hsteps, hrun⟩ := hz
  refine ⟨step :: steps, ?_, by rw [run?, hy]; exact hrun⟩
  rintro other (_ | ⟨_, hother⟩)
  · exact hown
  · exact hsteps other hother

theorem Reaches.trans (hy : Reaches grace x y) (hz : Reaches grace y z) : Reaches grace x z := by
  obtain ⟨first, hfirst, hrun⟩ := hy
  obtain ⟨second, hsecond, hrun'⟩ := hz
  refine ⟨first ++ second, ?_, by rw [run?_append, hrun]; exact hrun'⟩
  rintro step hstep
  exact (List.mem_append.1 hstep).elim (hfirst step) (hsecond step)

/-- A wait ends at the latest when the time is up. -/
theorem reaches_of_waiting (grace : Nat) {k : κ} {since : Nat} {ahead : List κ}
    (phase : x.phase = .waiting k since ahead) :
    ∃ y : Shutdown κ α, Reaches grace x y ∧ y.phase = .between ahead := by
  -- it may be that no time has passed since it began
  let y : Shutdown κ α :=
    { x with site := { x.site with clock := x.site.clock + (since + grace + 1) } }
  have hpass : x.next? grace (.other (.pass (since + grace + 1))) = some y := rfl
  have hphase : y.phase = .waiting k since ahead := phase
  have hlook : y.next? grace .look = some (y.look grace k since ahead) := by
    rw [next?, hphase]
  rcases DrainOutcome.ofLook?_cases grace (y.site.clock - since) (y.site.live k) with
    ⟨-, he⟩ | ⟨-, -, he⟩ | ⟨-, ht, -⟩
  · refine ⟨_, .head rfl hpass (.head rfl hlook (.refl _)), ?_⟩
    rw [look, he]
    rfl
  · have hreport : (y.look grace k since ahead).next? grace .report =
        some ((y.look grace k since ahead).report grace k (y.site.clock - since) (y.site.live k)
          ahead) := by
      rw [look, he]
      rfl
    exact ⟨_, .head rfl hpass (.head rfl hlook (.head rfl hreport (.refl _))), rfl⟩
  · have : y.site.clock = x.site.clock + (since + grace + 1) := rfl
    omega

/-- All pools are waited for, also after one that was not drained in time. -/
theorem reaches_of_between (grace : Nat) {ahead : List κ} (phase : x.phase = .between ahead) :
    ∃ y : Shutdown κ α, Reaches grace x y ∧ y.IsOver := by
  induction ahead generalizing x with
  | nil => exact ⟨x, .refl x, phase⟩
  | cons k ahead ih =>
    have hwait : x.next? grace .wait = some { x with phase := .waiting k x.site.clock ahead } := by
      rw [next?, phase]
    obtain ⟨y, hy, hphase⟩ := reaches_of_waiting grace
      (x := { x with phase := .waiting k x.site.clock ahead }) rfl
    obtain ⟨z, hz, hover⟩ := ih hphase
    exact ⟨z, .head rfl hwait (hy.trans hz), hover⟩

/-- All pools are closed. -/
theorem reaches_of_closing (grace : Nat) {ahead : List κ}
    (phase : x.phase = .after x.closed ahead) :
    ∃ y : Shutdown κ α, Reaches grace x y ∧ y.IsOver := by
  induction ahead generalizing x with
  | nil => exact reaches_of_between grace phase
  | cons k ahead ih =>
    have hclose : x.next? grace (.close k) = some (x.close k ahead) := by
      rw [next?, phase]
      exact if_pos rfl
    obtain ⟨y, hy, hover⟩ := ih (x := x.close k ahead) rfl
    exact ⟨y, .head rfl hclose hy, hover⟩

/-- **A shutdown comes to its end without any help**, from wherever it is. -/
theorem Sound.reaches {present : List κ} {s : Site κ α} (hs : x.Sound grace present s) :
    ∃ y : Shutdown κ α, Reaches grace x y ∧ y.IsOver := by
  cases phase : x.phase with
  | closing ahead =>
    cases ahead with
    | nil => exact absurd phase hs.unclosed_ne
    | cons k ahead => exact @reaches_of_closing _ _ _ x grace (k :: ahead) phase
  | between ahead => exact reaches_of_between grace phase
  | waiting k since ahead =>
    obtain ⟨y, hy, hphase⟩ := reaches_of_waiting grace phase
    obtain ⟨z, hz, hover⟩ := reaches_of_between grace hphase
    exact ⟨z, hy.trans hz, hover⟩
  | late k lasted left ahead =>
    have hreport : x.next? grace .report = some (x.report grace k lasted left ahead) := by
      rw [Shutdown.next?, phase]
    obtain ⟨z, hz, hover⟩ := reaches_of_between grace
      (x := x.report grace k lasted left ahead) rfl
    exact ⟨z, .head rfl hreport hz, hover⟩

end Shutdown

end Drain

end AgentIntake
