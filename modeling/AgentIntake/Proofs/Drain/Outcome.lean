import AgentIntake.Proofs.Drain.Coordination
import Mathlib.Data.List.Induction

/-!
# What a shutdown comes to

`Course` collects what holds at every moment of a shutdown, whatever else is done to the pools
meanwhile and in whatever order.  The program's shutdown (`Drain.shutdown`) is one of the shutdowns
that this is about (`exists_shutdown`): what happens during its waits is arbitrary, as long as each
wait ends as waits do (`Site.IsWait`).

## When the order of the list does not matter

In general it does: while one pool is waited for, the next gets on, and has more time that way.  It
does not if each pool has either a task that never ends, or ends all of its tasks in the time that
is given to any pool alone (`Shutdown.Clear`).  Then those of the first kind are busy when their
wait ends and the others are not, and which of them there are does not depend on where they stand
(`Fair`).
-/

namespace AgentIntake

namespace Drain

variable {κ α : Type}

/-! ## 1.  Pools in any state -/

/-- Pools with any past: each was made at some time, and anything has happened to it since. -/
def Site.Made (s : Site κ α) : Prop :=
  ∀ k, ∃ (name : String) (threads capacity : Nat) (p : Pool (Pool.Ticket α))
    (moves : List (Pool.Move α)), Pool.make? name threads capacity = .ok p ∧
      (Pool.History.start p).run? moves = some (s.pools k)

theorem Site.Made.sound {s : Site κ α} (hs : s.Made) (k : κ) :
    ∃ threads capacity, 0 < threads ∧ (s.pools k).Sound threads capacity := by
  obtain ⟨name, threads, capacity, p, moves, hp, hrun⟩ := hs k
  obtain ⟨ht, -, rfl⟩ := Pool.History.fresh_of_make? hp
  exact ⟨threads, capacity, ht, (Pool.History.sound_start name threads capacity).run? hrun⟩

/-- A task of a pool is stuck, be it queued or run. -/
def Site.IsBlocked (stuck : κ → Pool.Ticket α → Prop) (s : Site κ α) (k : κ) : Prop :=
  ∃ t ∈ (s.pools k).pool.queue ++ (s.pools k).pool.running, stuck k t

instance (stuck : κ → Pool.Ticket α → Prop) [∀ k, DecidablePred (stuck k)] (s : Site κ α) (k : κ) :
    Decidable (s.IsBlocked stuck k) :=
  inferInstanceAs (Decidable (∃ t ∈ _, stuck k t))

/-- As long as a task is stuck there is a worker left. -/
theorem Site.IsBlocked.live_ne_zero {stuck : κ → Pool.Ticket α → Prop} {s : Site κ α} {k : κ}
    (hb : s.IsBlocked stuck k) (hs : s.Made) {moves : List (Pool.Move α)} {h : Pool.History α}
    (hrun : (s.pools k).run? moves = some h) (hstays : ∀ f ∈ h.finished, ¬stuck k f.1) :
    h.pool.live ≠ 0 := by
  intro hl
  obtain ⟨t, ht, hstuck⟩ := hb
  obtain ⟨threads, capacity, hpos, hk⟩ := hs.sound k
  have hq := (hk.run? hrun).queue_eq_nil_of_live hpos hl
  have hr := Pool.History.running_eq_nil_of_live hl
  rcases hk.kept_run? hrun ht with hm | hm | hm
  · rw [hq] at hm
    cases hm
  · rw [hr] at hm
    cases hm
  · obtain ⟨f, hf, rfl⟩ := List.mem_map.1 hm
    exact hstays f hf hstuck

variable [DecidableEq κ]

namespace Shutdown

variable {grace : Nat} {present : List κ} {s : Site κ α} {x y z : Shutdown κ α}

/-! ## 2.  The moments of a shutdown -/

/-- There is a moment of this kind. -/
def Passes (grace : Nat) (x : Shutdown κ α) (steps : List (Step κ α)) (P : Shutdown κ α → Prop) :
    Prop :=
  ∃ (first : List (Step κ α)) (y : Shutdown κ α), first <+: steps ∧
    x.run? grace first = some y ∧ P y

/-- All moments are of this kind. -/
def Throughout (grace : Nat) (P : Shutdown κ α → Prop) : Shutdown κ α → List (Step κ α) → Prop
  | x, [] => P x
  | x, step :: steps => P x ∧ ∀ y, x.next? grace step = some y → Throughout grace P y steps

theorem Passes.append {steps : List (Step κ α)} {P : Shutdown κ α → Prop}
    (h : Passes grace x steps P) (more : List (Step κ α)) : Passes grace x (steps ++ more) P := by
  obtain ⟨first, y, hfirst, hy, hp⟩ := h
  exact ⟨first, y, hfirst.trans (List.prefix_append _ _), hy, hp⟩

theorem passes_of_run? {steps : List (Step κ α)} {P : Shutdown κ α → Prop}
    (h : x.run? grace steps = some y) (hp : P y) : Passes grace x steps P :=
  ⟨steps, y, List.prefix_rfl, h, hp⟩

/-- The last step of a shutdown that has got on. -/
theorem run?_concat {steps : List (Step κ α)} {step : Step κ α}
    (h : x.run? grace (steps ++ [step]) = some z) :
    ∃ y, x.run? grace steps = some y ∧ y.next? grace step = some z := by
  rw [run?_append] at h
  obtain ⟨y, hy, hz⟩ := Option.bind_eq_some_iff.1 h
  obtain ⟨w, hw, hwz⟩ := Option.bind_eq_some_iff.1 hz
  cases hwz
  exact ⟨y, hy, hw⟩

/-- The wait for the pool ends now, after this time and with so many workers left. -/
def Ends (k : κ) (lasted left : Nat) (y : Shutdown κ α) : Prop :=
  ∃ since ahead, y.phase = .waiting k since ahead ∧ lasted = y.site.clock - since ∧
    left = y.site.live k

/-- What a visit remembers was so: at one moment the wait ended, and at one the workers were
counted.

The wait ended (`ended`).  The workers were counted (`counted`). -/
structure Seen (grace : Nat) (x : Shutdown κ α) (steps : List (Step κ α)) (v : Visit κ) : Prop where
  ended : Passes grace x steps (Ends v.pool v.lasted v.left)
  counted : Passes grace x steps fun y => v.counted = y.site.live v.pool

theorem Seen.append {steps : List (Step κ α)} {v : Visit κ} (h : Seen grace x steps v)
    (more : List (Step κ α)) : Seen grace x (steps ++ more) v :=
  ⟨h.ended.append more, h.counted.append more⟩

/-- All that a shutdown remembers was so. -/
theorem seen_run? {steps : List (Step κ α)} (h : (start present s).run? grace steps = some z) :
    (∀ v ∈ z.visits, Seen grace (start present s) steps v) ∧
      ∀ k lasted left ahead, z.phase = .late k lasted left ahead →
        Passes grace (start present s) steps (Ends k lasted left) := by
  induction steps using List.reverseRecOn generalizing z with
  | nil =>
    cases h
    refine ⟨nofun, fun k lasted left ahead hphase => ?_⟩
    cases present <;> cases hphase
  | append_singleton steps step ih =>
    obtain ⟨y, hy, hstep⟩ := run?_concat h
    obtain ⟨hvisits, hlate⟩ := ih hy
    -- what has been seen stays seen, whatever the step is
    have hkept : ∀ v ∈ y.visits, Seen grace (start present s) (steps ++ [step]) v :=
      fun v hv => (hvisits v hv).append _
    have hkeptLate : ∀ k lasted left ahead, y.phase = .late k lasted left ahead →
        Passes grace (start present s) (steps ++ [step]) (Ends k lasted left) :=
      fun k lasted left ahead hphase => (hlate k lasted left ahead hphase).append _
    cases goes_of_next? hstep with
    | move | pass | stay => exact ⟨hkept, hkeptLate⟩
    | @close k ahead phase =>
      refine ⟨hkept, fun j lasted left rest hphase => ?_⟩
      cases ahead <;> cases hphase
    | wait phase => exact ⟨hkept, nofun⟩
    | @drain k since ahead phase live =>
      refine ⟨fun v hv => ?_, nofun⟩
      rcases List.mem_append.1 hv with hv | hv
      · exact hkept v hv
      · obtain rfl := List.mem_singleton.1 hv
        exact
          { ended := (passes_of_run? hy ⟨since, ahead, phase, rfl, live.symm⟩).append _
            counted := (passes_of_run? hy live.symm).append _ }
    | @late k since ahead phase live expired =>
      refine ⟨hkept, ?_⟩
      rintro j lasted left rest ⟨⟩
      exact (passes_of_run? hy ⟨since, ahead, phase, rfl, rfl⟩).append _
    | @report k lasted left ahead phase =>
      refine ⟨fun v hv => ?_, nofun⟩
      rcases List.mem_append.1 hv with hv | hv
      · exact hkept v hv
      · obtain rfl := List.mem_singleton.1 hv
        exact
          { ended := hkeptLate k lasted left ahead phase
            counted := Passes.append (P := fun u => y.site.live k = u.site.live k)
              (passes_of_run? hy rfl) _ }

/-! ## 3.  What holds of every shutdown -/

/-- What holds of a shutdown of the pools of a list that began with `s`, after some steps.

It gets on in order (`orderly`).  All pools are closed before it waits for one (`closed_first`).
What it remembers of its waits was so (`seen`).  A pool undergoes the moves of others and is closed,
and that is all (`passive`).  No task is lost (`kept`).  It comes to its end without any help
(`reaches`).  There it has waited for each pool once and in order (`at_end`). -/
structure Course (grace : Nat) (present : List κ) (s : Site κ α) (steps : List (Step κ α))
    (y : Shutdown κ α) : Prop where
  orderly : y.Orderly grace present s
  closed_first : y.phase.isClosing = false →
    y.closed = present ∧ ∀ k ∈ present, (y.site.pools k).pool.isClosed = true
  seen : ∀ v ∈ y.visits, Seen grace (start present s) steps v
  passive : ∀ k, (s.pools k).run? (steps.filterMap (Step.move? k)) = some (y.site.pools k)
  kept : ∀ k, ∀ t ∈ (s.pools k).pool.queue ++ (s.pools k).pool.running,
    t ∈ (y.site.pools k).pool.queue ∨ t ∈ (y.site.pools k).pool.running ∨
      t ∈ (y.site.pools k).finished.map (·.1)
  reaches : ∃ z, Reaches grace y z ∧ z.IsOver
  at_end : y.IsOver → y.visits.map (·.pool) = present ∧
    (y.records.filter (·.target = target)).length = present.length ∧
      (y.outcome = .timedOut ↔ ∃ v ∈ y.visits, v.left ≠ 0) ∧
        (y.outcome = .drained ↔ ∀ v ∈ y.visits, v.left = 0)

theorem course_run? (hs : s.Made) {steps : List (Step κ α)}
    (h : (start present s).run? grace steps = some y) : Course grace present s steps y := by
  have hsound := (sound_start grace present s).run? h
  have hrun := pools_run? h
  exact
    { orderly := hsound.toOrderly
      closed_first := by
        intro hphase
        have hcloses := hsound.closes
        rw [Phase.unclosed_eq_nil hphase, List.append_nil] at hcloses
        exact ⟨hcloses, fun k hk => hsound.shut k (hcloses ▸ hk)⟩
      seen := (seen_run? h).1
      passive := hrun
      kept := by
        intro k t ht
        obtain ⟨threads, capacity, -, hk⟩ := hs.sound k
        exact hk.kept_run? (hrun k) ht
      reaches := hsound.reaches
      at_end := by
        intro hover
        have hwaits := hsound.waits (by rw [hover]; rfl)
        rw [hover] at hwaits
        have hvisits : y.visits.map (·.pool) = present := (List.append_nil _).symm.trans hwaits
        refine ⟨hvisits, ?_, hsound.outcome_iff⟩
        rw [hsound.records_eq, List.length_map, ← hvisits, List.length_map] }

end Shutdown

/-! ## 4.  The program's shutdown -/

/-- The pools for the program; `wait` is what happens while one of them is waited for. -/
def Site.executors (wait : κ → Site κ α → Site κ α) : Executors κ (Site κ α) where
  name k s := s.name k
  close k s := (s.close k, (s.pools k).pool.closeRecords)
  wait := wait
  live k s := s.live k

/-- Anything happens while a pool is waited for, until no worker is left in it or the time is up. -/
def Site.IsWait (grace : Nat) (wait : κ → Site κ α → Site κ α) : Prop :=
  ∀ k s, ∃ events : List (Event κ α), s.run? events = some (wait k s) ∧
    ((wait k s).live k = 0 ∨ s.clock + grace < (wait k s).clock)

namespace Shutdown

variable {grace : Nat} {x y z : Shutdown κ α} {wait : κ → Site κ α → Site κ α}

/-- Anything may happen at any moment of a shutdown. -/
theorem run?_other {events : List (Event κ α)} {t : Site κ α} (h : x.site.run? events = some t) :
    x.run? grace (events.map .other) = some { x with site := t } := by
  induction events generalizing x with
  | nil =>
    cases h
    rfl
  | cons event events ih =>
    obtain ⟨u, hu, ht⟩ := Option.bind_eq_some_iff.1 h
    have hnext : x.next? grace (.other event) = some { x with site := u } := by
      rw [next?, hu]
      rfl
    rw [List.map_cons, run?, hnext]
    exact ih (x := { x with site := u }) ht

/-- Pools are closed like in the program. -/
theorem exists_closed (grace : Nat) (wait : κ → Site κ α → Site κ α) {ahead : List κ}
    (phase : x.phase = .after x.closed ahead) :
    ∃ steps y, x.run? grace steps = some y ∧ y.phase = .between (x.closed ++ ahead) ∧
      y.outcome = x.outcome ∧
        (y.site, y.records) =
          ((closeAll (Site.executors wait) ahead x.site).1,
            x.records ++ (closeAll (Site.executors wait) ahead x.site).2) := by
  induction ahead generalizing x with
  | nil =>
    refine ⟨[], x, rfl, ?_, rfl, ?_⟩
    · rw [List.append_nil]
      exact phase
    · rw [closeAll, List.append_nil]
  | cons k ahead ih =>
    have hclose : x.next? grace (.close k) = some (x.close k ahead) := by
      rw [next?, phase]
      exact if_pos rfl
    obtain ⟨steps, y, hrun, hphase, houtcome, hy⟩ := ih (x := x.close k ahead) rfl
    refine ⟨.close k :: steps, y, ?_, ?_, houtcome, ?_⟩
    · rw [run?, hclose]
      exact hrun
    · rw [hphase]
      exact congrArg Phase.between (List.append_assoc _ _ _)
    · rw [hy]
      exact congrArg (Prod.mk _) (List.append_assoc _ _ _)

/-- A pool is waited for like in the program. -/
theorem exists_visited (hw : Site.IsWait grace wait) {k : κ} {ahead : List κ}
    (phase : x.phase = .between (k :: ahead)) :
    ∃ steps y, x.run? grace steps = some y ∧ y.phase = .between ahead ∧ y.site = wait k x.site ∧
      y.records = x.records ++
        [if (wait k x.site).live k = 0 then drainedRecord ((wait k x.site).name k)
          else busyRecord ((wait k x.site).name k) grace ((wait k x.site).live k)] ∧
      y.outcome = if (wait k x.site).live k = 0 then x.outcome else .timedOut := by
  obtain ⟨events, hevents, hend⟩ := hw k x.site
  let u : Shutdown κ α := { x with phase := .waiting k x.site.clock ahead }
  let v : Shutdown κ α := { u with site := wait k x.site }
  have hwait : x.next? grace .wait = some u := by rw [next?, phase]
  have hevents : u.run? grace (events.map .other) = some v := run?_other hevents
  have hlook : v.next? grace .look = some (v.look grace k x.site.clock ahead) := rfl
  have hrun : ∀ (last : List (Step κ α)) {y : Shutdown κ α},
      (v.look grace k x.site.clock ahead).run? grace last = some y →
        x.run? grace (.wait :: (events.map .other ++ .look :: last)) = some y := by
    intro last y hlast
    rw [run?, hwait, Option.bind_some, run?_append, hevents, Option.bind_some, run?, hlook]
    exact hlast
  rcases DrainOutcome.ofLook?_cases grace (v.site.clock - x.site.clock) (v.site.live k) with
    ⟨hl, he⟩ | ⟨hl, ht, he⟩ | ⟨hl, ht, -⟩
  · have hdrained : v.look grace k x.site.clock ahead =
        v.drain k (v.site.clock - x.site.clock) ahead := by rw [look, he]
    refine ⟨_, _, hrun [] rfl, ?_⟩
    rw [hdrained, if_pos hl, if_pos hl]
    exact ⟨rfl, rfl, rfl, rfl⟩
  · have hreport : (v.look grace k x.site.clock ahead).run? grace [.report] =
        some (v.report grace k (v.site.clock - x.site.clock) (v.site.live k) ahead) := by
      rw [look, he]
      rfl
    refine ⟨_, _, hrun _ hreport, ?_⟩
    rw [if_neg hl, if_neg hl]
    exact ⟨rfl, rfl, rfl, rfl⟩
  · have hlate : x.site.clock + grace < v.site.clock := hend.resolve_left hl
    omega

/-- Pools are waited for like in the program. -/
theorem exists_waited (hw : Site.IsWait grace wait) {ahead : List κ}
    (phase : x.phase = .between ahead) :
    ∃ steps y, x.run? grace steps = some y ∧ y.IsOver ∧
      (y.site, y.records, y.outcome) =
        ((waitAll (Site.executors wait) grace x.outcome ahead x.site).1,
          x.records ++ (waitAll (Site.executors wait) grace x.outcome ahead x.site).2.1,
            (waitAll (Site.executors wait) grace x.outcome ahead x.site).2.2) := by
  induction ahead generalizing x with
  | nil =>
    refine ⟨[], x, rfl, phase, ?_⟩
    rw [waitAll, List.append_nil]
  | cons k ahead ih =>
    obtain ⟨first, u, hfirst, hphase, hsite, hrecords, houtcome⟩ := exists_visited hw phase
    obtain ⟨second, y, hsecond, hover, hy⟩ := ih hphase
    refine ⟨first ++ second, y, ?_, hover, ?_⟩
    · rw [run?_append, hfirst]
      exact hsecond
    · rw [hy, hsite, hrecords, houtcome, List.append_assoc]
      rfl

/-- **The program's shutdown is one of them.** -/
theorem exists_shutdown (hw : Site.IsWait grace wait) (executors : List (Option κ))
    (s : Site κ α) :
    ∃ steps y, (start (executors.filterMap id) s).run? grace steps = some y ∧ y.IsOver ∧
      Drain.shutdown (Site.executors wait) grace executors s = (y.site, y.records, y.outcome) := by
  obtain ⟨first, x, hfirst, hphase, houtcome, hx⟩ :=
    exists_closed grace (x := start (executors.filterMap id) s) wait rfl
  obtain ⟨second, y, hsecond, hover, hy⟩ := exists_waited hw hphase
  obtain ⟨hsite, hrecords⟩ := Prod.mk.inj hx
  refine ⟨first ++ second, y, ?_, hover, ?_⟩
  · rw [run?_append, hfirst]
    exact hsecond
  · rw [hy, hsite, hrecords, houtcome]
    rfl

end Shutdown

/-! ## 5.  When the order does not matter -/

namespace Shutdown

variable {grace : Nat} {present : List κ} {s : Site κ α} {x y z : Shutdown κ α}
  {stuck : κ → Pool.Ticket α → Prop}

/-- At this moment of a shutdown that began with `s` no stuck task has ended, and if the grace has
passed since all pools were closed then nobody is left in those that are not blocked. -/
structure Clear (grace : Nat) (present : List κ) (stuck : κ → Pool.Ticket α → Prop) (s : Site κ α)
    (y : Shutdown κ α) : Prop where
  stays : ∀ k ∈ present, ∀ f ∈ (y.site.pools k).finished, ¬stuck k f.1
  frees : ∀ k ∈ present, ¬s.IsBlocked stuck k → y.phase.isClosing = false →
    y.shutAt + grace < y.site.clock → y.site.live k = 0

/-- The pools that were busy when the wait for them ended are those that are blocked, of those that
have been waited for and of the one that the shutdown has given up. -/
structure Fair (stuck : κ → Pool.Ticket α → Prop) (s : Site κ α) (y : Shutdown κ α) : Prop where
  visits : ∀ v ∈ y.visits, (v.left ≠ 0 ↔ s.IsBlocked stuck v.pool)
  late : ∀ k lasted left ahead, y.phase = .late k lasted left ahead → s.IsBlocked stuck k

theorem Fair.next? (hf : x.Fair stuck s) (hs : s.Made) {before : List (Step κ α)}
    (hx : (start present s).run? grace before = some x) (hclear : x.Clear grace present stuck s)
    {step : Step κ α} (h : x.next? grace step = some y) : y.Fair stuck s := by
  have hsound := (sound_start grace present s).run? hx
  cases goes_of_next? h with
  | move | pass | stay => exact ⟨hf.visits, hf.late⟩
  | @close k ahead phase =>
    refine ⟨hf.visits, fun j lasted left rest hphase => ?_⟩
    cases ahead <;> cases hphase
  | wait phase => exact ⟨hf.visits, nofun⟩
  | @drain k since ahead phase live =>
    have hk := hsound.mem_present (by rw [phase]; rfl) (congrArg Phase.unvisited phase)
    have hfree : ¬s.IsBlocked stuck k := fun hb =>
      hb.live_ne_zero hs (pools_run? hx k) (hclear.stays k hk) live
    refine ⟨fun v hv => ?_, nofun⟩
    rcases List.mem_append.1 hv with hv | hv
    · exact hf.visits v hv
    · obtain rfl := List.mem_singleton.1 hv
      exact iff_of_false (fun h => h rfl) hfree
  | @late k since ahead phase live expired =>
    refine ⟨hf.visits, ?_⟩
    rintro j lasted left rest ⟨⟩
    have hk := hsound.mem_present (by rw [phase]; rfl) (congrArg Phase.unvisited phase)
    have hsince := hsound.since_le k since ahead phase
    by_contra hfree
    exact live (hclear.frees k hk hfree (by rw [phase]; rfl) (by omega))
  | @report k lasted left ahead phase =>
    have hleft := (hsound.given_up k lasted left ahead phase).1
    refine ⟨fun v hv => ?_, nofun⟩
    rcases List.mem_append.1 hv with hv | hv
    · exact hf.visits v hv
    · obtain rfl := List.mem_singleton.1 hv
      exact iff_of_true hleft (hf.late k lasted left ahead phase)

theorem Fair.run? (hf : x.Fair stuck s) (hs : s.Made) (before : List (Step κ α))
    {steps : List (Step κ α)}
    (hx : (start present s).run? grace before = some x)
    (hclear : Throughout grace (Clear grace present stuck s) x steps)
    (h : x.run? grace steps = some y) : y.Fair stuck s := by
  induction steps generalizing x before with
  | nil =>
    cases h
    exact hf
  | cons step steps ih =>
    obtain ⟨z, hz, hy⟩ := Option.bind_eq_some_iff.1 h
    obtain ⟨hnow, hlater⟩ := hclear
    have hbefore : (start present s).run? grace (before ++ [step]) = some z := by
      rw [run?_append, hx, Option.bind_some, Shutdown.run?, hz]
      rfl
    exact ih (hf.next? hs hx hnow hz) _ hbefore (hlater z hz) hy

/-- **Time is up for a shutdown exactly if a pool of the list is blocked.** -/
theorem outcome_of_clear (hs : s.Made) {steps : List (Step κ α)}
    (h : (start present s).run? grace steps = some y) (hover : y.IsOver)
    (hclear : Throughout grace (Clear grace present stuck s) (start present s) steps) :
    y.outcome = .timedOut ↔ ∃ k ∈ present, s.IsBlocked stuck k := by
  have hstart : (start present s).Fair stuck s := by
    refine ⟨nofun, fun k lasted left ahead hphase => ?_⟩
    cases present <;> cases hphase
  have hfair := hstart.run? hs [] rfl hclear h
  obtain ⟨hvisits, -, houtcome, -⟩ := (course_run? hs h).at_end hover
  rw [houtcome, ← hvisits]
  constructor
  · rintro ⟨v, hv, hleft⟩
    exact ⟨v.pool, List.mem_map_of_mem hv, (hfair.visits v hv).1 hleft⟩
  · rintro ⟨k, hk, hb⟩
    obtain ⟨v, hv, rfl⟩ := List.mem_map.1 hk
    exact ⟨v, hv, (hfair.visits v hv).2 hb⟩

instance (grace : Nat) (present : List κ) (stuck : κ → Pool.Ticket α → Prop)
    [∀ k, DecidablePred (stuck k)] (s : Site κ α) (y : Shutdown κ α) :
    Decidable (Clear grace present stuck s y) :=
  decidable_of_iff
    ((∀ k ∈ present, ∀ f ∈ (y.site.pools k).finished, ¬stuck k f.1) ∧
      ∀ k ∈ present, ¬s.IsBlocked stuck k → y.phase.isClosing = false →
        y.shutAt + grace < y.site.clock → y.site.live k = 0)
    ⟨fun h => ⟨h.1, h.2⟩, fun h => ⟨h.1, h.2⟩⟩

instance decidableThroughout (grace : Nat) (P : Shutdown κ α → Prop) [DecidablePred P] :
    ∀ (x : Shutdown κ α) (steps : List (Step κ α)), Decidable (Throughout grace P x steps)
  | x, [] => inferInstanceAs (Decidable (P x))
  | x, step :: steps =>
    match h : x.next? grace step with
    | none => decidable_of_iff (P x) (by simp [Throughout, h])
    | some y =>
      have := decidableThroughout grace P y steps
      decidable_of_iff (P x ∧ Throughout grace P y steps) (by simp [Throughout, h])

end Shutdown

/-- **A shutdown closes all pools, waits for each, and tells what became of each.**  The pools are
in any state; the list may name a pool twice or not at all; the grace is any.  Whatever else happens
to the pools, at any moment, the shutdown is in order (`Course`) and can come to its end; the
program's is such a shutdown.  If each pool of the list is blocked for good, or is left within the
grace, then the order of the list does not matter. -/
theorem shutdown_waits_for_each (grace : Nat) {s : Site κ α} (hs : s.Made)
    (executors : List (Option κ)) :
    (∀ (steps : List (Step κ α)) (y : Shutdown κ α),
      (Shutdown.start (executors.filterMap id) s).run? grace steps = some y →
        Shutdown.Course grace (executors.filterMap id) s steps y) ∧
    (∀ wait, Site.IsWait grace wait → ∃ (steps : List (Step κ α)) (y : Shutdown κ α),
      (Shutdown.start (executors.filterMap id) s).run? grace steps = some y ∧ y.IsOver ∧
        shutdown (Site.executors wait) grace executors s = (y.site, y.records, y.outcome)) ∧
    ∀ (others : List (Option κ)), executors.Perm others →
      ∀ (stuck : κ → Pool.Ticket α → Prop) (steps more : List (Step κ α)) (y z : Shutdown κ α),
        (Shutdown.start (executors.filterMap id) s).run? grace steps = some y → y.IsOver →
        (Shutdown.start (others.filterMap id) s).run? grace more = some z → z.IsOver →
        Shutdown.Throughout grace (Shutdown.Clear grace (executors.filterMap id) stuck s)
          (.start (executors.filterMap id) s) steps →
        Shutdown.Throughout grace (Shutdown.Clear grace (others.filterMap id) stuck s)
          (.start (others.filterMap id) s) more →
          y.outcome = z.outcome := by
  refine ⟨fun steps y h => Shutdown.course_run? hs h,
    fun wait hw => Shutdown.exists_shutdown hw executors s, ?_⟩
  intro others hperm stuck steps more y z hy hyover hz hzover hclear hclear'
  refine Shutdown.Orderly.outcome_congr (Shutdown.course_run? hs hy).orderly
    (Shutdown.course_run? hs hz).orderly ?_
  rw [Shutdown.outcome_of_clear hs hy hyover hclear, Shutdown.outcome_of_clear hs hz hzover hclear']
  have hmem : ∀ k, k ∈ executors.filterMap id ↔ k ∈ others.filterMap id := fun k =>
    (hperm.filterMap id).mem_iff
  simp only [hmem]

/-- One worker runs the task 7. -/
def slowPool : Pool.History Nat where
  pool := ⟨"slow", 1, [], [.busy (7, 0)], false⟩
  submitted := [7]
  accepted := [(7, 0)]
  refused := []
  started := [(7, 0)]
  finished := []

/-- Two pools, of which the first is slow; in the second nothing has happened. -/
def slowAndFast : Site Bool Nat where
  pools slow := bif slow then slowPool else .start (Pool.History.fresh "fast" 1 1)
  clock := 0

/-- All pools are closed, then the worker of the fast one leaves.  The grace is 5. -/
def slowFirst : List (Step Bool Nat) :=
  [.close true, .close false, .close true, .other (.move false (.leave 0)),
    .wait, .other (.pass 6), .look, .report, .wait, .look, .wait, .look, .other (.pass 6), .look,
    .report]

/-- The same, but the fast pool stands first. -/
def fastFirst : List (Step Bool Nat) :=
  [.close false, .close true, .close true, .other (.move false (.leave 0)),
    .wait, .look, .wait, .other (.pass 6), .look, .report, .wait, .other (.pass 6), .look, .report]

theorem made_slowAndFast : slowAndFast.Made
  | true => ⟨"slow", 1, 1, _, [.submit 7, .take 0], rfl, rfl⟩
  | false => ⟨"fast", 1, 1, _, [], rfl, rfl⟩

/-- The slow pool stands in the list twice and is given up twice; the fast one that is waited for in
between does not hide it, and it does not matter which of the two stands first. -/
theorem shutdown_of_slow_and_fast :
    slowAndFast.Made ∧
      ∃ y z : Shutdown Bool Nat,
        (Shutdown.start [true, false, true] slowAndFast).run? 5 slowFirst = some y ∧
        (Shutdown.start [false, true, true] slowAndFast).run? 5 fastFirst = some z ∧
        Shutdown.Course 5 [true, false, true] slowAndFast slowFirst y ∧ y.IsOver ∧ z.IsOver ∧
        y.visits.map (fun v => (v.pool, v.left)) = [(true, 1), (false, 0), (true, 1)] ∧
        y.outcome = .timedOut ∧ y.outcome = z.outcome ∧
        ∃ (steps : List (Step Bool Nat)) (w : Shutdown Bool Nat),
          (Shutdown.start [true, false, true] slowAndFast).run? 5 steps = some w ∧ w.IsOver ∧
            shutdown (Site.executors fun _ s => { s with clock := s.clock + 6 }) 5
              [some true, none, some false, some true] slowAndFast =
                (w.site, w.records, w.outcome) := by
  obtain ⟨hcourse, hprogram, horder⟩ := shutdown_waits_for_each 5 made_slowAndFast
    [some true, none, some false, some true]
  have hwait :
    Site.IsWait 5 fun (_ : Bool) (s : Site Bool Nat) => { s with clock := s.clock + 6 } :=
    fun _ _ => ⟨[.pass 6], rfl, .inr (Nat.lt_succ_self _)⟩
  have hperm : [some true, none, some false, some true].Perm
      [none, some false, some true, some true] := by decide
  refine ⟨made_slowAndFast, _, _, rfl, rfl, hcourse slowFirst _ rfl, rfl, rfl, rfl, rfl, ?_,
    hprogram _ hwait⟩
  exact horder _ hperm (fun k t => k = true ∧ t = (7, 0)) slowFirst fastFirst _ _ rfl rfl rfl rfl
    (by decide +kernel) (by decide +kernel)

end Drain

end AgentIntake
