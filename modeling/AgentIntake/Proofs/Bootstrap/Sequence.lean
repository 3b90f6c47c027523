import AgentIntake.Bootstrap.Basic

/-!
# Bootstraps one after the other

A process may be bootstrapped more than once, and each bootstrap reports to whoever called it.  The
log is shared: there is one writer, and a guard that remembers whether a bootstrap has made its
subscriber the writer.  What a bootstrap comes to depends on those before it through the guard
alone.

`call` is one bootstrap in its smallest steps, on a process with both the guard and the writer;
`run` keeps one value for the two, which is enough because they change together (`run_eq_call`).
Which texts are filters is taken as given: `Reading` may be any function, and `run` is the case of
the collector's own filters.

## What carries the induction

A process that starts out `fresh` stays so until a bootstrap succeeds, and is then `owned` by that
bootstrap's subscriber for good (`Process.Own`).  So the guard is filled exactly if an earlier
bootstrap has succeeded, and every statement about a sequence is one about a single `call` on one of
these two processes.
-/

namespace AgentIntake.Bootstrap

variable {φ : Type}

/-! ## 1.  The log of a process -/

/-- What writes records: those that a filter lets through, in a format. -/
structure Subscriber (φ : Type) where
  filter : φ
  format : LogFormat

/-- Who writes the log of a process: nobody yet, a subscriber of the collector, or somebody else;
the cause is what whoever wants to write is told then. -/
inductive Writer (φ : Type) where
  | nobody
  | collector (subscriber : Subscriber φ)
  | other (cause : String)

/-- What a process remembers of the bootstraps in it: whether one has installed its subscriber, and
who writes the log. -/
structure Process (φ : Type) where
  guarded : Bool
  writer : Writer φ

namespace Process

/-- Nothing has been installed. -/
def fresh : Process φ :=
  ⟨false, .nobody⟩

/-- A subscriber has been installed. -/
def owned (s : Subscriber φ) : Process φ :=
  ⟨true, .collector s⟩

/-- The process is as bootstraps leave it when nobody else wants to write: none has succeeded, or
one has. -/
inductive Own : Process φ → Prop where
  | fresh : Own fresh
  | owned (s : Subscriber φ) : Own (owned s)

end Process

/-- How the text of a filter is read: as a filter, or the wording says why not. -/
abbrev Reading (φ : Type) := String → Except String φ

/-- What is done during a bootstrap. -/
inductive Act (φ : Type) where
  | reported (event : HealthEvent)
  | installed (subscriber : Subscriber φ)

/-- What whoever wants to write is told when a subscriber does already. -/
def alreadySet : String := "a global default trace dispatcher has already been set"

/-- Makes a subscriber the writer of the log, unless there is one. -/
def Writer.set (s : Subscriber φ) : Writer φ → Except String (Writer φ)
  | nobody => .ok (collector s)
  | collector _ => .error alreadySet
  | other cause => .error cause

/-- Installs the subscriber of a configuration, unless the guard is filled.  It is filled only if
the subscriber has become the writer. -/
def initialise (read : Reading φ) (config : Config) (p : Process φ) :
    List (Act φ) × Process φ × Except TelemetryError Unit :=
  if p.guarded then ([], p, .ok ())
  else
    match read config.logFilter with
    | .error message => ([], p, .error (.filter message))
    | .ok filter =>
      let subscriber : Subscriber φ := ⟨filter, config.logFormat⟩
      match p.writer.set subscriber with
      | .error cause => ([], p, .error (.subscriber cause))
      | .ok writer => ([.installed subscriber], ⟨true, writer⟩, .ok ())

/-- The steps of a bootstrap between its two reports: the process afterwards, and the
configuration. -/
def attempt (read : Reading φ) (p : Process φ) (loaded : Except LoadError Config) :
    List (Act φ) × Process φ × Except BootstrapError Config :=
  match loaded with
  | .error e => ([], p, .error (.configuration e))
  | .ok config =>
    match config.invalid? with
    | some e => ([], p, .error (.invalid e))
    | none =>
      let (acts, after, result) := initialise read config p
      (acts, after, (result.mapError .telemetry).map fun _ => config)

/-- What is reported at the end of a bootstrap. -/
def ending : Except BootstrapError Config → HealthEvent
  | .ok config => .bootstrapSucceeded config
  | .error e => .bootstrapFailed e

/-- One bootstrap: the process before and after it, what its loader gave, what was done, in order,
and what has come of it. -/
structure Call (φ : Type) where
  before : Process φ
  loaded : Except LoadError Config
  acts : List (Act φ)
  after : Process φ
  result : Except BootstrapError Config

/-- A bootstrap of a process. -/
def call (read : Reading φ) (p : Process φ) (loaded : Except LoadError Config) : Call φ :=
  let (acts, after, result) := attempt read p loaded
  ⟨p, loaded, .reported .bootstrapStarting :: acts ++ [.reported (ending result)], after, result⟩

/-- Bootstraps of a process in order. -/
def calls (read : Reading φ) : Process φ → List (Except LoadError Config) → List (Call φ)
  | _, [] => []
  | p, loaded :: loads => call read p loaded :: calls read (call read p loaded).after loads

namespace Call

/-- It has succeeded. -/
def Succeeded (c : Call φ) : Prop :=
  ∃ config, c.result = .ok config

/-- What its reporter has seen. -/
def reports (c : Call φ) : List HealthEvent :=
  c.acts.filterMap fun
    | .reported event => some event
    | .installed _ => none

/-- The subscribers that it has installed. -/
def installs (c : Call φ) : List (Subscriber φ) :=
  c.acts.filterMap fun
    | .reported _ => none
    | .installed subscriber => some subscriber

end Call

/-! ## 2.  One bootstrap -/

/-- The subscriber is that of a configuration. -/
structure Subscriber.IsOf (read : Reading φ) (config : Config) (s : Subscriber φ) : Prop where
  filter : read config.logFilter = .ok s.filter
  format : s.format = config.logFormat

/-- What a bootstrap comes to, where some bootstrap before it has succeeded or not.  It fails with
its loader (`configuration`), otherwise if its configuration is not valid (`invalid`), otherwise if
its filter counts and is none (`telemetry`); otherwise it succeeds with the configuration of its
loader (`ok`).  Its reporter sees that it begins and how it ends, and no more (`reports`). -/
structure Call.Answers (read : Reading φ) (guarded : Prop) (c : Call φ) : Prop where
  configuration (e : LoadError) : c.result = .error (.configuration e) ↔ c.loaded = .error e
  invalid (i : Config.Invalid) : c.result = .error (.invalid i) ↔
    ∃ config, c.loaded = .ok config ∧ config.invalid? = some i
  telemetry (t : TelemetryError) : c.result = .error (.telemetry t) ↔
    ∃ config message, c.loaded = .ok config ∧ config.invalid? = none ∧ ¬ guarded ∧
      read config.logFilter = .error message ∧ t = .filter message
  ok (config : Config) : c.result = .ok config ↔
    c.loaded = .ok config ∧ config.invalid? = none ∧
      (guarded ∨ ∃ filter, read config.logFilter = .ok filter)
  reports : c.reports = [.bootstrapStarting, ending c.result]

variable {read : Reading φ} {p : Process φ} {loaded : Except LoadError Config}

/-- **A bootstrap is one of three**: it fails and changes nothing; or the guard is filled and it
succeeds and changes nothing; or it is the first to succeed, and its subscriber is installed. -/
theorem call_cases (read : Reading φ) (loaded : Except LoadError Config) (hp : p.Own) :
    (∃ e, call read p loaded =
        ⟨p, loaded, [.reported .bootstrapStarting, .reported (.bootstrapFailed e)], p, .error e⟩ ∧
      ((∃ l, e = .configuration l ∧ loaded = .error l) ∨
        (∃ config i, e = .invalid i ∧ loaded = .ok config ∧ config.invalid? = some i) ∨
        ∃ config message, e = .telemetry (.filter message) ∧ loaded = .ok config ∧
          config.invalid? = none ∧ p = .fresh ∧ read config.logFilter = .error message)) ∨
    (∃ config, call read p loaded =
        ⟨p, loaded, [.reported .bootstrapStarting, .reported (.bootstrapSucceeded config)],
          p, .ok config⟩ ∧
      loaded = .ok config ∧ config.invalid? = none ∧ ∃ s, p = .owned s) ∨
    ∃ config s, call read p loaded =
        ⟨p, loaded,
          [.reported .bootstrapStarting, .installed s, .reported (.bootstrapSucceeded config)],
          .owned s, .ok config⟩ ∧
      loaded = .ok config ∧ config.invalid? = none ∧ p = .fresh ∧ s.IsOf read config := by
  cases loaded with
  | error l => exact .inl ⟨_, rfl, .inl ⟨l, rfl, rfl⟩⟩
  | ok config =>
    cases hv : config.invalid? with
    | some i =>
      refine .inl ⟨.invalid i, ?_, .inr (.inl ⟨config, i, rfl, rfl, hv⟩)⟩
      simp only [call, attempt, hv]
      rfl
    | none =>
      cases hp with
      | owned s =>
        refine .inr (.inl ⟨config, ?_, rfl, hv, s, rfl⟩)
        simp only [call, attempt, hv]
        rfl
      | fresh =>
        cases hr : read config.logFilter with
        | error message =>
          refine .inl ⟨.telemetry (.filter message), ?_,
            .inr (.inr ⟨config, message, rfl, rfl, hv, rfl, hr⟩)⟩
          simp only [call, attempt, hv, initialise, Process.fresh, hr]
          rfl
        | ok filter =>
          refine .inr (.inr ⟨config, ⟨filter, config.logFormat⟩, ?_, rfl, hv, rfl, hr, rfl⟩)
          simp only [call, attempt, hv, initialise, Process.fresh, hr]
          rfl

/-- **What a bootstrap comes to.** -/
theorem answers_call (hp : p.Own) {guarded : Prop} (hg : guarded ↔ p.guarded = true) :
    (call read p loaded).Answers read guarded := by
  have hfresh : p = .fresh → ¬ guarded := by
    rintro rfl h
    exact Bool.false_ne_true (hg.1 h)
  rcases call_cases read loaded hp with
    ⟨e, hc, ⟨l, rfl, rfl⟩ | ⟨config, i, rfl, rfl, hv⟩ | ⟨config, message, rfl, rfl, hv, hf, hr⟩⟩ |
      ⟨config, hc, rfl, hv, s, rfl⟩ | ⟨config, s, hc, rfl, hv, hf, hs⟩ <;> rw [hc]
  · constructor <;> simp [Call.reports, ending]
  · constructor <;> simp [Call.reports, ending, hv]
  · constructor <;> simp [Call.reports, ending, hv, hr, hfresh hf]
    exact fun _ => eq_comm
  · have hguarded : guarded := hg.2 rfl
    constructor <;> simp [Call.reports, ending, hv, hguarded]
  · constructor <;> simp [Call.reports, ending, hv, hs.filter, hfresh hf]

/-- A bootstrap of a fresh process installs the subscriber of its configuration if it succeeds, and
nothing if it does not. -/
theorem call_fresh (read : Reading φ) (loaded : Except LoadError Config) :
    (¬ (call read .fresh loaded).Succeeded ∧ (call read .fresh loaded).installs = [] ∧
      (call read .fresh loaded).after = .fresh) ∨
    ∃ config s, s.IsOf read config ∧ (call read .fresh loaded).result = .ok config ∧
      (call read .fresh loaded).installs = [s] ∧ (call read .fresh loaded).after = .owned s := by
  rcases call_cases read loaded .fresh with
    ⟨e, hc, -⟩ | ⟨config, hc, -, -, s, hs⟩ | ⟨config, s, hc, -, -, -, hs⟩
  · left
    rw [hc]
    refine ⟨?_, rfl, rfl⟩
    rintro ⟨_, ⟨⟩⟩
  · cases hs
  · right
    rw [hc]
    exact ⟨config, s, hs, rfl, rfl, rfl⟩

/-- Where a subscriber is installed it stays, and none is installed any more. -/
theorem call_owned (read : Reading φ) (s : Subscriber φ) (loaded : Except LoadError Config) :
    (call read (.owned s) loaded).installs = [] ∧
    (call read (.owned s) loaded).after = .owned s := by
  rcases call_cases read loaded (.owned s) with
    ⟨e, hc, -⟩ | ⟨config, hc, -⟩ | ⟨config, t, hc, -, -, hs, -⟩
  · rw [hc]
    exact ⟨rfl, rfl⟩
  · rw [hc]
    exact ⟨rfl, rfl⟩
  · cases hs

/-! ## 3.  Sequences -/

/-- The process stays as bootstraps leave it, and its guard is filled if it was or if the bootstrap
has succeeded. -/
theorem own_call (read : Reading φ) (loaded : Except LoadError Config) (hp : p.Own) :
    (call read p loaded).after.Own ∧
    ((call read p loaded).after.guarded = true ↔
      p.guarded = true ∨ (call read p loaded).Succeeded) := by
  cases hp with
  | fresh =>
    rcases call_fresh read loaded with ⟨hno, -, ha⟩ | ⟨config, s, -, hr, -, ha⟩ <;> rw [ha]
    · exact ⟨.fresh, .inl, fun h => h.resolve_right hno⟩
    · exact ⟨.owned s, fun _ => .inr ⟨config, hr⟩, fun _ => rfl⟩
  | owned s =>
    rw [(call_owned read s loaded).2]
    exact ⟨.owned s, .inl, fun _ => rfl⟩

/-- **Each bootstrap of a sequence is one of a process that remembers whether one before it has
succeeded.** -/
theorem exists_call_of_split (hp : p.Own) {loads : List (Except LoadError Config)}
    {earlier later : List (Call φ)} {c : Call φ} (h : calls read p loads = earlier ++ c :: later) :
    ∃ q loaded others, q.Own ∧ c = call read q loaded ∧ later = calls read c.after others ∧
      (q.guarded = true ↔ p.guarded = true ∨ ∃ o ∈ earlier, o.Succeeded) := by
  induction earlier generalizing p loads with
  | nil =>
    cases loads with
    | nil => cases h
    | cons loaded loads =>
      obtain ⟨rfl, rfl⟩ := List.cons.inj h
      exact ⟨p, loaded, loads, hp, rfl, rfl, by simp⟩
  | cons first earlier ih =>
    cases loads with
    | nil => cases h
    | cons loaded loads =>
      obtain ⟨rfl, hrest⟩ := List.cons.inj h
      obtain ⟨hown, hguard⟩ := own_call read loaded hp
      obtain ⟨q, loaded', others, hq, hc, hl, hg⟩ := ih hown hrest
      refine ⟨q, loaded', others, hq, hc, hl, ?_⟩
      rw [hg, hguard, or_assoc]
      simp

/-- Once a subscriber is installed, the bootstraps that follow leave it where it is. -/
theorem calls_owned (read : Reading φ) (s : Subscriber φ) (loads : List (Except LoadError Config)) :
    ∀ c ∈ calls read (.owned s) loads, c.installs = [] ∧ c.after = .owned s := by
  induction loads with
  | nil => exact List.forall_mem_nil _
  | cons loaded loads ih =>
    obtain ⟨hi, ha⟩ := call_owned read s loaded
    rw [calls, ha]
    exact List.forall_mem_cons.2 ⟨⟨hi, ha⟩, ih⟩

/-- A fresh process is given one subscriber at most. -/
theorem length_installs_le (read : Reading φ) (loads : List (Except LoadError Config)) :
    ((calls read .fresh loads).flatMap Call.installs).length ≤ 1 := by
  induction loads with
  | nil => exact Nat.zero_le 1
  | cons loaded loads ih =>
    rw [calls, List.flatMap_cons]
    rcases call_fresh read loaded with ⟨-, hi, ha⟩ | ⟨config, s, -, -, hi, ha⟩ <;> rw [hi, ha]
    · exact ih
    · have hnone : (calls read (.owned s) loads).flatMap Call.installs = [] :=
        List.flatMap_eq_nil_iff.2 fun c hc => (calls_owned read s loads c hc).1
      rw [hnone]
      exact Nat.le_refl 1

/-- What is known of the bootstraps of a process that was fresh before them.

Each comes to what it must, given whether one before it has succeeded (`answers`).  As long as none
has succeeded, the guard is empty and nobody writes (`untouched`).  The first that succeeds installs
the subscriber of its configuration, and that stays in force: the others install none (`lasting`).
Together they install one subscriber at most (`once`). -/
structure Settled (read : Reading φ) (cs : List (Call φ)) : Prop where
  answers {earlier later : List (Call φ)} {c : Call φ} (split : cs = earlier ++ c :: later) :
    c.Answers read (∃ o ∈ earlier, o.Succeeded)
  untouched {earlier later : List (Call φ)} {c : Call φ} (split : cs = earlier ++ c :: later)
    (failed : ∀ o ∈ earlier ++ [c], ¬ o.Succeeded) : c.after = .fresh
  lasting {earlier later : List (Call φ)} {c : Call φ} {config : Config}
    (split : cs = earlier ++ c :: later) (first : ∀ o ∈ earlier, ¬ o.Succeeded)
    (success : c.result = .ok config) :
    ∃ s, s.IsOf read config ∧ c.installs = [s] ∧ (∀ o ∈ earlier ++ later, o.installs = []) ∧
      ∀ o ∈ c :: later, o.after = .owned s
  once : (cs.flatMap Call.installs).length ≤ 1

theorem settled_calls (read : Reading φ) (loads : List (Except LoadError Config)) :
    Settled read (calls read .fresh loads) where
  answers split := by
    obtain ⟨q, loaded, _, hq, rfl, -, hg⟩ := exists_call_of_split .fresh split
    refine answers_call hq ?_
    rw [hg]
    exact ⟨.inr, fun h => h.resolve_left Bool.false_ne_true⟩
  untouched split failed := by
    obtain ⟨q, loaded, _, hq, rfl, -, hg⟩ := exists_call_of_split .fresh split
    cases hq with
    | fresh =>
      rcases call_fresh read loaded with ⟨-, -, ha⟩ | ⟨config, s, -, hr, -⟩
      · exact ha
      · exact absurd ⟨config, hr⟩ (failed _ (by simp))
    | owned s =>
      obtain ⟨o, ho, hsuccess⟩ := (hg.1 rfl).resolve_left Bool.false_ne_true
      exact absurd hsuccess (failed o (List.mem_append_left _ ho))
  lasting {earlier later c config} split first success := by
    have honce := length_installs_le read loads
    obtain ⟨q, loaded, others, hq, rfl, hl, hg⟩ := exists_call_of_split .fresh split
    cases hq with
    | owned s =>
      obtain ⟨o, ho, hsuccess⟩ := (hg.1 rfl).resolve_left Bool.false_ne_true
      exact absurd hsuccess (first o ho)
    | fresh =>
      rcases call_fresh read loaded with ⟨hno, -⟩ | ⟨config', s, hs, hr, hi, ha⟩
      · exact absurd ⟨config, success⟩ hno
      · obtain rfl := Except.ok.inj (hr.symm.trans success)
        rw [split, List.flatMap_append, List.flatMap_cons, List.length_append, List.length_append,
          hi, List.length_singleton] at honce
        have hearlier : earlier.flatMap Call.installs = [] :=
          List.eq_nil_of_length_eq_zero (by omega)
        have hlater : later.flatMap Call.installs = [] := List.eq_nil_of_length_eq_zero (by omega)
        rw [ha] at hl
        refine ⟨s, hs, hi, fun o ho => ?_, List.forall_mem_cons.2 ⟨ha, fun o ho => ?_⟩⟩
        · rcases List.mem_append.1 ho with ho | ho
          · exact List.flatMap_eq_nil_iff.1 hearlier o ho
          · exact List.flatMap_eq_nil_iff.1 hlater o ho
        · exact (calls_owned read s others o (hl ▸ ho)).2
  once := length_installs_le read loads

theorem map_loaded_calls (read : Reading φ) (p : Process φ)
    (loads : List (Except LoadError Config)) :
    (calls read p loads).map (·.loaded) = loads := by
  induction loads generalizing p with
  | nil => rfl
  | cons loaded loads ih => rw [calls, List.map_cons, ih]; rfl

/-! ## 4.  The collector's own filters -/

/-- How the collector reads filters. -/
def readFilter : Reading Log.Filter := fun text =>
  (Log.Filter.parse text).mapError Log.FilterFault.message

/-- The telemetry of a subscriber. -/
def Subscriber.telemetry (s : Subscriber Log.Filter) : Telemetry :=
  ⟨s.filter, s.format⟩

namespace Process

/-- The process whose log is in given hands. -/
def ofSlot : Telemetry.Slot → Process Log.Filter
  | .free => fresh
  | .taken telemetry => owned ⟨telemetry.filter, telemetry.format⟩
  | .foreign cause => ⟨false, .other cause⟩

/-- The telemetry that is installed. -/
def installed? (p : Process Log.Filter) : Option Telemetry :=
  match p.writer with
  | .collector s => some s.telemetry
  | .nobody | .other _ => none

end Process

/-- What is reported, each with the telemetry at that time. -/
def told (installed : Option Telemetry) : List (Act Log.Filter) → List Report
  | [] => []
  | .reported event :: acts => (installed, event) :: told installed acts
  | .installed s :: acts => told (some s.telemetry) acts

/-- What a bootstrap is seen to do. -/
def Call.seen (c : Call Log.Filter) : List Report × Except BootstrapError Config :=
  (told c.before.installed? c.acts, c.result)

/-- **A bootstrap is what its steps come to**, in whose hands the log may be. -/
theorem run_eq_call (slot : Telemetry.Slot) (loaded : Except LoadError Config) :
    run slot loaded =
      ((call readFilter (.ofSlot slot) loaded).after.installed?,
        (call readFilter (.ofSlot slot) loaded).seen) := by
  cases loaded with
  | error e => cases slot <;> rfl
  | ok config =>
    cases hv : config.invalid? with
    | some i =>
      simp only [run, prepare, call, attempt, hv]
      cases slot <;> rfl
    | none =>
      cases hf : Log.Filter.parse config.logFilter <;> cases slot <;>
        simp only [run, prepare, call, attempt, hv, Telemetry.Slot.install, Telemetry.ofConfig, hf,
          initialise, readFilter, Process.ofSlot, Process.fresh, Process.owned, Writer.set] <;>
        rfl

/-- Bootstraps in order are what their steps come to. -/
theorem runAll_eq_calls {p : Process Log.Filter} (hp : p.Own)
    (loads : List (Except LoadError Config)) :
    runAll p.installed? loads =
      (((calls readFilter p loads).foldl (fun _ c => Call.after c) p).installed?,
        (calls readFilter p loads).map Call.seen) := by
  induction loads generalizing p with
  | nil => rfl
  | cons loaded loads ih =>
    have hslot : Process.ofSlot (.of p.installed?) = p := by cases hp <;> rfl
    rw [runAll, run_eq_call, hslot]
    dsimp only
    rw [ih (own_call _ _ hp).1]
    rfl

/-- **Bootstraps in one process.**  Whatever texts are filters and whatever the loaders give, nobody
else having taken the log: each bootstrap fails with its loader, or else if its configuration is not
valid, or else if none has succeeded before and its filter is none, and otherwise succeeds with the
configuration of its loader; it reports that it begins and how it ends.  The first that succeeds
installs its subscriber, and that stays; until then nothing has been installed.  For the collector's
own filters this is what its bootstraps come to. -/
theorem bootstraps_settled (read : Reading φ) (loads : List (Except LoadError Config)) :
    (calls read .fresh loads).map (·.loaded) = loads ∧ Settled read (calls read .fresh loads) ∧
      runAll none loads =
        (((calls readFilter .fresh loads).foldl (fun _ c => Call.after c) Process.fresh).installed?,
          (calls readFilter .fresh loads).map Call.seen) :=
  ⟨map_loaded_calls read .fresh loads, settled_calls read loads, runAll_eq_calls .fresh loads⟩

/-- A filter that is none keeps a bootstrap from succeeding, but not one after a success. -/
example :
    let read : Reading Unit := fun text => if text = "info" then .ok () else .error "none"
    let misspelt : Config := { Config.default with logFilter := "inform" }
    (calls read .fresh [.ok misspelt, .error .file, .ok .default, .ok misspelt]).map
      (·.result.isOk) =
      [false, false, true, true] := by
  decide

end AgentIntake.Bootstrap
