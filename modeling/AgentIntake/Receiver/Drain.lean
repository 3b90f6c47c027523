import AgentIntake.Health

/-!
# Draining

Shutdown closes all executors and then waits for each in turn, for a time called the grace.  An
executor that still has workers when its time is up goes on in the background; the others are waited
for all the same.
-/

namespace AgentIntake

namespace Drain

/-- The executors of a state: how to close one, what a wait for one comes to, and how many workers
it has then. -/
structure Executors (κ σ : Type) where
  name : κ → σ → String
  close : κ → σ → σ × List Log.Record
  wait : κ → σ → σ
  live : κ → σ → Nat

/-- The grace when none is set, in milliseconds. -/
def defaultGrace : Nat := 10000

/-- The target of the records of shutdown. -/
def target : String := Log.targetOf "receiver"

/-- The record of an executor whose workers have all left. -/
def drainedRecord (name : String) : Log.Record where
  level := .info
  target := target
  message := "executor drained"
  fields := [("pool", .text name)]

/-- The record of an executor that still has workers. -/
def busyRecord (name : String) (grace live : Nat) : Log.Record where
  level := .warn
  target := target
  message := "executor still busy after grace period"
  fields := [("pool", .text name), ("grace_ms", .whole grace), ("busy_workers", .whole live)]

variable {κ σ : Type}

/-- Closes executor after executor. -/
def closeAll (x : Executors κ σ) : List κ → σ → σ × List Log.Record
  | [], s => (s, [])
  | k :: ks, s =>
    let (s, records) := x.close k s
    let (s, more) := closeAll x ks s
    (s, records ++ more)

/-- Waits for executor after executor; `outcome` is that of the waits before. -/
def waitAll (x : Executors κ σ) (grace : Nat) (outcome : ShutdownOutcome) :
    List κ → σ → σ × List Log.Record × ShutdownOutcome
  | [], s => (s, [], outcome)
  | k :: ks, s =>
    let s := x.wait k s
    let live := x.live k s
    let record :=
      if live = 0 then drainedRecord (x.name k s) else busyRecord (x.name k s) grace live
    let outcome := if live = 0 then outcome else .timedOut
    let (s, records, outcome) := waitAll x grace outcome ks s
    (s, record :: records, outcome)

/-- Closes the executors that there are, then waits for them. -/
def shutdown (x : Executors κ σ) (grace : Nat) (executors : List (Option κ)) (s : σ) :
    σ × List Log.Record × ShutdownOutcome :=
  let present := executors.filterMap id
  let (s, closed) := closeAll x present s
  let (s, waited, outcome) := waitAll x grace .drained present s
  (s, closed ++ waited, outcome)

end Drain

end AgentIntake
