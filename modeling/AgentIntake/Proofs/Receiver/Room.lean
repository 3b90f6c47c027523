import AgentIntake.Proofs.Receiver.Accounting

/-!
# Room for the queues

A receiver that is built asks for room twice, for the queue of each of its pools, and a queue for
which there is none is a panic.  `Room.Fits` says that there is room for both.  Then building comes
to what `make?` says (`new_of_fits`); otherwise a valid configuration leads to a panic, of which
others have seen at most that the first pool has started (`new_of_not_fits`).
-/

namespace AgentIntake

/-- The system has room for the queues that a configuration asks for. -/
structure Room.Fits (room : Room) (config : Config) : Prop where
  dispatch : room.refusal? config.workerQueueSize.toNat = none
  events : config.eventWorkerThreads ≠ 0 → room.refusal? config.eventWorkerQueueSize.toNat = none

namespace Receiver

variable {ρ η α : Type} {room : Room}

/-! ## 1.  Pools -/

/-- The pool that a name and sizes come to. -/
def newPool (name : String) (threads capacity : Nat) : Pool α :=
  ⟨name, capacity, [], List.replicate threads .idle, false⟩

/-- The dispatch pool that a configuration comes to. -/
def newDispatch (config : Config) : Pool (Delivery ρ) :=
  newPool dispatchPoolName config.workerThreads.toNat config.workerQueueSize.toNat

/-- The liveness pool that a configuration comes to. -/
def newEvents (config : Config) : Option (Pool Ping) :=
  if config.eventWorkerThreads = 0 then none
  else
    some (newPool eventPoolName config.eventWorkerThreads.toNat config.eventWorkerQueueSize.toNat)

section Sizes

variable {name : String} {threads capacity : Nat} (ht : 0 < threads) (hc : 0 < capacity)

include ht hc

theorem new_of_room (h : room.refusal? capacity = none) :
    Pool.new room name threads capacity = .returned (newPool name threads capacity : Pool α) := by
  rw [Pool.new, Pool.make?_eq name ht hc]
  dsimp only
  rw [h]
  rfl

theorem new_of_refusal {p : PanicPayload} (h : room.refusal? capacity = some p) :
    (Pool.new room name threads capacity : Attempt PoolError (Pool α)) = .panicked p := by
  rw [Pool.new, Pool.make?_eq name ht hc]
  dsimp only
  rw [h]

end Sizes

section Valid

variable {config : Config} (hv : config.invalid? = none)

include hv

theorem eventPool?_of_valid : eventPool? config = .ok (newEvents config) := by
  rw [eventPool?, newEvents]
  by_cases hz : config.eventWorkerThreads = 0
  · rw [if_pos hz, if_pos hz]
  · obtain ⟨ht, hc⟩ := (pos_of_valid hv).2.2.resolve_left hz
    rw [if_neg hz, if_neg hz, Pool.make?_eq _ ht hc]
    rfl

theorem newEventPool_of_room
    (h : config.eventWorkerThreads ≠ 0 → room.refusal? config.eventWorkerQueueSize.toNat = none) :
    newEventPool room config = .returned (newEvents config) := by
  rw [newEventPool, newEvents]
  by_cases hz : config.eventWorkerThreads = 0
  · rw [if_pos hz, if_pos hz]
  · obtain ⟨ht, hc⟩ := (pos_of_valid hv).2.2.resolve_left hz
    rw [if_neg hz, if_neg hz, new_of_room ht hc (h hz)]
    rfl

theorem newEventPool_of_refusal (hz : config.eventWorkerThreads ≠ 0) {p : PanicPayload}
    (h : room.refusal? config.eventWorkerQueueSize.toNat = some p) :
    newEventPool room config = .panicked p := by
  obtain ⟨ht, hc⟩ := (pos_of_valid hv).2.2.resolve_left hz
  rw [newEventPool, if_neg hz, new_of_refusal ht hc h]
  rfl

/-! ## 2.  Receivers -/

variable (cluster : Option η) (observers : List η) (grace : Nat)

/-- What a valid configuration comes to. -/
theorem make?_of_valid :
    make? (ρ := ρ) config cluster observers grace =
      .ok (assembled config observers grace (newDispatch config) (newEvents config),
        newEffects (newDispatch config : Pool (Delivery ρ)) (newEvents config) cluster) := by
  obtain ⟨ht, hc, -⟩ := pos_of_valid hv
  rw [make?, hv, Pool.make?_eq _ ht hc, eventPool?_of_valid hv]
  rfl

/-- **With room for its queues a valid configuration is built.** -/
theorem new_of_fits (hf : room.Fits config) {r : Receiver ρ η} {built : List (Effect η)}
    (h : make? config cluster observers grace = .ok (r, built)) :
    new room config cluster observers grace = (built, .returned r) := by
  obtain ⟨ht, hc, -⟩ := pos_of_valid hv
  rw [make?_of_valid hv] at h
  cases h
  rw [new, hv, new_of_room ht hc hf.dispatch, newEventPool_of_room hv hf.events]
  rfl

/-- **Without it there is a panic**, and nothing but records has been seen. -/
theorem new_of_not_fits (hf : ¬ room.Fits config) :
    ∃ (p : PanicPayload) (records : List Log.Record),
      new (ρ := ρ) room config cluster observers grace = (records.map .logged, .panicked p) := by
  obtain ⟨ht, hc, -⟩ := pos_of_valid hv
  cases hd : room.refusal? config.workerQueueSize.toNat with
  | some p => exact ⟨p, [], by rw [new, hv, new_of_refusal ht hc hd]; rfl⟩
  | none =>
    by_cases hz : config.eventWorkerThreads = 0
    · exact absurd ⟨hd, fun h => absurd hz h⟩ hf
    · cases he : room.refusal? config.eventWorkerQueueSize.toNat with
      | none => exact absurd ⟨hd, fun _ => he⟩ hf
      | some p =>
        refine ⟨p, [(newDispatch config : Pool (Delivery ρ)).startedRecord], ?_⟩
        rw [new, hv, new_of_room ht hc hd, newEventPool_of_refusal hv hz he]
        rfl

end Valid

end Receiver

end AgentIntake
