import AgentIntake.Proofs.Pool.History

/-!
# The fate of a task

Whatever is done to a pool and by its workers, and in whatever order, a task that was accepted waits
in the queue, or is run by one worker, or has finished, and it is never in two of these places.  It
is started once at most, in the order of acceptance; a task that was refused is never started.  When
the last worker has left, everything that was accepted has finished.

All of it is read off `History.Sound`.  Tasks are told apart by the numbers of their submissions,
which are the places in the list of all submissions, so no number occurs twice.
-/

namespace AgentIntake

namespace Pool

variable {α : Type}

/-- What has the key of a member is the member. -/
theorem filter_key_eq (key : α → Nat) {l : List α} (hn : (l.map key).Nodup) {a : α}
    (ha : a ∈ l) : l.filter (key · = key a) = [a] := by
  obtain ⟨before, after, rfl⟩ := List.append_of_mem ha
  rw [List.map_append, List.map_cons] at hn
  have hb : before.filter (key · = key a) = [] :=
    List.filter_eq_nil_iff.2 fun b hb => by
      have := (List.nodup_append.1 hn).2.2 _ (List.mem_map_of_mem hb) _ List.mem_cons_self
      simpa using this
  have hc : after.filter (key · = key a) = [] :=
    List.filter_eq_nil_iff.2 fun b hb => by
      have := (List.nodup_cons.1 (List.nodup_append.1 hn).2.1).1
      refine fun he => this ?_
      rw [← of_decide_eq_true he]
      exact List.mem_map_of_mem hb
  rw [List.filter_append, List.filter_cons_of_pos (by simp), hb, hc]
  rfl

namespace History

/-! ## 1.  Where a task can be -/

/-- The numbers of the tasks that wait. -/
def queuedNumbers (h : History α) : List Nat :=
  h.pool.queue.map (·.2)

/-- The numbers of the tasks that are run. -/
def runningNumbers (h : History α) : List Nat :=
  h.pool.running.map (·.2)

/-- The numbers of the tasks that have finished. -/
def finishedNumbers (h : History α) : List Nat :=
  h.finished.map (·.1.2)

/-- The numbers of the tasks that were started. -/
def startedNumbers (h : History α) : List Nat :=
  h.started.map (·.2)

theorem mem_finishedNumbers {h : History α} {t : Ticket α} (hm : t ∈ h.finished.map (·.1)) :
    t.2 ∈ h.finishedNumbers := by
  obtain ⟨f, hf, rfl⟩ := List.mem_map.1 hm
  exact List.mem_map_of_mem hf

/-- Every task has one fate.

A task goes under the number of its submission (`identified`).  Each submission was accepted once or
refused once, and not both (`answered`).  What was accepted is queued, run or finished
(`accounted`).  It is in one of these places only, and there once (`placed`).  It is started once at
most (`started_once`).  What was refused is never started (`refused_idle`).  The queue keeps to its
capacity (`length_queue_le`).  No more tasks are run than there are workers (`length_running_le`).
Tasks are started in the order of their acceptance (`in_order`).  When all workers have left, every
accepted task has finished, once (`all_finished`). -/
structure OneFate (threads capacity : Nat) (h : History α) : Prop where
  identified : ∀ t ∈ h.accepted, h.submitted[t.2]? = some t.1
  answered : ∀ number < h.submitted.length,
    (h.accepted.map (·.2)).count number + (h.refused.map (·.1.2)).count number = 1
  accounted : h.accepted.Perm (h.pool.queue ++ h.pool.running ++ h.finished.map (·.1))
  placed : ∀ t ∈ h.accepted,
    h.queuedNumbers.count t.2 + h.runningNumbers.count t.2 + h.finishedNumbers.count t.2 = 1
  started_once : ∀ number, h.startedNumbers.count number ≤ 1
  refused_idle : ∀ r ∈ h.refused, r.1.2 ∉ h.startedNumbers
  length_queue_le : h.pool.queue.length ≤ capacity
  length_running_le : h.pool.running.length ≤ threads
  in_order : h.started <+: h.accepted
  all_finished : h.pool.live = 0 →
    ∀ t ∈ h.accepted, t ∈ h.finished.map (·.1) ∧ h.finishedNumbers.count t.2 = 1

variable {threads capacity : Nat} {h : History α}

/-- No number is given twice. -/
theorem Sound.nodup_numbers (hs : Sound threads capacity h) :
    ((h.accepted ++ h.refused.map (·.1)).map (·.2)).Nodup :=
  ((hs.numbered.map (·.2)).nodup_iff).2 (List.nodup_zipIdx_map_snd _)

theorem Sound.nodup_accepted (hs : Sound threads capacity h) : (h.accepted.map (·.2)).Nodup := by
  have hn := hs.nodup_numbers
  rw [List.map_append] at hn
  exact (List.nodup_append.1 hn).1

/-- What was started was accepted. -/
theorem Sound.started_subset (hs : Sound threads capacity h) : h.started ⊆ h.accepted :=
  hs.accepted_eq ▸ List.subset_append_left _ _

/-- No task was started twice. -/
theorem Sound.nodup_started (hs : Sound threads capacity h) : (h.started.map (·.2)).Nodup := by
  have hn := hs.nodup_accepted
  rw [hs.accepted_eq, List.map_append] at hn
  exact (List.nodup_append.1 hn).1

theorem Sound.accounted (hs : Sound threads capacity h) :
    h.accepted.Perm (h.pool.queue ++ h.pool.running ++ h.finished.map (·.1)) := by
  rw [hs.accepted_eq, List.append_assoc]
  exact List.perm_append_comm.trans (hs.started_perm.append_left _)

/-- What waits was not started. -/
theorem Sound.not_mem_started (hs : Sound threads capacity h) {t : Ticket α}
    (hq : t ∈ h.pool.queue) : t ∉ h.started := by
  have hn := hs.nodup_accepted.of_map
  rw [hs.accepted_eq, List.nodup_append] at hn
  exact fun hm => hn.2.2 t hm t hq rfl

/-- What has finished was started. -/
theorem Sound.mem_started (hs : Sound threads capacity h) {t : Ticket α × Ending}
    (ht : t ∈ h.finished) : t.1 ∈ h.started :=
  hs.started_perm.symm.subset (List.mem_append_right _ (List.mem_map_of_mem ht))

/-! ## 2.  Workers that have left -/

/-- When no worker is left none runs a task. -/
theorem running_eq_nil_of_live {p : Pool α} (hl : p.live = 0) : p.running = [] := by
  refine List.filterMap_eq_nil_iff.2 fun w hw => ?_
  have := List.countP_eq_zero.1 hl w hw
  cases w with
  | idle => rfl
  | busy task => exact absurd rfl this
  | gone => rfl

/-- When no worker is left nothing is queued. -/
theorem Sound.queue_eq_nil_of_live (hs : Sound threads capacity h) (ht : 0 < threads)
    (hl : h.pool.live = 0) : h.pool.queue = [] := by
  have hpos : 0 < h.pool.workers.length := hs.length_workers ▸ ht
  obtain ⟨w, hw⟩ := List.exists_mem_of_length_pos hpos
  have := List.countP_eq_zero.1 hl w hw
  cases w with
  | idle => exact absurd rfl this
  | busy task => exact absurd rfl this
  | gone => exact (hs.gone hw).2

/-- While something is queued and nothing is run there is a worker that waits. -/
theorem Sound.exists_idle (hs : Sound threads capacity h) (ht : 0 < threads)
    (hr : h.pool.running = []) (hq : h.pool.queue ≠ []) :
    ∃ before after, h.pool.workers = before ++ .idle :: after := by
  have hpos : 0 < h.pool.workers.length := hs.length_workers ▸ ht
  obtain ⟨w, hw⟩ := List.exists_mem_of_length_pos hpos
  cases w with
  | idle => exact List.append_of_mem hw
  | busy task => cases List.filterMap_eq_nil_iff.1 hr _ hw
  | gone => exact absurd (hs.gone hw).2 hq

/-! ## 3.  Fates -/

theorem length_running_le (p : Pool α) : p.running.length ≤ p.workers.length :=
  List.length_filterMap_le _ _

/-- The invariant settles the fate of every task. -/
theorem Sound.oneFate (hs : Sound threads capacity h) (ht : 0 < threads) :
    OneFate threads capacity h := by
  have hnumbers := hs.nodup_numbers
  rw [List.map_append] at hnumbers
  have hacc := hs.nodup_accepted
  -- the three places together hold each number once
  have hplaced : ∀ t ∈ h.accepted, h.queuedNumbers.count t.2 + h.runningNumbers.count t.2 +
      h.finishedNumbers.count t.2 = 1 := by
    intro t ht
    have hc := (hs.accounted.map (·.2)).count_eq t.2
    rw [List.count_eq_one_of_mem hacc (List.mem_map_of_mem ht)] at hc
    rw [List.map_append, List.map_append, List.map_map, List.count_append, List.count_append] at hc
    exact hc.symm
  exact
    { identified := fun t hm =>
        List.mem_zipIdx_iff_getElem?.1 (hs.numbered.subset (List.mem_append_left _ hm))
      answered := fun number hn => by
        have hc := (hs.numbered.map (·.2)).count_eq number
        rw [List.zipIdx_map_snd, List.count_eq_one_of_mem (List.nodup_range' ..)
          (by simpa using hn), List.map_append, List.map_map, List.count_append] at hc
        exact hc
      accounted := hs.accounted
      placed := hplaced
      started_once := fun number => List.nodup_iff_count_le_one.1 hs.nodup_started number
      refused_idle := fun r hr hmem =>
        (List.nodup_append.1 hnumbers).2.2 r.1.2 (List.map_subset _ hs.started_subset hmem) r.1.2
          (by simpa using ⟨r.1.1, r.2, hr⟩) rfl
      length_queue_le := hs.length_queue_le
      length_running_le := hs.length_workers ▸ History.length_running_le h.pool
      in_order := hs.accepted_eq ▸ List.prefix_append _ _
      all_finished := fun hl t hm => by
        have hq := hs.queue_eq_nil_of_live ht hl
        have hr := running_eq_nil_of_live hl
        have hp := hplaced t hm
        have ha := hs.accounted
        rw [hq, hr] at ha
        rw [queuedNumbers, runningNumbers, hq, hr] at hp
        exact ⟨by simpa using ha.subset hm, by simpa using hp⟩ }

end History

theorem make?_eq_fresh (name : String) {threads capacity : Nat} (ht : 0 < threads)
    (hc : 0 < capacity) :
    (make? name threads capacity : Except PoolError (Pool (Ticket α))) =
      .ok (History.fresh name threads capacity) :=
  make?_eq name ht hc

/-- **Every task handed to a pool has exactly one fate.**  The pool has any positive number of
workers and any positive capacity, and submissions, starts, ends, panics, closing and leaving come
in any order. -/
theorem every_task_has_one_fate (name : String) {threads capacity : Nat} (ht : 0 < threads)
    (hc : 0 < capacity) :
    ∃ p : Pool (Ticket α), make? name threads capacity = .ok p ∧
      ∀ (moves : List (Move α)) (h : History α), (History.start p).run? moves = some h →
        h.OneFate threads capacity := by
  refine ⟨History.fresh name threads capacity, make?_eq_fresh name ht hc, fun moves h hr => ?_⟩
  exact ((History.sound_start name threads capacity).run? hr).oneFate ht

/-- The end of a pool with one worker and room for one task, in which one task panicked, one was
refused for want of room and one came too late. -/
def smallPoolEnd : History Nat where
  pool := ⟨"small", 1, [], [.gone], true⟩
  submitted := [7, 7, 8, 9]
  accepted := [(7, 0), (7, 1)]
  refused := [((8, 2), .rejected "small" 1), ((9, 3), .shutdown "small")]
  started := [(7, 0), (7, 1)]
  finished := [((7, 0), .panicked .other), ((7, 1), .returned)]

theorem fates_in_a_small_pool :
    0 < 1 ∧
      (History.start (History.fresh "small" 1 1)).run?
          [.submit 7, .take 0, .submit 7, .submit 8, .finish 0 (.panicked .other),
            .close, .submit 9, .take 0, .finish 0 .returned, .leave 0] = some smallPoolEnd ∧
        smallPoolEnd.pool.live = 0 ∧ smallPoolEnd.OneFate 1 1 := by
  obtain ⟨p, hp, hfate⟩ := every_task_has_one_fate (α := Nat) "small" Nat.one_pos Nat.one_pos
  cases hp
  refine ⟨Nat.one_pos, ?run, rfl, hfate _ _ ?run⟩
  rfl

end Pool

end AgentIntake
