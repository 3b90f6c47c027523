import AgentIntake.Acceptor.Traffic
import AgentIntake.Proofs.Connection.Story
import Mathlib.Data.List.Basic

/-!
# One connection among others

An event concerns one connection at most.  `Share` says once what it can mean for the connection
with a given number: nothing, or it is let in, or it follows its automaton to somewhere.
`share_next` is the case analysis over all events, and later proofs only look at the three cases.

Numbers are given in order and never twice, which is why a connection that is let in takes the place
of no other.  This is the one thing that `share_next` has to be told: nothing is served under the
next number.
-/

namespace AgentIntake.Traffic

variable {η : Type} {t u : Traffic η} {id : Nat}

/-! ## 1.  Effects by connection -/

/-- What belongs to one connection, in order. -/
def about (id : Nat) (effects : List Effect) : List Connection.Effect :=
  effects.filterMap (Effect.about? id)

theorem about_map_self (id : Nat) (effects : List Connection.Effect) :
    about id (effects.map (.of id)) = effects := by
  rw [about, List.filterMap_map]
  exact (List.filterMap_congr fun _ _ => if_pos rfl).trans List.filterMap_some

theorem about_map_of_ne {k : Nat} (h : k ≠ id) (effects : List Connection.Effect) :
    about id (effects.map (.of k)) = [] := by
  rw [about, List.filterMap_map]
  exact List.filterMap_eq_nil_iff.2 fun _ _ => if_neg h

/-! ## 2.  The table -/

theorem connection?_mk (a : Acceptor η) (served : List (Nat × Connection)) :
    connection? ⟨a, served⟩ id = (served.find? (·.1 = id)).map (·.2) :=
  rfl

/-- A new connection is found unless its number is taken. -/
theorem connection?_append (a : Acceptor η) (served : List (Nat × Connection)) (k : Nat)
    (c : Connection) (id : Nat) :
    connection? ⟨a, served ++ [(k, c)]⟩ id =
      (connection? ⟨a, served⟩ id).or (if k = id then some c else none) := by
  rw [connection?, connection?, List.find?_append, List.find?_singleton]
  by_cases h : k = id
  · cases served.find? (·.1 = id) <;> simp [h]
  · cases served.find? (·.1 = id) <;> simp [h]

theorem find?_update_self (served : List (Nat × Connection)) {c d : Connection}
    (h : (served.find? (·.1 = id)).map (·.2) = some c) :
    ((served.map fun entry => if entry.1 = id then (id, d) else entry).find? (·.1 = id)).map (·.2) =
      some d := by
  induction served with
  | nil => cases h
  | cons entry served ih =>
    by_cases he : entry.1 = id
    · simp [he]
    · rw [List.find?_cons_of_neg (by simpa using he)] at h
      rw [List.map_cons, if_neg he, List.find?_cons_of_neg (by simpa using he)]
      exact ih h

theorem find?_update_of_ne {k : Nat} (h : k ≠ id) (served : List (Nat × Connection))
    (d : Connection) :
    (served.map fun entry => if entry.1 = k then (k, d) else entry).find? (·.1 = id) =
      served.find? (·.1 = id) := by
  induction served with
  | nil => rfl
  | cons entry served ih =>
    by_cases he : entry.1 = k
    · have hne : ¬entry.1 = id := fun hi => h (he.symm.trans hi)
      simp only [List.map_cons, if_pos he, List.find?_cons, h, hne, decide_false]
      exact ih
    · simp only [List.map_cons, if_neg he, List.find?_cons]
      rw [ih]

/-- A connection that has taken something is found as it is now, if it is open. -/
theorem connection?_update_self (t : Traffic η) {c d : Connection} (h : t.connection? id = some c) :
    (t.update id d).connection? id = if d.isClosed then none else some d := by
  unfold update
  split
  · rw [connection?_mk, List.find?_eq_none.2, Option.map_none]
    intro entry he
    simpa using (List.mem_filter.1 he).2
  · exact find?_update_self t.served h

/-- The others are found as they were. -/
theorem connection?_update_of_ne (t : Traffic η) {k : Nat} (h : k ≠ id) (d : Connection) :
    (t.update k d).connection? id = t.connection? id := by
  unfold update
  split
  · rw [connection?_mk, List.find?_filter]
    refine congrArg (Option.map _) (congrArg (List.find? · t.served) (funext fun entry => ?_))
    by_cases he : entry.1 = id
    · simp [he, h.symm]
    · simp [he]
  · exact congrArg (Option.map _) (find?_update_of_ne h t.served d)

theorem nextId_update (t : Traffic η) (id : Nat) (c : Connection) :
    (t.update id c).acceptor.nextId = t.acceptor.nextId := by
  unfold update
  split <;> rfl

/-- A connection that is served takes what comes. -/
theorem serve_eq {c : Connection} (h : t.connection? id = some c)
    (take : Connection → Connection × List Connection.Effect) :
    t.serve id take = (t.update id (take c).1, (take c).2.map (.of id)) := by
  rw [serve, h]

/-! ## 3.  Events -/

/-- What an event means for one connection: the effects that belong to it. -/
inductive Share (written : Nat → Option TransportError) (t u : Traffic η) (id : Nat) :
    List Connection.Effect → Prop where
  | nothing (same : u.connection? id = t.connection? id) : Share written t u id []
  | opened (remote : SocketAddress) (new : t.acceptor.nextId = id)
    (counted : u.acceptor.nextId = id + 1) (serves : u.connection? id = some (.opened remote)) :
    Share written t u id (Connection.opened remote).openEffects
  | followed {c d : Connection} {effects : List Connection.Effect} (was : t.connection? id = some c)
    (follows : c.Follows written effects d)
    (serves : u.connection? id = if d.isClosed then none else some d) : Share written t u id effects

/-- A number that is not given yet stays so, unless it is given now. -/
theorem Share.eq_none {written : Nat → Option TransportError} {effects : List Connection.Effect}
    (h : Share written t u id effects) (ht : t.connection? id = none)
    (hi : u.acceptor.nextId ≤ id) :
    u.connection? id = none := by
  cases h with
  | nothing same => exact same.trans ht
  | opened remote new counted =>
    rw [counted] at hi
    exact absurd hi (Nat.not_succ_le_self id)
  | followed was =>
    rw [was] at ht
    cases ht

variable (written : Nat → Nat → Option TransportError)

/-- A connection that takes something shares it with no other. -/
theorem share_serve (t : Traffic η) (k : Nat)
    (take : Connection → Connection × List Connection.Effect)
    (h : ∀ c : Connection, c.Follows (written k) (take c).2 (take c).1) :
    Share (written id) t (t.serve k take).1 id (about id (t.serve k take).2) := by
  cases hc : t.connection? k with
  | none =>
    rw [serve, hc]
    exact .nothing rfl
  | some c =>
    rw [serve_eq hc]
    by_cases hk : k = id
    · subst hk
      rw [about_map_self]
      exact .followed hc (h c) (connection?_update_self t hc)
    · rw [about_map_of_ne hk]
      exact .nothing (connection?_update_of_ne t hk _)

theorem nextId_serve (t : Traffic η) (k : Nat)
    (take : Connection → Connection × List Connection.Effect) :
    (t.serve k take).1.acceptor.nextId = t.acceptor.nextId := by
  cases hc : t.connection? k with
  | none => rw [serve, hc]
  | some c =>
    rw [serve_eq hc]
    exact nextId_update t k _

theorem about_dropped (id : Nat) (records : List Log.Record) :
    about id (records.map Effect.logged ++ [.dropped]) = [] := by
  rw [about, List.filterMap_append, List.filterMap_map]
  exact (congrArg (· ++ _) (List.filterMap_eq_nil_iff.2 fun _ _ => rfl)).trans rfl

/-- A connection that arrives is dropped and changes nothing, or it is let in under the next
number. -/
theorem arrive_cases (t : Traffic η) (remote : SocketAddress) :
    (∃ records : List Log.Record, t.arrive remote = (t, records.map Effect.logged ++ [.dropped])) ∨
      ∃ a : Acceptor η, a.nextId = t.acceptor.nextId + 1 ∧
        t.arrive remote =
          (⟨a, t.served ++ [(t.acceptor.nextId, Connection.opened remote)]⟩,
            .admitted t.acceptor.nextId ::
              (Connection.opened remote).openEffects.map (.of t.acceptor.nextId)) := by
  unfold arrive Acceptor.accept
  by_cases hi : remote.ip ∈ t.acceptor.ignored
  · rw [if_pos hi]
    exact .inl ⟨_, rfl⟩
  rw [if_neg hi]
  by_cases hl : (!t.acceptor.hasListener) = true
  · rw [if_pos hl]
    exact .inl ⟨_, rfl⟩
  rw [if_neg hl]
  by_cases hc : t.acceptor.isClosed = true
  · rw [if_pos hc]
    exact .inl ⟨_, rfl⟩
  rw [if_neg hc]
  exact .inr ⟨_, rfl, rfl⟩

theorem share_arrive (h : t.connection? t.acceptor.nextId = none) (remote : SocketAddress) :
    Share (written id) t (t.arrive remote).1 id (about id (t.arrive remote).2) := by
  obtain ⟨records, hd⟩ | ⟨a, ha, hd⟩ := arrive_cases t remote
  · rw [hd, about_dropped]
    exact .nothing rfl
  · have hc := connection?_append a t.served t.acceptor.nextId (Connection.opened remote) id
    rw [hd]
    by_cases hk : t.acceptor.nextId = id
    · subst hk
      rw [if_pos rfl] at hc
      show Share _ _ _ _ (about _ (List.map _ _))
      rw [about_map_self]
      exact .opened remote rfl ha (hc.trans (congrArg (Option.or · _) h))
    · rw [if_neg hk, Option.or_none] at hc
      show Share _ _ _ _ (about _ (List.map _ _))
      rw [about_map_of_ne hk]
      exact .nothing hc

theorem about_closed (id : Nat) (cut : List Nat) (records : List Log.Record) :
    about id (cut.map Effect.cut ++ records.map .logged) = [] := by
  rw [about, List.filterMap_append, List.filterMap_map, List.filterMap_map]
  exact List.append_eq_nil_iff.2
    ⟨List.filterMap_eq_nil_iff.2 fun _ _ => rfl, List.filterMap_eq_nil_iff.2 fun _ _ => rfl⟩

/-- **What an event means for one connection.** -/
theorem share_next (h : t.connection? t.acceptor.nextId = none) (event : TrafficEvent) :
    Share (written id) t (t.next written event).1 id (about id (t.next written event).2) := by
  cases event with
  | arrived remote => exact share_arrive written h remote
  | received k bytes =>
    exact share_serve written t k _ fun c => Connection.follows_receive _ c bytes
  | ended k => exact share_serve written t k _ fun c => Connection.follows_finish _ c
  | failed k cause => exact share_serve written t k _ fun c => Connection.follows_fail _ c cause
  | ignoring addresses => exact .nothing rfl
  | closed =>
    show Share _ t { t with acceptor := _ } id (about id (_ ++ _))
    rw [about_closed]
    exact .nothing rfl

/-- Numbers only grow. -/
theorem nextId_le_next (t : Traffic η) (event : TrafficEvent) :
    t.acceptor.nextId ≤ (t.next written event).1.acceptor.nextId := by
  cases event with
  | arrived remote =>
    show _ ≤ (t.arrive remote).1.acceptor.nextId
    obtain ⟨records, hd⟩ | ⟨a, ha, hd⟩ := arrive_cases t remote
    · exact Nat.le_of_eq (congrArg (·.1.acceptor.nextId) hd).symm
    · rw [hd]
      exact ha ▸ Nat.le_succ _
  | received k bytes | ended k | failed k cause => exact Nat.le_of_eq (nextId_serve t k _).symm
  | ignoring addresses => exact Nat.le_refl _
  | closed =>
    show _ ≤ t.acceptor.close.1.nextId
    unfold Acceptor.close
    cases t.acceptor.bound <;> exact Nat.le_refl _

end AgentIntake.Traffic
