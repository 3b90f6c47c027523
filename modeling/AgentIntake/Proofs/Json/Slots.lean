import AgentIntake.Json.Record

/-!
# What the members of a record have to be

A record is read from the members of a document one after the other, and each of them may change the
state.  What the members have to be can be said without the order: for each slot, which values stand
under its name (`valuesOf`).  There may be one of them, and it has to be of the slot's kind; there
may be none if the slot can be left out (`exists_ofMembers_iff`).  Members that no slot names do not
occur in that.

This needs slots that do not interfere: each is found by its name, and a value fills its own slot
and no other (`Record.Regular`).
-/

namespace AgentIntake.Json

variable {α β σ : Type}

/-! ## 1.  Values under a name -/

/-- The values of the members with a name, in order. -/
def valuesOf (name : String) (members : List (String × Json)) : List Json :=
  (members.filter (·.1 == name)).map (·.2)

@[simp] theorem valuesOf_nil (name : String) : valuesOf name [] = [] :=
  rfl

theorem valuesOf_cons_self (name : String) (j : Json) (members : List (String × Json)) :
    valuesOf name ((name, j) :: members) = j :: valuesOf name members := by
  rw [valuesOf, List.filter_cons_of_pos (by simp)]
  rfl

theorem valuesOf_cons_of_ne {name key : String} (h : key ≠ name) (j : Json)
    (members : List (String × Json)) :
    valuesOf name ((key, j) :: members) = valuesOf name members := by
  rw [valuesOf, List.filter_cons_of_neg (by simpa using h)]
  rfl

/-- Members with another name do not matter. -/
theorem valuesOf_filter {name other : String} (h : name ≠ other) (members : List (String × Json)) :
    valuesOf name (members.filter (·.1 != other)) = valuesOf name members := by
  rw [valuesOf, List.filter_filter, valuesOf]
  refine congrArg _ (List.filter_congr fun m _ => ?_)
  by_cases hm : m.1 = name
  · simp [hm, h]
  · simp [hm]

theorem Schema.ofJson_check_eq_ok_iff {schema : Schema α} {f : α → Except Cause β} {j : Json}
    {b : β} : (schema.check f).ofJson j = .ok b ↔ ∃ a, schema.ofJson j = .ok a ∧ f a = .ok b := by
  unfold check
  dsimp only
  cases schema.ofJson j with
  | error => exact ⟨nofun, fun ⟨_, h, _⟩ => nomatch h⟩
  | ok a => exact ⟨fun h => ⟨a, rfl, h⟩, fun ⟨_, h, hf⟩ => by cases h; exact hf⟩

theorem Schema.ofJson_map_eq_ok_iff {schema : Schema α} {f : α → β} {j : Json} {b : β} :
    (schema.map f).ofJson j = .ok b ↔ ∃ a, schema.ofJson j = .ok a ∧ f a = b := by
  rw [map, ofJson_check_eq_ok_iff]
  exact exists_congr fun a => and_congr_right fun _ => Except.ok.injEq .. |>.to_iff

/-- What is found by a name has that name. -/
theorem Schema.eq_of_named_map {wire : α → String} {all : List α} {name : String} {a : α}
    (h : named (all.map fun a => (wire a, a)) name = .ok a) : name = wire a := by
  rw [named] at h
  split at h
  · rename_i key b hfind
    cases h
    have hkey : key = name := by simpa using List.find?_some hfind
    obtain ⟨b', -, hb⟩ := List.mem_map.1 (List.mem_of_find?_eq_some hfind)
    obtain ⟨rfl, rfl⟩ := Prod.mk.inj hb
    exact hkey.symm
  · cases h

/-! ## 2.  Slots that do not interfere -/

/-- The slots of the record do not interfere with each other, and the record is complete when those
that must be there are filled.

A slot is the one with its name (`named`).  A value fills its slot (`fills`).  A value leaves the
other slots as they are (`spares`).  No slot is filled at first (`empty`).  The record is complete
when the slots are filled that must be there (`complete`). -/
structure Record.Regular (record : Record σ α) : Prop where
  named : ∀ slot ∈ record.slots, record.slot? slot.name = some slot
  fills : ∀ slot ∈ record.slots, ∀ ⦃j change⦄, slot.value.ofJson j = .ok change →
    ∀ state, slot.filled (change state) = true
  spares : ∀ slot ∈ record.slots, ∀ other ∈ record.slots, other.name ≠ slot.name →
    ∀ ⦃j change⦄, slot.value.ofJson j = .ok change →
      ∀ state, other.filled (change state) = other.filled state
  empty : ∀ slot ∈ record.slots, slot.filled record.start = false
  complete : ∀ state, (∃ a, record.finish state = .ok a) ↔
    ∀ slot ∈ record.slots, slot.required = true → slot.filled state = true

/-- The values can be taken into the slot. -/
def Slot.Accepts (slot : Slot σ) (state : σ) (values : List Json) : Prop :=
  values = [] ∨
    ∃ j change, values = [j] ∧ slot.filled state = false ∧ slot.value.ofJson j = .ok change

theorem Record.mem_of_slot? {record : Record σ α} {key : String} {slot : Slot σ}
    (h : record.slot? key = some slot) : slot ∈ record.slots ∧ slot.name = key :=
  ⟨List.mem_of_find?_eq_some h, by simpa using List.find?_some h⟩

theorem Record.ne_of_slot?_eq_none {record : Record σ α} {key : String}
    (h : record.slot? key = none) {slot : Slot σ} (hs : slot ∈ record.slots) : key ≠ slot.name := by
  rintro rfl
  exact List.find?_eq_none.1 h slot hs (by simp)

namespace Record.Regular

variable {record : Record σ α} (regular : record.Regular)

include regular

theorem eq_of_name_eq {slot other : Slot σ} (hs : slot ∈ record.slots) (ho : other ∈ record.slots)
    (h : other.name = slot.name) : other = slot := by
  have := regular.named other ho
  rw [h, regular.named slot hs] at this
  exact (Option.some.inj this).symm

/-- A slot that has just been filled accepts no more, and the others accept what they did. -/
theorem accepts_change {slot other : Slot σ} (hs : slot ∈ record.slots) (ho : other ∈ record.slots)
    {j : Json} {change : σ → σ} (hv : slot.value.ofJson j = .ok change) {state : σ}
    (hf : slot.filled state = false) (members : List (String × Json)) :
    other.Accepts (change state) (valuesOf other.name members) ↔
      other.Accepts state (valuesOf other.name ((slot.name, j) :: members)) := by
  by_cases hn : other.name = slot.name
  · obtain rfl := regular.eq_of_name_eq hs ho hn
    rw [valuesOf_cons_self]
    constructor
    · rintro (hnil | ⟨k, change', -, hfilled, -⟩)
      · exact .inr ⟨j, change, by rw [hnil], hf, hv⟩
      · rw [regular.fills other hs hv state] at hfilled
        cases hfilled
    · rintro (hnil | ⟨k, change', hone, -, -⟩)
      · cases hnil
      · exact .inl (List.cons.inj hone).2
  · rw [valuesOf_cons_of_ne (Ne.symm hn), Slot.Accepts, Slot.Accepts,
      regular.spares slot hs other ho hn hv state]

/-- **The members can be taken if the values under each name can.** -/
theorem exists_membersInto_iff (state : σ) (members : List (String × Json)) :
    (∃ final, record.membersInto state members = .ok final) ↔
      ∀ slot ∈ record.slots, slot.Accepts state (valuesOf slot.name members) := by
  induction members generalizing state with
  | nil => exact ⟨fun _ _ _ => .inl rfl, fun _ => ⟨state, rfl⟩⟩
  | cons m members ih =>
    obtain ⟨key, j⟩ := m
    rw [membersInto]
    cases hslot : record.slot? key with
    | none =>
      dsimp only
      rw [ih state]
      refine forall₂_congr fun slot hs => ?_
      rw [valuesOf_cons_of_ne (ne_of_slot?_eq_none hslot hs)]
    | some slot =>
      obtain ⟨hs, rfl⟩ := mem_of_slot? hslot
      dsimp only
      -- a member that is not taken is the reason why its slot does not accept
      have hrefused (hno : slot.filled state = true ∨ ∃ cause, slot.value.ofJson j = .error cause) :
          ¬ slot.Accepts state (valuesOf slot.name ((slot.name, j) :: members)) := by
        rw [valuesOf_cons_self]
        rintro (hnil | ⟨k, change, hone, hfree, hvalue⟩)
        · cases hnil
        · obtain ⟨rfl, -⟩ := List.cons.inj hone
          rcases hno with hfull | ⟨cause, hbad⟩
          · rw [hfull] at hfree
            cases hfree
          · rw [hbad] at hvalue
            cases hvalue
      by_cases hf : slot.filled state = true
      · rw [if_pos hf]
        exact ⟨fun ⟨_, h⟩ => (by cases h), fun h => absurd (h slot hs) (hrefused (.inl hf))⟩
      · rw [if_neg hf]
        cases hv : slot.value.ofJson j with
        | error cause =>
          exact ⟨fun ⟨_, h⟩ => (by cases h), fun h => absurd (h slot hs) (hrefused (.inr ⟨_, hv⟩))⟩
        | ok change =>
          dsimp only
          rw [ih (change state)]
          exact forall₂_congr fun other ho =>
            regular.accepts_change hs ho hv (by simpa using hf) members

/-- A slot is filled at the end if it was, or if there was a value for it. -/
theorem filled_of_membersInto {slot : Slot σ} (hs : slot ∈ record.slots) {state final : σ}
    {members : List (String × Json)} (h : record.membersInto state members = .ok final) :
    slot.filled final = true ↔ slot.filled state = true ∨ valuesOf slot.name members ≠ [] := by
  induction members generalizing state with
  | nil =>
    cases h
    simp
  | cons m members ih =>
    obtain ⟨key, j⟩ := m
    rw [membersInto] at h
    cases hslot : record.slot? key with
    | none =>
      rw [hslot] at h
      rw [valuesOf_cons_of_ne (ne_of_slot?_eq_none hslot hs), ih h]
    | some other =>
      obtain ⟨ho, rfl⟩ := mem_of_slot? hslot
      rw [hslot] at h
      dsimp only at h
      split at h
      · cases h
      · split at h
        · cases h
        · rename_i change hv
          rw [ih h]
          by_cases hn : slot.name = other.name
          · obtain rfl := regular.eq_of_name_eq ho hs hn
            simp [regular.fills slot hs hv state, valuesOf_cons_self]
          · rw [valuesOf_cons_of_ne (Ne.symm hn), regular.spares other ho slot hs hn hv state]

end Record.Regular

/-- The values are what the slot needs. -/
def Slot.Takes (slot : Slot σ) (values : List Json) : Prop :=
  (values = [] ∧ slot.required = false) ∨
    ∃ j change, values = [j] ∧ slot.value.ofJson j = .ok change

/-- **The members make a record if under each name there is what its slot needs.** -/
theorem Record.Regular.exists_ofMembers_iff {record : Record σ α} (regular : record.Regular)
    (members : List (String × Json)) :
    (∃ a, record.ofMembers members = .ok a) ↔
      ∀ slot ∈ record.slots, slot.Takes (valuesOf slot.name members) := by
  constructor
  · rintro ⟨a, ha⟩ slot hs
    unfold ofMembers at ha
    split at ha
    · cases ha
    · rename_i final hm
      have hfilled := (regular.complete final).1 ⟨a, ha⟩ slot hs
      rw [regular.filled_of_membersInto hs hm, regular.empty slot hs] at hfilled
      rcases (regular.exists_membersInto_iff _ _).1 ⟨final, hm⟩ slot hs with
        hnil | ⟨j, c, hj, -, hc⟩
      · refine .inl ⟨hnil, Bool.eq_false_iff.2 fun hrequired => ?_⟩
        exact (hfilled hrequired).elim Bool.false_ne_true fun h => h hnil
      · exact .inr ⟨j, c, hj, hc⟩
  · intro h
    obtain ⟨final, hm⟩ : ∃ final, record.membersInto record.start members = .ok final := by
      refine (regular.exists_membersInto_iff record.start members).2 ?_
      intro slot hs
      rcases h slot hs with ⟨hnil, -⟩ | ⟨j, c, hj, hc⟩
      · exact .inl hnil
      · exact .inr ⟨j, c, hj, regular.empty slot hs, hc⟩
    rw [ofMembers, hm]
    refine (regular.complete final).2 fun slot hs hrequired => ?_
    refine (regular.filled_of_membersInto hs hm).2 (.inr fun hnil => ?_)
    rcases h slot hs with ⟨-, hoptional⟩ | ⟨j, c, hj, -⟩
    · rw [hrequired] at hoptional
      cases hoptional
    · rw [hnil] at hj
      cases hj

/-! ## 3.  What is kept of a value -/

/-- A part of the state in which a slot keeps what a document means; the other slots keep their
values elsewhere. -/
structure Record.Keeps (record : Record σ α) (slot : Slot σ) (part : σ → Option β)
    (ofJson : Json → Except Cause β) : Prop where
  keeps : ∀ ⦃j change⦄, slot.value.ofJson j = .ok change →
    ∀ state, part (change state) = (ofJson j).toOption
  spares : ∀ other ∈ record.slots, other.name ≠ slot.name →
    ∀ ⦃j change⦄, other.value.ofJson j = .ok change → ∀ state, part (change state) = part state

/-- **What is kept at the end is what the value means.** -/
theorem Record.Regular.part_of_membersInto {record : Record σ α} (regular : record.Regular)
    {slot : Slot σ} (hs : slot ∈ record.slots) {part : σ → Option β}
    {ofJson : Json → Except Cause β} (hk : record.Keeps slot part ofJson) {state final : σ}
    {members : List (String × Json)} (h : record.membersInto state members = .ok final) :
    part final = match valuesOf slot.name members with
      | [] => part state
      | j :: _ => (ofJson j).toOption := by
  induction members generalizing state with
  | nil =>
    cases h
    rfl
  | cons m members ih =>
    obtain ⟨key, j⟩ := m
    have haccepts := (regular.exists_membersInto_iff _ _).1 ⟨final, h⟩ slot hs
    rw [membersInto] at h
    cases hslot : record.slot? key with
    | none =>
      rw [hslot] at h
      rw [valuesOf_cons_of_ne (ne_of_slot?_eq_none hslot hs), ih h]
    | some other =>
      obtain ⟨ho, rfl⟩ := mem_of_slot? hslot
      rw [hslot] at h
      dsimp only at h
      split at h
      · cases h
      · split at h
        · cases h
        · rename_i change hv
          rw [ih h]
          by_cases hn : slot.name = other.name
          · obtain rfl := regular.eq_of_name_eq ho hs hn
            rw [valuesOf_cons_self] at haccepts ⊢
            rcases haccepts with hnil | ⟨k, c, hone, -⟩
            · cases hnil
            · rw [(List.cons.inj hone).2]
              exact hk.keeps hv state
          · rw [valuesOf_cons_of_ne (Ne.symm hn), hk.spares other ho (Ne.symm hn) hv state]

end AgentIntake.Json
