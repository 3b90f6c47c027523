import AgentIntake.Frame.Reader
import AgentIntake.Proofs.Frame.RoundTrip
import AgentIntake.Proofs.Json.Members
import AgentIntake.Proofs.Json.Slots

/-!
# What the members of a frame come to

The text of an object is a frame or not, whatever the order and the layout of its members: it is
decided by the values that stand under the names its kind has, and under `kind` (`parse_eq_ok_iff`).
`Tells` says what these values are for each frame.

There are two steps, as in the reader.  The first sorts out the kind; it is understood member by
member while the text is read (`understands_taggedFields`), and comes to the one value under `kind`
and to the other members (`taggedFields_ofJson_iff`).  The second makes a record of the others,
whose slots do not interfere (`Kind.regular`).
-/

namespace AgentIntake.Frame

open Json (valuesOf)

/-! ## 1.  The kind and the others -/

/-- The kind that a document names. -/
def kindOf? : Json → Option Kind
  | .string s => (Json.Schema.named (Kind.all.map fun k => (k.wire, k)) s).toOption
  | _ => none

theorem kindOf?_eq_some_iff {j : Json} {kind : Kind} :
    kindOf? j = some kind ↔ j = .string kind.wire := by
  constructor
  · intro h
    cases j with
    | string s =>
      rw [kindOf?] at h
      cases hk : Json.Schema.named (Kind.all.map fun k => (k.wire, k)) s with
      | error =>
        rw [hk] at h
        cases h
      | ok k =>
        rw [hk] at h
        cases h
        rw [Json.Schema.eq_of_named_map hk]
    | null | bool | number | array | object => cases h
  · rintro rfl
    rw [kindOf?, named_wire]
    rfl

/-- What a member does to what is known of a frame. -/
def taggedMeaning (t : Tagging) (key : String) (j : Json) : Option Tagging :=
  if key = "kind" then
    match t.kind with
    | some _ => none
    | none => (kindOf? j).map fun kind => { t with kind := some kind }
  else some { t with others := (key, j) :: t.others }

theorem understands_kindReader (depth : Nat) : kindReader.Understands depth kindOf? := by
  intro s r j hj
  refine ((Json.understands_stringAs "variant identifier").checkAt .here _ hj).trans ?_
  cases j <;> rfl

theorem understands_taggedFields :
    taggedFields.Understands (Json.depthLimit - 1) taggedMeaning := by
  intro s r j hj t key
  unfold taggedFields taggedMeaning
  dsimp only
  by_cases hk : key = "kind"
  · rw [if_pos hk, if_pos hk]
    cases t.kind with
    | some _ => rfl
    | none => exact (understands_kindReader _).map _ hj
  · rw [if_neg hk, if_neg hk]
    exact (Json.understands_document _).map _ hj

/-- **The members come to the one value under `kind` and to the others in order.** -/
theorem comeTo_taggedMeaning_iff {t final : Tagging} {members : List (String × Json)} :
    Json.comeTo taggedMeaning t members = some final ↔
      final.others = (members.filter (·.1 != "kind")).reverse ++ t.others ∧
        (valuesOf "kind" members = [] ∧ final.kind = t.kind ∨
          t.kind = none ∧ ∃ kind : Kind, valuesOf "kind" members = [.string kind.wire] ∧
            final.kind = some kind) := by
  induction members generalizing t with
  | nil =>
    obtain ⟨kind, others⟩ := t
    obtain ⟨kind', others'⟩ := final
    simp [Json.comeTo, eq_comm, and_comm]
  | cons m members ih =>
    obtain ⟨key, j⟩ := m
    rw [Json.comeTo, taggedMeaning]
    by_cases hk : key = "kind"
    · subst hk
      rw [if_pos rfl, Json.valuesOf_cons_self, List.filter_cons_of_neg (by simp)]
      cases ht : t.kind with
      | some kind => simp
      | none =>
        dsimp only
        cases hj : kindOf? j with
        | none =>
          -- a value that names no kind is not the one value
          simp only [Option.map_none, Option.bind_none, reduceCtorEq, false_iff, not_and, not_or]
          refine fun _ => ⟨by simp, ?_⟩
          rintro - ⟨kind, hone, -⟩
          rw [kindOf?_eq_some_iff.2 (List.cons.inj hone).1] at hj
          cases hj
        | some kind =>
          obtain rfl := kindOf?_eq_some_iff.1 hj
          rw [Option.map_some, Option.bind_some, ih]
          refine and_congr_right fun _ => ?_
          constructor
          · rintro (⟨hnil, hfinal⟩ | ⟨hnone, -⟩)
            · exact .inr ⟨rfl, kind, by rw [hnil], hfinal⟩
            · cases hnone
          · rintro (⟨hnil, -⟩ | ⟨-, kind', hone, hfinal⟩)
            · cases hnil
            · obtain ⟨hwire, hnil⟩ := List.cons.inj hone
              have hkind := kindOf?_eq_some_iff.2 hwire
              rw [hj] at hkind
              exact .inl ⟨hnil, by rw [hfinal, ← hkind]⟩
    · rw [if_neg hk, Option.bind_some, ih, Json.valuesOf_cons_of_ne hk,
        List.filter_cons_of_pos (by simpa using hk), List.reverse_cons, List.append_assoc,
        List.singleton_append]

theorem taggedFields_ofJson_iff {members : List (String × Json)} {tagged : Tagged} :
    taggedFields.ofJson taggedMeaning (.object members) = some tagged ↔
      ∃ kind : Kind, valuesOf "kind" members = [.string kind.wire] ∧
        tagged = .members kind (members.filter (·.1 != "kind")) := by
  rw [Json.Fields.ofJson, Option.bind_eq_some_iff]
  constructor
  · rintro ⟨final, hfinal, htagged⟩
    obtain ⟨hothers, hkind⟩ := comeTo_taggedMeaning_iff.1 hfinal
    rcases hkind with ⟨-, hnone⟩ | ⟨-, kind, hone, hsome⟩
    · unfold taggedFields at htagged
      dsimp only at htagged
      rw [hnone] at htagged
      cases htagged
    · unfold taggedFields at htagged
      dsimp only at htagged
      rw [hsome, hothers] at htagged
      refine ⟨kind, hone, ?_⟩
      rw [← Option.some.inj htagged]
      simp [taggedFields]
  · rintro ⟨kind, hone, rfl⟩
    refine ⟨⟨some kind, (members.filter (·.1 != "kind")).reverse⟩,
      comeTo_taggedMeaning_iff.2 ⟨by simp [taggedFields], .inr ⟨rfl, kind, hone, rfl⟩⟩, ?_⟩
    show some (Tagged.members kind (members.filter (·.1 != "kind")).reverse.reverse) = _
    rw [List.reverse_reverse]

/-! ## 2.  The slots of the kinds -/

theorem exists_change_of_map {β : Type} (schema : Json.Schema β) (f : β → Draft → Draft) {j : Json}
    {change : Draft → Draft} (h : (schema.map f).ofJson j = .ok change) :
    ∃ b, schema.ofJson j = .ok b ∧ change = f b :=
  (Json.Schema.ofJson_map_eq_ok_iff.1 h).imp fun _ hb => ⟨hb.1, hb.2.symm⟩

section Slots

variable {j : Json} {change : Draft → Draft}

theorem change_of_id (h : idSlot.value.ofJson j = .ok change) :
    ∃ id, (Json.Schema.unsigned64 "u64").ofJson j = .ok id ∧
      change = fun d => { d with id := some id } :=
  exists_change_of_map _ (fun id d => { d with id := some id }) h

theorem change_of_counter (h : counterSlot.value.ofJson j = .ok change) :
    ∃ id, Json.Schema.signed32.ofJson j = .ok id ∧
      change = fun d => { d with counter := some id } :=
  exists_change_of_map _ (fun id d => { d with counter := some id }) h

/-- A payload as it is written. -/
def payloadSchema : Json.Schema (List UInt8) :=
  (Json.Schema.string "a hex encoded string").check payloadOf

theorem change_of_payload (h : payloadSlot.value.ofJson j = .ok change) :
    ∃ payload, payloadSchema.ofJson j = .ok payload ∧
      change = fun d => { d with payload := some payload } :=
  exists_change_of_map payloadSchema (fun payload d => { d with payload := some payload }) h

theorem change_of_properties (h : propertiesSlot.value.ofJson j = .ok change) :
    ∃ properties, Properties.schema.optional.ofJson j = .ok properties ∧
      change = fun d => { d with properties := some properties } :=
  exists_change_of_map _ (fun properties d => { d with properties := some properties }) h

theorem change_of_decision (h : decisionSlot.value.ofJson j = .ok change) :
    ∃ decision, Decision.schema.ofJson j = .ok decision ∧
      change = fun d => { d with decision := some decision } :=
  exists_change_of_map _ (fun decision d => { d with decision := some decision }) h

end Slots

/-- The slots of all kinds. -/
def allSlots : List (Json.Slot Draft) :=
  [idSlot, counterSlot, payloadSlot, propertiesSlot, decisionSlot]

theorem Kind.slots_subset (kind : Kind) : ∀ slot ∈ kind.slots, slot ∈ allSlots := by
  cases kind <;> simp [slots, allSlots]

/-- A value fills its slot. -/
theorem filled_change {slot : Json.Slot Draft} (hs : slot ∈ allSlots) {j : Json}
    {change : Draft → Draft} (hv : slot.value.ofJson j = .ok change) (d : Draft) :
    slot.filled (change d) = true := by
  simp only [allSlots, List.mem_cons, List.not_mem_nil, or_false] at hs
  rcases hs with rfl | rfl | rfl | rfl | rfl
  · obtain ⟨b, -, rfl⟩ := change_of_id hv
    rfl
  · obtain ⟨b, -, rfl⟩ := change_of_counter hv
    rfl
  · obtain ⟨b, -, rfl⟩ := change_of_payload hv
    rfl
  · obtain ⟨b, -, rfl⟩ := change_of_properties hv
    rfl
  · obtain ⟨b, -, rfl⟩ := change_of_decision hv
    rfl

/-- What is read under other names stays as it is. -/
structure Draft.AgreeBut (name : String) (d d' : Draft) : Prop where
  id : name ≠ "id" → d'.id = d.id ∧ d'.counter = d.counter
  payload : name ≠ "payload" → d'.payload = d.payload
  properties : name ≠ "properties" → d'.properties = d.properties
  decision : name ≠ "decision" → d'.decision = d.decision

theorem agreeBut_change {slot : Json.Slot Draft} (hs : slot ∈ allSlots) {j : Json}
    {change : Draft → Draft} (hv : slot.value.ofJson j = .ok change) (d : Draft) :
    d.AgreeBut slot.name (change d) := by
  simp only [allSlots, List.mem_cons, List.not_mem_nil, or_false] at hs
  rcases hs with rfl | rfl | rfl | rfl | rfl
  · obtain ⟨b, -, rfl⟩ := change_of_id hv
    exact ⟨fun hn => absurd rfl hn, fun _ => rfl, fun _ => rfl, fun _ => rfl⟩
  · obtain ⟨b, -, rfl⟩ := change_of_counter hv
    exact ⟨fun hn => absurd rfl hn, fun _ => rfl, fun _ => rfl, fun _ => rfl⟩
  · obtain ⟨b, -, rfl⟩ := change_of_payload hv
    exact ⟨fun _ => ⟨rfl, rfl⟩, fun hn => absurd rfl hn, fun _ => rfl, fun _ => rfl⟩
  · obtain ⟨b, -, rfl⟩ := change_of_properties hv
    exact ⟨fun _ => ⟨rfl, rfl⟩, fun _ => rfl, fun hn => absurd rfl hn, fun _ => rfl⟩
  · obtain ⟨b, -, rfl⟩ := change_of_decision hv
    exact ⟨fun _ => ⟨rfl, rfl⟩, fun _ => rfl, fun _ => rfl, fun hn => absurd rfl hn⟩

/-- The slots with other names stay as they are. -/
theorem Draft.AgreeBut.filled_eq {name : String} {d d' : Draft} (h : d.AgreeBut name d')
    {slot : Json.Slot Draft} (hs : slot ∈ allSlots) (hn : name ≠ slot.name) :
    slot.filled d' = slot.filled d := by
  simp only [allSlots, List.mem_cons, List.not_mem_nil, or_false] at hs
  rcases hs with rfl | rfl | rfl | rfl | rfl
  · exact congrArg Option.isSome (h.id hn).1
  · exact congrArg Option.isSome (h.id hn).2
  · exact congrArg Option.isSome (h.payload hn)
  · exact congrArg Option.isSome (h.properties hn)
  · exact congrArg Option.isSome (h.decision hn)

theorem needed_eq_ok_iff {β : Type} {name : String} {o : Option β} {b : β} :
    Json.needed name o = .ok b ↔ o = some b := by
  cases o with
  | none => exact ⟨nofun, nofun⟩
  | some c =>
    exact ⟨fun h => congrArg some (Except.ok.inj h), fun h => by rw [Option.some.inj h]; rfl⟩

theorem bind_eq_ok_iff {ε α β : Type} {x : Except ε α} {f : α → Except ε β} {b : β} :
    (x >>= f) = .ok b ↔ ∃ a, x = .ok a ∧ f a = .ok b := by
  cases x with
  | error => exact ⟨nofun, fun ⟨_, h, _⟩ => nomatch h⟩
  | ok a => exact ⟨fun h => ⟨a, rfl, h⟩, fun ⟨_, h, hf⟩ => by cases h; exact hf⟩

/-- The frame is made of what has been read. -/
def Made (d : Draft) : Frame → Prop
  | handshake properties => d.properties.getD none = properties
  | handshakeResponse decision => d.decision = some decision
  | send payload => d.payload = some payload
  | request id payload | response id payload => d.id = some id ∧ d.payload = some payload
  | ping id | pong id => d.counter = some id

theorem Kind.finish_eq_ok_iff {kind : Kind} {d : Draft} {f : Frame} :
    kind.finish d = .ok f ↔ f.kind = kind ∧ f.Made d := by
  cases kind with
  | handshake =>
    rw [finish, Except.ok.injEq]
    cases f <;> simp [Frame.kind, Made]
  | handshakeResponse =>
    rw [finish, bind_eq_ok_iff]
    cases f <;> simp [Frame.kind, Made, needed_eq_ok_iff, pure, Except.pure]
  | send =>
    rw [finish, bind_eq_ok_iff]
    cases f <;> simp [Frame.kind, Made, needed_eq_ok_iff, pure, Except.pure]
  | request | response =>
    rw [finish, bind_eq_ok_iff]
    cases f <;> simp [Frame.kind, Made, needed_eq_ok_iff, bind_eq_ok_iff, pure, Except.pure]
  | ping | pong =>
    rw [finish, bind_eq_ok_iff]
    cases f <;> simp [Frame.kind, Made, needed_eq_ok_iff, pure, Except.pure]

/-- The frame of a kind is there when the slots are filled that must be. -/
theorem Kind.exists_finish_iff (kind : Kind) (d : Draft) :
    (∃ f, kind.finish d = .ok f) ↔
      ∀ slot ∈ kind.slots, slot.required = true → slot.filled d = true := by
  cases kind with
  | handshake => simp [slots, finish, propertiesSlot]
  | handshakeResponse =>
    simp [slots, finish, decisionSlot, bind_eq_ok_iff, needed_eq_ok_iff, Option.isSome_iff_exists,
      pure, Except.pure]
  | send =>
    simp [slots, finish, payloadSlot, bind_eq_ok_iff, needed_eq_ok_iff, Option.isSome_iff_exists,
      pure, Except.pure]
  | request | response =>
    simp [slots, finish, idSlot, payloadSlot, bind_eq_ok_iff, needed_eq_ok_iff,
      Option.isSome_iff_exists, pure, Except.pure]
  | ping | pong =>
    simp [slots, finish, counterSlot, bind_eq_ok_iff, needed_eq_ok_iff, Option.isSome_iff_exists,
      pure, Except.pure]

/-- A slot is found by its name among those of its kind. -/
theorem Kind.find?_slots {kind : Kind} {slot : Json.Slot Draft} (hs : slot ∈ kind.slots) :
    kind.slots.find? (·.name == slot.name) = some slot := by
  cases kind <;> simp only [slots, List.mem_cons, List.not_mem_nil, or_false] at hs
  all_goals
    first
    | (subst hs; simp [slots])
    | (rcases hs with rfl | rfl <;> simp [slots, idSlot, payloadSlot])

/-- The slots of a kind do not interfere. -/
theorem Kind.regular (kind : Kind) : kind.record.Regular where
  named _ hs := find?_slots hs
  fills slot hs _ _ hv d := filled_change (kind.slots_subset slot hs) hv d
  spares slot hs other ho hn _ _ hv d :=
    (agreeBut_change (kind.slots_subset slot hs) hv d).filled_eq
      (kind.slots_subset other ho) hn.symm
  empty slot hs := by
    have hall := kind.slots_subset slot hs
    simp only [allSlots, List.mem_cons, List.not_mem_nil, or_false] at hall
    rcases hall with rfl | rfl | rfl | rfl | rfl <;> rfl
  complete d := kind.exists_finish_iff d

/-! ## 3.  What the values come to -/

/-- One value stands under the name, and it means `b`. -/
def Means {β : Type} (members : List (String × Json)) (name : String)
    (ofJson : Json → Except Json.Cause β) (b : β) : Prop :=
  ∃ j, valuesOf name members = [j] ∧ ofJson j = .ok b

theorem Means.unique {β : Type} {members : List (String × Json)} {name : String}
    {ofJson : Json → Except Json.Cause β} {b b' : β} (h : Means members name ofJson b)
    (h' : Means members name ofJson b') : b = b' := by
  obtain ⟨j, hj, hb⟩ := h
  obtain ⟨j', hj', hb'⟩ := h'
  rw [hj] at hj'
  obtain rfl := (List.cons.inj hj').1
  rw [hb] at hb'
  exact Except.ok.inj hb'

/-- The frame holds what stands under the names of its members. -/
def Tells (members : List (String × Json)) : Frame → Prop
  | handshake properties =>
    (valuesOf "properties" members = [] ∧ properties = none) ∨
      Means members "properties" Properties.schema.optional.ofJson properties
  | handshakeResponse decision => Means members "decision" Decision.schema.ofJson decision
  | send payload => Means members "payload" payloadSchema.ofJson payload
  | request id payload | response id payload =>
    Means members "id" (Json.Schema.unsigned64 "u64").ofJson id ∧
      Means members "payload" payloadSchema.ofJson payload
  | ping id | pong id => Means members "id" Json.Schema.signed32.ofJson id

/-- No two frames of a kind hold the same. -/
theorem Tells.unique {members : List (String × Json)} {f g : Frame} (hf : f.Tells members)
    (hg : g.Tells members) (hk : f.kind = g.kind) : f = g := by
  cases f with
  | handshake p =>
    cases g <;> simp only [kind, reduceCtorEq] at hk
    rename_i q
    rcases hf with ⟨hnil, rfl⟩ | hf
    · rcases hg with ⟨-, rfl⟩ | ⟨j, hj, -⟩
      · rfl
      · rw [hnil] at hj
        cases hj
    · rcases hg with ⟨hnil, rfl⟩ | hg
      · obtain ⟨j, hj, -⟩ := hf
        rw [hnil] at hj
        cases hj
      · rw [hf.unique hg]
  | handshakeResponse d =>
    cases g <;> simp only [kind, reduceCtorEq] at hk
    exact congrArg _ (Means.unique hf hg)
  | send payload =>
    cases g <;> simp only [kind, reduceCtorEq] at hk
    exact congrArg _ (Means.unique hf hg)
  | request id payload | response id payload =>
    cases g <;> simp only [kind, reduceCtorEq] at hk
    rw [hf.1.unique hg.1, hf.2.unique hg.2]
  | ping id | pong id =>
    cases g <;> simp only [kind, reduceCtorEq] at hk
    exact congrArg _ (Means.unique hf hg)

section Parts

variable {kind : Kind} {members : List (String × Json)} {final : Draft} {β : Type}
  {slot : Json.Slot Draft} {part : Draft → Option β} {ofJson : Json → Except Json.Cause β}

/-- What is kept in a part of what has been read is the one value of its slot. -/
theorem means_of_part (hs : slot ∈ kind.slots) (hk : kind.record.Keeps slot part ofJson)
    (hstart : part kind.record.start = none)
    (h : kind.record.membersInto kind.record.start members = .ok final) {b : β}
    (hb : part final = some b) : Means members slot.name ofJson b := by
  have hpart := kind.regular.part_of_membersInto hs hk h
  rw [hb] at hpart
  rcases (kind.regular.exists_membersInto_iff _ _).1 ⟨final, h⟩ slot hs with hnil | ⟨j, c, hj, -, -⟩
  · rw [hnil] at hpart
    dsimp only at hpart
    rw [hstart] at hpart
    cases hpart
  · rw [hj] at hpart
    refine ⟨j, hj, ?_⟩
    dsimp only at hpart
    cases hv : ofJson j with
    | error =>
      rw [hv] at hpart
      cases hpart
    | ok c =>
      rw [hv] at hpart
      cases hpart
      rfl

/-- A slot whose values are put into a part that the other slots leave alone keeps them there. -/
theorem keeps_of_put {schema : Json.Schema β} {put : β → Draft → Draft}
    (hvalue : slot.value = schema.map put) (hput : ∀ b d, part (put b d) = some b)
    (hspares : ∀ {name : String} {d d' : Draft}, d.AgreeBut name d' → name ≠ slot.name →
      part d' = part d) :
    kind.record.Keeps slot part schema.ofJson where
  keeps _ _ hv d := by
    rw [hvalue] at hv
    obtain ⟨b, hb, rfl⟩ := exists_change_of_map schema put hv
    rw [hput, hb]
    rfl
  spares other ho hn _ _ hv d := hspares (agreeBut_change (kind.slots_subset other ho) hv d) hn

theorem keeps_id (kind : Kind) :
    kind.record.Keeps idSlot Draft.id (Json.Schema.unsigned64 "u64").ofJson :=
  keeps_of_put rfl (fun _ _ => rfl) fun h hn => (h.id hn).1

theorem keeps_counter (kind : Kind) :
    kind.record.Keeps counterSlot Draft.counter Json.Schema.signed32.ofJson :=
  keeps_of_put rfl (fun _ _ => rfl) fun h hn => (h.id hn).2

theorem keeps_payload (kind : Kind) :
    kind.record.Keeps payloadSlot Draft.payload payloadSchema.ofJson :=
  keeps_of_put (show _ = payloadSchema.map _ from rfl) (fun _ _ => rfl) fun h hn => h.payload hn

theorem keeps_properties (kind : Kind) :
    kind.record.Keeps propertiesSlot Draft.properties Properties.schema.optional.ofJson :=
  keeps_of_put rfl (fun _ _ => rfl) fun h hn => h.properties hn

theorem keeps_decision (kind : Kind) :
    kind.record.Keeps decisionSlot Draft.decision Decision.schema.ofJson :=
  keeps_of_put rfl (fun _ _ => rfl) fun h hn => h.decision hn

/-- A frame that was made of members holds what they say. -/
theorem tells_of_ofMembers {f : Frame} (h : kind.record.ofMembers members = .ok f) :
    f.kind = kind ∧ f.Tells members := by
  unfold Json.Record.ofMembers at h
  split at h
  · cases h
  · rename_i final hm
    obtain ⟨rfl, hmade⟩ := Kind.finish_eq_ok_iff.1 h
    refine ⟨rfl, ?_⟩
    cases f with
    | handshake p =>
      have hs : propertiesSlot ∈ Kind.slots .handshake := List.mem_cons_self
      cases hp : final.properties with
      | none =>
        have hfilled := (Kind.regular .handshake).filled_of_membersInto hs hm
        have hempty : propertiesSlot.filled final = false := congrArg Option.isSome hp
        rw [hempty] at hfilled
        have hnil : valuesOf "properties" members = [] := by
          by_contra hne
          exact absurd (hfilled.2 (.inr hne)) (by decide)
        refine .inl ⟨hnil, ?_⟩
        rw [← show final.properties.getD none = p from hmade, hp]
        rfl
      | some q =>
        obtain rfl : q = p := by
          rw [← show final.properties.getD none = p from hmade, hp]
          rfl
        exact .inr (means_of_part hs (keeps_properties _) rfl hm hp)
    | handshakeResponse d =>
      exact means_of_part List.mem_cons_self (keeps_decision _) rfl hm hmade
    | send payload =>
      exact means_of_part List.mem_cons_self (keeps_payload _) rfl hm hmade
    | request id payload | response id payload =>
      exact ⟨means_of_part List.mem_cons_self (keeps_id _) rfl hm hmade.1,
        means_of_part (List.mem_cons_of_mem _ List.mem_cons_self) (keeps_payload _) rfl hm hmade.2⟩
    | ping id | pong id =>
      exact means_of_part List.mem_cons_self (keeps_counter _) rfl hm hmade

end Parts

/-- What a frame holds is what its slots need. -/
theorem takes_of_tells {f : Frame} {members : List (String × Json)} (h : f.Tells members) :
    ∀ slot ∈ f.kind.slots, slot.Takes (valuesOf slot.name members) := by
  have htakes : ∀ {β : Type} {slot : Json.Slot Draft} {schema : Json.Schema β}
      {change : β → Draft → Draft} {b : β}, slot.value = schema.map change →
      Means members slot.name schema.ofJson b → slot.Takes (valuesOf slot.name members) := by
    rintro β slot schema change b hv ⟨j, hj, hb⟩
    exact .inr ⟨j, change b, hj, hv ▸ Json.Schema.ofJson_map hb change⟩
  intro slot hs
  cases f with
  | handshake p =>
    obtain rfl := List.mem_singleton.1 hs
    rcases h with ⟨hnil, -⟩ | h
    · exact .inl ⟨hnil, rfl⟩
    · exact htakes rfl h
  | handshakeResponse d =>
    obtain rfl := List.mem_singleton.1 hs
    exact htakes rfl h
  | send payload =>
    obtain rfl := List.mem_singleton.1 hs
    exact htakes rfl h
  | request id payload | response id payload =>
    rcases List.mem_cons.1 hs with rfl | hs
    · exact htakes rfl h.1
    · obtain rfl := List.mem_singleton.1 hs
      exact htakes (show _ = payloadSchema.map _ from rfl) h.2
  | ping id | pong id =>
    obtain rfl := List.mem_singleton.1 hs
    exact htakes rfl h

/-- **Members make a frame of a kind exactly if it holds what they say.** -/
theorem ofMembers_eq_ok_iff {kind : Kind} {members : List (String × Json)} {f : Frame} :
    kind.record.ofMembers members = .ok f ↔ f.kind = kind ∧ f.Tells members := by
  refine ⟨tells_of_ofMembers, ?_⟩
  rintro ⟨rfl, h⟩
  obtain ⟨g, hg⟩ := (f.kind.regular.exists_ofMembers_iff members).2 (takes_of_tells h)
  obtain ⟨hkind, htells⟩ := tells_of_ofMembers hg
  rw [hg, htells.unique h hkind]

/-! ## 4.  Texts -/

theorem tells_filter {f : Frame} {members : List (String × Json)} :
    f.Tells (members.filter (·.1 != "kind")) ↔ f.Tells members := by
  have hp := Json.valuesOf_filter (show "properties" ≠ "kind" by decide) members
  have hd := Json.valuesOf_filter (show "decision" ≠ "kind" by decide) members
  have hi := Json.valuesOf_filter (show "id" ≠ "kind" by decide) members
  have hy := Json.valuesOf_filter (show "payload" ≠ "kind" by decide) members
  cases f <;> simp only [Tells, Means, hp, hd, hi, hy]

/-- The text of an object is read as its members are. -/
theorem toOption_parse {text : List UInt8} {members : List (String × Json)}
    (h : Json.parse text = .ok (.object members)) :
    (parse text).toOption = (taggedFields.ofJson taggedMeaning (.object members)).bind
      fun tagged => tagged.frame.toOption := by
  obtain ⟨r, hr, hend⟩ := Json.whole_eq_ok_iff.1 h
  obtain ⟨b, s, hb, hv⟩ := Json.read_document_eq_ok_iff.1 hr
  cases hv with
  | object allowed read =>
    cases allowed
    have htagged : taggedReader.read text = Json.objectOf taggedFields s := by
      unfold taggedReader Json.byFirst
      dsimp only
      rw [hb]
      rfl
    refine Json.toOption_whole ?_ hend
    rw [Json.Reader.interpret, Json.toOption_checkAt, htagged,
      Json.toOption_objectOf understands_taggedFields read]
    cases taggedFields.ofJson taggedMeaning (.object members) <;> rfl

/-- **The text of an object is a frame exactly if the values under the names of its members, and the
one under `kind`, are those of the frame.** -/
theorem parse_eq_ok_iff {text : List UInt8} {members : List (String × Json)}
    (h : Json.parse text = .ok (.object members)) {f : Frame} :
    parse text = .ok f ↔
      valuesOf "kind" members = [.string f.kind.wire] ∧ f.Tells members := by
  rw [← Json.toOption_eq_some_iff, toOption_parse h, Option.bind_eq_some_iff]
  constructor
  · rintro ⟨tagged, htagged, hf⟩
    obtain ⟨kind, hone, rfl⟩ := taggedFields_ofJson_iff.1 htagged
    obtain ⟨rfl, htells⟩ := ofMembers_eq_ok_iff.1 (Json.toOption_eq_some_iff.1 hf)
    exact ⟨hone, tells_filter.1 htells⟩
  · rintro ⟨hone, htells⟩
    refine ⟨_, taggedFields_ofJson_iff.2 ⟨f.kind, hone, rfl⟩, Json.toOption_eq_some_iff.2 ?_⟩
    exact ofMembers_eq_ok_iff.2 ⟨rfl, tells_filter.2 htells⟩

end AgentIntake.Frame
