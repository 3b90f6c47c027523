import AgentIntake.Json.Schema

/-!
# Records

A record is written as an object with a member for each of its slots, in any order, or as an array
of the slots' values in the slots' order.  Members that no slot names are passed over; a slot that
is named twice is a fault, found before its second value is looked at.  What a slot without a value
comes to is decided at the end, by `Record.finish`.
-/

namespace AgentIntake.Json

variable {α σ : Type}

/-- A slot of a record whose values are gathered in a state: the key of its member, whether it has
been read, the kind of its value, which gives the change of state, and whether a record in the form
of an array must have it. -/
structure Slot (σ : Type) where
  name : String
  filled : σ → Bool
  value : Schema (σ → σ)
  required : Bool

/-- A kind of record: what messages call it, its slots, the state in which none is filled, and what
the slots come to. -/
structure Record (σ α : Type) where
  name : String
  slots : List (Slot σ)
  start : σ
  finish : σ → Except Cause α

/-- A slot's value that must be there. -/
def needed (name : String) : Option α → Except Cause α
  | none => .error (.missingField name)
  | some a => .ok a

namespace Record

/-- The slot with a name. -/
def slot? (record : Record σ α) (name : String) : Option (Slot σ) :=
  record.slots.find? (·.name == name)

/-- How messages describe the array that was wanted. -/
def expectedLength (record : Record σ α) : String :=
  let plural := if record.slots.length = 1 then "" else "s"
  s!"{record.name} with {record.slots.length} element{plural}"

/-! ## 1.  From text -/

/-- The members of a record in the form of an object. -/
def fields (record : Record σ α) : Fields σ α where
  start := record.start
  member state key :=
    match record.slot? key with
    | none => .ok (skip.map fun () => state)
    | some slot =>
      if slot.filled state then .error (.duplicateField key)
      else .ok (slot.value.reader.map fun change => change state)
  finish := record.finish

/-- The state after the slots, the first of which has the place `place`, have been read in order. -/
def slotsFrom (expected : String) (place : Nat) (state : σ) :
    List (Slot σ) → List UInt8 → Except Fault (σ × List UInt8)
  | [], s => .ok (state, s)
  | slot :: slots, s =>
    match nextItem (place == 0) s with
    | .error fault => .error fault
    | .ok none =>
      if slot.required then
        .error (.here (.wrongLength place expected) (afterClosing Byte.closeBracket s))
      else slotsFrom expected (place + 1) state slots s
    | .ok (some t) =>
      match slot.value.reader.read t with
      | .error fault => .error fault
      | .ok (change, r) => slotsFrom expected (place + 1) (change state) slots r

theorem length_le_of_slotsFrom {expected : String} {place : Nat} {state final : σ}
    {slots : List (Slot σ)} {s r : List UInt8}
    (h : slotsFrom expected place state slots s = .ok (final, r)) : r.length ≤ s.length := by
  induction slots generalizing place state s with
  | nil => cases h; exact Nat.le_refl _
  | cons slot slots ih =>
    unfold slotsFrom at h
    split at h
    · cases h
    · split at h
      · cases h
      · exact ih h
    · rename_i hn
      have := length_le_of_nextItem hn
      split at h
      · cases h
      · rename_i hv
        have := Reader.shrinks _ hv
        have := ih h
        omega

/-- A record in the form of an array, after its opening bracket. -/
def ofArray (record : Record σ α) (s : List UInt8) : Except Fault (α × List UInt8) :=
  match slotsFrom record.expectedLength 0 record.start record.slots s with
  | .error fault => .error fault
  | .ok (state, r) =>
    match record.finish state with
    | .error cause => .error (.here cause (afterClosing Byte.closeBracket r))
    | .ok a =>
      match closeList r with
      | .error fault => .error fault
      | .ok r => .ok (a, r)

theorem length_lt_of_ofArray {record : Record σ α} {a : α} {s r : List UInt8}
    (h : record.ofArray s = .ok (a, r)) : r.length < s.length := by
  unfold ofArray at h
  split at h
  · cases h
  · rename_i hm
    have := length_le_of_slotsFrom hm
    split at h
    · cases h
    · split at h
      · cases h
      · rename_i hc
        have := length_lt_of_closeList hc
        cases h
        omega

/-- The reader of a record in either form. -/
def reader (record : Record σ α) : Reader α :=
  byFirst
    (fun b r =>
      if b = Byte.openBracket then some (record.ofArray r)
      else if b = Byte.openBrace then some (objectOf record.fields r)
      else none)
    (by
      intro b r a t h
      split at h
      · exact Nat.le_of_lt (length_lt_of_ofArray (Option.some.inj h))
      · split at h
        · exact Nat.le_of_lt (length_lt_of_objectOf (Option.some.inj h))
        · cases h)
    (mismatch record.name)

/-! ## 2.  From documents -/

/-- The state after the members of a document, from `state` on. -/
def membersInto (record : Record σ α) (state : σ) : List (String × Json) → Except Cause σ
  | [] => .ok state
  | (key, value) :: rest =>
    match record.slot? key with
    | none => record.membersInto state rest
    | some slot =>
      if slot.filled state then .error (.duplicateField key)
      else
        match slot.value.ofJson value with
        | .error cause => .error cause
        | .ok change => record.membersInto (change state) rest

/-- The record that the members of a document make. -/
def ofMembers (record : Record σ α) (members : List (String × Json)) : Except Cause α :=
  match record.membersInto record.start members with
  | .error cause => .error cause
  | .ok state => record.finish state

/-- The state after the slots have taken the items of a document, and the items left over. -/
def itemsInto (expected : String) (place : Nat) (state : σ) :
    List (Slot σ) → List Json → Except Cause (σ × List Json)
  | [], items => .ok (state, items)
  | slot :: slots, [] =>
    if slot.required then .error (.wrongLength place expected)
    else itemsInto expected (place + 1) state slots []
  | slot :: slots, item :: items =>
    match slot.value.ofJson item with
    | .error cause => .error cause
    | .ok change => itemsInto expected (place + 1) (change state) slots items

/-- The record that the items of a document make.  `tooLong` words what was wanted when there are
more items than slots. -/
def ofItems (record : Record σ α) (tooLong : String) (items : List Json) : Except Cause α :=
  match itemsInto record.expectedLength 0 record.start record.slots items with
  | .error cause => .error cause
  | .ok (state, rest) =>
    match record.finish state with
    | .error cause => .error cause
    | .ok a => if rest.isEmpty then .ok a else .error (.wrongLength items.length tooLong)

/-- The record that a document is. -/
def ofJson (record : Record σ α) : Json → Except Cause α
  | .object members => record.ofMembers members
  | .array items => record.ofItems "fewer elements in array" items
  | other => .error (.wrongType other.found record.name)

end Record

end AgentIntake.Json
