import AgentIntake.Frame.Basic
import AgentIntake.Json.Record

/-!
# Reading frames

The member that names the kind may stand anywhere, so the others are read as documents first and
understood afterwards, by the record that belongs to the kind.  What is wrong with them then has no
place in the text any more; what is wrong with the kind has.

A frame may also be written as an array: its kind, and then what its members would have held, in
order.
-/

namespace AgentIntake.Frame

/-! ## 1.  The records of the kinds -/

/-- What has been read of a frame; `counter` is the identifier of a sign of life, `id` that of a
request or a response. -/
structure Draft where
  id : Option UInt64
  counter : Option Int32
  payload : Option (List UInt8)
  properties : Option (Option Properties)
  decision : Option Decision

/-- The bytes of hexadecimal digits. -/
def payloadOf (s : String) : Except Json.Cause (List UInt8) :=
  match Hex.decode (Utf8.encode s) with
  | .ok payload => .ok payload
  | .error .oddLength => .error .oddDigits
  | .error (.badDigit byte place) => .error (.badDigit byte place)

/-- The slot of the identifier of a request or a response. -/
def idSlot : Json.Slot Draft where
  name := "id"
  filled d := d.id.isSome
  value := (Json.Schema.unsigned64 "u64").map fun id d => { d with id := some id }
  required := true

/-- The slot of the identifier of a sign of life. -/
def counterSlot : Json.Slot Draft where
  name := "id"
  filled d := d.counter.isSome
  value := Json.Schema.signed32.map fun id d => { d with counter := some id }
  required := true

/-- The slot of the payload. -/
def payloadSlot : Json.Slot Draft where
  name := "payload"
  filled d := d.payload.isSome
  value :=
    ((Json.Schema.string "a hex encoded string").check payloadOf).map fun payload d =>
      { d with payload := some payload }
  required := true

/-- The slot of the properties. -/
def propertiesSlot : Json.Slot Draft where
  name := "properties"
  filled d := d.properties.isSome
  value := Properties.schema.optional.map fun properties d =>
    { d with properties := some properties }
  required := false

/-- The slot of the decision. -/
def decisionSlot : Json.Slot Draft where
  name := "decision"
  filled d := d.decision.isSome
  value := Decision.schema.map fun decision d => { d with decision := some decision }
  required := true

namespace Kind

/-- The slots of a kind of frame. -/
def slots : Kind → List (Json.Slot Draft)
  | handshake => [propertiesSlot]
  | handshakeResponse => [decisionSlot]
  | send => [payloadSlot]
  | request => [idSlot, payloadSlot]
  | response => [idSlot, payloadSlot]
  | ping => [counterSlot]
  | pong => [counterSlot]

/-- The frame of a kind. -/
def finish : Kind → Draft → Except Json.Cause Frame
  | handshake, d => .ok (.handshake (d.properties.getD none))
  | handshakeResponse, d => do
    return .handshakeResponse (← Json.needed "decision" d.decision)
  | send, d => do
    return .send (← Json.needed "payload" d.payload)
  | request, d => do
    let id ← Json.needed "id" d.id
    return .request id (← Json.needed "payload" d.payload)
  | response, d => do
    let id ← Json.needed "id" d.id
    return .response id (← Json.needed "payload" d.payload)
  | ping, d => do
    return .ping (← Json.needed "id" d.counter)
  | pong, d => do
    return .pong (← Json.needed "id" d.counter)

/-- The record of a kind of frame. -/
def record (kind : Kind) : Json.Record Draft Frame where
  name := "struct variant Frame::" ++ kind.title
  slots := kind.slots
  start := ⟨none, none, none, none, none⟩
  finish := kind.finish

end Kind

/-! ## 2.  Tagged values -/

/-- What a frame's text holds: the kind, and the other members or items unread. -/
inductive Tagged where
  | members (kind : Kind) (rest : List (String × Json))
  | items (kind : Kind) (rest : List Json)

/-- The frame that a kind and the rest make. -/
def Tagged.frame : Tagged → Except Json.Cause Frame
  | members kind rest => kind.record.ofMembers rest
  | items kind rest =>
    let count := kind.record.slots.length
    let plural := if count = 1 then "" else "s"
    kind.record.ofItems s!"{count} element{plural} in sequence" rest

/-- The reader of the name of a kind. -/
def kindReader : Json.Reader Kind :=
  Json.Schema.nameIn (Kind.all.map fun k => (k.wire, k))

/-- The reader of what is kept unread. -/
def contentReader : Json.Reader Json :=
  Json.document (Json.depthLimit - 1)

/-- The members of a frame so far: the kind, and the others, last first. -/
structure Tagging where
  kind : Option Kind
  others : List (String × Json)

/-- The members of a frame. -/
def taggedFields : Json.Fields Tagging Tagged where
  start := ⟨none, []⟩
  member t key :=
    if key = "kind" then
      match t.kind with
      | some _ => .error (.duplicateField "kind")
      | none => .ok (kindReader.map fun kind => { t with kind := some kind })
    else .ok (contentReader.map fun value => { t with others := (key, value) :: t.others })
  finish t := do
    let kind ← Json.needed "kind" t.kind
    return .members kind t.others.reverse

/-- A frame in the form of an array, after its opening bracket. -/
def taggedItems (s : List UInt8) : Except Json.Fault (Tagged × List UInt8) :=
  match Json.nextItem true s with
  | .error fault => .error fault
  | .ok none =>
    .error (.here (.missingField "kind") (Json.afterClosing Byte.closeBracket s))
  | .ok (some t) =>
    match kindReader.read t with
    | .error fault => .error fault
    | .ok (kind, u) =>
      match Json.furtherItems contentReader u with
      | .error fault => .error fault
      | .ok (items, v) =>
        match Json.closeList v with
        | .error fault => .error fault
        | .ok r => .ok (.items kind items, r)

theorem length_le_of_taggedItems {s r : List UInt8} {t : Tagged}
    (h : taggedItems s = .ok (t, r)) : r.length ≤ s.length := by
  unfold taggedItems at h
  split at h
  · cases h
  · cases h
  · rename_i hn
    have := Json.length_le_of_nextItem hn
    split at h
    · cases h
    · rename_i hk
      have := Json.Reader.shrinks _ hk
      split at h
      · cases h
      · rename_i hi
        have := Json.length_le_of_furtherItems hi
        split at h
        · cases h
        · rename_i hc
          have := Json.length_lt_of_closeList hc
          cases h
          omega

/-- The reader of a kind and the rest. -/
def taggedReader : Json.Reader Tagged :=
  Json.byFirst
    (fun b r =>
      if b = Byte.openBracket then some (taggedItems r)
      else if b = Byte.openBrace then some (Json.objectOf taggedFields r)
      else none)
    (by
      intro b r a t h
      split at h
      · exact length_le_of_taggedItems (Option.some.inj h)
      · split at h
        · exact Nat.le_of_lt (Json.length_lt_of_objectOf (Option.some.inj h))
        · cases h)
    (Json.mismatch "internally tagged enum Frame")

/-! ## 3.  Frames -/

/-- The frame that is all of a text but white space around it. -/
def parse (text : List UInt8) : Except Json.Fault Frame :=
  (taggedReader.interpret Tagged.frame).whole text

end AgentIntake.Frame
