import AgentIntake.Envelope
import AgentIntake.Proofs.Json.RoundTrip

/-!
# Envelopes are read back

The payload of a message whose numbers are whole gives back the message (`decode_encode`).  Its body
may have one level less than a text may have, since the message is an object around it.
-/

namespace AgentIntake.Envelope

/-- The numbers of the message are whole, and it is not too deep for a payload. -/
structure Plain (m : Envelope) : Prop where
  whole : m.body.json.Whole
  depth_le : m.body.json.depth ≤ 126

theorem reads_any {v : Value} {depth : Nat} (hw : v.json.Whole) (hd : v.json.depth ≤ depth) :
    (Json.Schema.any depth).reader.Reads v.json.render v := by
  have h := (Json.reads_render v.json depth hw hd).map Value.ofJson
  rwa [Value.ofJson_json] at h

/-- The members of a message fill its slots. -/
theorem takes_members {m : Envelope} (h : m.Plain) :
    record.fields.Takes record.start [("type", .string m.kind), ("body", m.body.json)]
      ⟨some m.kind, some m.body⟩ := by
  have hk : Json.Reader.Reads _ (Json.string m.kind).render (⟨some m.kind, none⟩ : Draft) :=
    (((Json.reads_stringAs "a string" m.kind).map fun kind (d : Draft) =>
      { d with kind := some kind })).map fun change => change ⟨none, none⟩
  have hb : Json.Reader.Reads _ m.body.json.render (⟨some m.kind, some m.body⟩ : Draft) :=
    ((reads_any h.whole h.depth_le).map fun body (d : Draft) =>
      { d with body := some body }).map fun change => change ⟨some m.kind, none⟩
  exact .cons rfl hk (.cons rfl hb (.nil _))

/-- **The payload of a message is read back.** -/
theorem decode_encode {m : Envelope} (h : m.Plain) : decode m.encode = .ok m := by
  have hr : record.reader.Reads m.encode m := by
    intro rest _
    have ho : ∀ t, record.reader.read (Byte.openBrace :: t) = Json.objectOf record.fields t :=
      fun _ => rfl
    rw [encode, toJson, Json.render_object, List.cons_append, ho]
    exact Json.objectOf_of_takes (takes_members h) rfl rest
  have := Json.whole_of_reads hr [] nofun
  rwa [List.append_nil] at this

end AgentIntake.Envelope
