import AgentIntake.Placeholder
import AgentIntake.Proofs.Json.Depth
import AgentIntake.Proofs.Json.Envelope

/-!
# The codec of envelopes

Every message has a payload.  If the numbers of its body are whole, it is decided by the depth of
the body what the payload gives back: the message itself while the body has at most 126 levels, and
otherwise an error of decoding, because the message is an object around its body
(`codec_round_trip`).
-/

namespace AgentIntake

namespace Envelope

/-- The members of a message whose body is too deep: its type tag is taken, its body is not. -/
theorem refuses_members {m : Envelope} (hw : m.body.json.Whole) (hd : 126 < m.body.json.depth) :
    record.fields.Refuses .tooDeep record.start
      [("type", .string m.kind), ("body", m.body.json)] := by
  have hk : Json.Reader.Reads _ (Json.string m.kind).render (⟨some m.kind, none⟩ : Draft) :=
    (((Json.reads_stringAs "a string" m.kind).map fun kind (d : Draft) =>
      { d with kind := some kind })).map fun change => change ⟨none, none⟩
  have hb : Json.Reader.Refuses _ m.body.json.render .tooDeep :=
    (((Json.refuses_render hw hd).map Value.ofJson).map fun body (d : Draft) =>
      { d with body := some body }).map fun change => change ⟨some m.kind, none⟩
  exact .later rfl hk (.here rfl hb)

/-- **The payload of a message whose body is too deep is refused.** -/
theorem decode_encode_of_deep {m : Envelope} (hw : m.body.json.Whole)
    (hd : 126 < m.body.json.depth) :
    ∃ fault, decode m.encode = .error fault ∧ fault.cause = .tooDeep := by
  refine Json.exists_fault_of_refuses fun rest _ => ?_
  have ho : ∀ t, record.reader.read (Byte.openBrace :: t) = Json.objectOf record.fields t :=
    fun _ => rfl
  rw [encode, toJson, Json.render_object, List.cons_append, ho]
  exact Json.objectOf_of_refuses (refuses_members hw hd) rest

end Envelope

namespace Placeholder

/-- The payload of a message gives back the message. -/
theorem decode_encode {m : Envelope} (h : m.Plain) :
    (codec.decode m.encode).outcome = .returned m := by
  rw [codec]
  dsimp only
  rw [Envelope.decode_encode h]
  rfl

/-- **Encoding always succeeds, and decoding undoes it exactly as deep as texts may be.**  The
message that comes back is written as the same payload, and is or is not a probe with the same
text. -/
theorem codec_round_trip (e : Envelope) (whole : e.body.json.Whole) :
    ∃ payload, (codec.encode e).outcome = .returned payload ∧
      (e.body.json.depth ≤ 126 →
        ∃ m, (codec.decode payload).outcome = .returned m ∧ m = e ∧
          (codec.encode m).outcome = .returned payload ∧
          m.isProbe = e.isProbe ∧ codec.probe m = codec.probe e) ∧
      (126 < e.body.json.depth →
        ∃ fault : Json.Fault,
          (codec.decode payload).outcome = .failed (.decode (fault.message payload)) ∧
            fault.cause = .tooDeep) := by
  refine ⟨e.encode, rfl, fun hd => ?_, fun hd => ?_⟩
  · exact ⟨e, decode_encode ⟨whole, hd⟩, rfl, rfl, rfl, rfl⟩
  · obtain ⟨fault, hf, hc⟩ := Envelope.decode_encode_of_deep whole hd
    refine ⟨fault, ?_, hc⟩
    rw [codec]
    dsimp only
    rw [hf]
    rfl

/-! ## Bodies of any depth -/

/-- An empty list inside of `depth` lists. -/
def boxed : Nat → Json
  | 0 => .array []
  | depth + 1 => .array [boxed depth]

theorem whole_boxed (depth : Nat) : (boxed depth).Whole := by
  induction depth with
  | zero => trivial
  | succ depth ih => exact ⟨ih, trivial⟩

theorem canonical_boxed (depth : Nat) : (boxed depth).canonical = boxed depth := by
  induction depth with
  | zero => rfl
  | succ depth ih => simp [boxed, Json.canonical, Json.canonicalItems, ih]

theorem depth_boxed (depth : Nat) : (boxed depth).depth = depth + 1 := by
  induction depth with
  | zero => rfl
  | succ depth ih => simp [boxed, Json.depth, Json.depthItems, ih]

/-- A message with such a body. -/
def nested (depth : Nat) : Envelope :=
  ⟨"l4-probe", ⟨boxed depth, canonical_boxed depth⟩⟩

/-- The last depth that comes back and the first one that does not. -/
theorem codec_at_the_limit :
    ((nested 125).body.json.Whole ∧ (nested 125).body.json.depth ≤ 126 ∧
      (codec.decode (nested 125).encode).outcome = .returned (nested 125)) ∧
    ((nested 126).body.json.Whole ∧ 126 < (nested 126).body.json.depth ∧
      ∃ message, (codec.decode (nested 126).encode).outcome = .failed (.decode message)) := by
  have h₁ : (nested 125).body.json.depth ≤ 126 := (depth_boxed 125).le
  have h₂ : 126 < (nested 126).body.json.depth := (depth_boxed 126).ge
  obtain ⟨payload, he, hr, -⟩ := codec_round_trip (nested 125) (whole_boxed 125)
  obtain ⟨payload', he', -, hf⟩ := codec_round_trip (nested 126) (whole_boxed 126)
  cases he
  cases he'
  obtain ⟨m, hd, rfl, -⟩ := hr h₁
  obtain ⟨fault, hf, -⟩ := hf h₂
  exact ⟨⟨whole_boxed 125, h₁, hd⟩, whole_boxed 126, h₂, _, hf⟩

end Placeholder

end AgentIntake
