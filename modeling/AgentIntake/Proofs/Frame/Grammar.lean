import AgentIntake.Frame.Line
import AgentIntake.Proofs.Frame.Members
import AgentIntake.Proofs.Handshake.Properties
import AgentIntake.Proofs.Json.Places
import AgentIntake.Proofs.Text.Hex

/-!
# The grammar of frames

Which objects are frames can be told from the texts of their members (`parse_object`).  One member
is named `kind`, and its value is the name of a kind.  For each kind, `Kind.Grammar` says what must
stand under the names that belong to it, and `Carries` what the frame makes of that: a payload is
the bytes of its digits, an identifier is the number that is written, and a property set is what its
text alone would be read as.

The kind may come last, when everything else was kept as documents.  So the proof goes from texts to
documents and back: an integer literal is kept as a whole number and nothing else is
(`Json.read_whole_iff`), and what is made of a document is what would have been made of its text
(`Properties.optional_reader_whole`).
-/

namespace AgentIntake

namespace Json.Schema

/-! ## 1.  What documents mean -/

theorem ofJson_integer_eq_ok_iff {low high : Int} {expected : String} {j : Json}
    {n : { n : Int // low ≤ n ∧ n ≤ high }} :
    (integer low high expected).ofJson j = .ok n ↔ ∃ fits, j = .number (.whole n.1 fits) := by
  rw [integer, ofJson_check_eq_ok_iff]
  constructor
  · rintro ⟨number, hj, hn⟩
    cases j with
    | number m =>
      cases hj
      cases number with
      | real => cases hn
      | whole m fits =>
        rw [between] at hn
        split at hn
        · cases hn
          exact ⟨fits, rfl⟩
        · cases hn
    | null | bool | string | array | object => cases hj
  · rintro ⟨fits, rfl⟩
    exact ⟨_, rfl, dif_pos n.2⟩

theorem ofJson_unsigned64_eq_ok_iff {expected : String} {j : Json} {id : UInt64} :
    (unsigned64 expected).ofJson j = .ok id ↔ j = .ofUInt64 id := by
  constructor
  · intro h
    obtain ⟨n, hn, rfl⟩ := ofJson_map_eq_ok_iff.1 h
    obtain ⟨fits, rfl⟩ := ofJson_integer_eq_ok_iff.1 hn
    have hvalue : ((UInt64.ofNat n.1.toNat).toNat : Int) = n.1 := by
      have := n.2
      rw [UInt64.toNat_ofNat_of_lt' (by change n.1.toNat < 0x10000000000000000; omega)]
      omega
    rw [ofUInt64]
    simp only [hvalue]
  · rintro rfl
    exact ofJson_unsigned64 expected id

theorem ofJson_signed32_eq_ok_iff {j : Json} {id : Int32} :
    signed32.ofJson j = .ok id ↔ j = Frame.counterJson id := by
  constructor
  · intro h
    obtain ⟨n, hn, rfl⟩ := ofJson_map_eq_ok_iff.1 h
    obtain ⟨fits, rfl⟩ := ofJson_integer_eq_ok_iff.1 hn
    have hvalue : (Int32.ofInt n.1).toInt = n.1 := by
      have := n.2
      exact Int32.toInt_ofInt_of_le (by omega) (by omega)
    rw [Frame.counterJson]
    simp only [hvalue]
  · rintro rfl
    exact ofJson_signed32 id

theorem ofJson_string_eq_ok_iff {expected : String} {j : Json} {s : String} :
    (string expected).ofJson j = .ok s ↔ j = .string s := by
  cases j <;> simp [string]

end Json.Schema

namespace Frame

open Json (valuesOf named)

theorem payloadOf_eq_ok_iff {s : String} {payload : List UInt8} :
    payloadOf s = .ok payload ↔ Hex.decode (Utf8.encode s) = .ok payload := by
  unfold payloadOf
  split <;> rename_i h <;> rw [h] <;> simp

theorem ofJson_payload_eq_ok_iff {j : Json} {payload : List UInt8} :
    payloadSchema.ofJson j = .ok payload ↔
      ∃ s, j = .string s ∧ Hex.decode (Utf8.encode s) = .ok payload := by
  rw [payloadSchema, Json.Schema.ofJson_check_eq_ok_iff]
  simp only [Json.Schema.ofJson_string_eq_ok_iff, payloadOf_eq_ok_iff]

theorem exists_ofJson_properties_iff {j : Json} :
    (∃ p, Properties.schema.optional.ofJson j = .ok p) ↔
      j = .null ∨ ∃ members, j = .object members := by
  cases j <;> simp [Json.Schema.optional, Properties.schema]

theorem named_decision_eq_ok_iff {name : String} {d : Decision} :
    Json.Schema.named (Decision.all.map fun d => (d.wire, d)) name = .ok d ↔ name = d.wire := by
  refine ⟨Json.Schema.eq_of_named_map, ?_⟩
  rintro rfl
  cases d <;> rfl

/-- A decision is named by a string, or by the one key of an object that says no more. -/
theorem ofJson_decision_eq_ok_iff {j : Json} {d : Decision} :
    Decision.schema.ofJson j = .ok d ↔
      j = .string d.wire ∨
        ∃ value, (value = .null ∨ value = .object []) ∧ j = .object [(d.wire, value)] := by
  rw [Decision.schema, Json.Schema.choice]
  dsimp only
  split
  · rw [named_decision_eq_ok_iff]
    simp
  · rename_i name value
    split <;> rename_i hn
    · -- a key that names no decision
      refine ⟨fun h => (by cases h), ?_⟩
      rintro (h | ⟨value', -, h⟩)
      · cases h
      · cases h
        rw [named_decision_eq_ok_iff.2 rfl] at hn
        cases hn
    · rename_i d'
      obtain rfl := named_decision_eq_ok_iff.1 hn
      -- the one key names one decision
      have hsame {value' : Json} (h : Json.object [(d'.wire, value)] = .object [(d.wire, value')]) :
          d' = d ∧ value = value' := by
        obtain ⟨hm, -⟩ := List.cons.inj (Json.object.inj h)
        obtain ⟨hwire, hv⟩ := Prod.mk.inj hm
        have hd := named_decision_eq_ok_iff.2 hwire
        rw [hn] at hd
        exact ⟨Except.ok.inj hd, hv⟩
      split
      · refine ⟨fun h => .inr ⟨.null, .inl rfl, by cases h; rfl⟩, ?_⟩
        rintro (h | ⟨value', -, h⟩)
        · cases h
        · rw [(hsame h).1]
      · refine ⟨fun h => .inr ⟨.object [], .inr rfl, by cases h; rfl⟩, ?_⟩
        rintro (h | ⟨value', -, h⟩)
        · cases h
        · rw [(hsame h).1]
      · rename_i hnull hempty
        refine ⟨fun h => (by cases h), ?_⟩
        rintro (h | ⟨value', hv, h⟩)
        · cases h
        · obtain rfl := (hsame h).2
          rcases hv with rfl | rfl
          · exact absurd rfl hnull
          · exact absurd rfl hempty
  · rename_i hone
    refine ⟨fun h => (by cases h), ?_⟩
    rintro (h | ⟨value, -, h⟩)
    · cases h
    · cases h
      exact absurd rfl (hone _ _)
  · rename_i hs ho _
    refine ⟨fun h => (by cases h), ?_⟩
    rintro (h | ⟨value, -, h⟩)
    · exact absurd h (hs _)
    · exact absurd h (ho _ _)

/-! ## 2.  The grammar -/

open Json (Entry parse)

/-- One member names the kind. -/
def NamesKind (entries : List Entry) (kind : Kind) : Prop :=
  ∃ e, named "kind" entries = [e] ∧ Json.parse e.text = .ok (.string kind.wire)

/-- The properties are left out, or they are `null` or an object. -/
def HasProperties (entries : List Entry) : Prop :=
  named "properties" entries = [] ∨
    ∃ e, named "properties" entries = [e] ∧
      (Json.parse e.text = .ok .null ∨ ∃ members, Json.parse e.text = .ok (.object members))

/-- One member is a decision: its name, or an object of which it is the one key. -/
def HasDecision (entries : List Entry) : Prop :=
  ∃ e, named "decision" entries = [e] ∧ ∃ d : Decision,
    Json.parse e.text = .ok (.string d.wire) ∨
      ∃ value, (value = .null ∨ value = .object []) ∧
        Json.parse e.text = .ok (.object [(d.wire, value)])

/-- One member is a payload: hexadecimal digits of either case, two for each byte. -/
def HasPayload (entries : List Entry) : Prop :=
  ∃ e, named "payload" entries = [e] ∧ ∃ s, Json.parse e.text = .ok (.string s) ∧
    s.length % 2 = 0 ∧ ∀ c ∈ s.toList, c.isHexDigit = true

/-- One member is an identifier: an integer literal between the bounds. -/
def HasId (low high : Int) (entries : List Entry) : Prop :=
  ∃ e, named "id" entries = [e] ∧ ∃ n, Json.skipBlank e.text = Json.renderInt n ∧
    low ≤ n ∧ n ≤ high

/-- What must stand in the text of a frame, besides its kind. -/
def Kind.Grammar (entries : List Entry) : Kind → Prop
  | handshake => HasProperties entries
  | handshakeResponse => HasDecision entries
  | send => HasPayload entries
  | request | response => HasId 0 0xFFFFFFFFFFFFFFFF entries ∧ HasPayload entries
  | ping | pong => HasId (-0x80000000) 0x7FFFFFFF entries

/-- The digits of the payload are the text of its member in lower case. -/
def CarriesPayload (entries : List Entry) (payload : List UInt8) : Prop :=
  ∃ e, named "payload" entries = [e] ∧ ∃ s, Json.parse e.text = .ok (.string s) ∧
    s.toLower = Hex.encode payload

/-- The identifier is written in the text of its member. -/
def CarriesId (entries : List Entry) (id : Int) : Prop :=
  ∃ e, named "id" entries = [e] ∧ Json.skipBlank e.text = Json.renderInt id

/-- The frame has the values of its members, each as its text alone is read. -/
def Carries (entries : List Entry) : Frame → Prop
  | handshake properties =>
    (named "properties" entries = [] ∧ properties = none) ∨
      ∃ e, named "properties" entries = [e] ∧
        Properties.schema.optional.reader.whole e.text = .ok properties
  | handshakeResponse decision =>
    ∃ e, named "decision" entries = [e] ∧ ∃ j, Json.parse e.text = .ok j ∧
      Decision.schema.ofJson j = .ok decision
  | send payload => CarriesPayload entries payload
  | request id payload | response id payload =>
    CarriesId entries id.toNat ∧ CarriesPayload entries payload
  | ping id | pong id => CarriesId entries id.toInt

section Texts

variable {entries : List Entry} {members : List (String × Json)}
  (h : List.Forall₂ Entry.Spells entries members)

include h

theorem namesKind_iff {kind : Kind} :
    NamesKind entries kind ↔ valuesOf "kind" members = [.string kind.wire] :=
  (Json.valuesOf_eq_singleton_iff h "kind" _).symm

/-- What values mean is what the texts mean. -/
theorem means_iff {β : Type} {name : String} {ofJson : Json → Except Json.Cause β} {b : β} :
    Means members name ofJson b ↔
      ∃ e, named name entries = [e] ∧ ∃ j, Json.parse e.text = .ok j ∧ ofJson j = .ok b := by
  constructor
  · rintro ⟨j, hj, hb⟩
    obtain ⟨e, he, hp⟩ := (Json.valuesOf_eq_singleton_iff h name j).1 hj
    exact ⟨e, he, j, hp, hb⟩
  · rintro ⟨e, he, j, hp, hb⟩
    exact ⟨j, (Json.valuesOf_eq_singleton_iff h name j).2 ⟨e, he, hp⟩, hb⟩

theorem means_payload_iff {payload : List UInt8} :
    Means members "payload" payloadSchema.ofJson payload ↔
      ∃ e, named "payload" entries = [e] ∧ ∃ s, Json.parse e.text = .ok (.string s) ∧
        Hex.decode (Utf8.encode s) = .ok payload := by
  rw [means_iff h]
  refine exists_congr fun e => and_congr_right fun _ => ?_
  constructor
  · rintro ⟨j, hj, hp⟩
    obtain ⟨s, rfl, hs⟩ := ofJson_payload_eq_ok_iff.1 hp
    exact ⟨s, hj, hs⟩
  · rintro ⟨s, hj, hs⟩
    exact ⟨_, hj, ofJson_payload_eq_ok_iff.2 ⟨s, rfl, hs⟩⟩

/-- A whole number stands under the name exactly if its literal does. -/
theorem valuesOf_id_iff {n : Int} (fits : -0x8000000000000000 ≤ n ∧ n < 0x10000000000000000) :
    valuesOf "id" members = [.number (.whole n fits)] ↔ CarriesId entries n := by
  rw [Json.valuesOf_eq_singleton_iff h]
  refine exists_congr fun e => and_congr_right fun he => ?_
  obtain ⟨j, hs⟩ := Json.exists_spells_of_named h he
  exact hs.parse_text_whole_iff fits

theorem means_unsigned64_iff {id : UInt64} :
    Means members "id" (Json.Schema.unsigned64 "u64").ofJson id ↔ CarriesId entries id.toNat := by
  have hlt := id.toNat_lt
  rw [← valuesOf_id_iff h (by omega)]
  constructor
  · rintro ⟨j, hj, hid⟩
    rwa [Json.Schema.ofJson_unsigned64_eq_ok_iff.1 hid] at hj
  · intro hid
    exact ⟨_, hid, Json.Schema.ofJson_unsigned64_eq_ok_iff.2 rfl⟩

theorem means_signed32_iff {id : Int32} :
    Means members "id" Json.Schema.signed32.ofJson id ↔ CarriesId entries id.toInt := by
  have hlt := id.toInt_lt
  have hle := id.le_toInt
  rw [← valuesOf_id_iff h (by omega)]
  constructor
  · rintro ⟨j, hj, hid⟩
    rwa [Json.Schema.ofJson_signed32_eq_ok_iff.1 hid] at hj
  · intro hid
    exact ⟨_, hid, Json.Schema.ofJson_signed32_eq_ok_iff.2 rfl⟩

/-! ## 3.  Existence -/

theorem exists_means_payload_iff :
    (∃ payload, Means members "payload" payloadSchema.ofJson payload) ↔ HasPayload entries := by
  simp only [means_payload_iff h]
  constructor
  · rintro ⟨payload, e, he, s, hs, hp⟩
    exact ⟨e, he, s, hs, Hex.exists_decode_iff.1 ⟨payload, hp⟩⟩
  · rintro ⟨e, he, s, hs, hd⟩
    obtain ⟨payload, hp⟩ := Hex.exists_decode_iff.2 hd
    exact ⟨payload, e, he, s, hs, hp⟩

theorem exists_means_unsigned64_iff :
    (∃ id, Means members "id" (Json.Schema.unsigned64 "u64").ofJson id) ↔
      HasId 0 0xFFFFFFFFFFFFFFFF entries := by
  simp only [means_unsigned64_iff h]
  constructor
  · rintro ⟨id, e, he, hid⟩
    have := id.toNat_lt
    exact ⟨e, he, id.toNat, hid, by omega, by omega⟩
  · rintro ⟨e, he, n, hn, hl, hh⟩
    refine ⟨UInt64.ofNat n.toNat, e, he, ?_⟩
    rw [UInt64.toNat_ofNat_of_lt' (by change n.toNat < 0x10000000000000000; omega),
      Int.toNat_of_nonneg hl, hn]

theorem exists_means_signed32_iff :
    (∃ id, Means members "id" Json.Schema.signed32.ofJson id) ↔
      HasId (-0x80000000) 0x7FFFFFFF entries := by
  simp only [means_signed32_iff h]
  constructor
  · rintro ⟨id, e, he, hid⟩
    have := id.toInt_lt
    have := id.le_toInt
    exact ⟨e, he, id.toInt, hid, by omega, by omega⟩
  · rintro ⟨e, he, n, hn, hl, hh⟩
    exact ⟨Int32.ofInt n, e, he, by rw [Int32.toInt_ofInt_of_le (by omega) (by omega), hn]⟩

theorem exists_tells_handshake_iff :
    (∃ p, (handshake p).Tells members) ↔ HasProperties entries := by
  constructor
  · rintro ⟨p, ⟨hnil, -⟩ | hp⟩
    · exact .inl ((Json.valuesOf_eq_nil_iff h _).1 hnil)
    · obtain ⟨e, he, j, hj, hp⟩ := (means_iff h).1 hp
      refine .inr ⟨e, he, ?_⟩
      rcases exists_ofJson_properties_iff.1 ⟨p, hp⟩ with rfl | ⟨members', rfl⟩
      · exact .inl hj
      · exact .inr ⟨members', hj⟩
  · rintro (hnil | ⟨e, he, hv⟩)
    · exact ⟨none, .inl ⟨(Json.valuesOf_eq_nil_iff h _).2 hnil, rfl⟩⟩
    · obtain ⟨j, hj, hv⟩ : ∃ j, Json.parse e.text = .ok j ∧ (j = .null ∨ ∃ ms, j = .object ms) := by
        rcases hv with hj | ⟨ms, hj⟩
        · exact ⟨_, hj, .inl rfl⟩
        · exact ⟨_, hj, .inr ⟨ms, rfl⟩⟩
      obtain ⟨p, hp⟩ := exists_ofJson_properties_iff.2 hv
      exact ⟨p, .inr ((means_iff h).2 ⟨e, he, j, hj, hp⟩)⟩

theorem exists_means_decision_iff :
    (∃ d, Means members "decision" Decision.schema.ofJson d) ↔ HasDecision entries := by
  simp only [means_iff h, ofJson_decision_eq_ok_iff]
  constructor
  · rintro ⟨d, e, he, j, hj, rfl | ⟨value, hv, rfl⟩⟩
    · exact ⟨e, he, d, .inl hj⟩
    · exact ⟨e, he, d, .inr ⟨value, hv, hj⟩⟩
  · rintro ⟨e, he, d, hj | ⟨value, hv, hj⟩⟩
    · exact ⟨d, e, he, _, hj, .inl rfl⟩
    · exact ⟨d, e, he, _, hj, .inr ⟨value, hv, rfl⟩⟩

/-- **The members tell of a frame of a kind exactly if they obey its grammar.** -/
theorem exists_tells_iff (kind : Kind) :
    (∃ f : Frame, f.kind = kind ∧ f.Tells members) ↔ kind.Grammar entries := by
  cases kind with
  | handshake =>
    rw [Kind.Grammar, ← exists_tells_handshake_iff h]
    exact ⟨fun ⟨f, hk, hf⟩ => by cases f <;> cases hk; exact ⟨_, hf⟩, fun ⟨p, hp⟩ => ⟨_, rfl, hp⟩⟩
  | handshakeResponse =>
    rw [Kind.Grammar, ← exists_means_decision_iff h]
    exact ⟨fun ⟨f, hk, hf⟩ => by cases f <;> cases hk; exact ⟨_, hf⟩,
      fun ⟨d, hd⟩ => ⟨.handshakeResponse d, rfl, hd⟩⟩
  | send =>
    rw [Kind.Grammar, ← exists_means_payload_iff h]
    exact ⟨fun ⟨f, hk, hf⟩ => by cases f <;> cases hk; exact ⟨_, hf⟩,
      fun ⟨payload, hp⟩ => ⟨.send payload, rfl, hp⟩⟩
  | request =>
    rw [Kind.Grammar, ← exists_means_unsigned64_iff h, ← exists_means_payload_iff h]
    exact ⟨fun ⟨f, hk, hf⟩ => by cases f <;> cases hk; exact ⟨⟨_, hf.1⟩, _, hf.2⟩,
      fun ⟨⟨id, hi⟩, payload, hp⟩ => ⟨.request id payload, rfl, hi, hp⟩⟩
  | response =>
    rw [Kind.Grammar, ← exists_means_unsigned64_iff h, ← exists_means_payload_iff h]
    exact ⟨fun ⟨f, hk, hf⟩ => by cases f <;> cases hk; exact ⟨⟨_, hf.1⟩, _, hf.2⟩,
      fun ⟨⟨id, hi⟩, payload, hp⟩ => ⟨.response id payload, rfl, hi, hp⟩⟩
  | ping =>
    rw [Kind.Grammar, ← exists_means_signed32_iff h]
    exact ⟨fun ⟨f, hk, hf⟩ => by cases f <;> cases hk; exact ⟨_, hf⟩,
      fun ⟨id, hi⟩ => ⟨.ping id, rfl, hi⟩⟩
  | pong =>
    rw [Kind.Grammar, ← exists_means_signed32_iff h]
    exact ⟨fun ⟨f, hk, hf⟩ => by cases f <;> cases hk; exact ⟨_, hf⟩,
      fun ⟨id, hi⟩ => ⟨.pong id, rfl, hi⟩⟩

theorem carriesPayload_of_means {payload : List UInt8}
    (hp : Means members "payload" payloadSchema.ofJson payload) :
    CarriesPayload entries payload := by
  obtain ⟨e, he, s, hs, hp⟩ := (means_payload_iff h).1 hp
  exact ⟨e, he, s, hs, (Hex.encode_of_decode hp).symm⟩

/-- **What a frame tells it carries, value by value.** -/
theorem carries_of_tells {f : Frame} (hf : f.Tells members) : f.Carries entries := by
  cases f with
  | handshake p =>
    rcases hf with ⟨hnil, rfl⟩ | hf
    · exact .inl ⟨(Json.valuesOf_eq_nil_iff h _).1 hnil, rfl⟩
    · obtain ⟨e, he, j, hj, hp⟩ := (means_iff h).1 hf
      refine .inr ⟨e, he, Json.toOption_eq_some_iff.1 ?_⟩
      rw [Properties.optional_reader_whole hj, hp]
      rfl
  | handshakeResponse d => exact (means_iff h).1 hf
  | send payload => exact carriesPayload_of_means h hf
  | request id payload | response id payload =>
    exact ⟨(means_unsigned64_iff h).1 hf.1, carriesPayload_of_means h hf.2⟩
  | ping id | pong id => exact (means_signed32_iff h).1 hf

end Texts

/-! ## 4.  Texts of objects -/

/-- Members with other names do not matter, and neither does the order. -/
theorem Tells.congr {f : Frame} {members members' : List (String × Json)}
    (h : ∀ slot ∈ f.kind.slots, valuesOf slot.name members' = valuesOf slot.name members)
    (hf : f.Tells members) : f.Tells members' := by
  cases f with
  | handshake p =>
    have hp := h propertiesSlot List.mem_cons_self
    change valuesOf "properties" members' = _ at hp
    rwa [Tells, Means, hp]
  | handshakeResponse d =>
    have hd := h decisionSlot List.mem_cons_self
    change valuesOf "decision" members' = _ at hd
    rwa [Tells, Means, hd]
  | send payload =>
    have hp := h payloadSlot List.mem_cons_self
    change valuesOf "payload" members' = _ at hp
    rwa [Tells, Means, hp]
  | request id payload | response id payload =>
    have hi := h idSlot List.mem_cons_self
    have hp := h payloadSlot (List.mem_cons_of_mem _ List.mem_cons_self)
    change valuesOf "id" members' = _ at hi
    change valuesOf "payload" members' = _ at hp
    rwa [Tells, Means, Means, hi, hp]
  | ping id | pong id =>
    have hi := h counterSlot List.mem_cons_self
    change valuesOf "id" members' = _ at hi
    rwa [Tells, Means, hi]

/-- A line that holds an object is not blank. -/
theorem ofBytes?_of_error {text : List UInt8} {members : List (String × Json)}
    (h : Json.parse text = .ok (.object members)) {fault : Json.Fault}
    (hf : parse text = .error fault) : Line.ofBytes? text = some (.malformed text fault) := by
  obtain ⟨entries, hstand⟩ := Json.exists_stand h
  obtain ⟨s, t, r, hs, -⟩ := hstand.laid
  obtain ⟨blank, rfl, -⟩ := Json.skipBlank_split hs
  have hblank : ¬ (blank ++ Byte.openBrace :: s).all Blank.isBlankByte = true := by
    intro ha
    exact absurd (List.all_eq_true.1 ha Byte.openBrace (by simp)) (by decide)
  rw [Line.ofBytes?, if_neg hblank, hf]

/-- **The grammar of frames.**  The members of any object stand in its text, each with a text of its
own.  The text is a frame of a kind exactly if one member names the kind and the others obey its
grammar.  The frame has the values of its members as their texts alone are read, so the gate decides
the same about them.  Members with other names do not matter, nor does the order or the layout.  A
text that obeys no grammar is malformed. -/
theorem parse_object {text : List UInt8} {members : List (String × Json)}
    (h : Json.parse text = .ok (.object members)) :
    (∃ entries, Json.Stand text entries members) ∧
    ∀ entries, Json.Stand text entries members →
      (∀ kind : Kind, (∃ f, parse text = .ok f ∧ f.kind = kind) ↔
        NamesKind entries kind ∧ kind.Grammar entries) ∧
      (∀ f, parse text = .ok f → f.Carries entries) ∧
      (∀ p e, parse text = .ok (.handshake p) → named "properties" entries = [e] →
        ∃ q, Properties.schema.optional.reader.whole e.text = .ok q ∧ decide p = decide q) ∧
      (∀ f, parse text = .ok f → ∀ text' members',
        Json.parse text' = .ok (.object members') →
        (∀ name ∈ "kind" :: f.kind.slots.map (·.name),
          valuesOf name members' = valuesOf name members) →
        parse text' = .ok f) ∧
      ((∀ kind : Kind, ¬ (NamesKind entries kind ∧ kind.Grammar entries)) →
        ∃ fault, parse text = .error fault ∧
          Line.ofBytes? text = some (.malformed text fault)) := by
  refine ⟨Json.exists_stand h, fun entries hstand => ?_⟩
  have hkind (kind : Kind) : (∃ f, parse text = .ok f ∧ f.kind = kind) ↔
      NamesKind entries kind ∧ kind.Grammar entries := by
    rw [namesKind_iff hstand.spells, ← exists_tells_iff hstand.spells]
    constructor
    · rintro ⟨f, hf, rfl⟩
      obtain ⟨hone, htells⟩ := (parse_eq_ok_iff h).1 hf
      exact ⟨hone, f, rfl, htells⟩
    · rintro ⟨hone, f, rfl, htells⟩
      exact ⟨f, (parse_eq_ok_iff h).2 ⟨hone, htells⟩, rfl⟩
  have hcarries (f : Frame) (hf : parse text = .ok f) : f.Carries entries :=
    carries_of_tells hstand.spells ((parse_eq_ok_iff h).1 hf).2
  refine ⟨hkind, hcarries, ?_, ?_, ?_⟩
  · intro p e hp he
    rcases hcarries _ hp with ⟨hnil, -⟩ | ⟨e', he', hread⟩
    · rw [hnil] at he
      cases he
    · rw [he] at he'
      cases he'
      exact ⟨p, hread, rfl⟩
  · intro f hf text' members' h' hsame
    obtain ⟨hone, htells⟩ := (parse_eq_ok_iff h).1 hf
    refine (parse_eq_ok_iff h').2 ⟨?_, htells.congr fun slot hs => hsame slot.name ?_⟩
    · rw [hsame "kind" List.mem_cons_self, hone]
    · exact List.mem_cons_of_mem _ (List.mem_map_of_mem hs)
  · intro hno
    cases hp : parse text with
    | ok f => exact absurd ((hkind f.kind).1 ⟨f, hp, rfl⟩) (hno f.kind)
    | error fault => exact ⟨fault, rfl, ofBytes?_of_error h hp⟩

/-- Members with the kind last, the payload in upper case, and one that no frame has. -/
def sampleMembers : List (String × Json) :=
  [("payload", .string "0A"), ("colour", .array [.null]), ("kind", .string "send")]

/-- These members make a message that wants no answer. -/
theorem parse_object_sample :
    Json.parse (Json.object sampleMembers).render = .ok (.object sampleMembers) ∧
      parse (Json.object sampleMembers).render = .ok (.send [0x0A]) ∧
      ∃ entries, Json.Stand (Json.object sampleMembers).render entries sampleMembers ∧
        NamesKind entries .send ∧ Kind.Grammar entries .send ∧
        (Frame.send [0x0A]).Carries entries := by
  have hwhole : (Json.object sampleMembers).Whole := by
    simp [sampleMembers, Json.Whole, Json.WholeMembers, Json.WholeItems]
  have hparse : Json.parse (Json.object sampleMembers).render = .ok (.object sampleMembers) :=
    Json.parse_render hwhole (by decide)
  have hframe : parse (Json.object sampleMembers).render = .ok (.send [0x0A]) :=
    (parse_eq_ok_iff hparse).2
      ⟨rfl, .string "0A", rfl, ofJson_payload_eq_ok_iff.2 ⟨"0A", rfl, by decide +kernel⟩⟩
  obtain ⟨⟨entries, hstand⟩, hgrammar⟩ := parse_object hparse
  obtain ⟨hkind, hcarries, -⟩ := hgrammar entries hstand
  obtain ⟨hnames, hobeys⟩ := (hkind .send).1 ⟨_, hframe, rfl⟩
  exact ⟨hparse, hframe, entries, hstand, hnames, hobeys, hcarries _ hframe⟩

end Frame

end AgentIntake
