import AgentIntake.Frame.Line
import AgentIntake.Proofs.Json.RoundTrip

/-!
# Frames are read back

A frame of any kind that was written on a line is read from it (`parse_encode`, `ofBytes?_toLine`),
as long as the numbers among its properties are whole and its document is not too deep.  The line
holds one newline, its last byte, so a stream of lines falls apart where they were joined
(`segments_flatMap_toLine`), and a reader that has reached the beginning of a line is there again
after it (`feed_toLine`).

## Two ways to the members

A frame is written with its kind first, and then the members that the kind has.  It is read with all
members but the kind kept as documents, and these are understood afterwards.  So there are two
steps: the text gives back the documents (`takes_members`), and the documents give back the frame
(`ofMembers_members`).
-/

namespace AgentIntake

/-! ## 1.  Property sets -/

namespace Properties

/-- Binding what is bound already, in order, changes nothing. -/
theorem bindings_foldl_insert (rest : List (String × Json)) (p : Properties)
    (h : Json.CanonicalMembers (p.bindings ++ rest)) :
    ((rest.map fun m => (m.1, Value.ofJson m.2)).foldl (fun p b => p.insert b.1 b.2) p).bindings =
      p.bindings ++ rest := by
  induction rest generalizing p with
  | nil => exact (List.append_nil _).symm
  | cons m rest ih =>
    obtain ⟨key, value⟩ := m
    have hv : value.canonical = value := h.2 (key, value) (by simp)
    have hk : ∀ m ∈ p.bindings, m.1 < key := fun m hm =>
      (List.pairwise_append.1 h.1).2.2 m hm (key, value) List.mem_cons_self
    have hb : (p.insert key (Value.ofJson value)).bindings = p.bindings ++ [(key, value)] := by
      show Json.bind key value.canonical p.bindings = _
      rw [hv, Json.bind_append hk]
    rw [List.map_cons, List.foldl_cons, ih _ (by rw [hb, List.append_assoc]; exact h), hb,
      List.append_assoc, List.singleton_append]

/-- **The set of a set's own bindings is the set.** -/
theorem ofMembers_bindings (p : Properties) : ofMembers p.bindings = p := by
  refine ext ?_
  rw [ofMembers, ofList, bindings_foldl_insert p.bindings empty p.isCanonical]
  rfl

end Properties

namespace Json.Schema

/-! ## 2.  Values of a known kind -/

theorem ofJson_unsigned64 (expected : String) (id : UInt64) :
    (unsigned64 expected).ofJson (.ofUInt64 id) = .ok id := by
  have hn := id.toNat_lt
  have h := ofJson_map (ofJson_integer 0 0xFFFFFFFFFFFFFFFF id.toNat expected (by omega) (by omega))
    fun n => UInt64.ofNat n.1.toNat
  rwa [Int.toNat_natCast, UInt64.ofNat_toNat] at h

theorem ofJson_signed32 (id : Int32) : signed32.ofJson (Frame.counterJson id) = .ok id := by
  have hl := id.le_toInt
  have hh := id.toInt_lt
  have h := ofJson_map
    (ofJson_integer (-0x80000000) 0x7FFFFFFF id.toInt "i32" (by omega) (by omega))
    fun n => Int32.ofInt n.1
  rwa [Int32.ofInt_toInt] at h

end Json.Schema

namespace Frame

/-! ## 3.  Members -/

/-- The numbers of the frame are whole, and it is not too deep for a line. -/
structure Plain (f : Frame) : Prop where
  whole : f.toJson.Whole
  depth_le : f.toJson.depth ≤ Json.depthLimit

open Json.Schema

theorem ofJson_payload (payload : List UInt8) :
    payloadSlot.value.ofJson (payloadJson payload) =
      .ok fun d => { d with payload := some payload } := by
  have h : payloadOf (Hex.encode payload) = .ok payload := by
    rw [payloadOf, Hex.decode_encode]
  exact ofJson_map (ofJson_check rfl h) _

theorem ofJson_id (id : UInt64) :
    idSlot.value.ofJson (idJson id) = .ok fun d => { d with id := some id } :=
  ofJson_map (ofJson_unsigned64 "u64" id) _

theorem ofJson_counter (id : Int32) :
    counterSlot.value.ofJson (counterJson id) = .ok fun d => { d with counter := some id } :=
  ofJson_map (ofJson_signed32 id) _

theorem ofJson_decision (decision : Decision) :
    decisionSlot.value.ofJson (.string decision.wire) =
      .ok fun d => { d with decision := some decision } := by
  have h : Decision.schema.ofJson (.string decision.wire) = .ok decision := by
    cases decision <;> rfl
  exact ofJson_map h _

theorem ofJson_properties (properties : Option Properties) :
    propertiesSlot.value.ofJson ((properties.map Properties.toJson).getD .null) =
      .ok fun d => { d with properties := some properties } := by
  refine ofJson_map ?_ _
  cases properties with
  | none => rfl
  | some p =>
    show Except.ok (some (Properties.ofMembers p.bindings)) = _
    rw [Properties.ofMembers_bindings]

theorem membersInto_cons {σ α : Type} {record : Json.Record σ α} {state : σ} {key : String}
    {value : Json} {slot : Json.Slot σ} {change : σ → σ} (h : record.slot? key = some slot)
    (hf : slot.filled state = false) (hv : slot.value.ofJson value = .ok change)
    (rest : List (String × Json)) :
    record.membersInto state ((key, value) :: rest) = record.membersInto (change state) rest := by
  rw [Json.Record.membersInto, h]
  dsimp only
  rw [hf, if_neg (by decide), hv]

/-- **The members of a frame make the frame.** -/
theorem ofMembers_members (f : Frame) : f.kind.record.ofMembers f.members = .ok f := by
  unfold Json.Record.ofMembers
  cases f with
  | handshake properties =>
    rw [members, membersInto_cons rfl rfl (ofJson_properties properties)]
    rfl
  | handshakeResponse decision =>
    rw [members, membersInto_cons rfl rfl (ofJson_decision decision)]
    rfl
  | send payload =>
    rw [members, membersInto_cons rfl rfl (ofJson_payload payload)]
    rfl
  | request id payload | response id payload =>
    rw [members, membersInto_cons rfl rfl (ofJson_id id),
      membersInto_cons rfl rfl (ofJson_payload payload)]
    rfl
  | ping id | pong id =>
    rw [members, membersInto_cons rfl rfl (ofJson_counter id)]
    rfl

/-! ## 4.  Texts -/

theorem named_wire (k : Kind) : named (Kind.all.map fun k => (k.wire, k)) k.wire = .ok k := by
  cases k <;> rfl

theorem key_ne_kind (f : Frame) : ∀ m ∈ f.members, m.1 ≠ "kind" := by
  cases f <;> simp [members]

/-- Members that do not name the kind are kept. -/
theorem takes_others (kind : Kind) {members : List (String × Json)}
    (hk : ∀ m ∈ members, m.1 ≠ "kind")
    (hr : ∀ m ∈ members, contentReader.Reads m.2.render m.2) (done : List (String × Json)) :
    taggedFields.Takes ⟨some kind, done⟩ members ⟨some kind, members.reverse ++ done⟩ := by
  induction members generalizing done with
  | nil => exact .nil _
  | cons m members ih =>
    have ih := ih (fun k h => hk k (List.mem_cons_of_mem _ h))
      (fun k h => hr k (List.mem_cons_of_mem _ h)) (m :: done)
    rw [List.reverse_cons, List.append_assoc, List.singleton_append]
    exact .cons (if_neg (hk m List.mem_cons_self))
      ((hr m List.mem_cons_self).map fun value => (⟨some kind, (m.1, value) :: done⟩ : Tagging)) ih

/-- The document of a frame is read as its kind and its other members. -/
theorem takes_members {f : Frame} (h : f.Plain) :
    taggedFields.Takes taggedFields.start (("kind", .string f.kind.wire) :: f.members)
      ⟨some f.kind, f.members.reverse⟩ := by
  have hk : Json.Reader.Reads _ (Json.string f.kind.wire).render (⟨some f.kind, []⟩ : Tagging) :=
    ((Json.reads_stringAs "variant identifier" f.kind.wire).check (named_wire f.kind)).map
      fun kind => { taggedFields.start with kind := some kind }
  have hd : Json.depthMembers f.members ≤ Json.depthLimit - 1 := by
    have hd := h.depth_le
    rw [toJson, Json.depth, Json.depthMembers] at hd
    exact Nat.le_sub_of_add_le (Nat.le_trans (Nat.succ_le_succ (Nat.le_max_right ..)) hd)
  have ho := takes_others f.kind (key_ne_kind f)
    (Json.reads_members f.members _ h.whole.2 hd) []
  rw [List.append_nil] at ho
  exact .cons rfl hk ho

theorem reads_encode {f : Frame} (h : f.Plain) :
    (taggedReader.interpret Tagged.frame).Reads f.encode f := by
  have hr : taggedReader.Reads f.encode (.members f.kind f.members) := by
    intro rest _
    have ho : ∀ t, taggedReader.read (Byte.openBrace :: t) = Json.objectOf taggedFields t :=
      fun _ => rfl
    rw [encode, toJson, Json.render_object, List.cons_append, ho]
    refine Json.objectOf_of_takes (takes_members h) ?_ rest
    show Except.ok (Tagged.members f.kind f.members.reverse.reverse) = _
    rw [List.reverse_reverse]
  exact hr.checkAt _ (ofMembers_members f)

/-- **A frame is read back.**  White space may follow it. -/
theorem parse_encode {f : Frame} (h : f.Plain) (rest : List UInt8)
    (hr : ∀ b ∈ rest, Byte.isBlank b = true) : parse (f.encode ++ rest) = .ok f :=
  Json.whole_of_reads (reads_encode h) rest hr

/-! ## 5.  Lines -/

theorem printable_encode {f : Frame} (h : f.Plain) : Json.Printable f.encode :=
  Json.printable_render _ h.whole

/-- **The line of a frame holds the frame.** -/
theorem ofBytes?_toLine {f : Frame} (h : f.Plain) : Line.ofBytes? f.toLine = some (.frame f) := by
  have hm : Byte.openBrace ∈ f.toLine := by
    rw [toLine, encode, toJson, Json.render_object, List.cons_append]
    exact List.mem_cons_self
  have hb : ¬(f.toLine.all Blank.isBlankByte = true) := by
    intro ha
    exact absurd (List.all_eq_true.1 ha _ hm) (by decide)
  rw [Line.ofBytes?, if_neg hb, toLine, parse_encode h [Byte.newline]
    (List.forall_mem_singleton.2 rfl)]

/-- A stream is cut after the newline of a line. -/
theorem Line.segments_append (body rest : List UInt8) (h : Byte.newline ∉ body) :
    segments (body ++ [Byte.newline] ++ rest) = (body ++ [Byte.newline]) :: segments rest := by
  induction body with
  | nil => exact if_pos rfl
  | cons b body ih =>
    have hb : b ≠ Byte.newline := fun he => h (he ▸ List.mem_cons_self)
    rw [List.cons_append, List.cons_append, segments, if_neg hb,
      ih fun hm => h (List.mem_cons_of_mem _ hm)]

/-- **A stream of lines is cut into its lines.** -/
theorem segments_flatMap_toLine {frames : List Frame} (h : ∀ f ∈ frames, f.Plain) :
    Line.segments (frames.flatMap toLine) = frames.map toLine := by
  induction frames with
  | nil => rfl
  | cons f frames ih =>
    rw [List.flatMap_cons, List.map_cons, ← ih fun g hg => h g (List.mem_cons_of_mem _ hg)]
    exact Line.segments_append f.encode _
      (printable_encode (h f List.mem_cons_self)).newline_not_mem

/-! ## 6.  Frames without properties

Only a handshake carries more than identifiers and texts. -/

theorem plain_of_kind_ne {f : Frame} (h : f.kind ≠ .handshake) : f.Plain := by
  cases f with
  | handshake => exact absurd rfl h
  | handshakeResponse | send | ping | pong =>
    refine ⟨⟨trivial, trivial, trivial⟩, ?_⟩
    simp [toJson, members, payloadJson, counterJson, Json.depth, Json.depthMembers, Json.depthLimit]
  | request | response =>
    refine ⟨⟨trivial, trivial, trivial, trivial⟩, ?_⟩
    simp [toJson, members, payloadJson, idJson, Json.ofUInt64, Json.depth, Json.depthMembers,
      Json.depthLimit]

end Frame

namespace LineReader

/-- The reader in the middle of a line. -/
def within (bytes : List UInt8) : LineReader :=
  ⟨bytes.reverse, bytes.length, false, List.length_reverse.symm⟩

theorem push_within (before : List UInt8) {b : UInt8} (h : b ≠ Byte.newline)
    (hl : before.length < Frame.lineLimit) :
    (within before).push b = (within (before ++ [b]), none) := by
  have he : within (before ++ [b]) = ⟨b :: before.reverse, before.length + 1, false, by simp⟩ := by
    simp [within]
  have hs : (within before).size ≠ Frame.lineLimit := Nat.ne_of_lt hl
  rw [he, push, if_neg (by simp [within]), if_neg hs, if_neg h]
  rfl

theorem push_newline (before : List UInt8) (hl : before.length < Frame.lineLimit) :
    (within before).push Byte.newline =
      (start, Frame.Line.ofBytes? (before ++ [Byte.newline])) := by
  have hs : (within before).size ≠ Frame.lineLimit := Nat.ne_of_lt hl
  rw [push, if_neg (by simp [within]), if_neg hs, if_pos rfl]
  simp [within]

theorem feed_singleton (r : LineReader) (b : UInt8) :
    r.feed [b] = ((r.push b).1, (r.push b).2.toList) := by
  cases h : (r.push b).2 <;> simp [feed, pushOnto, h]

/-- Bytes that end no line are kept. -/
theorem feed_within (before bytes : List UInt8) (h : Byte.newline ∉ bytes)
    (hl : before.length + bytes.length ≤ Frame.lineLimit) :
    (within before).feed bytes = (within (before ++ bytes), []) := by
  induction bytes generalizing before with
  | nil => rw [feed_nil, List.append_nil]
  | cons b bytes ih =>
    rw [List.length_cons] at hl
    have hb : b ≠ Byte.newline := fun he => h (he ▸ List.mem_cons_self)
    have ih := ih (before ++ [b]) (fun hm => h (List.mem_cons_of_mem _ hm))
      (by rw [List.length_append, List.length_singleton]; omega)
    rw [← List.singleton_append, feed_append, feed_singleton, push_within before hb (by omega)]
    dsimp only
    rw [ih, List.append_assoc]
    rfl

/-- **A line is read as a whole, and the reader is at a beginning again.** -/
theorem feed_line (body : List UInt8) (h : Byte.newline ∉ body)
    (hl : (body ++ [Byte.newline]).length ≤ Frame.lineLimit) :
    start.feed (body ++ [Byte.newline]) =
      (start, (Frame.Line.ofBytes? (body ++ [Byte.newline])).toList) := by
  rw [List.length_append, List.length_singleton] at hl
  have hw : start.feed body = (within body, []) := by
    have := feed_within [] body h (by rw [List.length_nil]; omega)
    rwa [List.nil_append] at this
  rw [feed_append, hw, feed_singleton, push_newline body hl]
  rfl

/-- The line of a frame gives the frame. -/
theorem feed_toLine {f : Frame} (h : f.Plain) (hl : f.toLine.length ≤ Frame.lineLimit) :
    start.feed f.toLine = (start, [.frame f]) := by
  have hf := feed_line f.encode (Frame.printable_encode h).newline_not_mem hl
  rw [Frame.toLine, hf]
  exact congrArg (fun line => (start, Option.toList line)) (Frame.ofBytes?_toLine h)

/-- The rest of a line gives the frame, wherever the line was cut. -/
theorem feed_rest {f : Frame} (h : f.Plain) (hl : f.toLine.length ≤ Frame.lineLimit)
    {begun rest : List UInt8} (hb : begun ++ rest = f.toLine) (hr : rest ≠ []) :
    (within begun).feed rest = (start, [.frame f]) := by
  -- what is left holds the newline, so what has begun is from the text of the frame
  have hn : Byte.newline ∉ begun := by
    obtain rfl | ⟨body, b, rfl⟩ := List.eq_nil_or_concat rest
    · exact absurd rfl hr
    · rw [List.concat_eq_append, ← List.append_assoc, Frame.toLine] at hb
      have he := (List.append_inj' hb rfl).1
      exact fun hm => (Frame.printable_encode h).newline_not_mem (he ▸ List.mem_append_left _ hm)
  have hbegun : start.feed begun = (within begun, []) := by
    have hlen : begun.length ≤ f.toLine.length := by
      rw [← hb, List.length_append]
      exact Nat.le_add_right _ _
    have hw := feed_within [] begun hn (by
      rw [List.length_nil, Nat.zero_add]
      exact Nat.le_trans hlen hl)
    rwa [List.nil_append] at hw
  have hf := feed_toLine h hl
  rw [← hb, feed_append, hbegun] at hf
  exact hf

end LineReader

end AgentIntake
