import AgentIntake.Proofs.Json.Layout

/-!
# Members of objects, whatever they mean

The text of an object can be read for many purposes: as a document, as a property set, as a frame.
Where its members stand does not depend on the purpose (`Laid`).  `Reader.Understands` says what a
reader has to do with a value to be in step with the reader of documents: to take the same text and
to make of it what the document means.

If the values of all members are so understood, the object is, too (`understands_objectAs`), and
what its members come to is a fold over the members of the document (`comeTo`).  Nothing about the
text is left in it.  So a schema says of a text what it says of the document in it
(`Schema.Agrees`).

## Why options

Two readers that understand the same value may word their refusals differently and find them at
different places.  What they have in common is what they read and that they refuse, so they are
compared after the wording is forgotten (`Except.toOption`).
-/

namespace AgentIntake.Json

variable {α β σ : Type} {depth : Nat}

/-! ## 1.  Understanding values -/

/-- The reader makes of a value what `ofJson` makes of its document, and takes the same text. -/
def Reader.Understands (reader : Reader α) (depth : Nat) (ofJson : Json → Option α) : Prop :=
  ∀ ⦃s r : List UInt8⦄ ⦃j : Json⦄, (document depth).read s = .ok (j, r) →
    (reader.read s).toOption = (ofJson j).map (·, r)

theorem toOption_checkAt (reader : Reader α) (place : Cause → List UInt8 → Fault)
    (f : α → Except Cause β) (s : List UInt8) :
    ((reader.checkAt place f).read s).toOption =
      (reader.read s).toOption.bind fun p => (f p.1).toOption.map (·, p.2) := by
  unfold Reader.checkAt
  dsimp only
  cases reader.read s with
  | error => rfl
  | ok p => cases hf : f p.1 <;> simp [hf, Except.toOption]

theorem Reader.Understands.checkAt {reader : Reader α} {ofJson : Json → Option α}
    (h : reader.Understands depth ofJson) (place : Cause → List UInt8 → Fault)
    (f : α → Except Cause β) :
    (reader.checkAt place f).Understands depth
      fun j => (ofJson j).bind fun a => (f a).toOption := by
  intro s r j hj
  rw [toOption_checkAt, h hj]
  dsimp only
  cases ofJson j <;> rfl

theorem Reader.Understands.map {reader : Reader α} {ofJson : Json → Option α}
    (h : reader.Understands depth ofJson) (f : α → β) :
    (reader.map f).Understands depth fun j => (ofJson j).map f := by
  intro s r j hj
  refine (h.checkAt .here (fun a => .ok (f a)) hj).trans ?_
  dsimp only
  cases ofJson j <;> rfl

theorem understands_document (depth : Nat) : (document depth).Understands depth some := by
  intro s r j hj
  rw [hj]
  rfl

/-- A reader that goes by the first byte understands a value if it does so behind that byte. -/
theorem understands_of_first {reader : Reader α} {ofJson : Json → Option α}
    {reads : UInt8 → List UInt8 → Option (Except Fault (α × List UInt8))}
    (hread : ∀ ⦃s b t⦄, skipBlank s = b :: t →
      (reader.read s).toOption = (reads b t).bind Except.toOption)
    (h : ∀ ⦃b s r j⦄, ValueAt (innerOf depth) b s j r →
      (reads b s).bind Except.toOption = (ofJson j).map (·, r)) :
    reader.Understands depth ofJson := by
  intro s r j hj
  obtain ⟨b, t, hb, hv⟩ := read_document_eq_ok_iff.1 hj
  rw [hread hb, h hv]

theorem toOption_stringAs {expected : String} {s t : List UInt8} {b : UInt8}
    (hb : skipBlank s = b :: t) :
    ((stringAs expected).read s).toOption =
      (if b = Byte.quote then some (readString t) else none).bind Except.toOption := by
  unfold stringAs byFirst
  dsimp only
  rw [hb]
  dsimp only
  split <;> rename_i hr <;> rw [hr] <;> rfl

theorem toOption_objectAs {σ : Type} {fields : Fields σ α} {expected : String} {s t : List UInt8}
    {b : UInt8} (hb : skipBlank s = b :: t) :
    ((objectAs expected fields).read s).toOption =
      (if b = Byte.openBrace then some (objectOf fields t) else none).bind Except.toOption := by
  unfold objectAs byFirst
  dsimp only
  rw [hb]
  dsimp only
  split <;> rename_i hr <;> rw [hr] <;> rfl

/-- The kind of value whose text begins with a quote. -/
theorem understands_stringAs (expected : String) :
    (stringAs expected).Understands depth fun
      | .string s => some s
      | _ => none := by
  refine understands_of_first (fun _ _ _ hb => toOption_stringAs hb) fun b s r j hv => ?_
  cases hv with
  | null | yes | no | negative | array => rfl
  | number digit => rw [if_neg (isDigit_ne digit (by decide))]; rfl
  | string read => rw [if_pos rfl, Option.bind_some, read]; rfl
  | object _ read =>
    obtain ⟨_, _, _, -, -, -, rfl⟩ := objectOf_everyMember_iff.1 read
    rfl

/-! ## 2.  Understanding members -/

/-- The readers of all members understand their values. -/
def Fields.Understands (fields : Fields σ α) (depth : Nat)
    (meaning : σ → String → Json → Option σ) : Prop :=
  ∀ ⦃s r : List UInt8⦄ ⦃j : Json⦄, (document depth).read s = .ok (j, r) →
    ∀ (state : σ) (key : String),
      ((fields.member state key).toOption.bind fun reader => (reader.read s).toOption) =
        (meaning state key j).map (·, r)

/-- What members come to, one after the other. -/
def comeTo (meaning : σ → String → Json → Option σ) : σ → List (String × Json) → Option σ
  | state, [] => some state
  | state, (key, j) :: members =>
    (meaning state key j).bind fun next => comeTo meaning next members

variable {fields : Fields σ α} {meaning : σ → String → Json → Option σ}

theorem toOption_membersFrom_member {first : Bool} {s t u v : List UInt8} {key : String}
    (hn : nextKey first s = .ok (some t)) (hk : readString t = .ok (key, u)) (hc : colon u = .ok v)
    (state : σ) :
    (membersFrom fields first state s).toOption =
      ((fields.member state key).toOption.bind fun reader => (reader.read v).toOption).bind
        fun p => (membersFrom fields false p.1 p.2).toOption := by
  rw [membersFrom.eq_def]
  split <;> rename_i h <;> rw [hn] at h <;> cases h
  split <;> rename_i h <;> rw [hk] at h <;> cases h
  split
  · rename_i hm
    rw [hm]
    rfl
  · rename_i reader hm
    rw [hm]
    split <;> rename_i h <;> rw [hc] at h <;> cases h
    split <;> rename_i hv <;> rw [Except.toOption, Option.bind_some, hv] <;> rfl

/-- **Members that are understood come to what the members of the document come to.** -/
theorem toOption_membersFrom (hf : fields.Understands depth meaning) {first : Bool}
    {s t : List UInt8} {entries : List Entry} {members : List (String × Json)}
    (hl : Laid first s entries t) (hh : List.Forall₂ (Entry.Holds (document depth)) entries members)
    (state : σ) :
    (membersFrom fields first state s).toOption = (comeTo meaning state members).map (·, t) := by
  induction hl generalizing state members with
  | nil ends =>
    cases hh
    rw [membersFrom_end ends]
    rfl
  | @cons first s t u r e entries next key colon others ih =>
    cases hh with
    | @cons _ member _ members hm hh =>
      obtain ⟨name, j⟩ := member
      obtain ⟨rfl, hj⟩ := hm
      rw [toOption_membersFrom_member next key colon, hf hj, comeTo]
      cases meaning state e.key j with
      | none => rfl
      | some final => exact ih hh final

/-- What an object comes to whose members are understood. -/
def Fields.ofJson (fields : Fields σ α) (meaning : σ → String → Json → Option σ) :
    Json → Option α
  | .object members =>
    (comeTo meaning fields.start members).bind fun final => (fields.finish final).toOption
  | _ => none

theorem toOption_objectOf (hf : fields.Understands depth meaning) {s r : List UInt8} {j : Json}
    (h : objectOf (everyMember (document depth)) s = .ok (j, r)) :
    (objectOf fields s).toOption = (fields.ofJson meaning j).map (·, r) := by
  obtain ⟨entries, members, t, hl, hh, hc, rfl⟩ := objectOf_everyMember_iff.1 h
  have hm := toOption_membersFrom hf hl hh fields.start
  rw [Fields.ofJson]
  unfold objectOf
  cases hx : membersFrom fields true fields.start s with
  | error =>
    rw [hx] at hm
    cases hfinal : comeTo meaning fields.start members with
    | none => rfl
    | some final =>
      rw [hfinal] at hm
      cases hm
  | ok p =>
    rw [hx] at hm
    cases hfinal : comeTo meaning fields.start members with
    | none =>
      rw [hfinal] at hm
      cases hm
    | some final =>
      rw [hfinal] at hm
      cases hm
      dsimp only [Option.bind_some]
      cases fields.finish final with
      | error => rfl
      | ok a =>
        dsimp only
        rw [hc]
        rfl

/-- **An object whose members are understood is understood.** -/
theorem understands_objectAs (expected : String) (hf : fields.Understands depth meaning) :
    (objectAs expected fields).Understands (depth + 1) (fields.ofJson meaning) := by
  refine understands_of_first (fun _ _ _ hb => toOption_objectAs hb) fun b s r j hv => ?_
  cases hv with
  | null | yes | no | negative | array | string => rfl
  | number digit => rw [if_neg (isDigit_ne digit (by decide))]; rfl
  | object allowed read =>
    cases allowed
    rw [if_pos rfl, Option.bind_some, toOption_objectOf hf read]

/-- What is taken as an object of some kind is an object. -/
theorem exists_document_of_objectAs {expected : String} (hf : fields.Reflects (document depth))
    {s r : List UInt8} {a : α} (h : (objectAs expected fields).read s = .ok (a, r)) :
    ∃ j, (document (depth + 1)).read s = .ok (j, r) := by
  unfold objectAs byFirst at h
  dsimp only at h
  split at h
  · cases h
  · rename_i b t hb
    split at h <;> rename_i hr
    · split at hr
      · rename_i hbrace
        subst hbrace h
        have ho : objectOf fields t = .ok (a, r) := Option.some.inj hr
        unfold objectOf at ho
        split at ho
        · cases ho
        · rename_i final u hm
          obtain ⟨entries, members, hl, hh⟩ := exists_laid hf hm
          split at ho
          · cases ho
          · split at ho
            · cases ho
            · rename_i hc
              cases ho
              refine ⟨.object members, read_document_eq_ok_iff.2 ⟨_, t, hb, .object rfl ?_⟩⟩
              exact objectOf_everyMember_iff.2 ⟨entries, members, u, hl, hh, hc, rfl⟩
      · cases hr
    · cases h

/-! ## 3.  Schemas -/

/-- The schema says of a text what it says of the document in it. -/
def Schema.Agrees (schema : Schema α) (depth : Nat) : Prop :=
  schema.reader.Understands depth fun j => (schema.ofJson j).toOption

namespace Schema.Agrees

theorem any (depth : Nat) : (Schema.any depth).Agrees depth :=
  (understands_document depth).map Value.ofJson

/-- `null` is read first, and is none of the other kind's values. -/
theorem optional {schema : Schema α} (h : schema.Agrees depth) :
    schema.optional.Agrees depth := by
  intro s r j hj
  obtain ⟨b, t, hb, hv⟩ := read_document_eq_ok_iff.1 hj
  have hj' : (document depth).read (b :: t) = .ok (j, r) :=
    read_document_eq_ok_iff.2 ⟨b, t, by rw [← hb, skipBlank_skipBlank], hv⟩
  have hread : (orNull schema.reader).read s =
      if b = 0x6E then (literal nullRest t).map (none, ·)
      else (schema.reader.map some).read (b :: t) := by
    rw [orNull]
    dsimp only
    rw [hb]
  show ((orNull schema.reader).read s).toOption = _
  rw [hread]
  by_cases hn : b = 0x6E
  · rw [if_pos hn]
    cases hv with
    | null read =>
      rw [read]
      rfl
    | yes | no | negative | string | array | object => cases hn
    | number digit =>
      subst hn
      cases digit
  · rw [if_neg hn, Reader.Understands.map h some hj']
    cases j with
    | null =>
      cases hv with
      | null => exact absurd rfl hn
      | object _ read =>
        obtain ⟨_, _, _, -, -, -, hj⟩ := objectOf_everyMember_iff.1 read
        cases hj
    | bool | number | string | array | object =>
      dsimp only [Schema.optional]
      cases schema.ofJson _ <;> rfl

end Schema.Agrees

/-! ## 4.  Whole texts -/

theorem whole_eq_ok_iff {reader : Reader α} {text : List UInt8} {a : α} :
    reader.whole text = .ok a ↔ ∃ r, reader.read text = .ok (a, r) ∧ skipBlank r = [] := by
  unfold Reader.whole
  constructor
  · intro h
    split at h
    · cases h
    · rename_i a' r hr
      split at h
      · rename_i hs
        cases h
        exact ⟨r, hr, hs⟩
      · cases h
  · rintro ⟨r, hr, hs⟩
    rw [hr]
    dsimp only
    rw [hs]

theorem toOption_whole {reader : Reader α} {text r : List UInt8} {o : Option α}
    (h : (reader.read text).toOption = o.map (·, r)) (hs : skipBlank r = []) :
    (reader.whole text).toOption = o := by
  unfold Reader.whole
  cases hx : reader.read text with
  | error =>
    rw [hx] at h
    cases o with
    | none => rfl
    | some a => cases h
  | ok p =>
    rw [hx] at h
    cases o with
    | none => cases h
    | some a =>
      cases h
      dsimp only
      rw [hs]
      rfl

/-- **A text is as its document is.** -/
theorem Reader.Understands.whole {reader : Reader α} {ofJson : Json → Option α}
    (h : reader.Understands depth ofJson) {text : List UInt8} {j : Json}
    (hj : (document depth).whole text = .ok j) : (reader.whole text).toOption = ofJson j := by
  obtain ⟨r, hr, hs⟩ := whole_eq_ok_iff.1 hj
  exact toOption_whole (h hr) hs

theorem toOption_eq_some_iff {ε : Type} {x : Except ε α} {a : α} :
    x.toOption = some a ↔ x = .ok a := by
  cases x with
  | error => exact ⟨nofun, nofun⟩
  | ok b => exact ⟨fun h => congrArg Except.ok (Option.some.inj h), fun h => by cases h; rfl⟩

end AgentIntake.Json
