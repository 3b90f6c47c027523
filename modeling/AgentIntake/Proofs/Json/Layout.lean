import AgentIntake.Proofs.Json.RoundTrip
import Mathlib.Data.List.DropRight
import Mathlib.Data.List.Forall2

/-!
# How values are laid out in a text

What a value is can be told from its first byte: `ValueAt` lists the kinds of values, each with what
its reader goes on to do, and `valueOf_eq_ok_iff` is all that needs to be known about the reader of
values.

The members of an object stand where they stand, whatever they are read for.  `Laid` says where:
each member has a key, the text from its value on, and the text behind its value.  To read an object
as a document is to read each value where it stands (`objectOf_everyMember_iff`).
-/

namespace AgentIntake.Json

variable {α σ : Type}

/-! ## 1.  The first byte of a value -/

theorem skipBlank_skipBlank (s : List UInt8) : skipBlank (skipBlank s) = skipBlank s :=
  List.dropWhile_idempotent Byte.isBlank s

/-- The value that begins with a byte, before the text `r`.  What is inside of it was read by
`inner`. -/
inductive ValueAt (inner : Option (Reader Json)) :
    UInt8 → List UInt8 → Json → List UInt8 → Prop where
  | null {s r : List UInt8} (read : literal nullRest s = .ok r) : ValueAt inner 0x6E s null r
  | yes {s r : List UInt8} (read : literal trueRest s = .ok r) :
    ValueAt inner 0x74 s (bool true) r
  | no {s r : List UInt8} (read : literal falseRest s = .ok r) :
    ValueAt inner 0x66 s (bool false) r
  | negative {s r : List UInt8} {n : Number} (read : readNumber true s = .ok (n, r)) :
    ValueAt inner Byte.minus s (number n) r
  | number {b : UInt8} {s r : List UInt8} {n : Number} (digit : Byte.isDigit b = true)
    (read : readNumber false (b :: s) = .ok (n, r)) : ValueAt inner b s (number n) r
  | string {s r : List UInt8} {t : String} (read : readString s = .ok (t, r)) :
    ValueAt inner Byte.quote s (string t) r
  | array {item : Reader Json} {s r : List UInt8} {items : List Json} (allowed : inner = some item)
    (read : listOf item s = .ok (items, r)) : ValueAt inner Byte.openBracket s (array items) r
  | object {value : Reader Json} {s r : List UInt8} {j : Json} (allowed : inner = some value)
    (read : objectOf (everyMember value) s = .ok (j, r)) : ValueAt inner Byte.openBrace s j r

variable {inner : Option (Reader Json)}

section FirstByte

variable {s t r : List UInt8} {b : UInt8} {j : Json}

theorem valueOf_null (hb : skipBlank s = 0x6E :: t) :
    valueOf inner s = (literal nullRest t).map (null, ·) := by
  rw [valueOf, hb]
  rfl

theorem valueOf_true (hb : skipBlank s = 0x74 :: t) :
    valueOf inner s = (literal trueRest t).map (bool true, ·) := by
  rw [valueOf, hb]
  rfl

theorem valueOf_false (hb : skipBlank s = 0x66 :: t) :
    valueOf inner s = (literal falseRest t).map (bool false, ·) := by
  rw [valueOf, hb]
  rfl

theorem valueOf_minus (hb : skipBlank s = Byte.minus :: t) :
    valueOf inner s = (readNumber true t).map fun (n, r) => (.number n, r) := by
  rw [valueOf, hb]
  rfl

theorem valueOf_digit (hb : skipBlank s = b :: t) (digit : Byte.isDigit b = true) :
    valueOf inner s = (readNumber false (b :: t)).map fun (n, r) => (.number n, r) := by
  rw [valueOf, hb]
  dsimp only
  rw [if_neg (isDigit_ne digit (by decide)), if_neg (isDigit_ne digit (by decide)),
    if_neg (isDigit_ne digit (by decide)), if_neg (isDigit_ne digit (by decide)), if_pos digit]

theorem valueOf_quote (hb : skipBlank s = Byte.quote :: t) :
    valueOf inner s = (readString t).map fun (u, r) => (.string u, r) := by
  rw [valueOf, hb]
  rfl

theorem valueOf_openBracket (hb : skipBlank s = Byte.openBracket :: t) (item : Reader Json) :
    valueOf (some item) s = (listOf item t).map fun (items, r) => (.array items, r) := by
  rw [valueOf, hb]
  rfl

theorem valueOf_openBrace (hb : skipBlank s = Byte.openBrace :: t) (value : Reader Json) :
    valueOf (some value) s = objectOf (everyMember value) t := by
  rw [valueOf, hb]
  rfl

/-- Where nothing may be inside of anything, no list and no object begins. -/
theorem valueOf_tooDeep (hb : skipBlank s = b :: t)
    (h : b = Byte.openBracket ∨ b = Byte.openBrace) :
    valueOf none s = .error (.next .tooDeep (b :: t)) := by
  rw [valueOf, hb]
  rcases h with rfl | rfl <;> rfl

/-- No value begins with any other byte. -/
theorem valueOf_noValue (hb : skipBlank s = b :: t) (hnull : b ≠ 0x6E) (htrue : b ≠ 0x74)
    (hfalse : b ≠ 0x66) (hminus : b ≠ Byte.minus) (hdigit : ¬Byte.isDigit b = true)
    (hquote : b ≠ Byte.quote) (hbracket : b ≠ Byte.openBracket) (hbrace : b ≠ Byte.openBrace) :
    valueOf inner s = .error (.next .noValue (b :: t)) := by
  rw [valueOf, hb]
  dsimp only
  rw [if_neg hnull, if_neg htrue, if_neg hfalse, if_neg hminus, if_neg hdigit, if_neg hquote,
    if_neg hbracket, if_neg hbrace]

/-- A value that stands at its first byte is read. -/
theorem ValueAt.valueOf_eq (hb : skipBlank s = b :: t) (h : ValueAt inner b t j r) :
    valueOf inner s = .ok (j, r) := by
  cases h with
  | null read => rw [valueOf_null hb, read]; rfl
  | yes read => rw [valueOf_true hb, read]; rfl
  | no read => rw [valueOf_false hb, read]; rfl
  | negative read => rw [valueOf_minus hb, read]; rfl
  | number digit read => rw [valueOf_digit hb digit, read]; rfl
  | string read => rw [valueOf_quote hb, read]; rfl
  | array allowed read => rw [allowed, valueOf_openBracket hb, read]; rfl
  | object allowed read => rw [allowed, valueOf_openBrace hb, read]

/-- What is read between brackets or braces stands there. -/
theorem valueAt_of_opening (hb : skipBlank s = b :: t)
    (hopens : b = Byte.openBracket ∨ b = Byte.openBrace) (h : valueOf inner s = .ok (j, r)) :
    ValueAt inner b t j r := by
  cases inner with
  | none =>
    rw [valueOf_tooDeep hb hopens] at h
    cases h
  | some reader =>
    rcases hopens with rfl | rfl
    · rw [valueOf_openBracket hb] at h
      obtain ⟨items, hread, hr⟩ := eq_ok_of_map h
      cases hr
      exact .array rfl hread
    · rw [valueOf_openBrace hb] at h
      exact .object rfl h

/-- What is read stands at its first byte. -/
theorem valueAt_of_valueOf (hb : skipBlank s = b :: t) (h : valueOf inner s = .ok (j, r)) :
    ValueAt inner b t j r := by
  by_cases hnull : b = 0x6E
  · subst hnull
    obtain ⟨_, hread, hr⟩ := eq_ok_of_map ((valueOf_null hb).symm.trans h)
    cases hr
    exact .null hread
  by_cases htrue : b = 0x74
  · subst htrue
    obtain ⟨_, hread, hr⟩ := eq_ok_of_map ((valueOf_true hb).symm.trans h)
    cases hr
    exact .yes hread
  by_cases hfalse : b = 0x66
  · subst hfalse
    obtain ⟨_, hread, hr⟩ := eq_ok_of_map ((valueOf_false hb).symm.trans h)
    cases hr
    exact .no hread
  by_cases hminus : b = Byte.minus
  · subst hminus
    obtain ⟨_, hread, hr⟩ := eq_ok_of_map ((valueOf_minus hb).symm.trans h)
    cases hr
    exact .negative hread
  by_cases hdigit : Byte.isDigit b = true
  · obtain ⟨_, hread, hr⟩ := eq_ok_of_map ((valueOf_digit hb hdigit).symm.trans h)
    cases hr
    exact .number hdigit hread
  by_cases hquote : b = Byte.quote
  · subst hquote
    obtain ⟨_, hread, hr⟩ := eq_ok_of_map ((valueOf_quote hb).symm.trans h)
    cases hr
    exact .string hread
  by_cases hopens : b = Byte.openBracket ∨ b = Byte.openBrace
  · exact valueAt_of_opening hb hopens h
  · obtain ⟨hbracket, hbrace⟩ := not_or.1 hopens
    rw [valueOf_noValue hb hnull htrue hfalse hminus hdigit hquote hbracket hbrace] at h
    cases h

/-- **A value is read by its first byte.** -/
theorem valueOf_eq_ok_iff :
    valueOf inner s = .ok (j, r) ↔ ∃ b t, skipBlank s = b :: t ∧ ValueAt inner b t j r := by
  constructor
  · intro h
    cases hb : skipBlank s with
    | nil =>
      rw [valueOf, hb] at h
      cases h
    | cons b t => exact ⟨b, t, rfl, valueAt_of_valueOf hb h⟩
  · rintro ⟨b, t, hb, h⟩
    exact h.valueOf_eq hb

end FirstByte

/-- The reader of the items and members of documents of some depth. -/
def innerOf : Nat → Option (Reader Json)
  | 0 => none
  | depth + 1 => some (document depth)

theorem read_document (depth : Nat) : (document depth).read = valueOf (innerOf depth) := by
  cases depth <;> rfl

/-- A document is read by its first byte. -/
theorem read_document_eq_ok_iff {depth : Nat} {s r : List UInt8} {j : Json} :
    (document depth).read s = .ok (j, r) ↔
      ∃ b t, skipBlank s = b :: t ∧ ValueAt (innerOf depth) b t j r := by
  rw [read_document, valueOf_eq_ok_iff]

/-! ## 2.  Where members stand -/

/-- A member of an object where it stands: its key, the text of the object from its value on, and
the text behind its value. -/
structure Entry where
  key : String
  start : List UInt8
  rest : List UInt8

/-- The members that stand in a text, up to the end of their object. -/
inductive Laid : Bool → List UInt8 → List Entry → List UInt8 → Prop where
  | nil {first : Bool} {s : List UInt8} (ends : nextKey first s = .ok none) : Laid first s [] s
  | cons {first : Bool} {s t u r : List UInt8} {e : Entry} {entries : List Entry}
    (next : nextKey first s = .ok (some t)) (key : readString t = .ok (e.key, u))
    (colon : colon u = .ok e.start) (others : Laid false e.rest entries r) :
    Laid first s (e :: entries) r

/-- The entry is the member of a document, as `value` reads it. -/
def Entry.Holds (value : Reader Json) (e : Entry) (member : String × Json) : Prop :=
  e.key = member.1 ∧ value.read e.start = .ok (member.2, e.rest)

variable {value : Reader Json}

/-- What the reader of a member takes, `value` takes as a document. -/
def Fields.Reflects (fields : Fields σ α) (value : Reader Json) : Prop :=
  ∀ ⦃state final : σ⦄ ⦃key : String⦄ ⦃reader : Reader σ⦄ ⦃s r : List UInt8⦄,
    fields.member state key = .ok reader → reader.read s = .ok (final, r) →
      ∃ j, value.read s = .ok (j, r)

theorem reflects_everyMember (value : Reader Json) : (everyMember value).Reflects value := by
  intro done final key reader s r hm hr
  cases hm
  unfold Reader.map Reader.check Reader.checkAt at hr
  dsimp only at hr
  split at hr
  · cases hr
  · rename_i j r' hj
    cases hr
    exact ⟨j, hj⟩

/-- Members that were taken stand in the text, whatever they were taken for. -/
theorem exists_laid {fields : Fields σ α} (hf : fields.Reflects value) {first : Bool}
    {state final : σ} {s t : List UInt8}
    (h : membersFrom fields first state s = .ok (final, t)) :
    ∃ entries members, Laid first s entries t ∧
      List.Forall₂ (Entry.Holds value) entries members := by
  fun_induction membersFrom fields first state s with
  | case1 => cases h
  | case2 first state s hn =>
    cases h
    exact ⟨[], [], .nil hn, .nil⟩
  | case3 => cases h
  | case4 => cases h
  | case5 => cases h
  | case6 => cases h
  | case7 first state s t hn key u hk reader hm v hc state' r hv ih =>
    obtain ⟨entries, members, hl, hh⟩ := ih h
    obtain ⟨j, hj⟩ := hf hm hv
    exact ⟨⟨key, v, r⟩ :: entries, (key, j) :: members, .cons hn hk hc hl, .cons ⟨rfl, hj⟩ hh⟩

theorem Laid.membersFrom_eq {first : Bool} {s t : List UInt8} {entries : List Entry}
    (hl : Laid first s entries t) {members : List (String × Json)}
    (hh : List.Forall₂ (Entry.Holds value) entries members) (done : List (String × Json)) :
    membersFrom (everyMember value) first done s = .ok (members.reverse ++ done, t) := by
  induction hl generalizing done members with
  | nil ends =>
    cases hh
    exact membersFrom_end ends
  | @cons first s t u r e entries next key colon others ih =>
    cases hh with
    | @cons _ member _ members hm hh =>
      obtain ⟨name, j⟩ := member
      obtain ⟨rfl, hj⟩ := hm
      have hreads : (value.map fun v => (e.key, v) :: done).read e.start =
          .ok ((e.key, j) :: done, e.rest) := by
        unfold Reader.map Reader.check Reader.checkAt
        dsimp only
        rw [hj]
      rw [membersFrom_member next key rfl colon hreads, ih hh, List.reverse_cons, List.append_assoc,
        List.singleton_append]

/-- **The document of an object is made of the values where they stand.** -/
theorem objectOf_everyMember_iff {s r : List UInt8} {j : Json} :
    objectOf (everyMember value) s = .ok (j, r) ↔
      ∃ entries members t, Laid true s entries t ∧
        List.Forall₂ (Entry.Holds value) entries members ∧ closeObject t = .ok r ∧
          j = .object members := by
  constructor
  · intro h
    unfold objectOf at h
    split at h
    · cases h
    · rename_i final t hm
      obtain ⟨entries, members, hl, hh⟩ := exists_laid (reflects_everyMember value) hm
      obtain ⟨rfl, -⟩ := Prod.mk.inj (Except.ok.inj (hm.symm.trans (hl.membersFrom_eq hh [])))
      dsimp only [everyMember] at h
      split at h
      · cases h
      · rename_i hc
        cases h
        refine ⟨entries, members, t, hl, hh, hc, ?_⟩
        rw [List.append_nil, List.reverse_reverse]
  · rintro ⟨entries, members, t, hl, hh, hc, rfl⟩
    rw [objectOf, show (everyMember value).start = [] from rfl, hl.membersFrom_eq hh]
    dsimp only [everyMember]
    rw [hc, List.append_nil, List.reverse_reverse]

end AgentIntake.Json
