import AgentIntake.Proofs.Json.Depth
import AgentIntake.Proofs.Json.Integer
import AgentIntake.Proofs.Json.Members
import AgentIntake.Proofs.Json.Slots

/-!
# The members of a text, each with its own text

A text that is an object has members, and each of them stands somewhere in it: behind its key and
its colon, up to what separates it from the next.  What stands there is the member's own text, and
by itself it is the member's value (`exists_stand`).  So what is said of the values under a name can
be said of the texts under it (`valuesOf_eq_singleton_iff`).
-/

namespace AgentIntake.Json

/-! ## 1.  Texts of members -/

/-- The text of the value: what stands between its beginning and what is behind it. -/
def Entry.text (e : Entry) : List UInt8 :=
  e.start.take (e.start.length - e.rest.length)

/-- The entry is the member: under its key it has a text which is read to its end as the value. -/
structure Entry.Spells (e : Entry) (member : String × Json) : Prop where
  key : e.key = member.1
  value : (document depthLimit).read e.text = .ok (member.2, [])

/-- The entries are the members of an object where they stand in its text, all of them and in order.

They stand between the braces, and there is white space around these (`laid`).  Their texts are
pieces of the text (`cut`).  Their texts are the members' values (`spells`). -/
structure Stand (text : List UInt8) (entries : List Entry) (members : List (String × Json)) :
    Prop where
  laid : ∃ s t r, skipBlank text = Byte.openBrace :: s ∧ Laid true s entries t ∧
    closeObject t = .ok r ∧ skipBlank r = []
  cut : ∀ e ∈ entries, e.start = e.text ++ e.rest
  spells : List.Forall₂ Entry.Spells entries members

theorem Entry.Holds.spells {e : Entry} {member : String × Json} {depth : Nat}
    (h : e.Holds (document depth) member) (hd : depth ≤ depthLimit) :
    e.start = e.text ++ e.rest ∧ e.Spells member := by
  obtain ⟨hk, hv⟩ := h
  obtain ⟨t, hs, ht⟩ := exact_document depth hv
  have htext : e.text = t := by
    rw [Entry.text, hs, List.length_append, Nat.add_sub_cancel, List.take_left']
    rfl
  rw [htext]
  exact ⟨hs, hk, by rw [htext]; exact read_document_of_le hd ht⟩

/-- **The members of an object stand in its text, each with a text of its own.** -/
theorem exists_stand {text : List UInt8} {members : List (String × Json)}
    (h : parse text = .ok (.object members)) :
    ∃ entries, Stand text entries members := by
  obtain ⟨r, hr, hend⟩ := whole_eq_ok_iff.1 h
  obtain ⟨b, s, hb, hv⟩ := read_document_eq_ok_iff.1 hr
  cases hv with
  | object allowed read =>
    cases allowed
    obtain ⟨entries, members', t, hl, hh, hc, hm⟩ := objectOf_everyMember_iff.1 read
    cases hm
    obtain ⟨hcut, hs⟩ := (List.forall₂_and_left entries members).1
      (hh.imp fun e m h => h.spells (by decide))
    exact ⟨entries, ⟨s, t, r, hb, hl, hc, hend⟩, hcut, hs⟩

/-! ## 2.  Texts under a name -/

/-- The entries with a name, in order. -/
def named (name : String) (entries : List Entry) : List Entry :=
  entries.filter (·.key == name)

variable {entries : List Entry} {members : List (String × Json)}

/-- What holds of entries and members one by one holds of those with a name. -/
theorem forall₂_filter_key {R : Entry → String × Json → Prop} (hkey : ∀ e m, R e m → e.key = m.1)
    (h : List.Forall₂ R entries members) (name : String) :
    List.Forall₂ R (named name entries) (members.filter (·.1 == name)) := by
  induction h with
  | nil => exact .nil
  | @cons e m entries members hm _ ih =>
    have he := hkey e m hm
    unfold named at ih ⊢
    by_cases hn : m.1 = name
    · rw [List.filter_cons_of_pos (by simpa [he] using hn),
        List.filter_cons_of_pos (by simpa using hn)]
      exact .cons hm ih
    · rw [List.filter_cons_of_neg (by simpa [he] using hn),
        List.filter_cons_of_neg (by simpa using hn)]
      exact ih

theorem forall₂_named (h : List.Forall₂ Entry.Spells entries members) (name : String) :
    List.Forall₂ Entry.Spells (named name entries) (members.filter (·.1 == name)) :=
  forall₂_filter_key (fun _ _ hs => hs.key) h name

theorem Entry.Spells.parse_text {e : Entry} {member : String × Json} (h : e.Spells member) :
    parse e.text = .ok member.2 :=
  whole_eq_ok_iff.2 ⟨[], h.value, rfl⟩

theorem valuesOf_eq_nil_iff (h : List.Forall₂ Entry.Spells entries members) (name : String) :
    valuesOf name members = [] ↔ named name entries = [] := by
  have hf := forall₂_named h name
  rw [valuesOf, List.map_eq_nil_iff]
  constructor
  · intro hn
    rw [hn] at hf
    exact List.forall₂_nil_right_iff.1 hf
  · intro hn
    rw [hn] at hf
    exact List.forall₂_nil_left_iff.1 hf

/-- **One value stands under a name exactly if one text does, and is that value.** -/
theorem valuesOf_eq_singleton_iff (h : List.Forall₂ Entry.Spells entries members) (name : String)
    (j : Json) :
    valuesOf name members = [j] ↔ ∃ e, named name entries = [e] ∧ parse e.text = .ok j := by
  have hf := forall₂_named h name
  rw [valuesOf, List.map_eq_singleton_iff]
  constructor
  · rintro ⟨m, hm, rfl⟩
    rw [hm] at hf
    obtain ⟨e, rest, hs, hrest, he⟩ := List.forall₂_cons_right_iff.1 hf
    rw [List.forall₂_nil_right_iff.1 hrest] at he
    exact ⟨e, he, hs.parse_text⟩
  · rintro ⟨e, he, hj⟩
    rw [he] at hf
    obtain ⟨m, rest, hs, hrest, hm⟩ := List.forall₂_cons_left_iff.1 hf
    rw [List.forall₂_nil_left_iff.1 hrest] at hm
    refine ⟨m, hm, ?_⟩
    rw [hs.parse_text] at hj
    exact Except.ok.inj hj

/-- A text under a name spells one of the members. -/
theorem exists_spells_of_named (h : List.Forall₂ Entry.Spells entries members) {name : String}
    {e : Entry} (he : named name entries = [e]) : ∃ j, e.Spells (name, j) := by
  have hf := forall₂_named h name
  rw [he] at hf
  obtain ⟨m, rest, hs, -, hm⟩ := List.forall₂_cons_left_iff.1 hf
  have hkey : m ∈ members.filter (·.1 == name) := hm ▸ List.mem_cons_self
  obtain rfl : m.1 = name := by simpa using (List.mem_filter.1 hkey).2
  exact ⟨m.2, hs⟩

/-- The text of a member is a whole number exactly if it is the integer literal. -/
theorem Entry.Spells.parse_text_whole_iff {e : Entry} {member : String × Json} (h : e.Spells member)
    {n : Int} (fits : -0x8000000000000000 ≤ n ∧ n < 0x10000000000000000) :
    parse e.text = .ok (.number (.whole n fits)) ↔ skipBlank e.text = renderInt n := by
  have hw : (document depthLimit).read e.text = .ok (.number (.whole n fits), []) ↔
      skipBlank e.text = renderInt n ++ [] := read_whole_iff fits stops_nil
  rw [List.append_nil] at hw
  rw [h.parse_text, ← hw, h.value]
  simp

end AgentIntake.Json
