import AgentIntake.Handshake.Gate
import AgentIntake.Proofs.Frame.RoundTrip
import AgentIntake.Proofs.Handshake.Properties
import AgentIntake.Proofs.Json.Places
import Mathlib.Data.List.Sort

/-!
# What the gate decides by

A property set has a history, the edits that made it one after the other.  A list of bindings and
the members of a text are histories too, in which every edit binds.  What a key is bound to in the
end is what the last edit of the key left, however the set was made (`Built.get?_eq`).  So sets
whose keys are bound to the same in the end are the same set.

The gate looks at nine keys.  It tells apart no two sets in which these are bound to the same, and
what it decides is read off their last edits (`decide_of_history`).
-/

namespace AgentIntake

namespace Properties

/-! ## 1.  What is bound -/

theorem get?_insert (p : Properties) (key : String) (value : Value) (name : String) :
    (p.insert key value).get? name = if key = name then some value.json else p.get? name := by
  rw [get?, insert, Json.find?_bind]
  split <;> rfl

theorem get?_erase (p : Properties) (key name : String) :
    (p.erase key).get? name = if key = name then none else p.get? name := by
  rw [get?, erase, List.find?_filter]
  by_cases hk : key = name
  · subst hk
    rw [if_pos rfl, Option.map_eq_none_iff, List.find?_eq_none]
    simp
  · rw [if_neg hk, get?]
    congr 2
    funext b
    by_cases hb : b.1 = name
    · simp [hb, Ne.symm hk]
    · simp [hb]

/-- The bindings are what the keys are bound to. -/
theorem mem_bindings_iff {p : Properties} {key : String} {j : Json} :
    (key, j) ∈ p.bindings ↔ p.get? key = some j := by
  rw [get?, Option.map_eq_some_iff]
  constructor
  · intro hm
    cases hf : p.bindings.find? (·.1 == key) with
    | none => exact absurd (List.find?_eq_none.1 hf _ hm) (by simp)
    | some b =>
      have hb : b.1 = key := by simpa using List.find?_some hf
      -- no key is bound twice, since none comes before itself
      have hkeys : (p.bindings.map Prod.fst).Nodup := by
        refine List.pairwise_map.2 (p.isCanonical.1.imp ?_)
        intro a b hlt he
        exact String.lt_irrefl _ (he ▸ hlt)
      have heq : b = (key, j) :=
        List.inj_on_of_nodup_map hkeys (List.mem_of_find?_eq_some hf) hm hb
      exact ⟨b, rfl, heq ▸ rfl⟩
  · rintro ⟨b, hf, rfl⟩
    have hb : b.1 = key := by simpa using List.find?_some hf
    exact hb ▸ List.mem_of_find?_eq_some hf

/-- **Sets that bind the same keys to the same values are equal.** -/
theorem eq_of_get? {p q : Properties} (h : ∀ key, p.get? key = q.get? key) : p = q := by
  have : Std.Irrefl fun a b : String × Json => a.1 < b.1 := ⟨fun a => String.lt_irrefl a.1⟩
  have : Std.Antisymm fun a b : String × Json => a.1 < b.1 :=
    ⟨fun a b hab hba => absurd hba (String.lt_asymm hab)⟩
  refine ext (List.Pairwise.eq_of_mem_iff p.isCanonical.1 q.isCanonical.1 ?_)
  rintro ⟨key, j⟩
  rw [mem_bindings_iff, mem_bindings_iff, h]

/-! ## 2.  Histories -/

/-- A change of one key. -/
inductive Edit where
  | bind (key : String) (value : Value)
  | drop (key : String)

namespace Edit

/-- The key. -/
def key : Edit → String
  | bind key _ | drop key => key

/-- What the key is bound to afterwards. -/
def left : Edit → Option Json
  | bind _ value => some value.json
  | drop _ => none

/-- The set with the change. -/
def apply (p : Properties) : Edit → Properties
  | bind key value => p.insert key value
  | drop key => p.erase key

theorem get?_apply (e : Edit) (p : Properties) (name : String) :
    (e.apply p).get? name = if e.key = name then e.left else p.get? name := by
  cases e with
  | bind key value => exact get?_insert p key value name
  | drop key => exact get?_erase p key name

end Edit

/-- The edits of a list of bindings. -/
def binding (bindings : List (String × Value)) : List Edit :=
  bindings.map fun b => .bind b.1 b.2

/-- The values of members. -/
def meanings (members : List (String × Json)) : List (String × Value) :=
  members.map fun m => (m.1, Value.ofJson m.2)

/-- The ways to make a set, each with its history: a new set, one made of bindings, one read from a
text, and one that was edited. -/
inductive Built : List Edit → Properties → Prop where
  | new : Built [] empty
  | pairs (bindings : List (String × Value)) : Built (binding bindings) (ofList bindings)
  | text {text : List UInt8} {members : List (String × Json)} {p : Properties}
    (document : Json.parse text = .ok (.object members)) (read : schema.reader.whole text = .ok p) :
    Built (binding (meanings members)) p
  | edit {history : List Edit} {p : Properties} (before : Built history p) (e : Edit) :
    Built (history ++ [e]) (e.apply p)

/-- The edits of a key, in order. -/
def editsOf (key : String) (history : List Edit) : List Edit :=
  history.filter (·.key == key)

/-- What a key is bound to in the end. -/
def lastBinding (history : List Edit) (key : String) : Option Json :=
  (editsOf key history).getLast?.bind Edit.left

theorem lastBinding_append (history : List Edit) (e : Edit) (key : String) :
    lastBinding (history ++ [e]) key = if e.key = key then e.left else lastBinding history key := by
  rw [lastBinding, editsOf, List.filter_append]
  by_cases hk : e.key = key
  · rw [if_pos hk, List.filter_cons_of_pos (by simpa using hk), List.filter_nil,
      List.getLast?_concat]
    rfl
  · rw [if_neg hk, List.filter_cons_of_neg (by simpa using hk), List.filter_nil, List.append_nil]
    rfl

theorem get?_ofList (bindings : List (String × Value)) (key : String) :
    (ofList bindings).get? key = lastBinding (binding bindings) key := by
  induction bindings using List.reverseRecOn with
  | nil => rfl
  | append_singleton bindings b ih =>
    rw [ofList, List.foldl_append, List.foldl_cons, List.foldl_nil, get?_insert, binding,
      List.map_append, List.map_cons, List.map_nil, lastBinding_append]
    exact congrArg (ite _ _) ih

/-- **However a set is made, a key is bound to what its last edit left.** -/
theorem Built.get?_eq {history : List Edit} {p : Properties} (h : Built history p) (key : String) :
    p.get? key = lastBinding history key := by
  induction h with
  | new => rfl
  | pairs bindings => exact get?_ofList bindings key
  | text document read =>
    obtain ⟨members', hm, rfl⟩ := reader_whole_eq_ok_iff.1 read
    rw [hm] at document
    cases document
    exact get?_ofList _ key
  | edit before e ih => rw [e.get?_apply, lastBinding_append, ih]

/-! ## 3.  The gate -/

/-- The keys that must be bound to a string. -/
def textKeys : List String :=
  ["agent-id", "application-name", "hostname", "ip", "version"]

/-- The keys that must be bound to a whole number. -/
def integerKeys : List String :=
  ["pid", "service-type", "start-timestamp"]

/-- The keys the gate looks at. -/
def gateKeys : List String :=
  "supports-duplex" :: (textKeys ++ integerKeys)

/-- Every required key is bound to a value of its kind: a string, or a whole number of sixty-four
bits, signed or not. -/
structure Complete (bound : String → Option Json) : Prop where
  texts : ∀ key ∈ textKeys, ∃ s, bound key = some (.string s)
  integers : ∀ key ∈ integerKeys, ∃ n fits, bound key = some (.number (.whole n fits))

theorem admits_text_iff {j : Json} : PropertyKind.text.admits j = true ↔ ∃ s, j = .string s := by
  cases j <;> simp [PropertyKind.admits]

theorem admits_integer_iff {j : Json} :
    PropertyKind.integer.admits j = true ↔ ∃ n fits, j = .number (.whole n fits) := by
  cases j with
  | number n => cases n <;> simp [PropertyKind.admits]; assumption
  | null | bool | string | array | object => simp [PropertyKind.admits]

theorem hasRequired_iff {p : Properties} : p.hasRequired = true ↔ Complete p.get? := by
  have hany {kind : PropertyKind} {P : Json → Prop} (hP : ∀ j, kind.admits j = true ↔ P j)
      (key : String) : (p.get? key).any kind.admits = true ↔ ∃ j, p.get? key = some j ∧ P j := by
    cases p.get? key <;> simp [hP]
  have htext (key : String) : (p.get? key).any PropertyKind.text.admits = true ↔
      ∃ s, p.get? key = some (.string s) := by
    rw [hany fun j => admits_text_iff]
    exact ⟨fun ⟨j, hj, s, hs⟩ => ⟨s, hs ▸ hj⟩, fun ⟨s, hs⟩ => ⟨_, hs, s, rfl⟩⟩
  have hinteger (key : String) : (p.get? key).any PropertyKind.integer.admits = true ↔
      ∃ n fits, p.get? key = some (.number (.whole n fits)) := by
    rw [hany fun j => admits_integer_iff]
    exact ⟨fun ⟨j, hj, n, fits, hn⟩ => ⟨n, fits, hn ▸ hj⟩,
      fun ⟨n, fits, hn⟩ => ⟨_, hn, n, fits, rfl⟩⟩
  rw [hasRequired, List.all_eq_true]
  constructor
  · intro h
    refine ⟨fun key hk => ?_, fun key hk => ?_⟩
    · refine (htext key).1 (h (key, .text) ?_)
      simp only [textKeys, List.mem_cons, List.not_mem_nil, or_false] at hk
      rcases hk with rfl | rfl | rfl | rfl | rfl <;> decide
    · refine (hinteger key).1 (h (key, .integer) ?_)
      simp only [integerKeys, List.mem_cons, List.not_mem_nil, or_false] at hk
      rcases hk with rfl | rfl | rfl <;> decide
  · rintro ⟨ht, hi⟩ ⟨key, kind⟩ hk
    cases kind with
    | text => exact (htext key).2 (ht key (by simp [required, textKeys, agentIdKey] at hk ⊢; tauto))
    | integer => exact (hinteger key).2 (hi key (by simp [required, integerKeys] at hk ⊢; tauto))

theorem supportsDuplex_eq_false_iff {p : Properties} :
    p.supportsDuplex = false ↔ p.get? "supports-duplex" = some (.bool false) := by
  rw [supportsDuplex, show duplexKey = "supports-duplex" from rfl]
  constructor
  · intro h
    split at h
    · rename_i b hb
      rw [hb, h]
    · cases h
  · intro h
    rw [h]

theorem isAccepted_decide_iff {p : Properties} :
    (decide (some p)).isAccepted = true ↔ p.hasRequired = true := by
  rw [decide]
  cases p.hasRequired <;> cases p.supportsDuplex <;> decide

theorem decide_eq_acceptedSimplex_iff {p : Properties} :
    decide (some p) = .acceptedSimplex ↔ p.hasRequired = true ∧ p.supportsDuplex = false := by
  rw [decide]
  cases p.hasRequired <;> cases p.supportsDuplex <;> decide

theorem decide_eq_rejectedIncomplete_iff {p : Properties} :
    decide (some p) = .rejectedIncomplete ↔ p.hasRequired = false := by
  rw [decide]
  cases p.hasRequired <;> cases p.supportsDuplex <;> decide

theorem decide_eq_rejectedMalformed_iff {properties : Option Properties} :
    decide properties = .rejectedMalformed ↔ properties = none := by
  cases properties with
  | none => exact ⟨fun _ => rfl, fun _ => rfl⟩
  | some p =>
    rw [decide]
    cases p.hasRequired <;> cases p.supportsDuplex <;> simp

/-- **The gate tells apart no two sets in which its keys are bound to the same.** -/
theorem decide_congr {p q : Properties} (h : ∀ key ∈ gateKeys, p.get? key = q.get? key) :
    decide (some p) = decide (some q) := by
  have hrequired : p.hasRequired = q.hasRequired := by
    have hkeys : ∀ r ∈ required, r.1 ∈ gateKeys := by decide
    rw [hasRequired, hasRequired, Bool.eq_iff_iff, List.all_eq_true, List.all_eq_true]
    refine forall₂_congr fun r hr => ?_
    dsimp only
    rw [h r.1 (hkeys r hr)]
  have hduplex : p.supportsDuplex = q.supportsDuplex := by
    rw [supportsDuplex, supportsDuplex, h duplexKey (by decide)]
  rw [decide, decide, hrequired, hduplex]

/-! ## 4.  Texts -/

/-- The last text of a key is such a text. -/
def LastText (entries : List Json.Entry) (key : String) (P : List UInt8 → Prop) : Prop :=
  ∃ e, (Json.named key entries).getLast? = some e ∧ P e.text

/-- The last text of every required key is a value of its kind: a string, or a whole number that
fits, which is written as its digits, behind a minus sign if it is negative. -/
structure Spelt (entries : List Json.Entry) : Prop where
  texts : ∀ key ∈ textKeys, LastText entries key fun text =>
    ∃ s, Json.parse text = .ok (.string s)
  integers : ∀ key ∈ integerKeys, LastText entries key fun text =>
    ∃ n : Int, (-0x8000000000000000 ≤ n ∧ n < 0x10000000000000000) ∧
      Json.skipBlank text = Json.renderInt n

section Texts

variable {entries : List Json.Entry} {members : List (String × Json)}
  (h : List.Forall₂ Json.Entry.Spells entries members)

include h

/-- What a key is bound to in the end can be told from its last text. -/
theorem lastBinding_meanings_iff (key : String) {j : Json} {P : List UInt8 → Prop}
    (hP : ∀ (e : Json.Entry) (m : String × Json), e.Spells m → (m.2.canonical = j ↔ P e.text)) :
    lastBinding (binding (meanings members)) key = some j ↔ LastText entries key P := by
  have hedits : editsOf key (binding (meanings members)) =
      (members.filter (·.1 == key)).map fun m => .bind m.1 (Value.ofJson m.2) := by
    rw [editsOf, binding, meanings, List.map_map, List.filter_map]
    rfl
  have hlast := List.rel_reverse (Json.forall₂_named h key)
  rw [lastBinding, hedits, LastText, List.getLast?_map, List.getLast?_eq_head?_reverse,
    List.getLast?_eq_head?_reverse]
  generalize (Json.named key entries).reverse = es at hlast ⊢
  generalize (members.filter (·.1 == key)).reverse = ms at hlast ⊢
  cases hlast with
  | nil => simp
  | @cons e m _ _ hm =>
    rw [List.head?_cons, List.head?_cons]
    constructor
    · intro hj
      exact ⟨e, rfl, (hP e m hm).1 (Option.some.inj hj)⟩
    · rintro ⟨_, ⟨⟩, he⟩
      exact congrArg some ((hP e m hm).2 he)

/-- A key is bound to a value that is neither an array nor an object exactly if its last text is the
value. -/
theorem lastBinding_meanings_scalar_iff (key : String) {j : Json}
    (hj : ∀ i : Json, i.canonical = j ↔ i = j) :
    lastBinding (binding (meanings members)) key = some j ↔
      LastText entries key fun text => Json.parse text = .ok j := by
  refine lastBinding_meanings_iff h key fun e m hm => ?_
  rw [hm.parse_text, Except.ok.injEq, hj]

/-- A key is bound to a whole number exactly if its last text is the number's digits. -/
theorem lastBinding_meanings_whole_iff (key : String) (n : Int)
    (fits : -0x8000000000000000 ≤ n ∧ n < 0x10000000000000000) :
    lastBinding (binding (meanings members)) key = some (.number (.whole n fits)) ↔
      LastText entries key fun text => Json.skipBlank text = Json.renderInt n := by
  refine lastBinding_meanings_iff h key fun e m hm => ?_
  rw [← hm.parse_text_whole_iff fits, hm.parse_text, Except.ok.injEq]
  cases m.2 <;> simp [Json.canonical]

/-- **The required keys are bound to values of their kinds exactly if their last texts are such
values.** -/
theorem complete_meanings_iff :
    Complete (lastBinding (binding (meanings members))) ↔ Spelt entries := by
  have hstring (key : String) :
      (∃ s, lastBinding (binding (meanings members)) key = some (.string s)) ↔
        LastText entries key fun text => ∃ s, Json.parse text = .ok (.string s) := by
    have hj (s : String) (i : Json) : i.canonical = .string s ↔ i = .string s := by
      cases i <;> simp [Json.canonical]
    simp only [lastBinding_meanings_scalar_iff h key (hj _)]
    exact ⟨fun ⟨s, e, he, hs⟩ => ⟨e, he, s, hs⟩, fun ⟨e, he, s, hs⟩ => ⟨s, e, he, hs⟩⟩
  have hwhole (key : String) :
      (∃ n fits, lastBinding (binding (meanings members)) key = some (.number (.whole n fits))) ↔
        LastText entries key fun text =>
          ∃ n : Int, (-0x8000000000000000 ≤ n ∧ n < 0x10000000000000000) ∧
            Json.skipBlank text = Json.renderInt n := by
    simp only [lastBinding_meanings_whole_iff h]
    exact ⟨fun ⟨n, fits, e, he, hn⟩ => ⟨e, he, n, fits, hn⟩,
      fun ⟨e, he, n, fits, hn⟩ => ⟨n, fits, e, he, hn⟩⟩
  constructor
  · rintro ⟨ht, hi⟩
    exact ⟨fun key hk => (hstring key).1 (ht key hk), fun key hk => (hwhole key).1 (hi key hk)⟩
  · rintro ⟨ht, hi⟩
    exact ⟨fun key hk => (hstring key).2 (ht key hk), fun key hk => (hwhole key).2 (hi key hk)⟩

end Texts

end Properties

/-! ## 5.  The decision -/

open Properties in
/-- **The gate decides by what nine keys are bound to in the end.**  Nothing but the absence of a
set is malformed.  However a set was made, it is accepted exactly if every required key was last
bound to a value of its kind, and is incomplete otherwise; it is accepted for one direction only
exactly if, besides, `supports-duplex` was last bound to `false`.  Edits of other keys do not
matter, and the order of edits does not for different keys.  Sets with the same last bindings are
the same set, and every text of an object is such a set: the gate decides by the last texts of the
keys. -/
theorem decide_of_history :
    (∀ properties, decide properties = .rejectedMalformed ↔ properties = none) ∧
    (∀ history p, Built history p →
      ((decide (some p)).isAccepted = true ↔ Complete (lastBinding history)) ∧
      (decide (some p) = .rejectedIncomplete ↔ ¬ Complete (lastBinding history)) ∧
      (decide (some p) = .acceptedSimplex ↔
        (decide (some p)).isAccepted = true ∧
          lastBinding history "supports-duplex" = some (.bool false)) ∧
      ∀ history' p', Built history' p' →
        ((∀ key ∈ gateKeys, lastBinding history' key = lastBinding history key) →
          decide (some p') = decide (some p)) ∧
        ((∀ key ∈ gateKeys, editsOf key history' = editsOf key history) →
          decide (some p') = decide (some p)) ∧
        ((∀ key, lastBinding history' key = lastBinding history key) → p' = p)) ∧
    ∀ text members, Json.parse text = .ok (.object members) →
      ∃ p, schema.reader.whole text = .ok p ∧ Built (binding (meanings members)) p ∧
        (∃ entries, Json.Stand text entries members) ∧
        ∀ entries, Json.Stand text entries members →
          ((decide (some p)).isAccepted = true ↔ Spelt entries) ∧
          (decide (some p) = .acceptedSimplex ↔
            (decide (some p)).isAccepted = true ∧
              LastText entries "supports-duplex" fun t => Json.parse t = .ok (.bool false)) := by
  have haccepted {history : List Edit} {p : Properties} (hb : Built history p) :
      p.hasRequired = true ↔ Complete (lastBinding history) := by
    rw [hasRequired_iff, show p.get? = lastBinding history from funext hb.get?_eq]
  have hsimplex {history : List Edit} {p : Properties} (hb : Built history p) :
      decide (some p) = .acceptedSimplex ↔ (decide (some p)).isAccepted = true ∧
        lastBinding history "supports-duplex" = some (.bool false) := by
    rw [decide_eq_acceptedSimplex_iff, isAccepted_decide_iff,
      supportsDuplex_eq_false_iff, hb.get?_eq]
  refine ⟨fun _ => decide_eq_rejectedMalformed_iff, fun history p hb => ?_,
    fun text members hm => ?_⟩
  · refine ⟨isAccepted_decide_iff.trans (haccepted hb), ?_, hsimplex hb, fun history' p' hb' => ?_⟩
    · rw [decide_eq_rejectedIncomplete_iff, ← haccepted hb, Bool.not_eq_true]
    have hsame (h : ∀ key ∈ gateKeys, lastBinding history' key = lastBinding history key) :
        decide (some p') = decide (some p) :=
      decide_congr fun key hk => by rw [hb'.get?_eq, hb.get?_eq, h key hk]
    refine ⟨hsame, fun h => hsame fun key hk => ?_, fun h => eq_of_get? fun key => ?_⟩
    · rw [lastBinding, lastBinding, h key hk]
    · rw [hb'.get?_eq, hb.get?_eq, h key]
  · have hread := reader_whole_eq_ok_iff.2 ⟨members, hm, rfl⟩
    have hb := Built.text hm hread
    refine ⟨_, hread, hb, Json.exists_stand hm, fun entries hs => ⟨?_, ?_⟩⟩
    · rw [isAccepted_decide_iff, haccepted hb, complete_meanings_iff hs.spells]
    · have hj (i : Json) : i.canonical = .bool false ↔ i = .bool false := by
        cases i <;> simp [Json.canonical]
      rw [hsimplex hb, lastBinding_meanings_scalar_iff hs.spells "supports-duplex" hj]

/-- A set that takes no requests, with one key bound twice and one that the gate does not look
at. -/
def Properties.sampleMembers : List (String × Json) :=
  [("pid", .string "none"), ("agent-id", .string "agent-1"),
    ("application-name", .string "checkout"),
    ("hostname", .string "web-01"), ("supports-duplex", .bool false), ("ip", .string "10.0.0.7"),
    ("service-type", .ofUInt64 1010), ("version", .string "2.5.1"), ("colour", .null),
    ("start-timestamp", .ofUInt64 1700000000000), ("pid", .ofUInt64 4242)]

open Properties in
/-- It is accepted for one direction, with the other key or without it, and it is incomplete without
a process; binding the process again changes nothing. -/
theorem decide_of_history_sample :
    Json.parse (Json.object sampleMembers).render = .ok (.object sampleMembers) ∧
      Complete (lastBinding (binding (meanings sampleMembers))) ∧
      ∃ p entries, schema.reader.whole (Json.object sampleMembers).render = .ok p ∧
        Json.Stand (Json.object sampleMembers).render entries sampleMembers ∧ Spelt entries ∧
        decide (some p) = .acceptedSimplex ∧
        decide (some ((Edit.drop "colour").apply p)) = .acceptedSimplex ∧
        decide (some ((Edit.drop "pid").apply p)) = .rejectedIncomplete ∧
        (Edit.bind "pid" (.ofJson (.ofUInt64 4242))).apply p = p := by
  have hwhole : (Json.object sampleMembers).Whole := by
    simp [sampleMembers, Json.Whole, Json.WholeMembers, Json.ofUInt64]
  have hparse : Json.parse (Json.object sampleMembers).render = .ok (.object sampleMembers) :=
    Json.parse_render hwhole (by decide)
  have hcomplete : Complete (lastBinding (binding (meanings sampleMembers))) := by
    refine ⟨?_, ?_⟩
    · simp only [textKeys, List.forall_mem_cons]
      exact ⟨⟨_, rfl⟩, ⟨_, rfl⟩, ⟨_, rfl⟩, ⟨_, rfl⟩, ⟨_, rfl⟩, by simp⟩
    · simp only [integerKeys, List.forall_mem_cons]
      exact ⟨⟨_, _, rfl⟩, ⟨_, _, rfl⟩, ⟨_, _, rfl⟩, by simp⟩
  obtain ⟨-, hbuilt, htext⟩ := decide_of_history
  obtain ⟨p, hread, hb, ⟨entries, hs⟩, hspelt⟩ := htext _ _ hparse
  obtain ⟨haccepted, -, hsimplex, hsame⟩ := hbuilt _ _ hb
  have ha := haccepted.2 hcomplete
  have hd := hsimplex.2 ⟨ha, rfl⟩
  refine ⟨hparse, hcomplete, p, entries, hread, hs, (hspelt entries hs).1.1 ha, hd, ?_, ?_, ?_⟩
  · have hkeys : ∀ key ∈ gateKeys, "colour" ≠ key := by decide
    refine ((hsame _ _ (hb.edit (.drop "colour"))).1 fun key hk => ?_).trans hd
    rw [lastBinding_append]
    exact if_neg (hkeys key hk)
  · refine (hbuilt _ _ (hb.edit (.drop "pid"))).2.1.2 fun h => ?_
    obtain ⟨n, fits, hn⟩ := h.integers "pid" (by decide)
    cases hn
  · refine (hsame _ _ (hb.edit _)).2.2 fun key => ?_
    rw [lastBinding_append]
    split
    · rename_i hk
      subst hk
      rfl
    · rfl

end AgentIntake
