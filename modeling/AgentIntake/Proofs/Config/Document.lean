import AgentIntake.Config.Document
import AgentIntake.Proofs.Config.Layers
import AgentIntake.Proofs.Json.Kinds
import AgentIntake.Proofs.Json.Places
import AgentIntake.Proofs.Json.Slots
import Mathlib.Data.Set.Basic

/-!
# Configuration documents

A configuration is written as an object with a member for each setting, and any text of an object
with some of these members is read as the configuration with these settings and the defaults of the
others (`parse_of_gives`).  The text may have white space between its parts, its members may stand
in any order, and members of other names, whatever is under them, do not matter.

The members are read one after the other.  A setting's value is put where it belongs and leaves the
other settings alone, a member of another name leaves all of them alone, and both go on where the
value ends (`exists_membersFrom`).  A setting that has been read is not read again, so no text in
which a setting occurs twice is read at all (`length_named_le_of_membersFrom`).  For this it is not
assumed that the values under the names are of the right kinds: a value that is taken is taken to
its end, and a value that is not taken is the end of it.
-/

namespace AgentIntake

/-! ## 1.  Settings in documents -/

namespace Setting

/-- The document of a setting. -/
def document : (k : Setting) → Config → Json
  | listenIp, c => .string c.listenIp
  | listenPort, c => Config.portJson c.listenPort
  | workerThreads, c => Json.ofUInt64 c.workerThreads
  | workerQueueSize, c => Json.ofUInt64 c.workerQueueSize
  | eventWorkerThreads, c => Json.ofUInt64 c.eventWorkerThreads
  | eventWorkerQueueSize, c => Json.ofUInt64 c.eventWorkerQueueSize
  | probeHosts, c => .array (c.probeHosts.map .string)
  | logFilter, c => .string c.logFilter
  | logFormat, c => .string c.logFormat.text

/-- The members of the document of a configuration are those of its settings. -/
theorem members_eq (c : Config) : c.members = all.map fun k => (k.name, k.document c) :=
  rfl

theorem mem_all (k : Setting) : k ∈ all := by
  cases k <;> decide

theorem document_of_mem_members {k : Setting} {c : Config} {j : Json}
    (h : (k.name, j) ∈ c.members) : j = k.document c := by
  rw [members_eq] at h
  obtain ⟨l, -, hl⟩ := List.mem_map.1 h
  obtain ⟨hname, rfl⟩ := Prod.mk.inj hl
  rw [name_injective hname]

/-- The document of a setting is of the setting's kind and is its value. -/
theorem ofJson_document (k : Setting) (c : Config) :
    k.schema.ofJson (k.document c) = .ok (k.ofConfig c) := by
  have hsize : ∀ n : UInt64, Settings.size.ofJson (Json.ofUInt64 n) = .ok n := by
    intro n
    have hn := n.toNat_lt
    refine (Json.Schema.ofJson_map
      (Json.Schema.ofJson_integer _ _ _ _ ⟨by omega, by omega⟩ _) _).trans ?_
    simp
  cases k with
  | listenIp | logFilter => rfl
  | listenPort =>
    have hn := c.listenPort.toNat_lt
    refine (Json.Schema.ofJson_map
      (Json.Schema.ofJson_integer _ _ _ _ ⟨by omega, by omega⟩ _) _).trans ?_
    simp [ofConfig]
  | workerThreads | workerQueueSize | eventWorkerThreads | eventWorkerQueueSize => exact hsize _
  | probeHosts => exact Layer.itemsOfJson_map_string c.probeHosts
  | logFormat =>
    show LogFormat.schema.ofJson (.string c.logFormat.text) = .ok c.logFormat
    cases c.logFormat <;> rfl

/-- **The document of a setting is read from a text as the setting's value.** -/
theorem read_of_document {k : Setting} {c : Config} {depth : Nat} {s r : List UInt8}
    (h : (Json.document depth).read s = .ok (k.document c, r)) :
    k.schema.reader.read s = .ok (k.ofConfig c, r) := by
  have hagrees : ∀ {α : Type} {schema : Json.Schema α} {j : Json} {a : α}, schema.Agrees depth →
      (Json.document depth).read s = .ok (j, r) → schema.ofJson j = .ok a →
        schema.reader.read s = .ok (a, r) := by
    intro α schema j a hschema hj ha
    refine Json.toOption_eq_some_iff.1 ((hschema hj).trans ?_)
    dsimp only
    rw [ha]
    rfl
  have hofJson := k.ofJson_document c
  cases k with
  | listenIp | logFilter => exact hagrees (.string _) h hofJson
  | listenPort => exact hagrees .unsigned16 h hofJson
  | workerThreads | workerQueueSize | eventWorkerThreads | eventWorkerQueueSize =>
    exact hagrees (.unsigned64 _) h hofJson
  | probeHosts =>
    cases depth with
    | zero =>
      -- there are no lists at this depth
      have h : (Json.document 0).read s = .ok (.array (c.probeHosts.map .string), r) := h
      obtain ⟨b, t, -, hv⟩ := Json.read_document_eq_ok_iff.1 h
      cases hv with
      | array allowed | object allowed => cases allowed
    | succ depth => exact hagrees (.list (.string _)) h hofJson
  | logFormat =>
    refine Json.toOption_eq_some_iff.1 ((Json.read_choiceReader_of_string h).trans ?_)
    have hnamed : Json.Schema.named (LogFormat.all.map fun f => (f.text, f)) c.logFormat.text =
        .ok c.logFormat := hofJson
    exact congrArg (fun x : Except Json.Cause LogFormat => x.toOption.map (·, r)) hnamed

theorem passes (k : Setting) : k.schema.reader.Passes := by
  have hinteger : ∀ (low high : Int) (expected : String),
      (Json.Schema.integer low high expected).reader.Passes := fun _ _ expected =>
    (Json.passes_numberAs expected).check _
  cases k with
  | listenIp | logFilter => exact Json.passes_stringAs _
  | listenPort => exact (hinteger ..).map _
  | workerThreads | workerQueueSize | eventWorkerThreads | eventWorkerQueueSize =>
    exact (hinteger ..).map _
  | probeHosts => exact Json.passes_listAs _ (Json.passes_stringAs _)
  | logFormat => exact Json.passes_choiceReader _

end Setting

/-! ## 2.  Texts of objects -/

namespace Json

/-- The text is an object with white space around it: its members stand at the entries, and under
each of their keys there is a value.

The members stand between the braces (`laid`).  The values end where the next members begin
(`values`). -/
structure IsObject (text : List UInt8) (entries : List Entry) : Prop where
  laid : ∃ s t r, skipBlank text = Byte.openBrace :: s ∧ Laid true s entries t ∧
    closeObject t = .ok r ∧ skipBlank r = []
  values : ∀ e ∈ entries, Formed .value e.start e.rest

/-- **A document that was written is an object whose members stand at its entries.** -/
theorem exists_isObject_render (members : List (String × Json)) (h : WholeMembers members) :
    ∃ entries depth, IsObject (object members).render entries ∧
      List.Forall₂ (Entry.Holds (document depth)) entries members := by
  have hread := reads_render (object members) _ h (Nat.le_refl _) [] stops_nil
  rw [List.append_nil] at hread
  obtain ⟨b, s, hb, hv⟩ := read_document_eq_ok_iff.1 hread
  cases hv with
  | object allowed read =>
    cases allowed
    obtain ⟨entries, members, t, hl, hh, hc, hm⟩ := objectOf_everyMember_iff.1 read
    cases hm
    have hv : ∀ e ∈ entries, Formed .value e.start e.rest :=
      ((List.forall₂_and_left entries members).1
        (hh.imp fun e m he => ⟨passes_document _ he.2, he⟩)).1
    exact ⟨entries, _, ⟨⟨s, t, [], hb, hl, hc, rfl⟩, hv⟩, hh⟩

theorem named_cons_self (e : Entry) (entries : List Entry) :
    named e.key (e :: entries) = e :: named e.key entries :=
  List.filter_cons_of_pos (by simp)

theorem named_cons_of_ne {name : String} {e : Entry} (h : e.key ≠ name) (entries : List Entry) :
    named name (e :: entries) = named name entries :=
  List.filter_cons_of_neg (by simpa using h)

/-- Members that were read: the first one was, and then the others. -/
theorem exists_of_membersFrom_member {α σ : Type} {fields : Fields σ α} {first : Bool}
    {state final : σ} {key : String} {s t u v w : List UInt8} (hn : nextKey first s = .ok (some t))
    (hk : readString t = .ok (key, u)) (hc : colon u = .ok v)
    (h : membersFrom fields first state s = .ok (final, w)) :
    ∃ reader next r, fields.member state key = .ok reader ∧ reader.read v = .ok (next, r) ∧
      membersFrom fields false next r = .ok (final, w) := by
  have hoption : (membersFrom fields first state s).toOption = _ :=
    toOption_membersFrom_member hn hk hc state
  rw [h] at hoption
  obtain ⟨⟨next, r⟩, hread, hothers⟩ := Option.bind_eq_some_iff.1 hoption.symm
  obtain ⟨reader, hm, hv⟩ := Option.bind_eq_some_iff.1 hread
  exact ⟨reader, next, r, toOption_eq_some_iff.1 hm, toOption_eq_some_iff.1 hv,
    toOption_eq_some_iff.1 hothers⟩

theorem objectOf_of_membersFrom {α σ : Type} {fields : Fields σ α} {s t r : List UInt8} {final : σ}
    {a : α} (hm : membersFrom fields true fields.start s = .ok (final, t))
    (hf : fields.finish final = .ok a) (hc : closeObject t = .ok r) :
    objectOf fields s = .ok (a, r) := by
  rw [objectOf, hm]
  dsimp only
  rw [hf]
  dsimp only
  rw [hc]

theorem read_map_eq_ok_iff {α β : Type} {reader : Reader α} {f : α → β} {s r : List UInt8} {b : β} :
    (reader.map f).read s = .ok (b, r) ↔ ∃ a, reader.read s = .ok (a, r) ∧ f a = b := by
  unfold Reader.map Reader.check Reader.checkAt
  dsimp only
  cases reader.read s with
  | error => exact ⟨nofun, fun ⟨_, h, _⟩ => nomatch h⟩
  | ok p =>
    obtain ⟨a, u⟩ := p
    constructor
    · intro h
      cases h
      exact ⟨a, rfl, rfl⟩
    · rintro ⟨_, h, rfl⟩
      cases h
      rfl

end Json

namespace Config

open Json (Entry IsObject Laid Formed named)

variable {s t : List UInt8} {first : Bool} {entries : List Entry} {state final : Settings}

/-! ## 3.  One member -/

theorem member_of_get_none {k : Setting} (h : k.get state = none) :
    record.fields.member state k.name =
      .ok ((k.schema.reader.map k.set).map fun change => change state) := by
  have hfilled : k.slot.filled state = false := by
    show (k.get state).isSome = false
    rw [h]
    rfl
  simp only [Json.Record.fields, Setting.slot?_name, hfilled]
  rfl

/-- A setting that has been read is not read again. -/
theorem member_of_get_some {k : Setting} {v : k.Value} (h : k.get state = some v) :
    record.fields.member state k.name = .error (.duplicateField k.name) := by
  have hfilled : k.slot.filled state = true := by
    show (k.get state).isSome = true
    rw [h]
    rfl
  simp only [Json.Record.fields, Setting.slot?_name, hfilled]
  rfl

theorem member_of_ne {key : String} (h : ∀ k : Setting, k.name ≠ key) :
    record.fields.member state key = .ok (Json.skip.map fun () => state) := by
  simp only [Json.Record.fields, Setting.slot?_of_ne h]

/-! ## 4.  All members -/

/-- A setting is named once, and had not been read before; or it is not named. -/
def Fresh (k : Setting) (state : Settings) (entries : List Entry) : Prop :=
  named k.name entries = [] ∨ (∃ e, named k.name entries = [e]) ∧ k.get state = none

/-- **Members are put where they belong.**  Those with other names are passed over. -/
theorem exists_membersFrom {c : Config} (hl : Laid first s entries t)
    (hv : ∀ e ∈ entries, Formed .value e.start e.rest) (hfresh : ∀ k, Fresh k state entries)
    (hread : ∀ k : Setting, ∀ e ∈ named k.name entries,
      k.schema.reader.read e.start = .ok (k.ofConfig c, e.rest)) :
    ∃ final, Json.membersFrom record.fields first state s = .ok (final, t) ∧
      ∀ k : Setting, (named k.name entries = [] → k.get final = k.get state) ∧
        (named k.name entries ≠ [] → k.get final = some (k.ofConfig c)) := by
  induction hl generalizing state with
  | nil ends =>
      exact ⟨state, Json.membersFrom_end ends, fun k => ⟨fun _ => rfl, fun h => absurd rfl h⟩⟩
  | @cons first s t u r e entries next key colon others ih =>
    have hvalues : ∀ d ∈ entries, Formed .value d.start d.rest :=
      fun d hd => hv d (List.mem_cons_of_mem _ hd)
    by_cases h : ∃ k : Setting, k.name = e.key
    · obtain ⟨k, hk⟩ := h
      have hself : named k.name (e :: entries) = e :: named k.name entries := by
        rw [hk]
        exact Json.named_cons_self e entries
      have hother : ∀ l : Setting, l ≠ k → named l.name (e :: entries) = named l.name entries := by
        intro l hlk
        refine Json.named_cons_of_ne (fun he => hlk ?_) entries
        exact Setting.name_injective (he.symm.trans hk.symm)
      obtain ⟨hlast, hnone⟩ : named k.name entries = [] ∧ k.get state = none := by
        rcases hfresh k with hnil | ⟨⟨d, hone⟩, hnone⟩
        · rw [hself] at hnil
          cases hnil
        · rw [hself] at hone
          exact ⟨(List.cons.inj hone).2, hnone⟩
      have htaken : ((k.schema.reader.map k.set).map fun change => change state).read e.start =
          .ok (k.set (k.ofConfig c) state, e.rest) := by
        have hvalue := hread k e (by rw [hself]; exact List.mem_cons_self)
        exact Json.read_map_eq_ok_iff.2 ⟨_, Json.read_map_eq_ok_iff.2 ⟨_, hvalue, rfl⟩, rfl⟩
      have hfresh' : ∀ l, Fresh l (k.set (k.ofConfig c) state) entries := by
        intro l
        by_cases hlk : l = k
        · subst hlk
          exact .inl hlast
        · have := hfresh l
          rwa [Fresh, hother l hlk, ← Setting.get_set_of_ne (k.ofConfig c) state hlk] at this
      have hread' : ∀ l : Setting, ∀ d ∈ named l.name entries,
          l.schema.reader.read d.start = .ok (l.ofConfig c, d.rest) := by
        intro l d hd
        by_cases hlk : l = k
        · subst hlk
          rw [hlast] at hd
          cases hd
        · exact hread l d (by rwa [hother l hlk])
      obtain ⟨final, hfinal, hsettings⟩ := ih hvalues hfresh' hread'
      refine ⟨final, ?_, fun l => ?_⟩
      · rw [Json.membersFrom_member next key (hk ▸ member_of_get_none hnone) colon htaken, hfinal]
      · by_cases hlk : l = k
        · subst hlk
          rw [hself]
          refine ⟨nofun, fun _ => ?_⟩
          rw [(hsettings l).1 hlast, Setting.get_set]
        · rw [hother l hlk, ← Setting.get_set_of_ne (k.ofConfig c) state hlk]
          exact hsettings l
    · have hne : ∀ k : Setting, k.name ≠ e.key := fun k hk => h ⟨k, hk⟩
      have hother : ∀ l : Setting, named l.name (e :: entries) = named l.name entries :=
        fun l => Json.named_cons_of_ne (hne l).symm entries
      have hpassed : (Json.skip.map fun () => state).read e.start = .ok (state, e.rest) :=
        Json.read_map_eq_ok_iff.2
          ⟨(), Json.read_skip_eq_ok_iff.2 (hv e List.mem_cons_self), rfl⟩
      simp only [Fresh, hother] at hfresh hread ⊢
      obtain ⟨final, hfinal, hsettings⟩ := ih hvalues hfresh hread
      refine ⟨final, ?_, hsettings⟩
      rw [Json.membersFrom_member next key (member_of_ne hne) colon hpassed, hfinal]

/-- **No setting is read twice.** -/
theorem length_named_le_of_membersFrom (hl : Laid first s entries t)
    (hv : ∀ e ∈ entries, Formed .value e.start e.rest) {w : List UInt8}
    (h : Json.membersFrom record.fields first state s = .ok (final, w)) (k : Setting) :
    (named k.name entries).length + (k.get state).toList.length ≤ 1 := by
  induction hl generalizing state with
  | nil ends => cases k.get state <;> simp [named]
  | @cons first s t u r e entries next key colon others ih =>
    have hvalues : ∀ d ∈ entries, Formed .value d.start d.rest :=
      fun d hd => hv d (List.mem_cons_of_mem _ hd)
    obtain ⟨reader, state', r', hm, hread, hothers⟩ :=
      Json.exists_of_membersFrom_member next key colon h
    by_cases hname : ∃ l : Setting, l.name = e.key
    · obtain ⟨l, hname⟩ := hname
      rw [← hname] at hm
      cases hget : l.get state with
      | some v =>
        rw [member_of_get_some hget] at hm
        cases hm
      | none =>
        rw [member_of_get_none hget] at hm
        cases hm
        obtain ⟨change, hchange, rfl⟩ := Json.read_map_eq_ok_iff.1 hread
        obtain ⟨v, hvalue, rfl⟩ := Json.read_map_eq_ok_iff.1 hchange
        obtain rfl := (l.passes hvalue).unique (hv e List.mem_cons_self)
        have ih := ih hvalues hothers
        by_cases hk : k = l
        · subst hk
          rw [Setting.get_set] at ih
          rw [hget, hname, Json.named_cons_self, ← hname]
          simpa using ih
        · rw [Setting.get_set_of_ne v state hk] at ih
          rwa [Json.named_cons_of_ne fun he =>
            hk (Setting.name_injective (he.symm.trans hname.symm))]
    · have hne : ∀ l : Setting, l.name ≠ e.key := fun l hl => hname ⟨l, hl⟩
      rw [member_of_ne hne] at hm
      cases hm
      obtain ⟨⟨⟩, hskip, rfl⟩ := Json.read_map_eq_ok_iff.1 hread
      obtain rfl := (Json.read_skip_eq_ok_iff.1 hskip).unique (hv e List.mem_cons_self)
      rw [Json.named_cons_of_ne (hne k).symm]
      exact ih hvalues hothers

/-! ## 5.  Texts -/

theorem read_of_membersFrom {text r : List UInt8} (hb : Json.skipBlank text = Byte.openBrace :: s)
    (hm : Json.membersFrom record.fields true Settings.none s = .ok (final, t))
    (hc : Json.closeObject t = .ok r) : record.reader.read text = .ok (final.config, r) := by
  have hobject : Json.objectOf record.fields s = .ok (final.config, r) :=
    Json.objectOf_of_membersFrom hm rfl hc
  refine Json.toOption_eq_some_iff.1 ((Json.toOption_readFirst hb).trans ?_)
  rw [if_neg (by decide), if_pos rfl, Option.bind_some, hobject]
  rfl

theorem exists_membersFrom_of_parse {text : List UInt8} {c : Config} (h : parse text = .ok c)
    (hb : Json.skipBlank text = Byte.openBrace :: s) :
    ∃ final t, Json.membersFrom record.fields true Settings.none s = .ok (final, t) := by
  obtain ⟨r, hread, -⟩ := Json.whole_eq_ok_iff.1 h
  obtain ⟨b, u, hb', hread⟩ := Json.exists_first_of_readFirst hread
  obtain ⟨rfl, rfl⟩ := List.cons.inj (hb.symm.trans hb')
  rw [if_neg (by decide), if_pos rfl] at hread
  have hobject : Json.objectOf record.fields s = .ok (c, r) := Option.some.inj hread
  unfold Json.objectOf at hobject
  split at hobject
  · cases hobject
  · rename_i final t hm
    exact ⟨final, t, hm⟩

/-- The entries named like settings are members of the document of `c`, one for each setting of `S`.

A setting of `S` is named once, and what is under the name is what is under it in the document
(`given`).  No other setting is named (`others`). -/
structure Gives (c : Config) (S : Set Setting) (entries : List Entry) : Prop where
  given : ∀ k ∈ S, ∃ e j depth, named k.name entries = [e] ∧ (k.name, j) ∈ c.members ∧
    (Json.document depth).read e.start = .ok (j, e.rest)
  others : ∀ k ∉ S, named k.name entries = []

variable {c : Config} {S : Set Setting} {text : List UInt8}

/-- **What a text does not give has its default.** -/
theorem parse_of_gives (h : IsObject text entries) (hg : Gives c S entries) :
    ∃ d, parse text = .ok d ∧ (∀ k ∈ S, Setting.ofConfig k d = k.ofConfig c) ∧
      ∀ k ∉ S, Setting.ofConfig k d = k.ofConfig .default := by
  obtain ⟨⟨s, t, r, hb, hl, hc, hend⟩, hv⟩ := h
  have hfresh : ∀ k, Fresh k Settings.none entries := by
    intro k
    by_cases hk : k ∈ S
    · obtain ⟨e, -, -, hone, -⟩ := hg.given k hk
      exact .inr ⟨⟨e, hone⟩, k.get_none⟩
    · exact .inl (hg.others k hk)
  have hread : ∀ k : Setting, ∀ e ∈ named k.name entries,
      k.schema.reader.read e.start = .ok (k.ofConfig c, e.rest) := by
    intro k e he
    by_cases hk : k ∈ S
    · obtain ⟨d, j, depth, hone, hj, hread⟩ := hg.given k hk
      rw [hone] at he
      obtain rfl := List.mem_singleton.1 he
      exact Setting.read_of_document (Setting.document_of_mem_members hj ▸ hread)
    · rw [hg.others k hk] at he
      cases he
  obtain ⟨final, hm, hsettings⟩ := exists_membersFrom hl hv hfresh hread
  refine ⟨final.config, Json.whole_eq_ok_iff.2 ⟨r, read_of_membersFrom hb hm hc, hend⟩, ?_, ?_⟩
  · intro k hk
    obtain ⟨e, -, -, hone, -⟩ := hg.given k hk
    rw [Setting.ofConfig_config, (hsettings k).2 (by simp [hone])]
    rfl
  · intro k hk
    rw [Setting.ofConfig_config, (hsettings k).1 (hg.others k hk), Setting.get_none]
    rfl

/-- **A text in which a setting occurs twice is not read.** -/
theorem exists_error_of_twice (h : IsObject text entries) {k : Setting}
    (htwice : 2 ≤ (named k.name entries).length) : ∃ fault, parse text = .error fault := by
  obtain ⟨⟨s, t, r, hb, hl, -, -⟩, hv⟩ := h
  cases hparse : parse text with
  | error fault => exact ⟨fault, rfl⟩
  | ok d =>
    obtain ⟨final, w, hm⟩ := exists_membersFrom_of_parse hparse hb
    have := length_named_le_of_membersFrom hl hv hm k
    omega

theorem eq_of_ofConfig {d : Config} (h : ∀ k : Setting, k.ofConfig d = k.ofConfig c) : d = c := by
  cases c
  cases d
  rw [mk.injEq]
  exact ⟨h .listenIp, h .listenPort, h .workerThreads, h .workerQueueSize, h .eventWorkerThreads,
    h .eventWorkerQueueSize, h .probeHosts, h .logFilter, h .logFormat⟩

/-! ## 6.  Documents -/

/-- A document gives the settings of which it has the members. -/
theorem gives_of_holds {members : List (String × Json)} {depth : Nat}
    (h : List.Forall₂ (Entry.Holds (Json.document depth)) entries members)
    (hgiven : ∀ k ∈ S, Json.valuesOf k.name members = [k.document c])
    (hothers : ∀ k ∉ S, Json.valuesOf k.name members = []) : Gives c S entries := by
  have hnamed : ∀ k : Setting, List.Forall₂ (Entry.Holds (Json.document depth))
      (named k.name entries) (members.filter (·.1 == k.name)) :=
    fun k => Json.forall₂_filter_key (fun _ _ he => he.1) h k.name
  constructor
  · intro k hk
    have hone := hnamed k
    obtain ⟨m, hm, hj⟩ := List.map_eq_singleton_iff.1 (hgiven k hk)
    rw [hm] at hone
    obtain ⟨e, rest, he, hrest, hentries⟩ := List.forall₂_cons_right_iff.1 hone
    rw [List.forall₂_nil_right_iff.1 hrest] at hentries
    refine ⟨e, k.document c, depth, hentries, ?_, hj ▸ he.2⟩
    rw [Setting.members_eq]
    exact List.mem_map.2 ⟨k, k.mem_all, rfl⟩
  · intro k hk
    have hnone := hnamed k
    rw [List.map_eq_nil_iff.1 (hothers k hk)] at hnone
    exact List.forall₂_nil_right_iff.1 hnone

theorem valuesOf_members (k : Setting) (c : Config) :
    Json.valuesOf k.name c.members = [k.document c] := by
  cases k <;> rfl

theorem wholeMembers_members (c : Config) : Json.WholeMembers c.members := by
  rw [Json.wholeMembers_iff, Setting.members_eq, List.forall_mem_map]
  intro k _
  have hstrings : ∀ texts : List String, (Json.array (texts.map .string)).Whole := by
    intro texts
    rw [Json.Whole, Json.wholeItems_iff, List.forall_mem_map]
    exact fun _ _ => trivial
  cases k with
  | probeHosts => exact hstrings c.probeHosts
  | _ => trivial

/-- **What was written is read back.** -/
theorem parse_encode (c : Config) : parse c.encode = .ok c := by
  obtain ⟨entries, depth, hobject, hh⟩ := Json.exists_isObject_render _ (wholeMembers_members c)
  obtain ⟨d, hd, hgiven, -⟩ := parse_of_gives (S := Set.univ) hobject
    (gives_of_holds hh (fun k _ => valuesOf_members k c) fun k hk => absurd (Set.mem_univ k) hk)
  rw [show parse c.encode = .ok d from hd, eq_of_ofConfig fun k => hgiven k (Set.mem_univ k)]

/-- **Documents of configurations.**  Any text of an object that has the members of the document of
`c` for the settings of `S`, each of them once, in any order and beside any members of other names,
is read as the configuration with the values of `c` for these settings and the defaults of the
others.  So what was written is read back, and a text without settings is the default configuration.
A text in which a setting occurs twice is not read, whatever is under its name. -/
theorem parse_documents :
    (∀ (c : Config) (S : Set Setting) (text : List UInt8) (entries : List Entry),
      IsObject text entries → Gives c S entries →
        ∃ d, parse text = .ok d ∧ (∀ k ∈ S, Setting.ofConfig k d = k.ofConfig c) ∧
          ∀ k ∉ S, Setting.ofConfig k d = k.ofConfig .default) ∧
    (∀ c : Config, parse c.encode = .ok c) ∧
    (∀ text : List UInt8, IsObject text [] → parse text = .ok .default) ∧
    ∀ (text : List UInt8) (entries : List Entry) (k : Setting),
      IsObject text entries → 2 ≤ (named k.name entries).length →
        ∃ fault, parse text = .error fault := by
  refine ⟨fun _ _ _ _ h hg => parse_of_gives h hg, parse_encode, fun text h => ?_,
    fun _ _ _ h htwice => exists_error_of_twice h htwice⟩
  obtain ⟨d, hd, -, hdefault⟩ := parse_of_gives (c := .default) (S := ∅) h
    ⟨fun k hk => absurd hk (Set.notMem_empty k), fun _ _ => rfl⟩
  rw [hd, eq_of_ofConfig fun k => hdefault k (Set.notMem_empty k)]

/-- A port and a log format between other members. -/
def sampleMembers : List (String × Json) :=
  [("listen", .array [.array [], .null]), ("log_format", .string "compact"), ("", .object []),
    ("listen_port", portJson 1)]

theorem wholeMembers_sampleMembers : Json.WholeMembers sampleMembers := by
  simp [sampleMembers, portJson, Json.WholeMembers, Json.Whole, Json.WholeItems]

/-- What the sample does not give has its default, and it cannot give the port again. -/
theorem parse_documents_sample :
    parse (Json.object sampleMembers).render =
      .ok { Config.default with listenPort := 1, logFormat := .compact } ∧
    parse [Byte.openBrace, Byte.closeBrace] = .ok .default ∧
    ∃ fault, parse (Json.object (("listen_port", .null) :: sampleMembers)).render =
      .error fault := by
  obtain ⟨hgives, -, hempty, htwice⟩ := parse_documents
  refine ⟨?_, hempty _ ⟨⟨_, _, [], rfl, .nil rfl, rfl, rfl⟩, nofun⟩, ?_⟩
  · let c : Config := { Config.default with listenPort := 1, logFormat := .compact }
    let S : Set Setting := {k | k = .listenPort ∨ k = .logFormat}
    obtain ⟨entries, depth, hobject, hh⟩ := Json.exists_isObject_render _ wholeMembers_sampleMembers
    have hnot : ∀ k ∉ S, k ≠ .listenPort ∧ k ≠ .logFormat := fun k hk => not_or.1 hk
    obtain ⟨d, hd, hgiven, hothers⟩ := hgives c S _ entries hobject
      (gives_of_holds hh (by rintro k (rfl | rfl) <;> rfl) fun k hk => by
        have := hnot k hk
        cases k <;> first | rfl | simp at this)
    have hdc : d = c := eq_of_ofConfig fun k => by
      by_cases hk : k ∈ S
      · exact hgiven k hk
      · have := hnot k hk
        refine (hothers k hk).trans ?_
        cases k <;> first | rfl | simp at this
    rw [hd, hdc]
  · obtain ⟨entries, depth, hobject, hh⟩ :=
      Json.exists_isObject_render (("listen_port", .null) :: sampleMembers)
        ⟨trivial, wholeMembers_sampleMembers⟩
    have hlength := (Json.forall₂_filter_key (fun _ _ he => he.1) hh "listen_port").length_eq
    refine htwice _ entries .listenPort hobject (Nat.le_of_eq ?_)
    exact hlength.symm

end Config

end AgentIntake
