import AgentIntake.Handshake.Properties
import AgentIntake.Proofs.Json.Members

/-!
# Property sets in texts

A text is read as a property set exactly if it is the text of an object, and then the set is that of
the object's members, the last binding of each key (`reader_whole_eq_ok_iff`).  Whether it is read
at once or as a document first makes no difference (`agrees_schema`).
-/

namespace AgentIntake.Properties

/-- The members of a property set: each binds its key. -/
def fields : Json.Fields Properties Properties where
  start := empty
  member p key :=
    .ok ((Json.Schema.any (Json.depthLimit - 1)).reader.map fun value => p.insert key value)
  finish := .ok

/-- What a member does to the set before it. -/
def bindMember (p : Properties) (key : String) (j : Json) : Option Properties :=
  some (p.insert key (Value.ofJson j))

theorem understands_fields : fields.Understands (Json.depthLimit - 1) bindMember := by
  intro s r j hj p key
  exact ((Json.Schema.Agrees.any _).map fun value => p.insert key value) hj

theorem reflects_fields : fields.Reflects (Json.document (Json.depthLimit - 1)) := by
  intro p final key reader s r hm hr
  cases hm
  have hr := Json.toOption_eq_some_iff.2 hr
  unfold Json.Schema.any at hr
  rw [Json.Reader.map, Json.Reader.check, Json.toOption_checkAt, Json.Reader.map, Json.Reader.check,
    Json.toOption_checkAt] at hr
  cases hd : (Json.document (Json.depthLimit - 1)).read s with
  | error fault =>
    rw [hd] at hr
    cases hr
  | ok u =>
    rw [hd] at hr
    cases hr
    exact ⟨u.1, rfl⟩

/-- The members bind their keys one after the other. -/
theorem comeTo_bindMember (p : Properties) (members : List (String × Json)) :
    Json.comeTo bindMember p members =
      some ((members.map fun m => (m.1, Value.ofJson m.2)).foldl
        (fun p b => p.insert b.1 b.2) p) := by
  induction members generalizing p with
  | nil => rfl
  | cons m members ih =>
    rw [Json.comeTo, bindMember, Option.bind_some, ih]
    rfl

/-- **The schema of property sets says of a text what it says of its document.** -/
theorem agrees_schema : schema.Agrees Json.depthLimit := by
  intro s r j hj
  refine (Json.understands_objectAs "a map" understands_fields hj).trans ?_
  cases j with
  | object members =>
    rw [Json.Fields.ofJson, comeTo_bindMember]
    rfl
  | null | bool | number | string | array => rfl

/-- **A text is a property set exactly if it is an object, and binds what the members bind.** -/
theorem reader_whole_eq_ok_iff {text : List UInt8} {p : Properties} :
    schema.reader.whole text = .ok p ↔
      ∃ members, Json.parse text = .ok (.object members) ∧ ofMembers members = p := by
  constructor
  · intro h
    obtain ⟨r, hr, hs⟩ := Json.whole_eq_ok_iff.1 h
    obtain ⟨j, hj⟩ := Json.exists_document_of_objectAs reflects_fields hr
    have hread := agrees_schema hj
    rw [hr] at hread
    cases j with
    | object members =>
      refine ⟨members, Json.whole_eq_ok_iff.2 ⟨r, hj, hs⟩, ?_⟩
      exact (congrArg Prod.fst (Option.some.inj hread)).symm
    | null | bool | number | string | array => cases hread
  · rintro ⟨members, hm, rfl⟩
    exact Json.toOption_eq_some_iff.1 (Json.Reader.Understands.whole agrees_schema hm)

/-- **A text is a property set or `null` exactly as its document is.** -/
theorem optional_reader_whole {text : List UInt8} {j : Json} (h : Json.parse text = .ok j) :
    (schema.optional.reader.whole text).toOption = (schema.optional.ofJson j).toOption :=
  Json.Reader.Understands.whole agrees_schema.optional h

end AgentIntake.Properties
