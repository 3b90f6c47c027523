import AgentIntake.Proofs.Json.Layout

/-!
# How deep a document may be

A reader of documents has a number: how many arrays and objects may stand inside one another.  A
document that was written and has more is refused, and for no other reason (`refuses_render`); a
text that was read is read as the same by a reader that allows more (`read_document_of_le`).

## Why the first of them

An array is refused because of one of its items, the first one that is too deep.  Those before it
are read, so the reader does get there; those after it are never looked at.  An induction over the
items needs no more than that each of them is either read or refused, and that one is refused
(`itemsOnto_refuses`).  Members of objects are the same with keys between them, whatever the members
mean, so this is said of any `Fields` (`Fields.Refuses`), as `Fields.Takes` says what it is to take
all members.
-/

namespace AgentIntake.Json

variable {α β σ : Type}

/-! ## 1.  Refusals -/

/-- The text is refused for the cause, whatever follows that does not continue a number. -/
def Reader.Refuses (reader : Reader α) (text : List UInt8) (cause : Cause) : Prop :=
  ∀ rest, Stops rest → ∃ fault, reader.read (text ++ rest) = .error fault ∧ fault.cause = cause

theorem Reader.Refuses.checkAt {reader : Reader α} {text : List UInt8} {cause : Cause}
    (h : reader.Refuses text cause) (place : Cause → List UInt8 → Fault) (f : α → Except Cause β) :
    (reader.checkAt place f).Refuses text cause := by
  intro rest hs
  obtain ⟨fault, hr, hc⟩ := h rest hs
  refine ⟨fault, ?_, hc⟩
  unfold Reader.checkAt
  dsimp only
  rw [hr]

theorem Reader.Refuses.map {reader : Reader α} {text : List UInt8} {cause : Cause}
    (h : reader.Refuses text cause) (f : α → β) : (reader.map f).Refuses text cause :=
  h.checkAt .here fun a => .ok (f a)

/-- A text that is refused is refused as a whole, too. -/
theorem exists_fault_of_refuses {reader : Reader α} {text : List UInt8} {cause : Cause}
    (h : reader.Refuses text cause) : ∃ fault, reader.whole text = .error fault ∧
      fault.cause = cause := by
  obtain ⟨fault, hr, hc⟩ := h [] stops_nil
  rw [List.append_nil] at hr
  refine ⟨fault, ?_, hc⟩
  rw [Reader.whole, hr]

/-! ## 2.  Items -/

theorem itemsOnto_error {item : Reader α} {first : Bool} {done : List α} {s t : List UInt8}
    {fault : Fault} (h : nextItem first s = .ok (some t)) (ha : item.read t = .error fault) :
    itemsOnto item first done s = .error fault := by
  rw [itemsOnto.eq_def]
  split <;> rename_i hn <;> rw [h] at hn <;> cases hn
  split <;> rename_i hi <;> rw [ha] at hi <;> cases hi
  rfl

/-- Further items are refused if one of them is and the others are read. -/
theorem itemsOnto_refuses {item : Reader Json} {cause : Cause} {items : List Json}
    (hw : WholeItems items)
    (hr : ∀ j ∈ items, item.Reads j.render j ∨ item.Refuses j.render cause)
    (he : ∃ j ∈ items, item.Refuses j.render cause) (done : List Json) (rest : List UInt8) :
    ∃ fault, itemsOnto item false done (renderItems items ++ rest) = .error fault ∧
      fault.cause = cause := by
  induction items generalizing done with
  | nil => exact absurd he (by simp)
  | cons j items ih =>
    have hs := stops_renderItems items rest
    rw [renderItems, List.cons_append, List.append_assoc]
    have hn := (nextItem_render hw.1 (renderItems items ++ rest)).2
    rcases hr j List.mem_cons_self with hj | hj
    · rw [itemsOnto_item hn (hj _ hs)]
      obtain ⟨k, hk, hkr⟩ := he
      rcases List.mem_cons.1 hk with rfl | hk
      · -- an item that is both read and refused does not exist
        obtain ⟨fault, hf, -⟩ := hkr _ hs
        rw [hj _ hs] at hf
        cases hf
      · exact ih hw.2 (fun k hk => hr k (List.mem_cons_of_mem _ hk)) ⟨k, hk, hkr⟩ _
    · obtain ⟨fault, hf, hc⟩ := hj _ hs
      exact ⟨fault, itemsOnto_error hn hf, hc⟩

theorem listOf_refuses {item : Reader Json} {cause : Cause} {j : Json} {items : List Json}
    (hw : WholeItems (j :: items))
    (hr : ∀ k ∈ j :: items, item.Reads k.render k ∨ item.Refuses k.render cause)
    (he : ∃ k ∈ j :: items, item.Refuses k.render cause) (rest : List UInt8) :
    ∃ fault, listOf item (j.render ++ (renderItems items ++ rest)) = .error fault ∧
      fault.cause = cause := by
  -- with a comma before them the items are further items
  have h := itemsOnto_refuses hw hr he [] rest
  have hn := nextItem_render hw.1 (renderItems items ++ rest)
  rw [renderItems, List.cons_append, List.append_assoc] at h
  have hfirst : itemsOnto item true [] (j.render ++ (renderItems items ++ rest)) =
      itemsOnto item false [] (Byte.comma :: (j.render ++ (renderItems items ++ rest))) := by
    cases hj : item.read (j.render ++ (renderItems items ++ rest)) with
    | error fault => rw [itemsOnto_error hn.1 hj, itemsOnto_error hn.2 hj]
    | ok p => rw [itemsOnto_item hn.1 hj, itemsOnto_item hn.2 hj]
  obtain ⟨fault, hf, hc⟩ := h
  refine ⟨fault, ?_, hc⟩
  rw [listOf, hfirst, hf]

/-! ## 3.  Members -/

/-- One of the members is refused; those before it are taken. -/
inductive Fields.Refuses (fields : Fields σ α) (cause : Cause) :
    σ → List (String × Json) → Prop where
  | here {state : σ} {key : String} {value : Json} {members : List (String × Json)}
    {reader : Reader σ} (known : fields.member state key = .ok reader)
    (refuses : reader.Refuses value.render cause) :
    Refuses fields cause state ((key, value) :: members)
  | later {state next : σ} {key : String} {value : Json} {members : List (String × Json)}
    {reader : Reader σ} (known : fields.member state key = .ok reader)
    (reads : reader.Reads value.render next) (others : Refuses fields cause next members) :
    Refuses fields cause state ((key, value) :: members)

variable {fields : Fields σ α} {cause : Cause}

theorem membersFrom_error {first : Bool} {state : σ} {key : String} {reader : Reader σ}
    {s t u v : List UInt8} {fault : Fault} (hn : nextKey first s = .ok (some t))
    (hk : readString t = .ok (key, u)) (hm : fields.member state key = .ok reader)
    (hc : colon u = .ok v) (hv : reader.read v = .error fault) :
    membersFrom fields first state s = .error fault := by
  rw [membersFrom.eq_def]
  split <;> rename_i h <;> rw [hn] at h <;> cases h
  split <;> rename_i h <;> rw [hk] at h <;> cases h
  split <;> rename_i h <;> rw [hm] at h <;> cases h
  split <;> rename_i h <;> rw [hc] at h <;> cases h
  split <;> rename_i h <;> rw [hv] at h <;> cases h
  rfl

/-- A member that is refused, the first one or another. -/
theorem membersFrom_refuses {first : Bool} {state : σ} {key : String} {value : Json}
    {reader : Reader σ} {s : List UInt8} (known : fields.member state key = .ok reader)
    (refuses : reader.Refuses value.render cause) {rest : List UInt8} (hs : Stops rest)
    (hn : nextKey first s = .ok (some
      (key.toList.flatMap escape ++ Byte.quote :: (Byte.colon :: (value.render ++ rest))))) :
    ∃ fault, membersFrom fields first state s = .error fault ∧ fault.cause = cause := by
  obtain ⟨fault, hf, hc⟩ := refuses rest hs
  refine ⟨fault, membersFrom_error hn (readString_escapes key _) known ?_ hf, hc⟩
  rw [colon, skipBlank_cons (by decide)]
  rfl

theorem membersFrom_of_refuses {state : σ} {members : List (String × Json)}
    (h : fields.Refuses cause state members) (rest : List UInt8) :
    ∃ fault, membersFrom fields false state (renderMembers members ++ rest) = .error fault ∧
      fault.cause = cause := by
  induction h with
  | @here state key value members reader known refuses =>
    refine membersFrom_refuses known refuses (stops_renderMembers members rest) ?_
    simp only [renderMembers, renderString, List.cons_append, List.append_assoc, List.nil_append]
    rfl
  | @later state next key value members reader known reads _ ih =>
    rw [membersFrom_render known reads (stops_renderMembers members rest) ?_]
    · exact ih
    · simp only [renderMembers, renderString, List.cons_append, List.append_assoc, List.nil_append]
      rfl

/-- **An object is refused if one of its members is.** -/
theorem objectOf_of_refuses {members : List (String × Json)}
    (h : fields.Refuses cause fields.start members) (rest : List UInt8) :
    ∃ fault, objectOf fields (renderBody members ++ rest) = .error fault ∧ fault.cause = cause := by
  have hm : ∃ fault, membersFrom fields true fields.start (renderBody members ++ rest) =
      .error fault ∧ fault.cause = cause := by
    cases h with
    | @here _ key value members reader known refuses =>
      refine membersFrom_refuses known refuses (stops_renderMembers members rest) ?_
      simp only [renderBody, renderString, List.cons_append, List.append_assoc, List.nil_append]
      rfl
    | @later _ next key value members reader known reads others =>
      rw [membersFrom_render known reads (stops_renderMembers members rest) ?_]
      · exact membersFrom_of_refuses others rest
      · simp only [renderBody, renderString, List.cons_append, List.append_assoc, List.nil_append]
        rfl
  obtain ⟨fault, hf, hc⟩ := hm
  refine ⟨fault, ?_, hc⟩
  rw [objectOf, hf]

/-! ## 4.  Documents -/

theorem refuses_everyMember {value : Reader Json} {members : List (String × Json)}
    (hr : ∀ m ∈ members, value.Reads m.2.render m.2 ∨ value.Refuses m.2.render cause)
    (he : ∃ m ∈ members, value.Refuses m.2.render cause) (done : List (String × Json)) :
    (everyMember value).Refuses cause done members := by
  induction members generalizing done with
  | nil => exact absurd he (by simp)
  | cons m members ih =>
    rcases hr m List.mem_cons_self with hm | hm
    · refine .later rfl (hm.map _) (ih (fun k hk => hr k (List.mem_cons_of_mem _ hk)) ?_ _)
      obtain ⟨k, hk, hkr⟩ := he
      rcases List.mem_cons.1 hk with rfl | hk
      · obtain ⟨fault, hf, -⟩ := hkr [] stops_nil
        rw [hm [] stops_nil] at hf
        cases hf
      · exact ⟨k, hk, hkr⟩
    · exact .here rfl (hm.map _)

theorem exists_deep_item {items : List Json} {depth : Nat} (h : depth < depthItems items) :
    ∃ j ∈ items, depth < j.depth := by
  induction items with
  | nil => exact absurd h (Nat.not_lt_zero _)
  | cons item items ih =>
    rw [depthItems] at h
    by_cases hi : depth < item.depth
    · exact ⟨item, List.mem_cons_self, hi⟩
    · obtain ⟨j, hj, hd⟩ := ih (by omega)
      exact ⟨j, List.mem_cons_of_mem _ hj, hd⟩

theorem exists_deep_member {members : List (String × Json)} {depth : Nat}
    (h : depth < depthMembers members) : ∃ m ∈ members, depth < m.2.depth := by
  induction members with
  | nil => exact absurd h (Nat.not_lt_zero _)
  | cons m members ih =>
    rw [depthMembers] at h
    by_cases hm : depth < m.2.depth
    · exact ⟨m, List.mem_cons_self, hm⟩
    · obtain ⟨k, hk, hd⟩ := ih (by omega)
      exact ⟨k, List.mem_cons_of_mem _ hk, hd⟩

theorem wholeItems_iff {items : List Json} : WholeItems items ↔ ∀ j ∈ items, j.Whole := by
  induction items with
  | nil => simp [WholeItems]
  | cons item items ih => simp [WholeItems, ih]

theorem wholeMembers_iff {members : List (String × Json)} :
    WholeMembers members ↔ ∀ m ∈ members, m.2.Whole := by
  induction members with
  | nil => simp [WholeMembers]
  | cons m members ih => simp [WholeMembers, ih]

/-- **A document that is too deep is refused for that.**  How deep it may be is what the induction
is on: each array and each object leaves one less to its items and members. -/
theorem refuses_render {j : Json} {depth : Nat} (hw : j.Whole) (hd : depth < j.depth) :
    (document depth).Refuses j.render .tooDeep := by
  induction depth generalizing j with
  | zero =>
    intro rest _
    cases j with
    | null | bool | number | string => exact absurd hd (Nat.not_lt_zero _)
    | array items => cases items <;> exact ⟨_, rfl, rfl⟩
    | object members => cases members <;> exact ⟨_, rfl, rfl⟩
  | succ depth ih =>
    intro rest _
    cases j with
    | null | bool | number | string => exact absurd hd (Nat.not_lt_zero _)
    | array items =>
      obtain ⟨k, hk, hkd⟩ := exists_deep_item (Nat.lt_of_succ_lt_succ hd)
      have hws := wholeItems_iff.1 hw
      have hr : ∀ j ∈ items, (document depth).Reads j.render j ∨
          (document depth).Refuses j.render .tooDeep := fun j hj =>
        (Nat.lt_or_ge depth j.depth).symm.imp (reads_render j depth (hws j hj)) (ih (hws j hj))
      cases items with
      | nil => exact absurd hk List.not_mem_nil
      | cons item items =>
        obtain ⟨fault, hf, hc⟩ := listOf_refuses hw hr ⟨k, hk, ih (hws k hk) hkd⟩ rest
        refine ⟨fault, ?_, hc⟩
        rw [render, List.cons_append, List.append_assoc, document_succ, valueOf_array, hf]
        rfl
    | object members =>
      obtain ⟨m, hm, hmd⟩ := exists_deep_member (Nat.lt_of_succ_lt_succ hd)
      have hws := wholeMembers_iff.1 hw
      have hr : ∀ m ∈ members, (document depth).Reads m.2.render m.2 ∨
          (document depth).Refuses m.2.render .tooDeep := fun m hm =>
        (Nat.lt_or_ge depth m.2.depth).symm.imp (reads_render m.2 depth (hws m hm)) (ih (hws m hm))
      have he := refuses_everyMember hr ⟨m, hm, ih (hws m hm) hmd⟩ []
      obtain ⟨fault, hf, hc⟩ := objectOf_of_refuses he rest
      refine ⟨fault, ?_, hc⟩
      rw [render_object, List.cons_append, document_succ, valueOf_object]
      exact hf

/-! ## 5.  Allowing more -/

/-- What one reader takes the other takes, too, and as the same. -/
def Reader.Within (reader other : Reader α) : Prop :=
  ∀ ⦃s r : List UInt8⦄ ⦃a : α⦄, reader.read s = .ok (a, r) → other.read s = .ok (a, r)

theorem Reader.Within.itemsOnto {item other : Reader α} (h : item.Within other) {first : Bool}
    {done items : List α} {s r : List UInt8}
    (hi : itemsOnto item first done s = .ok (items, r)) :
    Json.itemsOnto other first done s = .ok (items, r) := by
  fun_induction Json.itemsOnto item first done s with
  | case1 => cases hi
  | case2 first done s hn =>
    cases hi
    exact itemsOnto_end hn
  | case3 => cases hi
  | case4 first done s t hn a r' ha ih => rw [itemsOnto_item hn (h ha), ih hi]

theorem Reader.Within.listOf {item other : Reader α} (h : item.Within other) {items : List α}
    {s r : List UInt8} (hl : listOf item s = .ok (items, r)) :
    Json.listOf other s = .ok (items, r) := by
  unfold Json.listOf at hl ⊢
  split at hl
  · cases hl
  · rename_i hi
    rw [h.itemsOnto hi]
    exact hl

theorem Reader.Within.objectOf {value other : Reader Json} (h : value.Within other) {j : Json}
    {s r : List UInt8} (ho : objectOf (everyMember value) s = .ok (j, r)) :
    Json.objectOf (everyMember other) s = .ok (j, r) := by
  obtain ⟨entries, members, t, hl, hh, hc, rfl⟩ := objectOf_everyMember_iff.1 ho
  refine objectOf_everyMember_iff.2 ⟨entries, members, t, hl, hh.imp ?_, hc, rfl⟩
  rintro e ⟨key, j⟩ ⟨hk, hv⟩
  exact ⟨hk, h hv⟩

/-- A value is read the same if what is inside of it is. -/
theorem ValueAt.mono {inner other : Option (Reader Json)}
    (h : ∀ reader ∈ inner, ∃ reader' ∈ other, reader.Within reader') {b : UInt8} {s r : List UInt8}
    {j : Json} (hv : ValueAt inner b s j r) : ValueAt other b s j r := by
  cases hv with
  | null read => exact .null read
  | yes read => exact .yes read
  | no read => exact .no read
  | negative read => exact .negative read
  | number digit read => exact .number digit read
  | string read => exact .string read
  | array allowed read =>
    obtain ⟨item, hi, hw⟩ := h _ allowed
    exact .array hi (hw.listOf read)
  | object allowed read =>
    obtain ⟨value, hi, hw⟩ := h _ allowed
    exact .object hi (hw.objectOf read)

theorem within_document_succ (depth : Nat) : (document depth).Within (document (depth + 1)) := by
  induction depth with
  | zero =>
    intro s r j h
    obtain ⟨b, t, hb, hv⟩ := read_document_eq_ok_iff.1 h
    exact read_document_eq_ok_iff.2 ⟨b, t, hb, hv.mono fun reader hr => by cases hr⟩
  | succ depth ih =>
    intro s r j h
    obtain ⟨b, t, hb, hv⟩ := read_document_eq_ok_iff.1 h
    refine read_document_eq_ok_iff.2 ⟨b, t, hb, hv.mono fun reader hr => ?_⟩
    cases hr
    exact ⟨document (depth + 1), rfl, ih⟩

/-- **Allowing more changes nothing about what was allowed before.** -/
theorem read_document_of_le {depth other : Nat} (hd : depth ≤ other) :
    (document depth).Within (document other) := by
  induction hd with
  | refl => exact fun _ _ _ h => h
  | step _ ih => exact fun _ _ _ h => within_document_succ _ (ih h)

end AgentIntake.Json
