import AgentIntake.Json.Schema
import AgentIntake.Proofs.Json.Lexical
import Mathlib.Data.List.TakeWhile

/-!
# Documents are read back

A document whose numbers are whole comes off the front of a text as it was written, whatever
follows, if only that does not continue a number (`reads_render`).  The reader may be any that
allows as many arrays and objects inside one another as the document has.

## Two inductions kept apart

The loops over items and members are the same whether the values are documents or of a known kind.
So what a loop does is said once, for any reader of items and any `Fields`, on the assumption that
single values are read (`itemsOnto_render`, `membersFrom_of_takes`).  The induction over documents
provides the assumption and no more.

`Fields.Takes` is the part of it that is about the members of an object: what each member makes of
the state that the ones before it left.
-/

namespace AgentIntake.Json

variable {α β σ : Type}

/-! ## 1.  Whole numbers only -/

mutual

/-- All numbers of a document are whole. -/
def Whole : Json → Prop
  | number (.real _) => False
  | array items => WholeItems items
  | object members => WholeMembers members
  | null | bool _ | number (.whole ..) | string _ => True

/-- All numbers of the items are whole. -/
def WholeItems : List Json → Prop
  | [] => True
  | item :: rest => item.Whole ∧ WholeItems rest

/-- All numbers of the members are whole. -/
def WholeMembers : List (String × Json) → Prop
  | [] => True
  | (_, value) :: rest => value.Whole ∧ WholeMembers rest

end

/-! ## 2.  Reading what was written -/

/-- The reader takes the text off the front, up to something that does not continue a number. -/
def Reader.Reads (reader : Reader α) (text : List UInt8) (a : α) : Prop :=
  ∀ rest, Stops rest → reader.read (text ++ rest) = .ok (a, rest)

theorem Reader.Reads.checkAt {reader : Reader α} {text : List UInt8} {a : α} {b : β}
    {f : α → Except Cause β} (h : reader.Reads text a) (place : Cause → List UInt8 → Fault)
    (hf : f a = .ok b) : (reader.checkAt place f).Reads text b := by
  intro rest hs
  unfold Reader.checkAt
  dsimp only
  rw [h rest hs]
  dsimp only
  rw [hf]

theorem Reader.Reads.check {reader : Reader α} {text : List UInt8} {a : α} {b : β}
    {f : α → Except Cause β} (h : reader.Reads text a) (hf : f a = .ok b) :
    (reader.check f).Reads text b :=
  h.checkAt _ hf

theorem Reader.Reads.map {reader : Reader α} {text : List UInt8} {a : α} (h : reader.Reads text a)
    (f : α → β) : (reader.map f).Reads text (f a) :=
  h.check (f := fun a => .ok (f a)) rfl

theorem skipBlank_cons {b : UInt8} (h : Byte.isBlank b = false) (r : List UInt8) :
    skipBlank (b :: r) = b :: r :=
  List.dropWhile_cons_of_neg (by simp [h])

theorem isDigit_ne {b c : UInt8} (hb : Byte.isDigit b = true) (hc : Byte.isDigit c = false) :
    b ≠ c := by
  rintro rfl
  rw [hb] at hc
  cases hc

theorem isBlank_of_isDigit {b : UInt8} (h : Byte.isDigit b = true) : Byte.isBlank b = false := by
  simp [Byte.isBlank, isDigit_ne h (show Byte.isDigit Byte.space = false by decide),
    isDigit_ne h (show Byte.isDigit Byte.newline = false by decide),
    isDigit_ne h (show Byte.isDigit Byte.tab = false by decide),
    isDigit_ne h (show Byte.isDigit Byte.carriageReturn = false by decide)]

/-- The first byte of a number that is not negative. -/
theorem exists_digit_renderNat (n : Nat) :
    ∃ b digits, renderNat n = b :: digits ∧ Byte.isDigit b = true := by
  have hd := isDigit_of_mem_renderNat n
  rcases Nat.eq_zero_or_pos n with rfl | hn
  · exact ⟨_, [], rfl, by decide⟩
  · obtain ⟨b, digits, hb, -⟩ := exists_head_renderNat hn
    exact ⟨b, digits, hb, hd b (hb ▸ List.mem_cons_self)⟩

/-- The text of a document begins with its own first byte, and none that ends a list. -/
theorem exists_head_render {j : Json} (h : j.Whole) :
    ∃ b text, j.render = b :: text ∧ Byte.isBlank b = false ∧ b ≠ Byte.closeBracket := by
  cases j with
  | null => exact ⟨_, _, rfl, by decide, by decide⟩
  | bool b => cases b <;> exact ⟨_, _, rfl, by decide, by decide⟩
  | string s => exact ⟨_, _, rfl, by decide, by decide⟩
  | array items => cases items <;> exact ⟨_, _, rfl, by decide, by decide⟩
  | object members => cases members <;> exact ⟨_, _, rfl, by decide, by decide⟩
  | number n =>
    cases n with
    | real x => exact absurd h (by simp [Whole])
    | whole n fits =>
      rw [render, renderNumber, renderInt]
      split
      · exact ⟨_, _, rfl, by decide, by decide⟩
      · obtain ⟨b, digits, hb, hd⟩ := exists_digit_renderNat n.natAbs
        exact ⟨b, digits, hb, isBlank_of_isDigit hd, isDigit_ne hd (by decide)⟩

theorem stops_renderItems (items : List Json) (rest : List UInt8) :
    Stops (renderItems items ++ rest) := by
  cases items <;> exact stops_cons _ (by decide)

theorem stops_renderMembers (members : List (String × Json)) (rest : List UInt8) :
    Stops (renderMembers members ++ rest) := by
  cases members <;> exact stops_cons _ (by decide)

/-! ## 3.  Items -/

theorem itemsOnto_end {item : Reader α} {first : Bool} {done : List α} {s : List UInt8}
    (h : nextItem first s = .ok none) : itemsOnto item first done s = .ok (done.reverse, s) := by
  rw [itemsOnto.eq_def]
  split <;> rename_i hn <;> rw [h] at hn <;> cases hn

theorem itemsOnto_item {item : Reader α} {first : Bool} {done : List α} {s t r : List UInt8} {a : α}
    (h : nextItem first s = .ok (some t)) (ha : item.read t = .ok (a, r)) :
    itemsOnto item first done s = itemsOnto item false (a :: done) r := by
  rw [itemsOnto.eq_def]
  split <;> rename_i hn <;> rw [h] at hn <;> cases hn
  split <;> rename_i hi <;> rw [ha] at hi <;> cases hi
  rfl

/-- Where an item begins the next item is. -/
theorem nextItem_render {j : Json} (h : j.Whole) (rest : List UInt8) :
    nextItem true (j.render ++ rest) = .ok (some (j.render ++ rest)) ∧
      nextItem false (Byte.comma :: (j.render ++ rest)) = .ok (some (j.render ++ rest)) := by
  obtain ⟨b, text, hj, hb, hc⟩ := exists_head_render h
  rw [hj, List.cons_append]
  constructor
  · rw [nextItem, skipBlank_cons hb]
    dsimp only
    rw [if_neg hc, if_pos rfl]
  · rw [nextItem, skipBlank_cons (by decide)]
    dsimp only
    rw [if_neg (by decide), if_neg (by decide), if_pos rfl, skipBlank_cons hb]
    dsimp only
    rw [if_neg hc]

/-- Further items are taken one by one. -/
theorem itemsOnto_render {item : Reader Json} {items : List Json} (hw : WholeItems items)
    (hr : ∀ j ∈ items, item.Reads j.render j) (done : List Json) (rest : List UInt8) :
    itemsOnto item false done (renderItems items ++ rest) =
      .ok (done.reverse ++ items, Byte.closeBracket :: rest) := by
  induction items generalizing done with
  | nil =>
    rw [List.append_nil]
    exact itemsOnto_end rfl
  | cons j items ih =>
    rw [renderItems, List.cons_append, List.append_assoc,
      itemsOnto_item (nextItem_render hw.1 _).2
        (hr j List.mem_cons_self _ (stops_renderItems items rest)),
      ih hw.2 (fun k hk => hr k (List.mem_cons_of_mem _ hk)), List.reverse_cons, List.append_assoc,
      List.singleton_append]

theorem listOf_render {item : Reader Json} {j : Json} {items : List Json}
    (hw : WholeItems (j :: items))
    (hr : ∀ k ∈ j :: items, item.Reads k.render k) (rest : List UInt8) :
    listOf item (j.render ++ (renderItems items ++ rest)) = .ok (j :: items, rest) := by
  rw [listOf, itemsOnto_item (nextItem_render hw.1 _).1
      (hr j List.mem_cons_self _ (stops_renderItems items rest)),
    itemsOnto_render hw.2 fun k hk => hr k (List.mem_cons_of_mem _ hk)]
  rfl

/-! ## 4.  Members -/

/-- The members of an object in order, each with what it makes of the state before it. -/
inductive Fields.Takes (fields : Fields σ α) : σ → List (String × Json) → σ → Prop where
  | nil (state : σ) : Takes fields state [] state
  | cons {state next final : σ} {key : String} {value : Json} {members : List (String × Json)}
    {reader : Reader σ} (known : fields.member state key = .ok reader)
    (reads : reader.Reads value.render next) (others : Takes fields next members final) :
    Takes fields state ((key, value) :: members) final

variable {fields : Fields σ α}

theorem membersFrom_end {first : Bool} {state : σ} {s : List UInt8}
    (h : nextKey first s = .ok none) :
    membersFrom fields first state s = .ok (state, s) := by
  rw [membersFrom.eq_def]
  split <;> rename_i hn <;> rw [h] at hn <;> cases hn

theorem membersFrom_member {first : Bool} {state next : σ} {key : String} {reader : Reader σ}
    {s t u v r : List UInt8} (hn : nextKey first s = .ok (some t))
    (hk : readString t = .ok (key, u)) (hm : fields.member state key = .ok reader)
    (hc : colon u = .ok v)
    (hv : reader.read v = .ok (next, r)) :
    membersFrom fields first state s = membersFrom fields false next r := by
  rw [membersFrom.eq_def]
  split <;> rename_i h <;> rw [hn] at h <;> cases h
  split <;> rename_i h <;> rw [hk] at h <;> cases h
  split <;> rename_i h <;> rw [hm] at h <;> cases h
  split <;> rename_i h <;> rw [hc] at h <;> cases h
  split <;> rename_i h <;> rw [hv] at h <;> cases h
  rfl

/-- A member that was written is taken, the first one or another. -/
theorem membersFrom_render {first : Bool} {state next : σ} {key : String} {value : Json}
    {reader : Reader σ} {s : List UInt8} (known : fields.member state key = .ok reader)
    (reads : reader.Reads value.render next) {rest : List UInt8} (hs : Stops rest)
    (hn : nextKey first s = .ok (some
      (key.toList.flatMap escape ++ Byte.quote :: (Byte.colon :: (value.render ++ rest))))) :
    membersFrom fields first state s = membersFrom fields false next rest := by
  refine membersFrom_member hn (readString_escapes key _) known ?_ (reads rest hs)
  rw [colon, skipBlank_cons (by decide)]
  rfl

theorem membersFrom_of_takes {state final : σ} {members : List (String × Json)}
    (h : fields.Takes state members final) (rest : List UInt8) :
    membersFrom fields false state (renderMembers members ++ rest) =
      .ok (final, Byte.closeBrace :: rest) := by
  induction h with
  | nil => exact membersFrom_end rfl
  | @cons state next final key value members reader known reads _ ih =>
    refine (membersFrom_render known reads (stops_renderMembers members rest) ?_).trans ih
    simp only [renderMembers, renderString, List.cons_append, List.append_assoc, List.nil_append]
    rfl

/-- The text of an object after its opening brace. -/
def renderBody : List (String × Json) → List UInt8
  | [] => [Byte.closeBrace]
  | (key, value) :: rest => renderString key ++ Byte.colon :: (value.render ++ renderMembers rest)

theorem render_object (members : List (String × Json)) :
    (object members).render = Byte.openBrace :: renderBody members := by
  cases members <;> rfl

/-- **An object is taken as its members are.** -/
theorem objectOf_of_takes {final : σ} {a : α} {members : List (String × Json)}
    (h : fields.Takes fields.start members final) (hf : fields.finish final = .ok a)
    (rest : List UInt8) : objectOf fields (renderBody members ++ rest) = .ok (a, rest) := by
  have hm : membersFrom fields true fields.start (renderBody members ++ rest) =
      .ok (final, Byte.closeBrace :: rest) := by
    cases h with
    | nil => exact membersFrom_end rfl
    | @cons _ next _ key value members reader known reads others =>
      refine (membersFrom_render known reads (stops_renderMembers members rest) ?_).trans
        (membersFrom_of_takes others rest)
      simp only [renderBody, renderString, List.cons_append, List.append_assoc, List.nil_append]
      rfl
  rw [objectOf, hm]
  dsimp only
  rw [hf]
  rfl

/-! ## 5.  Documents -/

theorem takes_everyMember {value : Reader Json} {members : List (String × Json)}
    (hr : ∀ m ∈ members, value.Reads m.2.render m.2) (done : List (String × Json)) :
    (everyMember value).Takes done members (members.reverse ++ done) := by
  induction members generalizing done with
  | nil => exact .nil done
  | cons m members ih =>
    have ih := ih (fun k hk => hr k (List.mem_cons_of_mem _ hk)) (m :: done)
    rw [List.reverse_cons, List.append_assoc, List.singleton_append]
    exact .cons rfl ((hr m List.mem_cons_self).map _) ih

/-- The text of a number begins a number. -/
theorem valueOf_number {inner : Option (Reader Json)} {n : Int}
    (fits : -0x8000000000000000 ≤ n ∧ n < 0x10000000000000000) {rest : List UInt8}
    (hs : Stops rest) :
    valueOf inner (renderInt n ++ rest) = .ok (.number (.whole n fits), rest) := by
  unfold renderInt
  split
  · rename_i hn
    rw [List.cons_append, valueOf, skipBlank_cons (by decide)]
    dsimp only
    rw [if_neg (by decide), if_neg (by decide), if_neg (by decide), if_pos rfl,
      readNumber_of_neg fits hn hs]
    rfl
  · rename_i hn
    have hread := readNumber_of_nonneg fits (Int.not_lt.1 hn) hs
    obtain ⟨b, digits, hb, hd⟩ := exists_digit_renderNat n.natAbs
    rw [hb, List.cons_append] at hread ⊢
    rw [valueOf, skipBlank_cons (isBlank_of_isDigit hd)]
    dsimp only
    rw [if_neg (isDigit_ne hd (by decide)), if_neg (isDigit_ne hd (by decide)),
      if_neg (isDigit_ne hd (by decide)), if_neg (isDigit_ne hd (by decide)), if_pos hd, hread]
    rfl

theorem valueOf_string {inner : Option (Reader Json)} (s : String) (rest : List UInt8) :
    valueOf inner (renderString s ++ rest) = .ok (.string s, rest) := by
  have h := readString_escapes s rest
  rw [renderString, List.cons_append, List.append_assoc, List.singleton_append, valueOf,
    skipBlank_cons (by decide)]
  dsimp only
  rw [if_neg (by decide), if_neg (by decide), if_neg (by decide), if_neg (by decide),
    if_neg (by decide), if_pos rfl, h]
  rfl

theorem valueOf_array (item : Reader Json) (s : List UInt8) :
    valueOf (some item) (Byte.openBracket :: s) =
      (listOf item s).map fun (items, r) => (.array items, r) :=
  rfl

theorem valueOf_object (value : Reader Json) (s : List UInt8) :
    valueOf (some value) (Byte.openBrace :: s) = objectOf (everyMember value) s :=
  rfl

theorem document_succ (depth : Nat) :
    (document (depth + 1)).read = valueOf (some (document depth)) :=
  rfl

/-- A document that holds no others is read at any depth. -/
theorem reads_scalar {j : Json}
    (h : ∀ inner rest, Stops rest → valueOf inner (j.render ++ rest) = .ok (j, rest))
    (depth : Nat) : (document depth).Reads j.render j := by
  intro rest hs
  cases depth with
  | zero => exact h none rest hs
  | succ depth => exact h (some (document depth)) rest hs

mutual

/-- **A document of whole numbers is read back.** -/
theorem reads_render : ∀ (j : Json) (depth : Nat), j.Whole → j.depth ≤ depth →
    (document depth).Reads j.render j
  | null, depth, _, _ => reads_scalar (fun _ _ _ => rfl) depth
  | bool true, depth, _, _ => reads_scalar (fun _ _ _ => rfl) depth
  | bool false, depth, _, _ => reads_scalar (fun _ _ _ => rfl) depth
  | number (.whole n fits), depth, _, _ =>
    reads_scalar (fun _ _ hs => by rw [render]; exact valueOf_number fits hs) depth
  | number (.real x), depth, hw, _ => absurd hw (by simp [Whole])
  | string s, depth, _, _ => reads_scalar (fun _ rest _ => by rw [render, valueOf_string]) depth
  | array items, 0, _, hd => by simp [Json.depth] at hd
  | object members, 0, _, hd => by simp [Json.depth] at hd
  | array [], depth + 1, _, _ => fun rest _ => by
    have he : itemsOnto (document depth) true [] (Byte.closeBracket :: rest) =
        .ok ([], Byte.closeBracket :: rest) := itemsOnto_end rfl
    rw [render, List.cons_append, List.singleton_append, document_succ, valueOf_array, listOf, he]
    rfl
  | array (item :: items), depth + 1, hw, hd => by
    intro rest _
    have hr := reads_items (item :: items) depth hw (Nat.le_of_succ_le_succ hd)
    rw [render, List.cons_append, List.append_assoc]
    rw [document_succ, valueOf_array, listOf_render hw hr]
    rfl
  | object members, depth + 1, hw, hd => by
    intro rest _
    have hr := reads_members members depth hw (Nat.le_of_succ_le_succ hd)
    have ht := takes_everyMember hr []
    rw [render_object, List.cons_append]
    rw [document_succ, valueOf_object]
    refine objectOf_of_takes ht ?_ rest
    show Except.ok (object (members.reverse ++ []).reverse) = _
    rw [List.append_nil, List.reverse_reverse]

theorem reads_items : ∀ (items : List Json) (depth : Nat), WholeItems items →
    depthItems items ≤ depth → ∀ j ∈ items, (document depth).Reads j.render j
  | [], _, _, _ => fun _ h => nomatch h
  | item :: rest, depth, hw, hd => fun j hj => by
    rw [depthItems] at hd
    rcases List.mem_cons.1 hj with h | hj
    · rw [h]
      exact reads_render item depth hw.1 (Nat.le_trans (Nat.le_max_left ..) hd)
    · exact reads_items rest depth hw.2 (Nat.le_trans (Nat.le_max_right ..) hd) j hj

theorem reads_members : ∀ (members : List (String × Json)) (depth : Nat), WholeMembers members →
    depthMembers members ≤ depth → ∀ m ∈ members, (document depth).Reads m.2.render m.2
  | [], _, _, _ => fun _ h => nomatch h
  | (key, value) :: rest, depth, hw, hd => fun m hm => by
    rw [depthMembers] at hd
    rcases List.mem_cons.1 hm with h | hm
    · rw [h]
      exact reads_render value depth hw.1 (Nat.le_trans (Nat.le_max_left ..) hd)
    · exact reads_members rest depth hw.2 (Nat.le_trans (Nat.le_max_right ..) hd) m hm

end

/-! ## 6.  Whole texts -/

theorem reads_stringAs (expected s : String) : (stringAs expected).Reads (renderString s) s := by
  intro rest _
  have h : ∀ t, (stringAs expected).read (Byte.quote :: t) = readString t := fun _ => rfl
  rw [renderString, List.cons_append, List.append_assoc, List.singleton_append, h,
    readString_escapes]

/-- White space does not continue a number. -/
theorem stops_of_isBlank_head {b : UInt8} (h : Byte.isBlank b = true) (rest : List UInt8) :
    Stops (b :: rest) := by
  simp only [Byte.isBlank, Bool.or_eq_true, beq_iff_eq] at h
  rcases h with ((rfl | rfl) | rfl) | rfl <;> exact stops_cons _ (by decide)

theorem stops_of_isBlank {rest : List UInt8} (h : ∀ b ∈ rest, Byte.isBlank b = true) :
    Stops rest := by
  cases rest with
  | nil => exact stops_nil
  | cons b rest => exact stops_of_isBlank_head (h b List.mem_cons_self) rest

/-- **A text with white space behind it is read as a whole.** -/
theorem whole_of_reads {reader : Reader α} {text : List UInt8} {a : α} (h : reader.Reads text a)
    (rest : List UInt8) (hr : ∀ b ∈ rest, Byte.isBlank b = true) :
    reader.whole (text ++ rest) = .ok a := by
  have hs : skipBlank rest = [] := List.dropWhile_eq_nil_iff.2 hr
  rw [Reader.whole, h rest (stops_of_isBlank hr)]
  dsimp only
  rw [hs]

/-- The text of a document is the document. -/
theorem parse_render {j : Json} (hw : j.Whole) (hd : j.depth ≤ depthLimit) :
    parse j.render = .ok j := by
  have h := whole_of_reads (reads_render j depthLimit hw hd) [] (List.forall_mem_nil _)
  rwa [List.append_nil] at h

mutual

/-- Nothing that is written is a control character. -/
theorem printable_render : ∀ j : Json, j.Whole → Printable j.render
  | null, _ => by decide
  | bool true, _ => by decide
  | bool false, _ => by decide
  | number (.whole n fits), _ => by
    rw [render, renderNumber]
    exact printable_renderInt n
  | number (.real x), hw => absurd hw (by simp [Whole])
  | string s, _ => by
    rw [render]
    exact printable_renderString s
  | array [], _ => by decide
  | array (item :: rest), hw => by
    rw [render]
    exact .cons (by decide) (.append (printable_render item hw.1) (printable_renderItems rest hw.2))
  | object [], _ => by decide
  | object ((key, value) :: rest), hw => by
    rw [render]
    exact .cons (by decide) (.append (printable_renderString key) (.cons (by decide)
      (.append (printable_render value hw.1) (printable_renderMembers rest hw.2))))

theorem printable_renderItems : ∀ items : List Json, WholeItems items →
    Printable (renderItems items)
  | [], _ => by decide
  | item :: rest, hw => by
    rw [renderItems]
    exact .cons (by decide) (.append (printable_render item hw.1) (printable_renderItems rest hw.2))

theorem printable_renderMembers : ∀ members : List (String × Json), WholeMembers members →
    Printable (renderMembers members)
  | [], _ => by decide
  | (key, value) :: rest, hw => by
    rw [renderMembers]
    exact .cons (by decide) (.append (printable_renderString key) (.cons (by decide)
      (.append (printable_render value hw.1) (printable_renderMembers rest hw.2))))

end

end AgentIntake.Json
