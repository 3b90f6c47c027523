import AgentIntake.Proofs.Json.Depth
import AgentIntake.Proofs.Json.Members
import AgentIntake.Proofs.Json.Taking

/-!
# Texts and documents of a known kind

A schema reads a text and a document, and of a text it says what it says of the document in it
(`Schema.Agrees`).  This is proved here kind by kind: of strings, of whole numbers between bounds,
and of lists of a kind of which it holds.

Choices are an exception.  In a document the value beside the name may be an empty object, which no
text of a choice has.  A choice that is a name by itself is read alike
(`read_choiceReader_of_string`).
-/

namespace AgentIntake.Json

variable {α β : Type} {depth : Nat}

/-! ## 1.  Strings and numbers -/

theorem toOption_readFirst {reads : UInt8 → List UInt8 → Option (Except Fault (α × List UInt8))}
    {otherwise : UInt8 → List UInt8 → Fault} {s t : List UInt8} {b : UInt8}
    (hb : skipBlank s = b :: t) :
    (readFirst reads otherwise s).toOption = (reads b t).bind Except.toOption := by
  rw [readFirst, hb]
  dsimp only
  cases reads b t <;> rfl

theorem understands_numberAs (expected : String) :
    (numberAs expected).Understands depth fun
      | .number n => some n
      | _ => none := by
  refine understands_of_first (fun _ _ _ hb => toOption_readFirst hb) fun b s r j hv => ?_
  cases hv with
  | null | yes | no | string | array => rfl
  | negative read => rw [if_pos rfl, Option.bind_some, read]; rfl
  | number digit read =>
    rw [if_neg (isDigit_ne digit (by decide)), if_pos digit, Option.bind_some, read]
    rfl
  | object _ read =>
    obtain ⟨_, _, _, -, -, -, rfl⟩ := objectOf_everyMember_iff.1 read
    rfl

namespace Schema.Agrees

theorem check {schema : Schema α} (h : schema.Agrees depth) (f : α → Except Cause β) :
    (schema.check f).Agrees depth := by
  intro s r j hj
  refine (Reader.Understands.checkAt h .here f hj).trans ?_
  unfold Schema.check
  dsimp only
  cases schema.ofJson j <;> rfl

theorem map {schema : Schema α} (h : schema.Agrees depth) (f : α → β) :
    (schema.map f).Agrees depth :=
  h.check _

theorem string (expected : String) : (Schema.string expected).Agrees depth := by
  intro s r j hj
  refine (understands_stringAs expected hj).trans ?_
  cases j <;> rfl

theorem integer (low high : Int) (expected : String) :
    (Schema.integer low high expected).Agrees depth := by
  refine check (fun s r j hj => ?_) _
  refine (understands_numberAs expected hj).trans ?_
  cases j <;> rfl

theorem unsigned16 : Schema.unsigned16.Agrees depth :=
  (integer ..).map _

theorem unsigned64 (expected : String) : (Schema.unsigned64 expected).Agrees depth :=
  (integer ..).map _

end Schema.Agrees

/-! ## 2.  Lists -/

/-- Items are read as the items of the document are, behind those read before. -/
theorem toOption_itemsOnto {schema : Schema α} (h : schema.Agrees depth) {first : Bool}
    {before after : List Json} {s r : List UInt8}
    (hi : itemsOnto (document depth) first before s = .ok (after, r)) :
    ∃ items, after = before.reverse ++ items ∧ ∀ done : List α,
      (itemsOnto schema.reader first done s).toOption =
        (Schema.itemsOfJson schema.ofJson items).toOption.map fun values =>
          (done.reverse ++ values, r) := by
  fun_induction itemsOnto (document depth) first before s with
  | case1 => cases hi
  | case2 first before s hn =>
    cases hi
    refine ⟨[], (List.append_nil _).symm, fun done => ?_⟩
    rw [itemsOnto_end hn]
    show some (done.reverse, r) = some (done.reverse ++ [], r)
    rw [List.append_nil]
  | case3 => cases hi
  | case4 first before s t hn j u hj ih =>
    obtain ⟨items, rfl, hitems⟩ := ih hi
    refine ⟨j :: items, by simp, fun done => ?_⟩
    have hread : (schema.reader.read t).toOption = (schema.ofJson j).toOption.map (·, u) := h hj
    rw [Schema.itemsOfJson]
    cases hr : schema.reader.read t with
    | error fault =>
      rw [itemsOnto_error hn hr]
      rw [hr] at hread
      cases hv : schema.ofJson j with
      | error => rfl
      | ok a =>
        rw [hv] at hread
        cases hread
    | ok p =>
      rw [hr] at hread
      cases hv : schema.ofJson j with
      | error =>
        rw [hv] at hread
        cases hread
      | ok a =>
        rw [hv] at hread
        cases hread
        rw [itemsOnto_item hn hr, hitems (a :: done)]
        cases Schema.itemsOfJson schema.ofJson items <;> simp [Except.toOption]

theorem Schema.Agrees.list {schema : Schema α} (h : schema.Agrees depth) :
    (Schema.list schema).Agrees (depth + 1) := by
  refine understands_of_first (fun _ _ _ hb => toOption_readFirst hb) fun b s r j hv => ?_
  cases hv with
  | null | yes | no | negative | string => rfl
  | number digit => rw [if_neg (isDigit_ne digit (by decide))]; rfl
  | object _ read =>
    obtain ⟨_, _, _, -, -, -, rfl⟩ := objectOf_everyMember_iff.1 read
    rfl
  | @array item _ _ items allowed read =>
    cases allowed
    rw [if_pos rfl, Option.bind_some]
    unfold listOf at read ⊢
    split at read
    · cases read
    rename_i after u hi
    split at read
    · cases read
    rename_i hc
    cases read
    obtain ⟨items, rfl, hitems⟩ := toOption_itemsOnto h hi
    have hitems := hitems []
    show _ = (Schema.itemsOfJson schema.ofJson items).toOption.map (·, r)
    cases hr : itemsOnto schema.reader true [] s with
    | error =>
      rw [hr] at hitems
      cases hv : Schema.itemsOfJson schema.ofJson items with
      | error => rfl
      | ok values =>
        rw [hv] at hitems
        cases hitems
    | ok p =>
      rw [hr] at hitems
      cases hv : Schema.itemsOfJson schema.ofJson items with
      | error =>
        rw [hv] at hitems
        cases hitems
      | ok values =>
        rw [hv] at hitems
        cases hitems
        dsimp only
        rw [hc]
        rfl

/-! ## 3.  Names -/

/-- A name by itself is a choice in a text as in a document. -/
theorem read_choiceReader_of_string {known : List (String × α)} {s r : List UInt8} {name : String}
    (h : (document depth).read s = .ok (.string name, r)) :
    ((Schema.choiceReader known).read s).toOption =
      (Schema.named known name).toOption.map (·, r) := by
  obtain ⟨b, t, hb, hv⟩ := read_document_eq_ok_iff.1 h
  cases hv with
  | string read =>
    have hname : ((Schema.nameIn known).read (Byte.quote :: t)).toOption =
        (Schema.named known name).toOption.map (·, r) := by
      refine (toOption_checkAt ..).trans ?_
      rw [toOption_stringAs (skipBlank_cons (by decide) t), if_pos rfl, Option.bind_some, read]
      rfl
    refine (toOption_readFirst hb).trans ?_
    rw [if_pos rfl, Option.bind_some]
    exact hname
  | object _ read =>
    obtain ⟨_, _, _, -, -, -, hj⟩ := objectOf_everyMember_iff.1 read
    cases hj

end AgentIntake.Json
