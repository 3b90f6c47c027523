import AgentIntake.Json.Lexical

/-!
# Reading JSON

A `Reader` takes one value off the front of a text and leaves less of it than there was; that is its
proof field, and what lets the loops over items and members end.  White space before a value is
the reader's to skip, white space after it is not.

What an object's members mean is the business of its `Fields`: which reader a key's value has, and
what becomes of all of them.  `document` is the reader of any value; the most arrays and objects
that may stand inside one another is its first argument.

## Where a fault of meaning is placed

A text can be well formed and still say the wrong thing: a member occurs twice, one is missing, a
list is too short.  Such a fault is placed where the reader stands once it has taken the closing
bracket or brace, if that is what comes next.
-/

namespace AgentIntake.Json

/-! ## 1.  Readers -/

/-- What takes a value off the front of a text, at least one byte, or says what is wrong. -/
structure Reader (α : Type) where
  read : List UInt8 → Except Fault (α × List UInt8)
  shrinks : ∀ {s r : List UInt8} {a : α}, read s = .ok (a, r) → r.length < s.length

namespace Reader

variable {α β : Type}

/-- The reader whose values are changed by `f`, unless that refuses them: then `place` says
where. -/
def checkAt (place : Cause → List UInt8 → Fault) (f : α → Except Cause β) (reader : Reader α) :
    Reader β where
  read s :=
    match reader.read s with
    | .error fault => .error fault
    | .ok (a, r) =>
      match f a with
      | .error cause => .error (place cause r)
      | .ok b => .ok (b, r)
  shrinks {s r b} h := by
    split at h
    · cases h
    · rename_i hr
      split at h
      · cases h
      · cases h; exact reader.shrinks hr

/-- The reader whose values are changed by `f`, unless that refuses them. -/
def check (f : α → Except Cause β) (reader : Reader α) : Reader β :=
  reader.checkAt .here f

/-- The reader whose values are changed by `f`, unless that refuses them without saying where. -/
def interpret (f : α → Except Cause β) (reader : Reader α) : Reader β :=
  reader.checkAt (fun cause _ => .unplaced cause) f

/-- The reader whose values are changed by `f`. -/
def map (f : α → β) (reader : Reader α) : Reader β :=
  reader.check fun a => .ok (f a)

end Reader

/-! ## 2.  The ends of lists and objects -/

variable {α σ : Type}

/-- The rest after a closing byte, if that comes next. -/
def afterClosing (closing : UInt8) (s : List UInt8) : List UInt8 :=
  match skipBlank s with
  | b :: r => if b = closing then r else b :: r
  | [] => []

/-- What follows the end of a list. -/
def closeList (s : List UInt8) : Except Fault (List UInt8) :=
  match skipBlank s with
  | [] => .error (.next .endInList [])
  | b :: r =>
    if b = Byte.closeBracket then .ok r
    else if b = Byte.comma then
      match skipBlank r with
      | c :: t =>
        if c = Byte.closeBracket then .error (.next .trailingComma (c :: t))
        else .error (.next .trailingCharacters (c :: t))
      | [] => .error (.next .trailingCharacters [])
    else .error (.next .trailingCharacters (b :: r))

/-- What follows the end of an object. -/
def closeObject (s : List UInt8) : Except Fault (List UInt8) :=
  match skipBlank s with
  | [] => .error (.next .endInObject [])
  | b :: r =>
    if b = Byte.closeBrace then .ok r
    else if b = Byte.comma then .error (.next .trailingComma (b :: r))
    else .error (.next .trailingCharacters (b :: r))

theorem length_lt_of_closeList {s r : List UInt8} (h : closeList s = .ok r) :
    r.length < s.length := by
  have hs := length_skipBlank_le s
  unfold closeList at h
  split at h
  · cases h
  · rename_i hb
    rw [hb, List.length_cons] at hs
    repeat' split at h
    all_goals first | (cases h; done) | (cases h; omega)

theorem length_lt_of_closeObject {s r : List UInt8} (h : closeObject s = .ok r) :
    r.length < s.length := by
  have hs := length_skipBlank_le s
  unfold closeObject at h
  split at h
  · cases h
  · rename_i hb
    rw [hb, List.length_cons] at hs
    repeat' split at h
    all_goals first | (cases h; done) | (cases h; omega)

/-! ## 3.  Lists -/

/-- Where the next item of a list begins; none if the list ends. -/
def nextItem (first : Bool) (s : List UInt8) : Except Fault (Option (List UInt8)) :=
  match skipBlank s with
  | [] => .error (.next .endInList [])
  | b :: r =>
    if b = Byte.closeBracket then .ok none
    else if first then .ok (some (b :: r))
    else if b = Byte.comma then
      match skipBlank r with
      | [] => .error (.next .endInValue [])
      | c :: t =>
        if c = Byte.closeBracket then .error (.next .trailingComma (c :: t))
        else .ok (some (c :: t))
    else .error (.next .noCommaOrBracket (b :: r))

theorem length_le_of_nextItem {first : Bool} {s r : List UInt8}
    (h : nextItem first s = .ok (some r)) : r.length ≤ s.length := by
  have hs := length_skipBlank_le s
  unfold nextItem at h
  split at h
  · cases h
  · rename_i b t hb
    rw [hb, List.length_cons] at hs
    have ht := length_skipBlank_le t
    split at h
    · cases h
    · split at h
      · cases h; simpa using hs
      · split at h
        · split at h
          · cases h
          · rename_i hc
            rw [hc] at ht
            split at h
            · cases h
            · cases h; omega
        · cases h

/-- The items up to the end of the list, onto those read so far, last first. -/
def itemsOnto (item : Reader α) (first : Bool) (done : List α) (s : List UInt8) :
    Except Fault (List α × List UInt8) :=
  match _h : nextItem first s with
  | .error fault => .error fault
  | .ok none => .ok (done.reverse, s)
  | .ok (some t) =>
    match _i : item.read t with
    | .error fault => .error fault
    | .ok (a, r) => itemsOnto item false (a :: done) r
termination_by s.length
decreasing_by
  have := length_le_of_nextItem _h
  have := item.shrinks _i
  omega

theorem length_le_of_itemsOnto {item : Reader α} {first : Bool} {done items : List α}
    {s r : List UInt8} (h : itemsOnto item first done s = .ok (items, r)) :
    r.length ≤ s.length := by
  fun_induction itemsOnto item first done s with
  | case1 => cases h
  | case2 => cases h; exact Nat.le_refl _
  | case3 => cases h
  | case4 first done s t hn a r' hi ih =>
    have := length_le_of_nextItem hn
    have := item.shrinks hi
    have := ih h
    omega

/-- The items after one that was read already, up to the end of the list. -/
def furtherItems (item : Reader α) (s : List UInt8) : Except Fault (List α × List UInt8) :=
  itemsOnto item false [] s

theorem length_le_of_furtherItems {item : Reader α} {items : List α} {s r : List UInt8}
    (h : furtherItems item s = .ok (items, r)) : r.length ≤ s.length :=
  length_le_of_itemsOnto h

/-- A list, after its opening bracket. -/
def listOf (item : Reader α) (s : List UInt8) : Except Fault (List α × List UInt8) :=
  match itemsOnto item true [] s with
  | .error fault => .error fault
  | .ok (items, r) =>
    match closeList r with
    | .error fault => .error fault
    | .ok r => .ok (items, r)

theorem length_lt_of_listOf {item : Reader α} {items : List α} {s r : List UInt8}
    (h : listOf item s = .ok (items, r)) : r.length < s.length := by
  unfold listOf at h
  split at h
  · cases h
  · rename_i hi
    have := length_le_of_itemsOnto hi
    split at h
    · cases h
    · rename_i hc
      have := length_lt_of_closeList hc
      cases h
      omega

/-! ## 4.  Objects -/

/-- What the members of an object mean: a state that the value of each key changes, and what the
last state comes to. -/
structure Fields (σ α : Type) where
  start : σ
  member : σ → String → Except Cause (Reader σ)
  finish : σ → Except Cause α

/-- What follows the quote that opens the next key; none if the object ends. -/
def nextKey (first : Bool) (s : List UInt8) : Except Fault (Option (List UInt8)) :=
  match skipBlank s with
  | [] => .error (.next .endInObject [])
  | b :: r =>
    if b = Byte.closeBrace then .ok none
    else if first then
      if b = Byte.quote then .ok (some r) else .error (.next .badKey (b :: r))
    else if b = Byte.comma then
      match skipBlank r with
      | [] => .error (.next .endInValue [])
      | c :: t =>
        if c = Byte.quote then .ok (some t)
        else if c = Byte.closeBrace then .error (.next .trailingComma (c :: t))
        else .error (.next .badKey (c :: t))
    else .error (.next .noCommaOrBrace (b :: r))

theorem length_lt_of_nextKey {first : Bool} {s r : List UInt8}
    (h : nextKey first s = .ok (some r)) : r.length < s.length := by
  have hs := length_skipBlank_le s
  unfold nextKey at h
  split at h
  · cases h
  · rename_i b t hb
    rw [hb, List.length_cons] at hs
    have ht := length_skipBlank_le t
    split at h
    · cases h
    · split at h
      · split at h
        · cases h; exact hs
        · cases h
      · split at h
        · split at h
          · cases h
          · rename_i hc
            rw [hc, List.length_cons] at ht
            split at h
            · cases h; omega
            · split at h <;> cases h
        · cases h

/-- What follows the colon between a key and its value. -/
def colon (s : List UInt8) : Except Fault (List UInt8) :=
  match skipBlank s with
  | [] => .error (.next .endInObject [])
  | b :: r => if b = Byte.colon then .ok r else .error (.next .noColon (b :: r))

theorem length_lt_of_colon {s r : List UInt8} (h : colon s = .ok r) : r.length < s.length := by
  have hs := length_skipBlank_le s
  unfold colon at h
  split at h
  · cases h
  · rename_i hb
    rw [hb, List.length_cons] at hs
    split at h
    · cases h; exact hs
    · cases h

/-- The state after the members up to the end of the object. -/
def membersFrom {α : Type} (fields : Fields σ α) (first : Bool) (state : σ) (s : List UInt8) :
    Except Fault (σ × List UInt8) :=
  match _n : nextKey first s with
  | .error fault => .error fault
  | .ok none => .ok (state, s)
  | .ok (some t) =>
    match _k : readString t with
    | .error fault => .error fault
    | .ok (key, u) =>
      match fields.member state key with
      | .error cause => .error (.here cause (afterClosing Byte.closeBrace u))
      | .ok value =>
        match _c : colon u with
        | .error fault => .error fault
        | .ok v =>
          match _v : value.read v with
          | .error fault => .error fault
          | .ok (state, r) => membersFrom fields false state r
termination_by s.length
decreasing_by
  have := length_lt_of_nextKey _n
  have := length_lt_of_stringOnto _k
  have := length_lt_of_colon _c
  have := value.shrinks _v
  omega

theorem length_le_of_membersFrom {fields : Fields σ α} {first : Bool} {state final : σ}
    {s r : List UInt8} (h : membersFrom fields first state s = .ok (final, r)) :
    r.length ≤ s.length := by
  fun_induction membersFrom fields first state s with
  | case1 => cases h
  | case2 => cases h; exact Nat.le_refl _
  | case3 => cases h
  | case4 => cases h
  | case5 => cases h
  | case6 => cases h
  | case7 first state s t hn key u hk value hm v hc state' r' hv ih =>
    have := length_lt_of_nextKey hn
    have := length_lt_of_stringOnto hk
    have := length_lt_of_colon hc
    have := value.shrinks hv
    have := ih h
    omega

/-- An object, after its opening brace. -/
def objectOf (fields : Fields σ α) (s : List UInt8) : Except Fault (α × List UInt8) :=
  match membersFrom fields true fields.start s with
  | .error fault => .error fault
  | .ok (state, r) =>
    match fields.finish state with
    | .error cause => .error (.here cause (afterClosing Byte.closeBrace r))
    | .ok a =>
      match closeObject r with
      | .error fault => .error fault
      | .ok r => .ok (a, r)

theorem length_lt_of_objectOf {fields : Fields σ α} {a : α} {s r : List UInt8}
    (h : objectOf fields s = .ok (a, r)) : r.length < s.length := by
  unfold objectOf at h
  split at h
  · cases h
  · rename_i hm
    have := length_le_of_membersFrom hm
    split at h
    · cases h
    · split at h
      · cases h
      · rename_i hc
        have := length_lt_of_closeObject hc
        cases h
        omega

/-! ## 5.  Any document -/

/-- Every member kept, in the order written. -/
def everyMember (value : Reader Json) : Fields (List (String × Json)) Json where
  start := []
  member done key := .ok (value.map fun v => (key, v) :: done)
  finish done := .ok (.object done.reverse)

/-- Any value, whose items and members `inner` reads; without that, no array and no object. -/
def valueOf (inner : Option (Reader Json)) (s : List UInt8) : Except Fault (Json × List UInt8) :=
  match skipBlank s with
  | [] => .error (.next .endInValue [])
  | b :: r =>
    if b = 0x6E then (literal nullRest r).map (Json.null, ·)
    else if b = 0x74 then (literal trueRest r).map (Json.bool true, ·)
    else if b = 0x66 then (literal falseRest r).map (Json.bool false, ·)
    else if b = Byte.minus then (readNumber true r).map fun (n, r) => (.number n, r)
    else if Byte.isDigit b then (readNumber false (b :: r)).map fun (n, r) => (.number n, r)
    else if b = Byte.quote then (readString r).map fun (t, r) => (.string t, r)
    else if b = Byte.openBracket then
      match inner with
      | none => .error (.next .tooDeep (b :: r))
      | some item => (listOf item r).map fun (items, r) => (.array items, r)
    else if b = Byte.openBrace then
      match inner with
      | none => .error (.next .tooDeep (b :: r))
      | some value => objectOf (everyMember value) r
    else .error (.next .noValue (b :: r))

theorem eq_ok_of_map {ε β γ : Type} {f : β → γ} {x : Except ε β} {c : γ} (h : x.map f = .ok c) :
    ∃ b, x = .ok b ∧ f b = c := by
  cases x with
  | error => cases h
  | ok b => exact ⟨b, rfl, by cases h; rfl⟩

theorem length_lt_of_valueOf {inner : Option (Reader Json)} {s r : List UInt8} {j : Json}
    (h : valueOf inner s = .ok (j, r)) : r.length < s.length := by
  have hs := length_skipBlank_le s
  unfold valueOf at h
  split at h
  · cases h
  · rename_i b t hb
    rw [hb, List.length_cons] at hs
    repeat' split at h
    · obtain ⟨u, hu, hr⟩ := eq_ok_of_map h
      cases hr; have := length_le_of_literal hu; omega
    · obtain ⟨u, hu, hr⟩ := eq_ok_of_map h
      cases hr; have := length_le_of_literal hu; omega
    · obtain ⟨u, hu, hr⟩ := eq_ok_of_map h
      cases hr; have := length_le_of_literal hu; omega
    · obtain ⟨u, hu, hr⟩ := eq_ok_of_map h
      cases hr; have := length_lt_of_readNumber hu; omega
    · obtain ⟨u, hu, hr⟩ := eq_ok_of_map h
      cases hr; have := length_lt_of_readNumber hu; rw [List.length_cons] at this; omega
    · obtain ⟨u, hu, hr⟩ := eq_ok_of_map h
      cases hr; have := length_lt_of_stringOnto hu; omega
    · cases h
    · obtain ⟨u, hu, hr⟩ := eq_ok_of_map h
      cases hr; have := length_lt_of_listOf hu; omega
    · cases h
    · have := length_lt_of_objectOf h; omega
    · cases h

/-- Any value with at most so many arrays and objects inside one another. -/
def document : Nat → Reader Json
  | 0 => ⟨valueOf none, length_lt_of_valueOf⟩
  | depth + 1 => ⟨valueOf (some (document depth)), length_lt_of_valueOf⟩

/-! ## 6.  Whole texts -/

/-- The most arrays and objects that may stand inside one another in a text. -/
def depthLimit : Nat := 127

/-- The value that is all of a text but white space around it. -/
def Reader.whole (reader : Reader α) (text : List UInt8) : Except Fault α :=
  match reader.read text with
  | .error fault => .error fault
  | .ok (a, r) =>
    match skipBlank r with
    | [] => .ok a
    | rest => .error (.next .trailingCharacters rest)

/-- The document that is all of a text. -/
def parse (text : List UInt8) : Except Fault Json :=
  (document depthLimit).whole text

end AgentIntake.Json
