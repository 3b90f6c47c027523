import AgentIntake.Json.Reader

/-!
# Passing over a value

The value of a member that nobody asked for is passed over, not read.  Its grammar is still checked,
but not its meaning: strings need not be UTF-8 nor surrogates paired, numbers may be as large as
they like, and arrays and objects may stand inside one another to any depth, because what is open
around the present place is kept in a list and not in the calls of a function.
-/

namespace AgentIntake.Json

/-! ## 1.  Strings and numbers -/

/-- What follows an escape, after its backslash. -/
def skipEscape : List UInt8 → Except Fault (List UInt8)
  | [] => .error (.here .endInString [])
  | b :: r =>
    if (shortEscape? b).isSome then .ok r
    else if b = Byte.letterU then (fourDigits r).map (·.2)
    else .error (.here .badEscape r)

theorem length_lt_of_skipEscape {s r : List UInt8} (h : skipEscape s = .ok r) :
    r.length < s.length := by
  unfold skipEscape at h
  split at h
  · cases h
  · split at h
    · cases h; exact Nat.lt_succ_self _
    · split at h
      · obtain ⟨⟨n, t⟩, ht, rfl⟩ := eq_ok_of_map h
        exact Nat.lt_succ_of_lt (length_lt_of_fourDigits ht)
      · cases h

/-- What follows a string, after its opening quote. -/
def skipString (s : List UInt8) : Except Fault (List UInt8) :=
  match s with
  | [] => .error (.here .endInString [])
  | b :: r =>
    if b = Byte.quote then .ok r
    else if b = Byte.backslash then
      match _h : skipEscape r with
      | .error fault => .error fault
      | .ok r' => skipString r'
    else if b < 0x20 then .error (.here .controlCharacter (b :: r))
    else skipString r
termination_by s.length
decreasing_by
  · have := length_lt_of_skipEscape _h
    simp only [List.length_cons]
    omega
  · exact Nat.lt_succ_self _

theorem length_lt_of_skipString {s r : List UInt8} (h : skipString s = .ok r) :
    r.length < s.length := by
  fun_induction skipString s with
  | case1 => cases h
  | case2 => cases h; exact Nat.lt_succ_self _
  | case3 => cases h
  | case4 t u hu hb ih =>
    have h₁ := length_lt_of_skipEscape hu
    have h₂ := ih h
    simp only [List.length_cons]
    omega
  | case5 => cases h
  | case6 b t hb hs hc ih => exact Nat.lt_succ_of_lt (ih h)

/-- What follows digits. -/
def skipDigits (s : List UInt8) : List UInt8 :=
  s.dropWhile Byte.isDigit

theorem length_skipDigits_le (s : List UInt8) : (skipDigits s).length ≤ s.length :=
  (List.dropWhile_sublist _).length_le

/-- What follows an exponent, after the letter that begins it. -/
def skipExponent (s : List UInt8) : Except Fault (List UInt8) :=
  match (exponentSign s).2 with
  | [] => .error (.here .badNumber [])
  | d :: r => if Byte.isDigit d then .ok (skipDigits r) else .error (.here .badNumber r)

theorem length_le_of_skipExponent {s r : List UInt8} (h : skipExponent s = .ok r) :
    r.length ≤ s.length := by
  have hs := length_exponentSign_le s
  unfold skipExponent at h
  split at h
  · cases h
  · rename_i d t hd
    rw [hd, List.length_cons] at hs
    have := length_skipDigits_le t
    split at h
    · cases h; omega
    · cases h

/-- What follows the digits of a number before its point. -/
def skipWhole : List UInt8 → Except Fault (List UInt8)
  | [] => .error (.here .badNumber [])
  | b :: r =>
    if b = Byte.zero then
      match r with
      | [] => .ok []
      | d :: _ => if Byte.isDigit d then .error (.next .badNumber r) else .ok r
    else if Byte.isDigit b then .ok (skipDigits r)
    else .error (.here .badNumber r)

theorem length_lt_of_skipWhole {s r : List UInt8} (h : skipWhole s = .ok r) :
    r.length < s.length := by
  unfold skipWhole at h
  split at h
  · cases h
  · rename_i b t
    have := length_skipDigits_le t
    simp only [List.length_cons]
    repeat' split at h
    all_goals first | (cases h; done) | (cases h; simp only [List.length_cons]; omega) |
      (cases h; omega)

/-- What follows the exponent of a number, if it has one. -/
def skipScale (s : List UInt8) : Except Fault (List UInt8) :=
  match s with
  | [] => .ok []
  | b :: r => if Byte.isExponent b then skipExponent r else .ok (b :: r)

theorem length_le_of_skipScale {s r : List UInt8} (h : skipScale s = .ok r) :
    r.length ≤ s.length := by
  unfold skipScale at h
  split at h
  · cases h; exact Nat.le_refl _
  · split at h
    · exact Nat.le_succ_of_le (length_le_of_skipExponent h)
    · cases h; exact Nat.le_refl _

/-- What follows a number, after its minus sign if it has one. -/
def skipNumber (s : List UInt8) : Except Fault (List UInt8) :=
  match skipWhole s with
  | .error fault => .error fault
  | .ok [] => .ok []
  | .ok (b :: t) =>
    if b = Byte.point then
      match t with
      | [] => .error (.next .badNumber [])
      | d :: u =>
        if Byte.isDigit d then skipScale (skipDigits u) else .error (.next .badNumber (d :: u))
    else skipScale (b :: t)

theorem length_lt_of_skipNumber {s r : List UInt8} (h : skipNumber s = .ok r) :
    r.length < s.length := by
  unfold skipNumber at h
  split at h
  · cases h
  · rename_i hw
    cases h
    exact length_lt_of_skipWhole hw
  · rename_i hw
    have hw := length_lt_of_skipWhole hw
    rw [List.length_cons] at hw
    split at h
    · split at h
      · cases h
      · rename_i d u _
        rw [List.length_cons] at hw
        split at h
        · have := length_le_of_skipScale h
          have := length_skipDigits_le u
          omega
        · cases h
    · have := length_le_of_skipScale h
      rw [List.length_cons] at this
      omega

/-! ## 2.  Values -/

/-- An array or an object that has begun and not ended. -/
inductive Enclosing where
  | list
  | object

/-- The byte that ends it. -/
def Enclosing.closing : Enclosing → UInt8
  | .list => Byte.closeBracket
  | .object => Byte.closeBrace

/-- What is wrong when the text ends inside. -/
def Enclosing.endInside : Enclosing → Cause
  | .list => .endInList
  | .object => .endInObject

/-- What is wrong when an entry is not followed by a comma. -/
def Enclosing.noComma : Enclosing → Cause
  | .list => .noCommaOrBracket
  | .object => .noCommaOrBrace

/-- What follows a key and its colon. -/
def skipKey (s : List UInt8) : Except Fault (List UInt8) :=
  match skipBlank s with
  | [] => .error (.next .endInObject [])
  | b :: r =>
    if b = Byte.quote then
      match skipString r with
      | .error fault => .error fault
      | .ok r => colon r
    else .error (.next .badKey (b :: r))

theorem length_lt_of_skipKey {s r : List UInt8} (h : skipKey s = .ok r) : r.length < s.length := by
  have hs := length_skipBlank_le s
  unfold skipKey at h
  split at h
  · cases h
  · rename_i hb
    rw [hb, List.length_cons] at hs
    split at h
    · split at h
      · cases h
      · rename_i hk
        have := length_lt_of_skipString hk
        have := length_lt_of_colon h
        omega
    · cases h

/-- Where the value of the next entry begins. -/
def Enclosing.beginEntry : Enclosing → List UInt8 → Except Fault (List UInt8)
  | .list, s => .ok s
  | .object, s => skipKey s

theorem Enclosing.length_le_of_beginEntry {e : Enclosing} {s r : List UInt8}
    (h : e.beginEntry s = .ok r) : r.length ≤ s.length := by
  cases e with
  | list => cases h; exact Nat.le_refl _
  | object => exact Nat.le_of_lt (length_lt_of_skipKey h)

/-- What follows a value that is neither array nor object, after its first byte. -/
def skipScalar (b : UInt8) (r : List UInt8) : Except Fault (List UInt8) :=
  if b = 0x6E then literal nullRest r
  else if b = 0x74 then literal trueRest r
  else if b = 0x66 then literal falseRest r
  else if b = Byte.minus then skipNumber r
  else if Byte.isDigit b then skipNumber (b :: r)
  else if b = Byte.quote then skipString r
  else .error (.next .noValue (b :: r))

theorem length_le_of_skipScalar {b : UInt8} {s r : List UInt8} (h : skipScalar b s = .ok r) :
    r.length ≤ s.length := by
  unfold skipScalar at h
  repeat' split at h
  · exact length_le_of_literal h
  · exact length_le_of_literal h
  · exact length_le_of_literal h
  · exact Nat.le_of_lt (length_lt_of_skipNumber h)
  · exact Nat.le_of_lt_succ (length_lt_of_skipNumber h)
  · exact Nat.le_of_lt (length_lt_of_skipString h)
  · cases h

/-- What is to come next while a value is passed over: a value; the first entry of what was just
opened, or its end; a comma, or the end of what is open. -/
inductive Awaiting where
  | value
  | entry
  | comma

/-- The order of the steps that take no byte: an entry is awaited before its value. -/
def Awaiting.rank : Awaiting → Nat
  | .value => 0
  | .entry => 1
  | .comma => 0

/-- A place inside the value that is passed over: what is to come next, what is open, innermost
first, and the text from here on. -/
structure Skipping where
  awaiting : Awaiting
  enclosing : List Enclosing
  rest : List UInt8

namespace Skipping

/-- The place is at the end of the outermost value. -/
def finished (place : Skipping) : Bool :=
  match place.awaiting with
  | .value => false
  | _ => place.enclosing.isEmpty

/-- The place at which the value of the next entry begins. -/
def enter (e : Enclosing) (outer : List Enclosing) (s : List UInt8) : Except Fault Skipping :=
  (e.beginEntry s).map fun r => ⟨.value, e :: outer, r⟩

/-- The place after the next part of the text. -/
def next (place : Skipping) : Except Fault Skipping :=
  match place with
  | ⟨.value, enclosing, s⟩ =>
    match skipBlank s with
    | [] => .error (.next .endInValue [])
    | b :: r =>
      if b = Byte.openBracket then .ok ⟨.entry, .list :: enclosing, r⟩
      else if b = Byte.openBrace then .ok ⟨.entry, .object :: enclosing, r⟩
      else (skipScalar b r).map fun t => ⟨.comma, enclosing, t⟩
  | ⟨_, [], s⟩ => .ok ⟨.value, [], s⟩
  | ⟨.entry, e :: outer, s⟩ =>
    match skipBlank s with
    | [] => .error (.next e.endInside [])
    | b :: r => if b = e.closing then .ok ⟨.comma, outer, r⟩ else enter e outer (b :: r)
  | ⟨.comma, e :: outer, s⟩ =>
    match skipBlank s with
    | [] => .error (.next e.endInside [])
    | b :: r =>
      if b = Byte.comma then enter e outer r
      else if b = e.closing then .ok ⟨.comma, outer, r⟩
      else .error (.next e.noComma (b :: r))

/-- What is left of the text, and what is left of the steps that take no byte. -/
def measure (place : Skipping) : Nat :=
  2 * place.rest.length + place.awaiting.rank

theorem length_le_of_enter {e : Enclosing} {outer : List Enclosing} {s : List UInt8}
    {place : Skipping} (h : enter e outer s = .ok place) :
    place.awaiting = .value ∧ place.rest.length ≤ s.length := by
  obtain ⟨r, hr, rfl⟩ := eq_ok_of_map h
  exact ⟨rfl, e.length_le_of_beginEntry hr⟩

theorem next_lt {place place' : Skipping} (unfinished : place.finished = false)
    (h : place.next = .ok place') :
    place'.measure < place.measure ∧ place'.rest.length ≤ place.rest.length ∧
      (place.awaiting = .value → place'.rest.length < place.rest.length) := by
  obtain ⟨awaiting, enclosing, s⟩ := place
  have hs := length_skipBlank_le s
  cases awaiting with
  | value =>
    simp only [next] at h
    split at h
    · cases h
    · rename_i b r hb
      rw [hb, List.length_cons] at hs
      split at h
      · cases h; simp only [measure, Awaiting.rank]; omega
      · split at h
        · cases h; simp only [measure, Awaiting.rank]; omega
        · obtain ⟨t, ht, rfl⟩ := eq_ok_of_map h
          have := length_le_of_skipScalar ht
          simp only [measure, Awaiting.rank]; omega
  | entry =>
    cases enclosing with
    | nil => cases unfinished
    | cons e outer =>
      simp only [next] at h
      split at h
      · cases h
      · rename_i b r hb
        rw [hb, List.length_cons] at hs
        split at h
        · cases h
          refine ⟨?_, ?_, nofun⟩ <;> simp only [measure, Awaiting.rank] <;> omega
        · obtain ⟨ha, hr⟩ := length_le_of_enter h
          rw [List.length_cons] at hr
          refine ⟨?_, ?_, nofun⟩ <;> simp only [measure, ha, Awaiting.rank] <;> omega
  | comma =>
    cases enclosing with
    | nil => cases unfinished
    | cons e outer =>
      simp only [next] at h
      split at h
      · cases h
      · rename_i b r hb
        rw [hb, List.length_cons] at hs
        split at h
        · obtain ⟨ha, hr⟩ := length_le_of_enter h
          refine ⟨?_, ?_, nofun⟩ <;> simp only [measure, ha, Awaiting.rank] <;> omega
        · split at h
          · cases h
            refine ⟨?_, ?_, nofun⟩ <;> simp only [measure, Awaiting.rank] <;> omega
          · cases h

/-- What follows the outermost value. -/
def run (place : Skipping) : Except Fault (List UInt8) :=
  if _u : place.finished then .ok place.rest
  else
    match _n : place.next with
    | .error fault => .error fault
    | .ok place' => place'.run
termination_by place.measure
decreasing_by exact (next_lt (by simpa using _u) _n).1

theorem length_le_of_run {place : Skipping} {r : List UInt8} (h : place.run = .ok r) :
    r.length ≤ place.rest.length := by
  fun_induction run place with
  | case1 => cases h; exact Nat.le_refl _
  | case2 => cases h
  | case3 place u place' hn ih =>
    exact Nat.le_trans (ih h) (next_lt (by simpa using u) hn).2.1

end Skipping

/-- What follows a value. -/
def skipValue (s : List UInt8) : Except Fault (List UInt8) :=
  (Skipping.mk .value [] s).run

theorem length_lt_of_skipValue {s r : List UInt8} (h : skipValue s = .ok r) :
    r.length < s.length := by
  unfold skipValue Skipping.run at h
  rw [dif_neg (by simp [Skipping.finished])] at h
  split at h
  · cases h
  · rename_i place hn
    exact Nat.lt_of_le_of_lt (Skipping.length_le_of_run h) ((Skipping.next_lt rfl hn).2.2 rfl)

/-- The reader that passes over a value. -/
def skip : Reader Unit where
  read s := (skipValue s).map fun r => ((), r)
  shrinks h := by
    obtain ⟨t, ht, hr⟩ := eq_ok_of_map h
    cases hr
    exact length_lt_of_skipValue ht

end AgentIntake.Json
