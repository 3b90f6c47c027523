import AgentIntake.Json.Fault
import AgentIntake.Text.Utf8

/-!
# Literals, strings and numbers

The parts of a document that hold no other documents.  Each reader takes its part off the front of
the text and gives back what follows, or says what is wrong and where.

* A string is read character by character.  Bytes that are not UTF-8 are passed over, and the string
  is refused at its closing quote, at the first of them.
* A number is read by its parts.  As many of its digits as fit sixty-four bits make its significand;
  further digits before the point raise the exponent, further digits after it are dropped.  Only a
  number without point, exponent and surplus digits can be whole.
-/

namespace AgentIntake.Json

/-! ## 1.  White space and literals -/

/-- The text after white space. -/
def skipBlank (s : List UInt8) : List UInt8 :=
  s.dropWhile Byte.isBlank

theorem length_skipBlank_le (s : List UInt8) : (skipBlank s).length ≤ s.length :=
  (List.dropWhile_sublist _).length_le

/-- What follows the letters of a literal. -/
def literal : List UInt8 → List UInt8 → Except Fault (List UInt8)
  | [], s => .ok s
  | _ :: _, [] => .error (.here .endInValue [])
  | x :: letters, b :: s => if x = b then literal letters s else .error (.here .noLiteral s)

theorem length_le_of_literal {letters s r : List UInt8} (h : literal letters s = .ok r) :
    r.length ≤ s.length := by
  fun_induction literal letters s with
  | case1 s => cases h; exact Nat.le_refl _
  | case2 => cases h
  | case3 letters b s ih => exact Nat.le_succ_of_le (ih h)
  | case4 => cases h

/-- `ull`, after the first letter of `null`. -/
def nullRest : List UInt8 := [0x75, 0x6C, 0x6C]

/-- `rue`, after the first letter of `true`. -/
def trueRest : List UInt8 := [0x72, 0x75, 0x65]

/-- `alse`, after the first letter of `false`. -/
def falseRest : List UInt8 := [0x61, 0x6C, 0x73, 0x65]

/-! ## 2.  Strings -/

/-- The four digits of a Unicode escape. -/
def fourDigits : List UInt8 → Except Fault (Nat × List UInt8)
  | a :: b :: c :: d :: r =>
    match Hex.value? a, Hex.value? b, Hex.value? c, Hex.value? d with
    | some x, some y, some z, some w => .ok (((x * 16 + y) * 16 + z) * 16 + w, r)
    | _, _, _, _ => .error (.here .badEscape r)
  | _ => .error (.here .endInString [])

theorem length_lt_of_fourDigits {s r : List UInt8} {n : Nat} (h : fourDigits s = .ok (n, r)) :
    r.length < s.length := by
  unfold fourDigits at h
  split at h
  · split at h
    · cases h; simp only [List.length_cons]; omega
    · cases h
  · cases h

/-- The character of a pair of surrogates. -/
def ofSurrogates (high low : Nat) : Char :=
  Char.ofNat ((high - 0xD800) * 0x400 + (low - 0xDC00) + 0x10000)

/-- What follows a high surrogate: an escape with a low one. -/
def lowSurrogate (high : Nat) : List UInt8 → Except Fault (Char × List UInt8)
  | [] => .error (.here .endInString [])
  | Byte.backslash :: [] => .error (.here .endInString [])
  | Byte.backslash :: Byte.letterU :: s =>
    match fourDigits s with
    | .error fault => .error fault
    | .ok (low, r) =>
      if 0xDC00 ≤ low ∧ low ≤ 0xDFFF then
        .ok (ofSurrogates high low, r)
      else .error (.here .loneSurrogate r)
  | Byte.backslash :: _ :: r => .error (.here .endOfEscape r)
  | _ :: r => .error (.here .endOfEscape r)

theorem length_lt_of_lowSurrogate {high : Nat} {s r : List UInt8} {c : Char}
    (h : lowSurrogate high s = .ok (c, r)) : r.length < s.length := by
  unfold lowSurrogate at h
  split at h
  · cases h
  · cases h
  · split at h
    · cases h
    · rename_i hf
      split at h
      · simp only [Except.ok.injEq, Prod.mk.injEq] at h
        have := length_lt_of_fourDigits hf
        simp only [List.length_cons, ← h.2]
        omega
      · cases h
  · cases h
  · cases h

/-- The character of a Unicode escape, after its first two characters. -/
def unicodeEscape (s : List UInt8) : Except Fault (Char × List UInt8) :=
  match fourDigits s with
  | .error fault => .error fault
  | .ok (n, r) =>
    if 0xDC00 ≤ n ∧ n ≤ 0xDFFF then .error (.here .loneSurrogate r)
    else if 0xD800 ≤ n ∧ n ≤ 0xDBFF then lowSurrogate n r
    else .ok (Char.ofNat n, r)

theorem length_lt_of_unicodeEscape {s r : List UInt8} {c : Char}
    (h : unicodeEscape s = .ok (c, r)) : r.length < s.length := by
  unfold unicodeEscape at h
  split at h
  · cases h
  · rename_i hf
    have h₁ := length_lt_of_fourDigits hf
    split at h
    · cases h
    · split at h
      · have := length_lt_of_lowSurrogate h
        omega
      · cases h; exact h₁

/-- The character a letter stands for after a backslash. -/
def shortEscape? (b : UInt8) : Option Char :=
  if b = Byte.quote then some '\x22'
  else if b = Byte.backslash then some '\\'
  else if b = Byte.slash then some '/'
  else if b = 0x62 then some '\x08'
  else if b = 0x66 then some '\x0c'
  else if b = 0x6E then some '\n'
  else if b = 0x72 then some '\r'
  else if b = 0x74 then some '\t'
  else none

/-- The character of an escape, after its backslash. -/
def unescape : List UInt8 → Except Fault (Char × List UInt8)
  | [] => .error (.here .endInString [])
  | b :: r =>
    match shortEscape? b with
    | some c => .ok (c, r)
    | none => if b = Byte.letterU then unicodeEscape r else .error (.here .badEscape r)

theorem length_lt_of_unescape {s r : List UInt8} {c : Char} (h : unescape s = .ok (c, r)) :
    r.length < s.length := by
  unfold unescape at h
  split at h
  · cases h
  · split at h
    · cases h; exact Nat.lt_succ_self _
    · split at h
      · exact Nat.lt_succ_of_lt (length_lt_of_unicodeEscape h)
      · cases h

/-- The rest of a string up to its closing quote, onto the characters read so far, last first.
`bad` is what was unread at the first byte that is not UTF-8. -/
def stringOnto (done : List Char) (bad : Option Nat) (s : List UInt8) :
    Except Fault (String × List UInt8) :=
  match s with
  | [] => .error (.here .endInString [])
  | b :: r =>
    if b = Byte.quote then
      match bad with
      | none => .ok (String.ofList done.reverse, r)
      | some left => .error ⟨.badCodePoint, some left⟩
    else if b = Byte.backslash then
      match _h : unescape r with
      | .error fault => .error fault
      | .ok (c, r') => stringOnto (c :: done) bad r'
    else if b < 0x20 then .error (.here .controlCharacter r)
    else
      match _h : Utf8.next? (b :: r) with
      | some (c, r') => stringOnto (c :: done) bad r'
      | none => stringOnto done (bad.or (some r.length)) r
termination_by s.length
decreasing_by
  · have := length_lt_of_unescape _h
    simp only [List.length_cons]
    omega
  · exact Utf8.length_lt_of_next? _h
  · exact Nat.lt_succ_self _

/-- A string, after its opening quote. -/
def readString (s : List UInt8) : Except Fault (String × List UInt8) :=
  stringOnto [] none s

theorem length_lt_of_stringOnto {done : List Char} {bad : Option Nat} {s r : List UInt8}
    {t : String} (h : stringOnto done bad s = .ok (t, r)) : r.length < s.length := by
  fun_induction stringOnto done bad s with
  | case1 => cases h
  | case2 => cases h; exact Nat.lt_succ_self _
  | case3 => cases h
  | case4 => cases h
  | case5 done bad r' c r'' hu hb ih =>
    have h₁ := length_lt_of_unescape hu
    have h₂ := ih h
    simp only [List.length_cons]
    omega
  | case6 => cases h
  | case7 done bad b r' hb hs hc c r'' hu ih =>
      exact Nat.lt_trans (ih h) (Utf8.length_lt_of_next? hu)
  | case8 done bad b r' hb hs hc hu ih => exact Nat.lt_succ_of_lt (ih h)

/-! ## 3.  Numbers -/

/-- The digits of a number so far: those that fit sixty-four bits as one number, the power of ten it
is to be multiplied by, and whether a digit did not fit, after which the ones that follow are not
tried. -/
structure Mantissa where
  significand : Nat
  exponent : Int
  full : Bool

/-- The value of a digit. -/
def digitValue (b : UInt8) : Nat := b.toNat - 0x30

/-- One more digit before the point. -/
def Mantissa.addWhole (m : Mantissa) (digit : UInt8) : Mantissa :=
  let next := m.significand * 10 + digitValue digit
  if m.full ∨ 0x10000000000000000 ≤ next then { m with exponent := m.exponent + 1, full := true }
  else { m with significand := next }

/-- One more digit after the point. -/
def Mantissa.addFraction (m : Mantissa) (digit : UInt8) : Mantissa :=
  let next := m.significand * 10 + digitValue digit
  if m.full ∨ 0x10000000000000000 ≤ next then { m with full := true }
  else { m with significand := next, exponent := m.exponent - 1 }

/-- The digits before the point.  A zero stands alone. -/
def wholeDigits : List UInt8 → Except Fault (List UInt8 × List UInt8)
  | [] => .error (.here .endInValue [])
  | b :: r =>
    if b = Byte.zero then
      match r with
      | [] => .ok ([b], r)
      | d :: _ => if Byte.isDigit d then .error (.next .badNumber r) else .ok ([b], r)
    else if Byte.isDigit b then .ok (b :: r.takeWhile Byte.isDigit, r.dropWhile Byte.isDigit)
    else .error (.here .badNumber r)

theorem length_lt_of_wholeDigits {s digits r : List UInt8}
    (h : wholeDigits s = .ok (digits, r)) : r.length < s.length := by
  unfold wholeDigits at h
  split at h
  · cases h
  · simp only [List.length_cons]
    repeat' split at h
    all_goals
      first
      | (cases h; done)
      | (cases h; exact Nat.lt_succ_self _)
      | (cases h; exact Nat.lt_succ_of_le (List.dropWhile_sublist _).length_le)

/-- The digits after the point, of which there is at least one; none if there is no point. -/
def fractionDigits : List UInt8 → Except Fault (List UInt8 × List UInt8)
  | Byte.point :: r =>
    match r with
    | [] => .error (.next .endInValue [])
    | d :: _ =>
      if Byte.isDigit d then .ok (r.takeWhile Byte.isDigit, r.dropWhile Byte.isDigit)
      else .error (.next .badNumber r)
  | s => .ok ([], s)

theorem length_le_of_fractionDigits {s digits r : List UInt8}
    (h : fractionDigits s = .ok (digits, r)) : r.length ≤ s.length := by
  unfold fractionDigits at h
  split at h
  · simp only [List.length_cons]
    split at h
    · cases h
    · split at h
      · cases h; exact Nat.le_succ_of_le (List.dropWhile_sublist _).length_le
      · cases h
  · cases h; exact Nat.le_refl _

/-- The largest exponent that is looked at digit by digit. -/
def largestExponent : Nat := 0x7FFFFFFF

/-- The value of the digits of an exponent, or `none` at the first digit that makes it too large. -/
def exponentFrom (value : Nat) : List UInt8 → Option Nat × List UInt8
  | [] => (some value, [])
  | d :: r =>
    if Byte.isDigit d then
      if value * 10 + digitValue d ≤ largestExponent then
        exponentFrom (value * 10 + digitValue d) r
      else (none, r)
    else (some value, d :: r)

theorem length_exponentFrom_le (value : Nat) (s : List UInt8) :
    (exponentFrom value s).2.length ≤ s.length := by
  fun_induction exponentFrom value s with
  | case1 => exact Nat.le_refl _
  | case2 value d r hd hv ih => exact Nat.le_succ_of_le ih
  | case3 => exact Nat.le_succ _
  | case4 => exact Nat.le_refl _

/-- The sign of an exponent, plus if there is none. -/
def exponentSign : List UInt8 → Bool × List UInt8
  | Byte.plus :: r => (false, r)
  | Byte.minus :: r => (true, r)
  | s => (false, s)

theorem length_exponentSign_le (s : List UInt8) : (exponentSign s).2.length ≤ s.length := by
  unfold exponentSign
  split <;> simp

/-- `significand * 10 ^ exponent` with a sign, read up to the rest `r`. -/
def realNumber (negative : Bool) (significand : Nat) (exponent : Int) (r : List UInt8) :
    Except Fault (Number × List UInt8) :=
  match Double.ofDecimal? significand exponent with
  | none => .error (.here .numberTooLarge r)
  | some x => .ok (.real (if negative then x.neg else x), r)

theorem rest_of_realNumber {negative : Bool} {significand : Nat} {exponent : Int}
    {r r' : List UInt8} {n : Number}
    (h : realNumber negative significand exponent r = .ok (n, r')) : r' = r := by
  unfold realNumber at h
  split at h
  · cases h
  · cases h; rfl

/-- A number with an exponent, after the letter that begins it. -/
def scientific (negative : Bool) (m : Mantissa) (s : List UInt8) :
    Except Fault (Number × List UInt8) :=
  let (below, s) := exponentSign s
  match s with
  | [] => .error (.here .endInValue [])
  | d :: r =>
    if Byte.isDigit d then
      match exponentFrom (digitValue d) r with
      | (some e, r) =>
        realNumber negative m.significand (if below then m.exponent - e else m.exponent + e) r
      | (none, r) =>
        if m.significand = 0 ∨ below then
          realNumber negative 0 0 (r.dropWhile Byte.isDigit)
        else .error (.here .numberTooLarge r)
    else .error (.here .badNumber r)

theorem length_le_of_scientific {negative : Bool} {m : Mantissa} {s r : List UInt8} {n : Number}
    (h : scientific negative m s = .ok (n, r)) : r.length ≤ s.length := by
  unfold scientific at h
  have hs := length_exponentSign_le s
  generalize exponentSign s = p at h hs
  obtain ⟨below, t⟩ := p
  simp only at h hs
  split at h
  · cases h
  · rename_i d t
    simp only [List.length_cons] at hs
    split at h
    · have he := length_exponentFrom_le (digitValue d) t
      split at h <;> rename_i ht <;> rw [ht] at he <;> simp only at he
      · rw [rest_of_realNumber h]
        omega
      · rename_i r'
        split at h
        · rw [rest_of_realNumber h]
          have : (r'.dropWhile Byte.isDigit).length ≤ r'.length :=
            (List.dropWhile_sublist _).length_le
          omega
        · cases h
    · cases h

/-- A number by its significand alone, when nothing but digits was read. -/
def wholeNumber (negative : Bool) (m : Mantissa) (r : List UInt8) :
    Except Fault (Number × List UInt8) :=
  let n : Int := if negative then -(m.significand : Int) else m.significand
  if m.full ∨ (negative ∧ m.significand = 0) then realNumber negative m.significand m.exponent r
  else
    match Number.ofInt? n with
    | some n => .ok (n, r)
    | none => realNumber negative m.significand 0 r

theorem rest_of_wholeNumber {negative : Bool} {m : Mantissa} {r r' : List UInt8} {n : Number}
    (h : wholeNumber negative m r = .ok (n, r')) : r' = r := by
  unfold wholeNumber at h
  simp only at h
  split at h
  · exact rest_of_realNumber h
  · split at h
    · cases h; rfl
    · exact rest_of_realNumber h

/-- A number, after its minus sign if it is `negative`. -/
def readNumber (negative : Bool) (s : List UInt8) : Except Fault (Number × List UInt8) :=
  match wholeDigits s with
  | .error fault => .error fault
  | .ok (digits, t) =>
    let m := digits.foldl Mantissa.addWhole ⟨0, 0, false⟩
    match fractionDigits t with
    | .error fault => .error fault
    | .ok (fraction, u) =>
      let n := fraction.foldl Mantissa.addFraction { m with full := false }
      match u with
      | e :: v =>
        if Byte.isExponent e then scientific negative n v
        else if fraction.isEmpty then wholeNumber negative m u
        else realNumber negative n.significand n.exponent u
      | [] =>
        if fraction.isEmpty then wholeNumber negative m []
        else realNumber negative n.significand n.exponent []

theorem length_lt_of_readNumber {negative : Bool} {s r : List UInt8} {n : Number}
    (h : readNumber negative s = .ok (n, r)) : r.length < s.length := by
  unfold readNumber at h
  split at h
  · cases h
  · rename_i hw
    have h₁ := length_lt_of_wholeDigits hw
    simp only at h
    split at h
    · cases h
    · rename_i hf
      have h₂ := length_le_of_fractionDigits hf
      repeat' split at h
      · have := length_le_of_scientific h
        simp only [List.length_cons] at h₂
        omega
      · rw [rest_of_wholeNumber h]; omega
      · rw [rest_of_realNumber h]; omega
      · rw [rest_of_wholeNumber h]; omega
      · rw [rest_of_realNumber h]; omega

end AgentIntake.Json
