import AgentIntake.Text.Digits
import AgentIntake.Toml.Basic

/-!
# The words of TOML

The parts of a configuration file that hold no other values: gaps, strings, keys, and the words that
are numbers, truth values, dates and times.  A reader takes characters from the front of the text
and gives what follows; a text that is not TOML is refused without a reason.
-/

namespace AgentIntake.Toml

/-! ## 1.  Gaps -/

/-- A control character that no line may hold. -/
def isControl (c : Char) : Bool :=
  (c.toNat < 0x20 && c != '\t') || c.toNat == 0x7F

/-- Space within a line. -/
def isSpace (c : Char) : Bool :=
  c == ' ' || c == '\t'

/-- What follows the space at the front. -/
def skipSpace (s : List Char) : List Char :=
  s.dropWhile isSpace

/-- What follows the newline at the front. -/
def newline? : List Char → Option (List Char)
  | '\n' :: r => some r
  | '\r' :: '\n' :: r => some r
  | _ => none

/-- What follows space and a comment at the front, at most up to the end of the line. -/
def skipComment (s : List Char) : List Char :=
  match skipSpace s with
  | '#' :: r => r.dropWhile fun c => !isControl c
  | r => r

/-- What follows the end of the line, when nothing but space and a comment comes before it. -/
def lineEnd? (s : List Char) : Option (List Char) :=
  match skipComment s with
  | [] => some []
  | r => newline? r

theorem length_dropWhile_le {p : Char → Bool} (s : List Char) :
    (s.dropWhile p).length ≤ s.length :=
  (List.dropWhile_sublist p).length_le

theorem length_lt_of_newline? {s r : List Char} (h : newline? s = some r) :
    r.length < s.length := by
  unfold newline? at h
  split at h
  · cases h; simp
  · cases h; simp only [List.length_cons]; omega
  · cases h

theorem length_skipComment_le (s : List Char) : (skipComment s).length ≤ s.length := by
  unfold skipComment
  have hs : (skipSpace s).length ≤ s.length := length_dropWhile_le s
  split
  · rename_i r h
    rw [h, List.length_cons] at hs
    have := length_dropWhile_le (p := fun c => !isControl c) r
    omega
  · exact hs

/-- What follows space, comments and newlines at the front. -/
def skipGap (s : List Char) : List Char :=
  match _h : newline? (skipComment s) with
  | some r => skipGap r
  | none => skipSpace s
termination_by s.length
decreasing_by
  have := length_lt_of_newline? _h
  have := length_skipComment_le s
  omega

/-! ## 2.  Strings -/

/-- The kinds of strings: the quote, whether a backslash means something, and whether there may be
several lines. -/
structure Quotation where
  quote : Char
  escapes : Bool
  manyLines : Bool

/-- The character of an escape of one letter. -/
def shortEscape? : Char → Option Char
  | 'b' => some '\x08'
  | 't' => some '\t'
  | 'n' => some '\n'
  | 'f' => some '\x0c'
  | 'r' => some '\r'
  | '\x22' => some '\x22'
  | '\\' => some '\\'
  | _ => none

/-- The character whose code point is written with `count` digits at the front. -/
def codePoint? (count : Nat) (s : List Char) : Option (Char × List Char) :=
  match Digits.natural? 16 (s.take count) with
  | none => none
  | some n =>
    if (s.take count).length = count ∧ n.isValidChar then some (Char.ofNat n, s.drop count)
    else none

/-- The character of an escape, after its backslash. -/
def unescape? : List Char → Option (Char × List Char)
  | 'u' :: r => codePoint? 4 r
  | 'U' :: r => codePoint? 8 r
  | e :: r => (shortEscape? e).map fun c => (c, r)
  | [] => none

/-- What follows a backslash at the end of a line: the gap before the next text is left out. -/
def continued? (s : List Char) : Option (List Char) :=
  (newline? (skipSpace s)).map fun r => r.dropWhile fun c => isSpace c || c == '\n' || c == '\r'

/-- What follows an escape, with the character it stands for if it does. -/
def escaped? (q : Quotation) (s : List Char) : Option (Option Char × List Char) :=
  match if q.manyLines then continued? s else none with
  | some r => some (none, r)
  | none => (unescape? s).map fun (c, r) => (some c, r)

/-- The end of a string, at a quote: what belongs to the string still, and what follows.  Up to two
quotes may stand before the closing ones. -/
def closing? (q : Quotation) (s : List Char) : Option (List Char × List Char) :=
  if q.manyLines then
    match s with
    | a :: b :: r =>
      if a = q.quote ∧ b = q.quote then
        let more := (r.takeWhile (· == q.quote)).take 2
        some (more, r.drop more.length)
      else none
    | _ => none
  else some ([], s)

theorem length_le_of_codePoint? {count : Nat} {s r : List Char} {c : Char}
    (h : codePoint? count s = some (c, r)) : r.length ≤ s.length := by
  unfold codePoint? at h
  split at h
  · cases h
  · split at h
    · cases h; simp
    · cases h

theorem length_le_of_unescape? {s r : List Char} {c : Char} (h : unescape? s = some (c, r)) :
    r.length ≤ s.length := by
  unfold unescape? at h
  split at h
  · have := length_le_of_codePoint? h; simp only [List.length_cons]; omega
  · have := length_le_of_codePoint? h; simp only [List.length_cons]; omega
  · obtain ⟨_, _, he⟩ := Option.map_eq_some_iff.1 h
    cases he
    simp
  · cases h

theorem length_le_of_continued? {s r : List Char} (h : continued? s = some r) :
    r.length ≤ s.length := by
  obtain ⟨t, ht, hr⟩ := Option.map_eq_some_iff.1 h
  have h₁ := length_lt_of_newline? ht
  have h₂ : (skipSpace s).length ≤ s.length := length_dropWhile_le s
  have h₃ := length_dropWhile_le (p := fun c => isSpace c || c == '\n' || c == '\r') t
  rw [hr] at h₃
  omega

theorem length_le_of_escaped? {q : Quotation} {s r : List Char} {c : Option Char}
    (h : escaped? q s = some (c, r)) : r.length ≤ s.length := by
  unfold escaped? at h
  split at h
  · rename_i t ht
    cases h
    split at ht
    · exact length_le_of_continued? ht
    · cases ht
  · obtain ⟨⟨d, t⟩, hu, ht⟩ := Option.map_eq_some_iff.1 h
    cases ht
    exact length_le_of_unescape? hu

/-- A string after its opening quotes, onto the characters read so far, which come last first. -/
def stringOnto (q : Quotation) (done : List Char) : List Char → Option (String × List Char)
  | [] => none
  | c :: r =>
    if c = q.quote then
      match closing? q r with
      | some (more, t) => some (String.ofList (done.reverse ++ more), t)
      | none => if q.manyLines then stringOnto q (c :: done) r else none
    else if c = '\\' ∧ q.escapes then
      match _h : escaped? q r with
      | some (x, t) => stringOnto q (x.toList ++ done) t
      | none => none
    else
      match _h : newline? (c :: r) with
      | some t => if q.manyLines then stringOnto q ('\n' :: done) t else none
      | none => if isControl c then none else stringOnto q (c :: done) r
termination_by s => s.length
decreasing_by
  · simp
  · have := length_le_of_escaped? _h; simp only [List.length_cons]; omega
  · exact length_lt_of_newline? _h
  · simp

/-- The string at the front, in one line if `single`. -/
def string? (single : Bool) (s : List Char) : Option (String × List Char) :=
  match s with
  | c :: r =>
    if c = '\x22' ∨ c = '\x27' then
      let quotation := fun many => Quotation.mk c (c = '\x22') many
      match r with
      | a :: b :: t =>
        if a = c ∧ b = c ∧ !single then stringOnto (quotation true) [] ((newline? t).getD t)
        else stringOnto (quotation false) [] r
      | _ => stringOnto (quotation false) [] r
    else none
  | [] => none

/-! ## 3.  Keys -/

/-- A character of a key without quotes. -/
def isBare (c : Char) : Bool :=
  c.isAlphanum || c == '_' || c == '-'

/-- One key at the front. -/
def key? (s : List Char) : Option (String × List Char) :=
  match s with
  | '\x22' :: _ | '\x27' :: _ => string? true s
  | _ =>
    let name := s.takeWhile isBare
    if name = [] then none else some (String.ofList name, s.drop name.length)

/-- Keys with points between at the front, the first and the others; `fuel` bounds their number. -/
def path? : Nat → List Char → Option (List String × List Char)
  | 0, _ => none
  | fuel + 1, s =>
    match key? (skipSpace s) with
    | none => none
    | some (name, r) =>
      match skipSpace r with
      | '.' :: t => (path? fuel t).map fun (names, u) => (name :: names, u)
      | t => some ([name], t)

/-! ## 4.  Words -/

/-- The digits of a number in which single underscores may stand between digits. -/
def ungrouped? (base : Nat) : List Char → Option (List Char)
  | [] => none
  | [d] => if (Digits.value? base d).isSome then some [d] else none
  | d :: '_' :: r =>
    if (Digits.value? base d).isSome then (ungrouped? base r).map (d :: ·) else none
  | d :: r => if (Digits.value? base d).isSome then (ungrouped? base r).map (d :: ·) else none

/-- The natural number that a word is in a base. -/
def natural? (base : Nat) (s : List Char) : Option Nat :=
  (ungrouped? base s).bind (Digits.natural? base)

/-- The natural number that a word is in decimal digits without spare zeros. -/
def decimal? (s : List Char) : Option Nat :=
  match s with
  | '0' :: _ :: _ => none
  | _ => natural? 10 s

/-- A whole number of sixty-four bits. -/
def bounded? (n : Int) : Option Int :=
  if -0x8000000000000000 ≤ n ∧ n < 0x8000000000000000 then some n else none

/-- The whole number that a word is. -/
def integer? (s : List Char) : Option Int :=
  match s with
  | '0' :: 'x' :: r => (natural? 16 r).bind fun n => bounded? n
  | '0' :: 'o' :: r => (natural? 8 r).bind fun n => bounded? n
  | '0' :: 'b' :: r => (natural? 2 r).bind fun n => bounded? n
  | '-' :: r => (decimal? r).bind fun n => bounded? (-n)
  | '+' :: r => (decimal? r).bind fun n => bounded? n
  | _ => (decimal? s).bind fun n => bounded? n

/-- A word without its sign. -/
def unsigned : List Char → List Char
  | '-' :: r | '+' :: r => r
  | s => s

/-- The word is a fraction, after its point, with an exponent or without. -/
def isFraction (s : List Char) : Bool :=
  match s.span fun c => c != 'e' && c != 'E' with
  | (digits, []) => (natural? 10 digits).isSome
  | (digits, _ :: r) => (natural? 10 digits).isSome && (natural? 10 (unsigned r)).isSome

/-- The word is a number that is not whole, an infinity, or not a number. -/
def isReal (s : List Char) : Bool :=
  let s := unsigned s
  s == ['i', 'n', 'f'] || s == ['n', 'a', 'n'] ||
    match s.span fun c => c != '.' && c != 'e' && c != 'E' with
    | (_, []) => false
    | (whole, mark :: r) =>
      (decimal? whole).isSome &&
        if mark = '.' then isFraction r else (natural? 10 (unsigned r)).isSome

/-- The number that exactly `count` digits at the front make. -/
def fixed? (count : Nat) (s : List Char) : Option (Nat × List Char) :=
  if (s.take count).length = count then
    (Digits.natural? 10 (s.take count)).map fun n => (n, s.drop count)
  else none

/-- What follows a given character at the front. -/
def after? (c : Char) : List Char → Option (List Char)
  | [] => none
  | x :: r => if x = c then some r else none

/-- The number of days of a month. -/
def daysIn (year month : Nat) : Nat :=
  if month = 2 then
    if year % 4 = 0 ∧ (year % 100 ≠ 0 ∨ year % 400 = 0) then 29 else 28
  else if month ∈ [4, 6, 9, 11] then 30
  else 31

/-- What follows a date at the front. -/
def date? (s : List Char) : Option (List Char) := do
  let (year, s) ← fixed? 4 s
  let s ← after? '-' s
  let (month, s) ← fixed? 2 s
  let s ← after? '-' s
  let (day, s) ← fixed? 2 s
  if 1 ≤ month ∧ month ≤ 12 ∧ 1 ≤ day ∧ day ≤ daysIn year month then some s else none

/-- What follows a time at the front. -/
def time? (s : List Char) : Option (List Char) := do
  let (hour, s) ← fixed? 2 s
  let s ← after? ':' s
  let (minute, s) ← fixed? 2 s
  let s ← after? ':' s
  let (second, s) ← fixed? 2 s
  if hour < 24 ∧ minute < 60 ∧ second ≤ 60 then
    match s with
    | '.' :: r =>
      let digits := r.takeWhile Char.isDigit
      if digits = [] then none else some (r.drop digits.length)
    | _ => some s
  else none

/-- The rest of a date with a time is the offset from universal time, if anything. -/
def isOffset : List Char → Bool
  | [] | ['Z'] | ['z'] => true
  | '+' :: r | '-' :: r =>
    (do
      let (hour, r) ← fixed? 2 r
      let r ← after? ':' r
      let (minute, r) ← fixed? 2 r
      if hour < 24 ∧ minute < 60 ∧ r = [] then some () else none).isSome
  | _ => false

/-- The word is a date, a time or both. -/
def isMoment (s : List Char) : Bool :=
  time? s == some [] ||
    match date? s with
    | none => false
    | some [] => true
    | some (c :: r) => (c == 'T' || c == 't' || c == ' ') && ((time? r).map isOffset).getD false

/-- A character of a word. -/
def isWord (c : Char) : Bool :=
  isBare c || c == '+' || c == '.' || c == ':'

/-- The word at the front: a date and the time that follows it after a space are one word. -/
def word (s : List Char) : List Char × List Char :=
  let (w, r) := s.span isWord
  match r with
  | ' ' :: t =>
    let (v, u) := t.span isWord
    if date? w == some [] && (time? v).isSome then (w ++ ' ' :: v, u) else (w, r)
  | _ => (w, r)

/-- The value that a word is. -/
def ofWord? (w : List Char) : Option Toml :=
  if w = ['t', 'r', 'u', 'e'] then some (.bool true)
  else if w = ['f', 'a', 'l', 's', 'e'] then some (.bool false)
  else
    match integer? w with
    | some n => some (.integer n)
    | none =>
      if isReal w then some (.real (String.ofList w))
      else if isMoment w then some (.moment (String.ofList w))
      else none

end AgentIntake.Toml
