import AgentIntake.Proofs.Json.Extension
import AgentIntake.Proofs.Json.Layout

/-!
# A value has a text of its own

What a reader took off the front of a text is a text by itself: it can be cut out, and the reader
takes it to its end as the same value.  `Exact` says this of a reader and `exact_document` proves it
of documents.  Together with `Reader.Extends` it says that a value does not depend on what stands
around it.

## How parts are put together

A reader that has parts takes one after the other, and the text it took is the texts of the parts in
a row.  Each part is read alone by what is known of it, and so it is read in front of the next one,
because more text behind it changes nothing.  There are two kinds of parts for which that is not
enough, since they end by looking ahead: the parts of a number, and the items and members before a
closing bracket or brace.  For these it is said what may stand behind them (`fractionDigits_exact`,
`itemsOnto_exact`).
-/

namespace AgentIntake.Json

variable {α β σ : Type}

/-- What is taken off the front of a text is taken from it alone, too. -/
def Exact (read : List UInt8 → Except Fault (α × List UInt8)) : Prop :=
  ∀ ⦃s r : List UInt8⦄ ⦃a : α⦄, read s = .ok (a, r) → ∃ t, s = t ++ r ∧ read t = .ok (a, [])

/-! ## 1.  White space and literals -/

/-- Text begins where white space ends, whatever it goes on with. -/
theorem skipBlank_split {s r : List UInt8} {b : UInt8} (h : skipBlank s = b :: r) :
    ∃ blank, s = blank ++ b :: r ∧ ∀ t, skipBlank (blank ++ b :: t) = b :: t := by
  induction s with
  | nil => cases h
  | cons c s ih =>
    by_cases hc : Byte.isBlank c = true
    · have hskip : ∀ t, skipBlank (c :: t) = skipBlank t := fun t => List.dropWhile_cons_of_pos hc
      rw [hskip] at h
      obtain ⟨blank, rfl, hb⟩ := ih h
      exact ⟨c :: blank, rfl, fun t => (hskip _).trans (hb t)⟩
    · have hskip : ∀ t, skipBlank (c :: t) = c :: t := skipBlank_cons (by simpa using hc)
      rw [hskip] at h
      cases h
      exact ⟨[], rfl, hskip⟩

theorem literal_eq_ok_iff {letters s r : List UInt8} :
    literal letters s = .ok r ↔ s = letters ++ r := by
  constructor
  · intro h
    fun_induction literal letters s with
    | case1 s =>
      cases h
      rfl
    | case2 => cases h
    | case3 letters b s ih => rw [ih h, List.cons_append]
    | case4 => cases h
  · rintro rfl
    induction letters with
    | nil => rfl
    | cons x letters ih => rw [List.cons_append, literal, if_pos rfl, ih]

/-! ## 2.  Strings -/

theorem fourDigits_exact : Exact fourDigits := by
  intro s r n h
  unfold fourDigits at h
  split at h
  · rename_i a b c d t
    split at h
    · rename_i ha hb hc hd
      cases h
      refine ⟨[a, b, c, d], rfl, ?_⟩
      rw [fourDigits, ha, hb, hc, hd]
    · cases h
  · cases h

theorem lowSurrogate_exact (high : Nat) : Exact (lowSurrogate high) := by
  intro s r c h
  unfold lowSurrogate at h
  split at h
  · cases h
  · cases h
  · split at h
    · cases h
    · rename_i s low r' hf
      split at h
      · rename_i hlow
        simp only [Except.ok.injEq, Prod.mk.injEq] at h
        obtain ⟨rfl, rfl⟩ := h
        obtain ⟨t, rfl, ht⟩ := fourDigits_exact hf
        refine ⟨Byte.backslash :: Byte.letterU :: t, rfl, ?_⟩
        refine (lowSurrogate.eq_3 high t).trans ?_
        rw [ht]
        dsimp only
        rw [if_pos hlow]
      · cases h
  · cases h
  · cases h

theorem unicodeEscape_exact : Exact unicodeEscape := by
  intro s r c h
  unfold unicodeEscape at h
  split at h
  · cases h
  · rename_i n u hf
    obtain ⟨t, rfl, ht⟩ := fourDigits_exact hf
    split at h
    · cases h
    · rename_i hlone
      split at h
      · rename_i hhigh
        obtain ⟨t', rfl, ht'⟩ := lowSurrogate_exact n h
        refine ⟨t ++ t', (List.append_assoc ..).symm, ?_⟩
        rw [unicodeEscape, fourDigits_append ht t']
        dsimp only
        rw [if_neg hlone, if_pos hhigh]
        exact ht'
      · rename_i hhigh
        cases h
        refine ⟨t, rfl, ?_⟩
        rw [unicodeEscape, ht]
        dsimp only
        rw [if_neg hlone, if_neg hhigh]

theorem unescape_exact : Exact unescape := by
  intro s r c h
  unfold unescape at h
  split at h
  · cases h
  · rename_i b s
    split at h
    · rename_i c' hc
      cases h
      refine ⟨[b], rfl, ?_⟩
      rw [unescape, hc]
    · rename_i hc
      split at h
      · rename_i hb
        obtain ⟨t, rfl, ht⟩ := unicodeEscape_exact h
        refine ⟨b :: t, rfl, ?_⟩
        rw [unescape, hc]
        dsimp only
        rw [if_pos hb]
        exact ht
      · cases h

end Json

/-- A character has bytes of its own. -/
theorem Utf8.next?_exact {s r : List UInt8} {c : Char} (h : next? s = some (c, r)) :
    ∃ t, s = t ++ r ∧ next? t = some (c, []) := by
  cases s with
  | nil => cases h
  | cons a s =>
    unfold next? at h
    dsimp only at h
    by_cases h₁ : a < 0x80
    · rw [if_pos h₁] at h
      obtain ⟨d, hd, hr⟩ := Option.map_eq_some_iff.1 h
      cases hr
      exact ⟨[a], rfl, by simp [next?, h₁, hd]⟩
    rw [if_neg h₁] at h
    by_cases h₂ : a < 0xC0
    · rw [if_pos h₂] at h
      cases h
    rw [if_neg h₂] at h
    by_cases h₃ : a < 0xE0
    · rw [if_pos h₃] at h
      rcases s with _ | ⟨b, s⟩
      · cases h
      · simp only [bind, pure, Option.bind_eq_some_iff, Option.some.injEq, Prod.mk.injEq] at h
        obtain ⟨y, hy, d, hd, rfl, rfl⟩ := h
        exact ⟨[a, b], rfl, by simp [next?, h₁, h₂, h₃, hy, hd]⟩
    rw [if_neg h₃] at h
    by_cases h₄ : a < 0xF0
    · rw [if_pos h₄] at h
      rcases s with _ | ⟨b, _ | ⟨b', s⟩⟩
      · cases h
      · cases h
      · simp only [bind, pure, Option.bind_eq_some_iff, Option.some.injEq, Prod.mk.injEq] at h
        obtain ⟨y, hy, z, hz, d, hd, rfl, rfl⟩ := h
        exact ⟨[a, b, b'], rfl, by simp [next?, h₁, h₂, h₃, h₄, hy, hz, hd]⟩
    rw [if_neg h₄] at h
    by_cases h₅ : a < 0xF8
    · rw [if_pos h₅] at h
      rcases s with _ | ⟨b, _ | ⟨b', _ | ⟨b'', s⟩⟩⟩
      · cases h
      · cases h
      · cases h
      · simp only [bind, pure, Option.bind_eq_some_iff, Option.some.injEq, Prod.mk.injEq] at h
        obtain ⟨y, hy, z, hz, w, hw, d, hd, rfl, rfl⟩ := h
        exact ⟨[a, b, b', b''], rfl, by simp [next?, h₁, h₂, h₃, h₄, h₅, hy, hz, hw, hd]⟩
    · rw [if_neg h₅] at h
      cases h

namespace Json

theorem stringOnto_exact {done : List Char} {s r : List UInt8} {u : String}
    (h : stringOnto done none s = .ok (u, r)) :
    ∃ t, s = t ++ r ∧ stringOnto done none t = .ok (u, []) := by
  generalize hb : (none : Option Nat) = bad at h
  fun_induction stringOnto done bad s with
  | case1 => cases h
  | case2 =>
    cases h
    exact ⟨[Byte.quote], rfl, stringOnto_quote []⟩
  | case3 => cases h
  | case4 => cases h
  | case5 done bad r' c r'' hu hq ih =>
    obtain ⟨t, rfl, ht⟩ := unescape_exact hu
    obtain ⟨t', rfl, ht'⟩ := ih hb h
    refine ⟨Byte.backslash :: (t ++ t'), by simp, ?_⟩
    rw [stringOnto_escape (unescape_append ht t')]
    exact ht'
  | case6 => cases h
  | case7 done bad b r' hq hb' hs c r'' hu ih =>
    obtain ⟨t, he, ht⟩ := Utf8.next?_exact hu
    obtain ⟨t', rfl, ht'⟩ := ih hb h
    cases t with
    | nil => cases ht
    | cons b' t =>
      obtain ⟨rfl, rfl⟩ := List.cons.inj he
      exact ⟨b :: (t ++ t'), by simp,
        (stringOnto_plain hq hb' hs (Utf8.next?_append ht t')).trans ht'⟩
  | case8 done bad b r' =>
    subst hb
    exact absurd h (stringOnto_bad _ _ _ _)

theorem readString_exact : Exact readString :=
  fun _ _ _ h => stringOnto_exact h

/-! ## 3.  Numbers -/

/-- What follows does not begin with a digit. -/
def NoDigit (rest : List UInt8) : Prop :=
  ∀ b ∈ rest.head?, Byte.isDigit b = false

theorem noDigit_nil : NoDigit [] := by
  intro b hb
  cases hb

theorem noDigit_cons {b : UInt8} (h : Byte.isDigit b = false) (rest : List UInt8) :
    NoDigit (b :: rest) := by
  intro c hc
  cases hc
  exact h

/-- The digits at the front of a text are the digits at the front of any other that goes on after
them with something else. -/
theorem span_takeWhile (s : List UInt8) {rest : List UInt8} (hr : NoDigit rest) :
    (s.takeWhile Byte.isDigit ++ rest).takeWhile Byte.isDigit = s.takeWhile Byte.isDigit ∧
      (s.takeWhile Byte.isDigit ++ rest).dropWhile Byte.isDigit = rest := by
  have hd : ∀ b ∈ s.takeWhile Byte.isDigit, Byte.isDigit b = true :=
    fun b hb => List.mem_takeWhile_imp hb
  have hrest : rest.takeWhile Byte.isDigit = [] ∧ rest.dropWhile Byte.isDigit = rest := by
    cases rest with
    | nil => exact ⟨rfl, rfl⟩
    | cons b rest =>
      have hb := hr b rfl
      exact ⟨List.takeWhile_cons_of_neg (by simp [hb]), List.dropWhile_cons_of_neg (by simp [hb])⟩
  rw [List.takeWhile_append_of_pos hd, List.dropWhile_append_of_pos hd, hrest.1, hrest.2,
    List.append_nil]
  exact ⟨rfl, rfl⟩

/-- The digits before the point are digits, and are read before anything else. -/
theorem wholeDigits_exact {s digits r : List UInt8} (h : wholeDigits s = .ok (digits, r)) :
    s = digits ++ r ∧
      ∀ rest, NoDigit rest → wholeDigits (digits ++ rest) = .ok (digits, rest) := by
  unfold wholeDigits at h
  split at h
  · cases h
  · rename_i b s
    split at h
    · rename_i hz
      have hzero : ∀ rest, NoDigit rest → wholeDigits ([b] ++ rest) = .ok ([b], rest) := by
        intro rest hr
        rw [List.singleton_append, wholeDigits.eq_def]
        dsimp only
        rw [if_pos hz]
        cases rest with
        | nil => rfl
        | cons d rest => simp [hr d rfl]
      cases s with
      | nil =>
        cases h
        exact ⟨rfl, hzero⟩
      | cons d s =>
        dsimp only at h
        split at h
        · cases h
        · cases h
          exact ⟨rfl, hzero⟩
    · rename_i hz
      split at h
      · rename_i hb
        cases h
        refine ⟨by rw [List.cons_append, List.takeWhile_append_dropWhile], fun rest hr => ?_⟩
        obtain ⟨ht, hd⟩ := span_takeWhile s hr
        rw [List.cons_append, wholeDigits.eq_def]
        dsimp only
        rw [if_neg hz, if_pos hb, ht, hd]
      · cases h

/-- A fraction is read before the end of a number and before its exponent.  It begins with no
digit. -/
theorem fractionDigits_exact {s digits r : List UInt8} (h : fractionDigits s = .ok (digits, r)) :
    ∃ t, s = t ++ r ∧ ∀ rest, NoDigit rest → rest.head? ≠ some Byte.point →
      fractionDigits (t ++ rest) = .ok (digits, rest) ∧ NoDigit (t ++ rest) := by
  unfold fractionDigits at h
  split at h
  · rename_i s
    cases s with
    | nil => cases h
    | cons d s =>
      dsimp only at h
      split at h
      · rename_i hd
        cases h
        refine ⟨Byte.point :: (d :: s).takeWhile Byte.isDigit, ?_, fun rest hr _ => ⟨?_, ?_⟩⟩
        · rw [List.cons_append, List.takeWhile_append_dropWhile]
          rfl
        · obtain ⟨ht, hr⟩ := span_takeWhile (d :: s) hr
          rw [List.takeWhile_cons_of_pos hd, List.cons_append] at ht hr ⊢
          have hpoint : ∀ t, fractionDigits (Byte.point :: d :: t) =
              if Byte.isDigit d then
                .ok ((d :: t).takeWhile Byte.isDigit, (d :: t).dropWhile Byte.isDigit)
              else .error (.next .badNumber (d :: t)) := fun _ => rfl
          rw [List.cons_append, hpoint, if_pos hd, ht, hr]
        · exact noDigit_cons (by decide) _
      · cases h
  · cases h
    refine ⟨[], rfl, fun rest hr hne => ⟨?_, hr⟩⟩
    rw [List.nil_append]
    unfold fractionDigits
    split
    · exact absurd rfl hne
    · rfl

/-- The digits of an exponent: all of them, or those up to the one that makes it too large. -/
theorem exponentFrom_exact {value : Nat} {s r : List UInt8} {e : Option Nat}
    (h : exponentFrom value s = (e, r)) :
    ∃ t, s = t ++ r ∧ ∀ rest, e = none ∨ NoDigit rest →
      exponentFrom value (t ++ rest) = (e, rest) := by
  fun_induction exponentFrom value s with
  | case1 value =>
    cases h
    refine ⟨[], rfl, fun rest hr => ?_⟩
    cases rest with
    | nil => rfl
    | cons d rest =>
      have hd := hr.resolve_left (by simp) d rfl
      rw [List.nil_append, exponentFrom, if_neg (by simp [hd])]
  | case2 value d s hd hv ih =>
    obtain ⟨t, rfl, ht⟩ := ih h
    refine ⟨d :: t, rfl, fun rest hr => ?_⟩
    rw [List.cons_append, exponentFrom, if_pos hd, if_pos hv]
    exact ht rest hr
  | case3 value d s hd hv =>
    cases h
    refine ⟨[d], rfl, fun rest _ => ?_⟩
    rw [List.singleton_append, exponentFrom, if_pos hd, if_neg hv]
  | case4 value d s hd =>
    cases h
    refine ⟨[], rfl, fun rest hr => ?_⟩
    cases rest with
    | nil => rfl
    | cons d rest =>
      have hd := hr.resolve_left (by simp) d rfl
      rw [List.nil_append, exponentFrom, if_neg (by simp [hd])]

theorem exponentSign_exact {s r : List UInt8} {below : Bool} {d : UInt8}
    (h : exponentSign s = (below, d :: r)) :
    ∃ sign, s = sign ++ d :: r ∧ ∀ t, exponentSign (sign ++ d :: t) = (below, d :: t) := by
  unfold exponentSign at h
  split at h
  · cases h
    exact ⟨[Byte.plus], rfl, fun _ => rfl⟩
  · cases h
    exact ⟨[Byte.minus], rfl, fun _ => rfl⟩
  · rename_i hp hm
    cases h
    refine ⟨[], rfl, fun t => ?_⟩
    rw [List.nil_append]
    unfold exponentSign
    split
    · rename_i he
      exact absurd (congrArg (· :: r) (List.cons.inj he).1) (hp r)
    · rename_i he
      exact absurd (congrArg (· :: r) (List.cons.inj he).1) (hm r)
    · rfl

/-- A number that was made is made before anything else, too. -/
theorem realNumber_rest {negative : Bool} {significand : Nat} {exponent : Int}
    {s r : List UInt8} {n : Number} (h : realNumber negative significand exponent s = .ok (n, r))
    (rest : List UInt8) : realNumber negative significand exponent rest = .ok (n, rest) := by
  unfold realNumber at h ⊢
  split at h
  · cases h
  · cases h
    rfl

theorem wholeNumber_rest {negative : Bool} {m : Mantissa} {s r : List UInt8} {n : Number}
    (h : wholeNumber negative m s = .ok (n, r)) (rest : List UInt8) :
    wholeNumber negative m rest = .ok (n, rest) := by
  unfold wholeNumber at h ⊢
  dsimp only at h ⊢
  split at h
  · rename_i hm
    rw [if_pos hm]
    exact realNumber_rest h rest
  · rename_i hm
    rw [if_neg hm]
    split at h
    · cases h
      rfl
    · exact realNumber_rest h rest

theorem scientific_exact (negative : Bool) (m : Mantissa) : Exact (scientific negative m) := by
  intro s r n h
  unfold scientific at h
  cases hsign : exponentSign s with
  | mk below u =>
    rw [hsign] at h
    cases u with
    | nil => cases h
    | cons d u =>
      obtain ⟨sign, rfl, hbelow⟩ := exponentSign_exact hsign
      dsimp only at h
      split at h
      · rename_i hd
        cases he : exponentFrom (digitValue d) u with
        | mk value rest =>
          rw [he] at h
          obtain ⟨t, rfl, ht⟩ := exponentFrom_exact he
          cases value with
          | some e =>
            dsimp only at h
            obtain rfl := rest_of_realNumber h
            refine ⟨sign ++ d :: t, by simp, ?_⟩
            have ht := ht [] (.inr noDigit_nil)
            rw [List.append_nil] at ht
            rw [scientific, hbelow]
            dsimp only
            rw [if_pos hd, ht]
            exact realNumber_rest h []
          | none =>
            dsimp only at h
            split at h
            · rename_i hm
              obtain rfl := rest_of_realNumber h
              -- the digits that are passed over belong to the number
              refine ⟨sign ++ d :: (t ++ rest.takeWhile Byte.isDigit), ?_, ?_⟩
              · rw [List.append_assoc, List.cons_append, List.append_assoc,
                  List.takeWhile_append_dropWhile]
              · have hs := (span_takeWhile rest noDigit_nil).2
                rw [List.append_nil] at hs
                rw [scientific, hbelow]
                dsimp only
                rw [if_pos hd, ht _ (.inl rfl)]
                dsimp only
                rw [if_pos hm, hs]
                exact realNumber_rest h []
            · cases h
      · cases h

theorem readNumber_exact (negative : Bool) : Exact (readNumber negative) := by
  intro s r n h
  unfold readNumber at h
  split at h
  · cases h
  rename_i digits u hw
  dsimp only at h
  split at h
  · cases h
  rename_i fraction v hf
  obtain ⟨rfl, hdigits⟩ := wholeDigits_exact hw
  obtain ⟨t, rfl, ht⟩ := fractionDigits_exact hf
  -- a number without an exponent ends here
  have hend : ∀ v' : List UInt8,
      (if fraction.isEmpty then
          wholeNumber negative (digits.foldl Mantissa.addWhole ⟨0, 0, false⟩) v'
        else realNumber negative
          (fraction.foldl Mantissa.addFraction
            { digits.foldl Mantissa.addWhole ⟨0, 0, false⟩ with full := false }).significand
          (fraction.foldl Mantissa.addFraction
            { digits.foldl Mantissa.addWhole ⟨0, 0, false⟩ with full := false }).exponent v') =
        .ok (n, r) →
      v' = r ∧ readNumber negative (digits ++ t) = .ok (n, []) := by
    intro v' h
    obtain ⟨htn, hnd⟩ := ht [] noDigit_nil nofun
    rw [List.append_nil] at htn hnd
    unfold readNumber
    rw [hdigits t hnd]
    dsimp only
    rw [htn]
    dsimp only
    split at h
    · rename_i hempty
      rw [if_pos hempty]
      exact ⟨(rest_of_wholeNumber h).symm, wholeNumber_rest h []⟩
    · rename_i hempty
      rw [if_neg hempty]
      exact ⟨(rest_of_realNumber h).symm, realNumber_rest h []⟩
  cases v with
  | nil =>
    obtain ⟨rfl, hn⟩ := hend _ h
    exact ⟨digits ++ t, by simp, hn⟩
  | cons e v =>
    dsimp only at h
    split at h
    · rename_i he
      obtain ⟨x, rfl, hx⟩ := scientific_exact _ _ h
      have hed : Byte.isDigit e = false ∧ e ≠ Byte.point := by
        simp only [Byte.isExponent, Bool.or_eq_true, beq_iff_eq] at he
        rcases he with rfl | rfl <;> decide
      obtain ⟨hte, hnd⟩ := ht (e :: x) (noDigit_cons hed.1 x) fun hp => hed.2 (Option.some.inj hp)
      refine ⟨digits ++ (t ++ e :: x), by simp, ?_⟩
      unfold readNumber
      rw [hdigits _ hnd]
      dsimp only
      rw [hte]
      dsimp only
      rw [if_pos he]
      exact hx
    · obtain ⟨rfl, hn⟩ := hend _ h
      exact ⟨digits ++ t, by simp, hn⟩

/-! ## 4.  Items

The last item ends before the closing bracket, which the loop over items looks at and leaves. -/

/-- An item begins where it begins, whatever it goes on with. -/
theorem nextItem_exact {first : Bool} {s u : List UInt8} (h : nextItem first s = .ok (some u)) :
    ∃ c r, u = c :: r ∧ ∃ before, s = before ++ c :: r ∧
      ∀ t, nextItem first (before ++ c :: t) = .ok (some (c :: t)) := by
  unfold nextItem at h
  split at h
  · cases h
  · rename_i b r hb
    obtain ⟨blank, rfl, hblank⟩ := skipBlank_split hb
    split at h
    · cases h
    · rename_i hclose
      split at h
      · rename_i hfirst
        cases h
        refine ⟨b, r, rfl, blank, rfl, fun t => ?_⟩
        rw [nextItem, hblank]
        dsimp only
        rw [if_neg hclose, if_pos hfirst]
      · rename_i hfirst
        split at h
        · rename_i hcomma
          split at h
          · cases h
          · rename_i c v hc
            obtain ⟨blank', rfl, hblank'⟩ := skipBlank_split hc
            split at h
            · cases h
            · rename_i hc'
              cases h
              refine ⟨c, v, rfl, blank ++ b :: blank', by simp, fun t => ?_⟩
              rw [List.append_assoc, List.cons_append, nextItem, hblank]
              dsimp only
              rw [if_neg hclose, if_neg hfirst, if_pos hcomma, hblank']
              dsimp only
              rw [if_neg hc']
        · cases h

theorem nextItem_eq_none_iff {first : Bool} {s : List UInt8} :
    nextItem first s = .ok none ↔ ∃ r, skipBlank s = Byte.closeBracket :: r := by
  constructor
  · intro h
    unfold nextItem at h
    split at h
    · cases h
    · rename_i b r hb
      split at h
      · rename_i hclose
        exact ⟨r, hclose ▸ hb⟩
      · repeat' split at h
        all_goals cases h
  · rintro ⟨r, hr⟩
    rw [nextItem, hr]
    dsimp only
    rw [if_pos rfl]

/-- White space and punctuation do not continue a number. -/
theorem stops_of_skipBlank {s r : List UInt8} {b : UInt8} (h : skipBlank s = b :: r)
    (hb : Byte.isDigit b = false ∧ b ≠ Byte.point ∧ Byte.isExponent b = false) : Stops s := by
  cases s with
  | nil => exact stops_nil
  | cons c s =>
    by_cases hc : Byte.isBlank c = true
    · exact stops_of_isBlank_head hc s
    · rw [skipBlank_cons (by simpa using hc)] at h
      cases h
      exact stops_cons _ hb

/-- What stands behind an item does not continue a number. -/
theorem stops_of_nextItem {s : List UInt8} {u : Option (List UInt8)}
    (h : nextItem false s = .ok u) : Stops s := by
  unfold nextItem at h
  split at h
  · cases h
  · rename_i b r hb
    refine stops_of_skipBlank hb ?_
    split at h
    · rename_i hclose
      subst hclose
      decide
    · rw [if_neg (by decide)] at h
      split at h
      · rename_i hcomma
        subst hcomma
        decide
      · cases h

theorem stops_of_itemsOnto {item : Reader α} {done : List α} {s : List UInt8}
    {u : List α × List UInt8} (h : itemsOnto item false done s = .ok u) : Stops s := by
  rw [itemsOnto.eq_def] at h
  split at h <;> rename_i hn
  · cases h
  · exact stops_of_nextItem hn
  · exact stops_of_nextItem hn

theorem itemsOnto_exact {item : Reader α} (hexact : Exact item.read) (hitem : item.Extends)
    {first : Bool} {done items : List α} {s r : List UInt8}
    (h : itemsOnto item first done s = .ok (items, r)) :
    ∃ t, s = t ++ r ∧ (∃ r', skipBlank r = Byte.closeBracket :: r') ∧
      ∀ rest, (∃ r', skipBlank rest = Byte.closeBracket :: r') →
        itemsOnto item first done (t ++ rest) = .ok (items, rest) := by
  fun_induction itemsOnto item first done s with
  | case1 => cases h
  | case2 first done s hn =>
    cases h
    exact ⟨[], rfl, nextItem_eq_none_iff.1 hn, fun rest hr =>
      itemsOnto_end (nextItem_eq_none_iff.2 hr)⟩
  | case3 => cases h
  | case4 first done s u hn a r' hi ih =>
    obtain ⟨t', rfl, hclose, ht'⟩ := ih h
    obtain ⟨t, rfl, ht⟩ := hexact hi
    obtain ⟨c, v, hu, before, rfl, hbefore⟩ := nextItem_exact hn
    -- the item has a first byte, and that is all that is looked at to find it
    cases t with
    | nil => exact absurd (item.shrinks ht) (Nat.not_lt_zero _)
    | cons c' t =>
      rw [List.cons_append] at hu
      obtain ⟨rfl, rfl⟩ := List.cons.inj hu
      refine ⟨before ++ c' :: (t ++ t'), by simp, hclose, fun rest hr => ?_⟩
      have hrest := ht' rest hr
      have ha := hitem ht fun _ => stops_of_itemsOnto hrest
      rw [List.nil_append, List.cons_append] at ha
      rw [List.append_assoc, List.cons_append, List.append_assoc,
        itemsOnto_item (hbefore _) ha, hrest]

theorem listOf_exact {item : Reader α} (hexact : Exact item.read) (hitem : item.Extends) :
    Exact (listOf item) := by
  intro s r items h
  unfold listOf at h
  split at h
  · cases h
  · rename_i items' u hi
    split at h
    · cases h
    · rename_i r' hc
      cases h
      obtain ⟨t, rfl, ⟨v, hv⟩, ht⟩ := itemsOnto_exact hexact hitem hi
      obtain ⟨blank, rfl, hblank⟩ := skipBlank_split hv
      have hr : v = r := by
        rw [closeList, hv] at hc
        dsimp only at hc
        rw [if_pos rfl] at hc
        exact Except.ok.inj hc
      subst hr
      refine ⟨t ++ (blank ++ [Byte.closeBracket]), by simp, ?_⟩
      rw [listOf, ht _ ⟨[], hblank []⟩]
      dsimp only
      rw [closeList, hblank]
      rfl

/-! ## 5.  Members -/

/-- A key has its opening quote before it, whatever follows. -/
theorem nextKey_exact {first : Bool} {s u : List UInt8} (h : nextKey first s = .ok (some u)) :
    ∃ before, s = before ++ u ∧ ∀ t, nextKey first (before ++ t) = .ok (some t) := by
  unfold nextKey at h
  split at h
  · cases h
  · rename_i b r hb
    obtain ⟨blank, rfl, hblank⟩ := skipBlank_split hb
    split at h
    · cases h
    · rename_i hclose
      split at h
      · rename_i hfirst
        split at h
        · rename_i hquote
          cases h
          refine ⟨blank ++ [b], by simp, fun t => ?_⟩
          rw [List.append_assoc, List.singleton_append, nextKey, hblank]
          dsimp only
          rw [if_neg hclose, if_pos hfirst, if_pos hquote]
        · cases h
      · rename_i hfirst
        split at h
        · rename_i hcomma
          split at h
          · cases h
          · rename_i c v hc
            obtain ⟨blank', rfl, hblank'⟩ := skipBlank_split hc
            split at h
            · rename_i hquote
              cases h
              refine ⟨blank ++ b :: (blank' ++ [c]), by simp, fun t => ?_⟩
              rw [List.append_assoc, List.cons_append, List.append_assoc, List.singleton_append,
                nextKey, hblank]
              dsimp only
              rw [if_neg hclose, if_neg hfirst, if_pos hcomma, hblank']
              dsimp only
              rw [if_pos hquote]
            · split at h <;> cases h
        · cases h

theorem nextKey_eq_none_iff {first : Bool} {s : List UInt8} :
    nextKey first s = .ok none ↔ ∃ r, skipBlank s = Byte.closeBrace :: r := by
  constructor
  · intro h
    unfold nextKey at h
    split at h
    · cases h
    · rename_i b r hb
      split at h
      · rename_i hclose
        exact ⟨r, hclose ▸ hb⟩
      · repeat' split at h
        all_goals cases h
  · rintro ⟨r, hr⟩
    rw [nextKey, hr]
    dsimp only
    rw [if_pos rfl]

/-- What stands behind a member does not continue a number. -/
theorem stops_of_nextKey {s : List UInt8} {u : Option (List UInt8)}
    (h : nextKey false s = .ok u) : Stops s := by
  unfold nextKey at h
  split at h
  · cases h
  · rename_i b r hb
    refine stops_of_skipBlank hb ?_
    split at h
    · rename_i hclose
      subst hclose
      decide
    · rw [if_neg (by decide)] at h
      split at h
      · rename_i hcomma
        subst hcomma
        decide
      · cases h

theorem stops_of_membersFrom {fields : Fields σ α} {state : σ} {s : List UInt8}
    {u : σ × List UInt8} (h : membersFrom fields false state s = .ok u) : Stops s := by
  rw [membersFrom.eq_def] at h
  split at h <;> rename_i hn
  · cases h
  · exact stops_of_nextKey hn
  · exact stops_of_nextKey hn

theorem colon_exact {s u : List UInt8} (h : colon s = .ok u) :
    ∃ before, s = before ++ u ∧ ∀ t, colon (before ++ t) = .ok t := by
  unfold colon at h
  split at h
  · cases h
  · rename_i b r hb
    obtain ⟨blank, rfl, hblank⟩ := skipBlank_split hb
    split at h
    · rename_i hcolon
      cases h
      refine ⟨blank ++ [b], by simp, fun t => ?_⟩
      rw [List.append_assoc, List.singleton_append, colon, hblank]
      dsimp only
      rw [if_pos hcolon]
    · cases h

/-- The readers of all members are exact. -/
def Fields.Exact (fields : Fields σ α) : Prop :=
  ∀ ⦃state : σ⦄ ⦃key : String⦄ ⦃reader : Reader σ⦄,
    fields.member state key = .ok reader → Json.Exact reader.read

theorem membersFrom_exact {fields : Fields σ α} (hexact : fields.Exact) (hfields : fields.Extends)
    {first : Bool} {state final : σ} {s r : List UInt8}
    (h : membersFrom fields first state s = .ok (final, r)) :
    ∃ t, s = t ++ r ∧ (∃ r', skipBlank r = Byte.closeBrace :: r') ∧
      ∀ rest, (∃ r', skipBlank rest = Byte.closeBrace :: r') →
        membersFrom fields first state (t ++ rest) = .ok (final, rest) := by
  fun_induction membersFrom fields first state s with
  | case1 => cases h
  | case2 first state s hn =>
    cases h
    exact ⟨[], rfl, nextKey_eq_none_iff.1 hn, fun rest hr =>
      membersFrom_end (nextKey_eq_none_iff.2 hr)⟩
  | case3 => cases h
  | case4 => cases h
  | case5 => cases h
  | case6 => cases h
  | case7 first state s u hn key v hk reader hm w hc state' r' hv ih =>
    obtain ⟨others, rfl, hclose, hothers⟩ := ih h
    obtain ⟨value, rfl, hvalue⟩ := hexact hm hv
    obtain ⟨between, rfl, hbetween⟩ := colon_exact hc
    obtain ⟨name, rfl, hname⟩ := readString_exact hk
    obtain ⟨before, rfl, hbefore⟩ := nextKey_exact hn
    refine ⟨before ++ (name ++ (between ++ (value ++ others))), by simp, hclose, fun rest hr => ?_⟩
    have hrest := hothers rest hr
    have hread := hfields hm hvalue fun _ => stops_of_membersFrom hrest
    have hkey := stringOnto_append hname (between ++ (value ++ (others ++ rest)))
    simp only [List.append_assoc]
    rw [membersFrom_member (hbefore _) hkey hm (hbetween _) hread, List.nil_append, hrest]

theorem objectOf_exact {fields : Fields σ α} (hexact : fields.Exact) (hfields : fields.Extends) :
    Exact (objectOf fields) := by
  intro s r a h
  unfold objectOf at h
  split at h
  · cases h
  · rename_i final u hm
    split at h
    · cases h
    · rename_i a' hf
      split at h
      · cases h
      · rename_i r' hc
        cases h
        obtain ⟨t, rfl, ⟨v, hv⟩, ht⟩ := membersFrom_exact hexact hfields hm
        obtain ⟨blank, rfl, hblank⟩ := skipBlank_split hv
        have hr : v = r := by
          rw [closeObject, hv] at hc
          dsimp only at hc
          rw [if_pos rfl] at hc
          exact Except.ok.inj hc
        subst hr
        refine ⟨t ++ (blank ++ [Byte.closeBrace]), by simp, ?_⟩
        rw [objectOf, ht _ ⟨[], hblank []⟩]
        dsimp only
        rw [hf]
        dsimp only
        rw [closeObject, hblank]
        rfl

/-! ## 6.  Documents -/

theorem Exact.map {reader : Reader α} (h : Exact reader.read) (f : α → β) :
    Exact (reader.map f).read := by
  intro s r b hb
  unfold Reader.map Reader.check Reader.checkAt at hb
  dsimp only at hb
  split at hb
  · cases hb
  · rename_i a r' ha
    cases hb
    obtain ⟨t, rfl, ht⟩ := h ha
    refine ⟨t, rfl, ?_⟩
    unfold Reader.map Reader.check Reader.checkAt
    dsimp only
    rw [ht]

theorem exact_everyMember {value : Reader Json} (h : Exact value.read) :
    (everyMember value).Exact := by
  intro state key reader hr
  cases hr
  exact h.map _

/-- A value has a text of its own behind its first byte. -/
theorem ValueAt.exact {inner : Option (Reader Json)}
    (hinner : ∀ reader ∈ inner, Exact reader.read ∧ reader.Extends) {b : UInt8} {s r : List UInt8}
    {j : Json} (h : ValueAt inner b s j r) : ∃ t, s = t ++ r ∧ ValueAt inner b t j [] := by
  cases h with
  | null read =>
    exact ⟨nullRest, literal_eq_ok_iff.1 read, .null (literal_eq_ok_iff.2 rfl)⟩
  | yes read => exact ⟨trueRest, literal_eq_ok_iff.1 read, .yes (literal_eq_ok_iff.2 rfl)⟩
  | no read => exact ⟨falseRest, literal_eq_ok_iff.1 read, .no (literal_eq_ok_iff.2 rfl)⟩
  | negative read =>
    obtain ⟨t, rfl, ht⟩ := readNumber_exact true read
    exact ⟨t, rfl, .negative ht⟩
  | number digit read =>
    obtain ⟨t, he, ht⟩ := readNumber_exact false read
    cases t with
    | nil => exact absurd (length_lt_of_readNumber ht) (Nat.not_lt_zero _)
    | cons c t =>
      obtain ⟨rfl, rfl⟩ := List.cons.inj he
      exact ⟨t, rfl, .number digit ht⟩
  | string read =>
    obtain ⟨t, rfl, ht⟩ := readString_exact read
    exact ⟨t, rfl, .string ht⟩
  | array allowed read =>
    obtain ⟨hexact, hextends⟩ := hinner _ allowed
    obtain ⟨t, rfl, ht⟩ := listOf_exact hexact hextends read
    exact ⟨t, rfl, .array allowed ht⟩
  | object allowed read =>
    obtain ⟨hexact, hextends⟩ := hinner _ allowed
    obtain ⟨t, rfl, ht⟩ :=
      objectOf_exact (exact_everyMember hexact) (extends_everyMember hextends) read
    exact ⟨t, rfl, .object allowed ht⟩

theorem exact_valueOf {inner : Option (Reader Json)}
    (hinner : ∀ reader ∈ inner, Exact reader.read ∧ reader.Extends) : Exact (valueOf inner) := by
  intro s r j h
  obtain ⟨b, u, hb, hv⟩ := valueOf_eq_ok_iff.1 h
  obtain ⟨blank, rfl, hblank⟩ := skipBlank_split hb
  obtain ⟨t, rfl, ht⟩ := hv.exact hinner
  exact ⟨blank ++ b :: t, by simp, valueOf_eq_ok_iff.2 ⟨b, t, hblank t, ht⟩⟩

/-- **A document has a text of its own.** -/
theorem exact_document (depth : Nat) : Exact (document depth).read := by
  induction depth with
  | zero =>
    rw [read_document]
    exact exact_valueOf fun reader hr => by cases hr
  | succ depth ih =>
    rw [read_document]
    refine exact_valueOf fun reader hr => ?_
    cases hr
    exact ⟨ih, extends_document depth⟩

end AgentIntake.Json
