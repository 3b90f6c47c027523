import AgentIntake.Proofs.Json.Layout

/-!
# More text behind what was read

A reader takes its value off the front of a text and leaves the rest.  When more text follows, it
takes the same value and leaves the longer rest: it never looks past what it took, but for one
byte.  That byte belongs to numbers, which end where their digits end; so when a text was read to
its end, what follows must not continue a number (`Stops`).

`Reader.Extends` says this of a reader, and `extends_document` proves it of documents.  The parts
of documents come first, in the order in which they are defined.  Lists and objects need nothing of
what follows, since they close themselves (`listOf_append`, `objectOf_append`).

## What it is for

A text that is read as a whole is not read as a whole when it is the beginning of a longer one that
is, too: of the longer one something would be left over.  So no beginning of a text that closes
itself can be taken for the text.
-/

namespace AgentIntake

/-- A character that was taken off the front is taken off the front of a longer text. -/
theorem Utf8.next?_append {s r : List UInt8} {c : Char} (h : next? s = some (c, r))
    (t : List UInt8) : next? (s ++ t) = some (c, r ++ t) := by
  cases s with
  | nil => cases h
  | cons a s =>
    rw [List.cons_append]
    unfold next? at h ⊢
    dsimp only at h ⊢
    -- the first byte says how many belong to the character, here and there
    by_cases h₁ : a < 0x80
    · rw [if_pos h₁] at h ⊢
      obtain ⟨d, hd, hr⟩ := Option.map_eq_some_iff.1 h
      cases hr
      rw [hd]
      rfl
    rw [if_neg h₁] at h ⊢
    by_cases h₂ : a < 0xC0
    · rw [if_pos h₂] at h
      cases h
    rw [if_neg h₂] at h ⊢
    by_cases h₃ : a < 0xE0
    · rw [if_pos h₃] at h ⊢
      rcases s with _ | ⟨b, s⟩
      · cases h
      · simp only [bind, pure, Option.bind_eq_some_iff, Option.some.injEq, Prod.mk.injEq] at h
        obtain ⟨y, hy, d, hd, rfl, rfl⟩ := h
        simp [hy, hd]
    rw [if_neg h₃] at h ⊢
    by_cases h₄ : a < 0xF0
    · rw [if_pos h₄] at h ⊢
      rcases s with _ | ⟨b, _ | ⟨b', s⟩⟩
      · cases h
      · cases h
      · simp only [bind, pure, Option.bind_eq_some_iff, Option.some.injEq, Prod.mk.injEq] at h
        obtain ⟨y, hy, z, hz, d, hd, rfl, rfl⟩ := h
        simp [hy, hz, hd]
    rw [if_neg h₄] at h ⊢
    by_cases h₅ : a < 0xF8
    · rw [if_pos h₅] at h ⊢
      rcases s with _ | ⟨b, _ | ⟨b', _ | ⟨b'', s⟩⟩⟩
      · cases h
      · cases h
      · cases h
      · simp only [bind, pure, Option.bind_eq_some_iff, Option.some.injEq, Prod.mk.injEq] at h
        obtain ⟨y, hy, z, hz, w, hw, d, hd, rfl, rfl⟩ := h
        simp [hy, hz, hw, hd]
    · rw [if_neg h₅] at h
      cases h

namespace Json

variable {α β σ : Type}

/-! ## 1.  White space and literals -/

theorem skipBlank_append {s r : List UInt8} {b : UInt8} (h : skipBlank s = b :: r)
    (t : List UInt8) : skipBlank (s ++ t) = b :: (r ++ t) := by
  unfold skipBlank at h ⊢
  rw [List.dropWhile_append, h]
  rfl

theorem literal_append {letters s r : List UInt8} (h : literal letters s = .ok r)
    (t : List UInt8) : literal letters (s ++ t) = .ok (r ++ t) := by
  fun_induction literal letters s with
  | case1 s =>
    cases h
    rfl
  | case2 => cases h
  | case3 letters b s ih =>
    rw [List.cons_append, literal, if_pos rfl]
    exact ih h
  | case4 => cases h

/-! ## 2.  Strings -/

theorem fourDigits_append {s r : List UInt8} {n : Nat} (h : fourDigits s = .ok (n, r))
    (t : List UInt8) : fourDigits (s ++ t) = .ok (n, r ++ t) := by
  unfold fourDigits at h
  split at h
  · split at h
    · rename_i hx hy hz hw
      cases h
      simp only [List.cons_append, fourDigits, hx, hy, hz, hw]
    · cases h
  · cases h

theorem lowSurrogate_append {high : Nat} {s r : List UInt8} {c : Char}
    (h : lowSurrogate high s = .ok (c, r)) (t : List UInt8) :
    lowSurrogate high (s ++ t) = .ok (c, r ++ t) := by
  unfold lowSurrogate at h
  split at h
  · cases h
  · cases h
  · split at h
    · cases h
    · rename_i low rest hf
      split at h
      · rename_i hl
        simp only [Except.ok.injEq, Prod.mk.injEq] at h
        obtain ⟨rfl, rfl⟩ := h
        simp only [List.cons_append, lowSurrogate, fourDigits_append hf, if_pos hl]
      · cases h
  · cases h
  · cases h

theorem unicodeEscape_append {s r : List UInt8} {c : Char} (h : unicodeEscape s = .ok (c, r))
    (t : List UInt8) : unicodeEscape (s ++ t) = .ok (c, r ++ t) := by
  unfold unicodeEscape at h ⊢
  split at h
  · cases h
  · rename_i n rest hf
    rw [fourDigits_append hf]
    dsimp only
    split at h
    · cases h
    · rename_i hn
      rw [if_neg hn]
      split at h
      · rename_i hs
        rw [if_pos hs]
        exact lowSurrogate_append h t
      · rename_i hs
        rw [if_neg hs]
        cases h
        rfl

theorem unescape_append {s r : List UInt8} {c : Char} (h : unescape s = .ok (c, r))
    (t : List UInt8) : unescape (s ++ t) = .ok (c, r ++ t) := by
  unfold unescape at h
  split at h
  · cases h
  · rename_i b rest
    rw [List.cons_append, unescape]
    split at h
    · cases h
      rfl
    · split at h
      · rename_i hu
        rw [if_pos hu]
        exact unicodeEscape_append h t
      · cases h

/-- A string in which a byte was not UTF-8 is refused in the end. -/
theorem stringOnto_bad (done : List Char) (left : Nat) (s : List UInt8) (u : String × List UInt8) :
    stringOnto done (some left) s ≠ .ok u := by
  generalize hb : some left = bad
  fun_induction stringOnto done bad s generalizing left with
  | case1 | case3 | case4 | case6 =>
    intro h
    cases h
  | case2 => cases hb
  | case5 _ _ _ _ _ _ _ ih => exact ih left hb
  | case7 _ _ _ _ _ _ _ _ _ _ ih => exact ih left hb
  | case8 done bad b r _ _ _ _ ih =>
    subst hb
    exact ih left rfl

theorem stringOnto_append {done : List Char} {s r : List UInt8} {u : String}
    (h : stringOnto done none s = .ok (u, r)) (t : List UInt8) :
    stringOnto done none (s ++ t) = .ok (u, r ++ t) := by
  generalize hb : (none : Option Nat) = bad at h
  fun_induction stringOnto done bad s with
  | case1 => cases h
  | case2 =>
    cases h
    rw [List.cons_append, stringOnto_quote]
  | case3 => cases h
  | case4 => cases h
  | case5 done bad r' c r'' hu hq ih =>
    rw [List.cons_append, stringOnto_escape (unescape_append hu t)]
    exact ih hb h
  | case6 => cases h
  | case7 done bad b r' hq hb' hs c r'' hu ih =>
    have hn := Utf8.next?_append hu t
    rw [List.cons_append] at hn ⊢
    rw [stringOnto_plain hq hb' hs hn]
    exact ih hb h
  | case8 done bad b r' =>
    subst hb
    exact absurd h (stringOnto_bad _ _ _ _)

/-! ## 3.  Numbers -/

/-- The digits at the front of a text are the same digits when more follows. -/
theorem span_append {s t : List UInt8} (hs : s.dropWhile Byte.isDigit = [] → Stops t) :
    (s ++ t).takeWhile Byte.isDigit = s.takeWhile Byte.isDigit ∧
      (s ++ t).dropWhile Byte.isDigit = s.dropWhile Byte.isDigit ++ t := by
  cases hd : s.dropWhile Byte.isDigit with
  | nil =>
    have hall := List.dropWhile_eq_nil_iff.1 hd
    obtain ⟨ht, hr⟩ := span_renderNat hall (hs hd)
    rw [ht, hr, List.takeWhile_eq_self_iff.2 hall]
    exact ⟨rfl, rfl⟩
  | cons b r =>
    have hne : (s.takeWhile Byte.isDigit).length ≠ s.length := by
      intro he
      have hl := congrArg List.length (List.takeWhile_append_dropWhile (p := Byte.isDigit) (l := s))
      rw [List.length_append, hd, List.length_cons] at hl
      omega
    rw [List.takeWhile_append, if_neg hne, List.dropWhile_append, hd]
    exact ⟨rfl, rfl⟩

theorem wholeDigits_append {s digits r t : List UInt8} (h : wholeDigits s = .ok (digits, r))
    (hs : r = [] → Stops t) : wholeDigits (s ++ t) = .ok (digits, r ++ t) := by
  unfold wholeDigits at h
  split at h
  · cases h
  · rename_i b s
    rw [List.cons_append, wholeDigits.eq_def]
    dsimp only
    split at h
    · rename_i hz
      rw [if_pos hz]
      cases s with
      | nil =>
        cases h
        cases t with
        | nil => rfl
        | cons d t =>
          have hd := (hs rfl d rfl).1
          simp only [List.nil_append, hd]
          rfl
      | cons d s =>
        dsimp only at h
        split at h
        · cases h
        · rename_i hd
          cases h
          simp only [List.cons_append, if_neg hd]
    · rename_i hz
      rw [if_neg hz]
      split at h
      · rename_i hb
        cases h
        obtain ⟨ht, hr⟩ := span_append hs
        rw [if_pos hb, ht, hr]
      · cases h

theorem fractionDigits_append {s digits r t : List UInt8} (h : fractionDigits s = .ok (digits, r))
    (hs : r = [] → Stops t) : fractionDigits (s ++ t) = .ok (digits, r ++ t) := by
  unfold fractionDigits at h
  split at h
  · rename_i s
    cases s with
    | nil => cases h
    | cons d s =>
      dsimp only at h
      split at h
      · rename_i hd
        cases h
        obtain ⟨ht, hr⟩ := span_append hs
        simp only [List.cons_append, fractionDigits] at ht hr ⊢
        rw [if_pos hd, ht, hr]
      · cases h
  · rename_i hp
    cases h
    cases s with
    | nil => exact fractionDigits_of_stops (hs rfl)
    | cons b s =>
      have hb : b ≠ Byte.point := fun he => hp s (he ▸ rfl)
      unfold fractionDigits
      split
      · rename_i he
        exact absurd (List.cons.inj he).1 hb
      · rfl

theorem exponentFrom_append {value : Nat} {s r t : List UInt8} {e : Option Nat}
    (h : exponentFrom value s = (e, r)) (hs : r = [] → Stops t) :
    exponentFrom value (s ++ t) = (e, r ++ t) := by
  fun_induction exponentFrom value s with
  | case1 value =>
    cases h
    cases t with
    | nil => rfl
    | cons d t =>
      have hd := (hs rfl d rfl).1
      rw [List.nil_append, exponentFrom, if_neg (by simp [hd])]
  | case2 value d s hd hv ih =>
    rw [List.cons_append, exponentFrom, if_pos hd, if_pos hv]
    exact ih h
  | case3 value d s hd hv =>
    cases h
    rw [List.cons_append, exponentFrom, if_pos hd, if_neg hv]
  | case4 value d s hd =>
    cases h
    rw [List.cons_append, exponentFrom, if_neg hd]

theorem exponentSign_append {s r : List UInt8} {below : Bool} {d : UInt8}
    (h : exponentSign s = (below, d :: r)) (t : List UInt8) :
    exponentSign (s ++ t) = (below, d :: (r ++ t)) := by
  unfold exponentSign at h
  split at h
  · cases h
    rfl
  · cases h
    rfl
  · rename_i hp hm
    cases h
    unfold exponentSign
    split
    · rename_i he
      exact absurd (congrArg (· :: r) (List.cons.inj he).1) (hp r)
    · rename_i he
      exact absurd (congrArg (· :: r) (List.cons.inj he).1) (hm r)
    · rfl

theorem realNumber_append {negative : Bool} {significand : Nat} {exponent : Int}
    {s r : List UInt8} {n : Number}
    (h : realNumber negative significand exponent s = .ok (n, r)) (t : List UInt8) :
    realNumber negative significand exponent (s ++ t) = .ok (n, r ++ t) := by
  unfold realNumber at h ⊢
  split at h
  · cases h
  · cases h
    rfl

theorem wholeNumber_append {negative : Bool} {m : Mantissa} {s r : List UInt8} {n : Number}
    (h : wholeNumber negative m s = .ok (n, r)) (t : List UInt8) :
    wholeNumber negative m (s ++ t) = .ok (n, r ++ t) := by
  unfold wholeNumber at h ⊢
  dsimp only at h ⊢
  split at h
  · rename_i hm
    rw [if_pos hm]
    exact realNumber_append h t
  · rename_i hm
    rw [if_neg hm]
    split at h
    · cases h
      rfl
    · exact realNumber_append h t

theorem scientific_append {negative : Bool} {m : Mantissa} {s r t : List UInt8} {n : Number}
    (h : scientific negative m s = .ok (n, r)) (hs : r = [] → Stops t) :
    scientific negative m (s ++ t) = .ok (n, r ++ t) := by
  unfold scientific at h ⊢
  cases hsign : exponentSign s with
  | mk below u =>
    rw [hsign] at h
    cases u with
    | nil => cases h
    | cons d u =>
      rw [exponentSign_append hsign]
      dsimp only at h ⊢
      split at h
      · rename_i hd
        rw [if_pos hd]
        cases he : exponentFrom (digitValue d) u with
        | mk value rest =>
          rw [he] at h
          cases value with
          | some e =>
            dsimp only at h
            have hr := rest_of_realNumber h
            subst hr
            rw [exponentFrom_append he hs]
            exact realNumber_append h t
          | none =>
            dsimp only at h
            split at h
            · rename_i hm
              have hr := rest_of_realNumber h
              -- the digits that are passed over may go on to the end
              rw [exponentFrom_append he fun hn => hs (by rw [hr, hn]; rfl)]
              dsimp only
              rw [if_pos hm, (span_append (hr ▸ hs)).2]
              exact realNumber_append h t
            · cases h
      · cases h

/-- A number without an exponent is whole, or it has a fraction. -/
theorem unscaled_append {negative : Bool} {p : Prop} [Decidable p] {m : Mantissa}
    {significand : Nat} {exponent : Int} {s r : List UInt8} {n : Number}
    (h : (if p then wholeNumber negative m s else realNumber negative significand exponent s) =
      .ok (n, r)) (t : List UInt8) :
    (if p then wholeNumber negative m (s ++ t)
      else realNumber negative significand exponent (s ++ t)) = .ok (n, r ++ t) := by
  by_cases hp : p
  · rw [if_pos hp] at h ⊢
    exact wholeNumber_append h t
  · rw [if_neg hp] at h ⊢
    exact realNumber_append h t

theorem readNumber_append {negative : Bool} {s r t : List UInt8} {n : Number}
    (h : readNumber negative s = .ok (n, r)) (hs : r = [] → Stops t) :
    readNumber negative (s ++ t) = .ok (n, r ++ t) := by
  unfold readNumber at h
  split at h
  · cases h
  rename_i digits u hw
  dsimp only at h
  split at h
  · cases h
  rename_i fraction v hf
  -- where a part ends with the text the number does
  have hv : v = [] → Stops t := by
    rintro rfl
    refine hs ?_
    dsimp only at h
    split at h
    · exact rest_of_wholeNumber h
    · exact rest_of_realNumber h
  have hu : u = [] → Stops t := by
    rintro rfl
    exact hv (List.length_eq_zero_iff.1 (Nat.le_zero.1 (length_le_of_fractionDigits hf)))
  unfold readNumber
  rw [wholeDigits_append hw hu]
  dsimp only
  rw [fractionDigits_append hf hv]
  dsimp only
  cases v with
  | cons e v =>
    dsimp only [List.cons_append] at h ⊢
    split at h
    · rename_i he
      rw [if_pos he]
      exact scientific_append h hs
    · rename_i he
      rw [if_neg he]
      exact unscaled_append h t
  | nil =>
    dsimp only at h
    have hend := unscaled_append h t
    cases t with
    | nil => exact hend
    | cons b t =>
      -- what follows does not begin an exponent
      dsimp only [List.nil_append] at hend ⊢
      rw [if_neg (by simp [(hv rfl b rfl).2.2])]
      exact hend

/-! ## 4.  Readers -/

/-- What was read is read again when more follows that does not continue it: anything after a rest,
and after a text read to its end nothing that continues a number. -/
def Reader.Extends (reader : Reader α) : Prop :=
  ∀ ⦃s r t : List UInt8⦄ ⦃a : α⦄, reader.read s = .ok (a, r) → (r = [] → Stops t) →
    reader.read (s ++ t) = .ok (a, r ++ t)

theorem Reader.Extends.checkAt {reader : Reader α} (h : reader.Extends)
    (place : Cause → List UInt8 → Fault) (f : α → Except Cause β) :
    (reader.checkAt place f).Extends := by
  intro s r t b hb hs
  unfold Reader.checkAt at hb ⊢
  dsimp only at hb ⊢
  split at hb
  · cases hb
  · rename_i a u ha
    split at hb
    · cases hb
    · rename_i c hc
      cases hb
      rw [h ha hs]
      dsimp only
      rw [hc]

theorem Reader.Extends.check {reader : Reader α} (h : reader.Extends) (f : α → Except Cause β) :
    (reader.check f).Extends :=
  h.checkAt _ f

theorem Reader.Extends.map {reader : Reader α} (h : reader.Extends) (f : α → β) :
    (reader.map f).Extends :=
  h.check _

theorem Reader.Extends.interpret {reader : Reader α} (h : reader.Extends)
    (f : α → Except Cause β) : (reader.interpret f).Extends :=
  h.checkAt _ f

/-! ## 5.  Lists -/

theorem nextItem_append {first : Bool} {s r : List UInt8} (h : nextItem first s = .ok (some r))
    (t : List UInt8) : nextItem first (s ++ t) = .ok (some (r ++ t)) := by
  unfold nextItem at h ⊢
  split at h
  · cases h
  · rename_i b u hb
    rw [skipBlank_append hb]
    dsimp only
    split at h
    · cases h
    · rename_i hclose
      rw [if_neg hclose]
      split at h
      · rename_i hfirst
        rw [if_pos hfirst]
        cases h
        rfl
      · rename_i hfirst
        rw [if_neg hfirst]
        split at h
        · rename_i hcomma
          rw [if_pos hcomma]
          split at h
          · cases h
          · rename_i c v hc
            rw [skipBlank_append hc]
            dsimp only
            split at h
            · cases h
            · rename_i hlast
              rw [if_neg hlast]
              cases h
              rfl
        · cases h

theorem nextItem_append_none {first : Bool} {s : List UInt8} (h : nextItem first s = .ok none)
    (t : List UInt8) : nextItem first (s ++ t) = .ok none := by
  unfold nextItem at h ⊢
  split at h
  · cases h
  · rename_i b u hb
    rw [skipBlank_append hb]
    dsimp only
    split at h
    · rename_i hclose
      rw [if_pos hclose]
    · split at h
      · cases h
      · split at h
        · split at h
          · cases h
          · split at h <;> cases h
        · cases h

/-- Where a list goes on there is text. -/
theorem ne_nil_of_itemsOnto {item : Reader α} {first : Bool} {done : List α} {s : List UInt8}
    {u : List α × List UInt8} (h : itemsOnto item first done s = .ok u) : s ≠ [] := by
  rintro rfl
  rw [itemsOnto.eq_def] at h
  split at h
  · cases h
  · rename_i hn
    cases hn
  · rename_i hn
    cases hn

theorem itemsOnto_append {item : Reader α} (hitem : item.Extends) {first : Bool}
    {done items : List α} {s r : List UInt8} (h : itemsOnto item first done s = .ok (items, r))
    (t : List UInt8) : itemsOnto item first done (s ++ t) = .ok (items, r ++ t) := by
  fun_induction itemsOnto item first done s with
  | case1 => cases h
  | case2 first done s hn =>
    cases h
    exact itemsOnto_end (nextItem_append_none hn t)
  | case3 => cases h
  | case4 first done s u hn a r' hi ih =>
    rw [itemsOnto_item (nextItem_append hn t)
      (hitem hi fun hr => absurd hr (ne_nil_of_itemsOnto h))]
    exact ih h

theorem closeList_append {s r : List UInt8} (h : closeList s = .ok r) (t : List UInt8) :
    closeList (s ++ t) = .ok (r ++ t) := by
  unfold closeList at h ⊢
  split at h
  · cases h
  · rename_i b u hb
    rw [skipBlank_append hb]
    dsimp only
    split at h
    · rename_i hclose
      rw [if_pos hclose]
      cases h
      rfl
    · split at h
      · split at h
        · split at h <;> cases h
        · cases h
      · cases h

theorem listOf_append {item : Reader α} (hitem : item.Extends) {items : List α}
    {s r : List UInt8} (h : listOf item s = .ok (items, r)) (t : List UInt8) :
    listOf item (s ++ t) = .ok (items, r ++ t) := by
  unfold listOf at h ⊢
  split at h
  · cases h
  · rename_i hi
    split at h
    · cases h
    · rename_i hc
      cases h
      rw [itemsOnto_append hitem hi]
      dsimp only
      rw [closeList_append hc]

/-! ## 6.  Objects -/

theorem nextKey_append {first : Bool} {s r : List UInt8} (h : nextKey first s = .ok (some r))
    (t : List UInt8) : nextKey first (s ++ t) = .ok (some (r ++ t)) := by
  unfold nextKey at h ⊢
  split at h
  · cases h
  · rename_i b u hb
    rw [skipBlank_append hb]
    dsimp only
    split at h
    · cases h
    · rename_i hclose
      rw [if_neg hclose]
      split at h
      · rename_i hfirst
        rw [if_pos hfirst]
        split at h
        · rename_i hquote
          rw [if_pos hquote]
          cases h
          rfl
        · cases h
      · rename_i hfirst
        rw [if_neg hfirst]
        split at h
        · rename_i hcomma
          rw [if_pos hcomma]
          split at h
          · cases h
          · rename_i c v hc
            rw [skipBlank_append hc]
            dsimp only
            split at h
            · rename_i hquote
              rw [if_pos hquote]
              cases h
              rfl
            · split at h <;> cases h
        · cases h

theorem nextKey_append_none {first : Bool} {s : List UInt8} (h : nextKey first s = .ok none)
    (t : List UInt8) : nextKey first (s ++ t) = .ok none := by
  unfold nextKey at h ⊢
  split at h
  · cases h
  · rename_i b u hb
    rw [skipBlank_append hb]
    dsimp only
    split at h
    · rename_i hclose
      rw [if_pos hclose]
    · split at h
      · split at h <;> cases h
      · split at h
        · split at h
          · cases h
          · split at h
            · cases h
            · split at h <;> cases h
        · cases h

theorem colon_append {s r : List UInt8} (h : colon s = .ok r) (t : List UInt8) :
    colon (s ++ t) = .ok (r ++ t) := by
  unfold colon at h ⊢
  split at h
  · cases h
  · rename_i b u hb
    rw [skipBlank_append hb]
    dsimp only
    split at h
    · rename_i hcolon
      rw [if_pos hcolon]
      cases h
      rfl
    · cases h

/-- Where an object goes on there is text. -/
theorem ne_nil_of_membersFrom {fields : Fields σ α} {first : Bool} {state : σ} {s : List UInt8}
    {u : σ × List UInt8} (h : membersFrom fields first state s = .ok u) : s ≠ [] := by
  rintro rfl
  rw [membersFrom.eq_def] at h
  split at h
  · cases h
  · rename_i hn
    cases hn
  · rename_i hn
    cases hn

/-- The readers of all members extend. -/
def Fields.Extends (fields : Fields σ α) : Prop :=
  ∀ ⦃state : σ⦄ ⦃key : String⦄ ⦃reader : Reader σ⦄,
    fields.member state key = .ok reader → reader.Extends

theorem membersFrom_append {fields : Fields σ α} (hfields : fields.Extends) {first : Bool}
    {state final : σ} {s r : List UInt8} (h : membersFrom fields first state s = .ok (final, r))
    (t : List UInt8) : membersFrom fields first state (s ++ t) = .ok (final, r ++ t) := by
  fun_induction membersFrom fields first state s with
  | case1 => cases h
  | case2 first state s hn =>
    cases h
    exact membersFrom_end (nextKey_append_none hn t)
  | case3 => cases h
  | case4 => cases h
  | case5 => cases h
  | case6 => cases h
  | case7 first state s u hn key v hk value hm w hc state' r' hv ih =>
    rw [membersFrom_member (nextKey_append hn t) (stringOnto_append hk t) hm (colon_append hc t)
      (hfields hm hv fun hr => absurd hr (ne_nil_of_membersFrom h))]
    exact ih h

theorem closeObject_append {s r : List UInt8} (h : closeObject s = .ok r) (t : List UInt8) :
    closeObject (s ++ t) = .ok (r ++ t) := by
  unfold closeObject at h ⊢
  split at h
  · cases h
  · rename_i b u hb
    rw [skipBlank_append hb]
    dsimp only
    split at h
    · rename_i hclose
      rw [if_pos hclose]
      cases h
      rfl
    · split at h <;> cases h

/-- **An object closes itself**: whatever follows it, it is read as the same. -/
theorem objectOf_append {fields : Fields σ α} (hfields : fields.Extends) {a : α}
    {s r : List UInt8} (h : objectOf fields s = .ok (a, r)) (t : List UInt8) :
    objectOf fields (s ++ t) = .ok (a, r ++ t) := by
  unfold objectOf at h ⊢
  split at h
  · cases h
  · rename_i hm
    split at h
    · cases h
    · rename_i hf
      split at h
      · cases h
      · rename_i hc
        cases h
        rw [membersFrom_append hfields hm]
        dsimp only
        rw [hf]
        dsimp only
        rw [closeObject_append hc]

/-! ## 7.  Documents and strings -/

theorem extends_everyMember {value : Reader Json} (h : value.Extends) :
    (everyMember value).Extends := by
  intro state key reader hr
  cases hr
  exact h.map _

/-- A value stands where it stood when its text goes on, if the values inside it extend. -/
theorem ValueAt.append {inner : Option (Reader Json)} (hinner : ∀ reader ∈ inner, reader.Extends)
    {b : UInt8} {s r t : List UInt8} {j : Json} (h : ValueAt inner b s j r)
    (hs : r = [] → Stops t) : ValueAt inner b (s ++ t) j (r ++ t) := by
  cases h with
  | null read => exact .null (literal_append read t)
  | yes read => exact .yes (literal_append read t)
  | no read => exact .no (literal_append read t)
  | negative read => exact .negative (readNumber_append read hs)
  | number digit read => exact .number digit (readNumber_append read hs)
  | string read => exact .string (stringOnto_append read t)
  | array allowed read => exact .array allowed (listOf_append (hinner _ allowed) read t)
  | object allowed read =>
    exact .object allowed (objectOf_append (extends_everyMember (hinner _ allowed)) read t)

/-- A value, if the values inside it extend. -/
theorem valueOf_append {inner : Option (Reader Json)} (hinner : ∀ reader ∈ inner, reader.Extends)
    {s r t : List UInt8} {j : Json} (h : valueOf inner s = .ok (j, r)) (hs : r = [] → Stops t) :
    valueOf inner (s ++ t) = .ok (j, r ++ t) := by
  obtain ⟨b, u, hb, hv⟩ := valueOf_eq_ok_iff.1 h
  exact valueOf_eq_ok_iff.2 ⟨b, u ++ t, skipBlank_append hb t, hv.append hinner hs⟩

/-- **Documents extend.**  Each level needs it of the level inside it. -/
theorem extends_document (depth : Nat) : (document depth).Extends := by
  induction depth with
  | zero =>
    intro s r t j h hs
    have hnone : ∀ reader ∈ (none : Option (Reader Json)), reader.Extends := by
      intro reader hr
      cases hr
    exact valueOf_append hnone h hs
  | succ depth ih =>
    intro s r t j h hs
    have hsome : ∀ reader ∈ some (document depth), reader.Extends := by
      intro reader hr
      cases hr
      exact ih
    exact valueOf_append hsome h hs

theorem extends_stringAs (expected : String) : (stringAs expected).Extends := by
  intro s r t u hu hs
  unfold stringAs byFirst at hu ⊢
  dsimp only at hu ⊢
  split at hu
  · cases hu
  · rename_i b v hb
    rw [skipBlank_append hb]
    dsimp only
    split at hu
    · rename_i result hr
      subst hu
      split at hr
      · rename_i hquote
        rw [if_pos hquote]
        exact stringOnto_append (Option.some.inj hr) t
      · cases hr
    · cases hu

end Json

end AgentIntake
