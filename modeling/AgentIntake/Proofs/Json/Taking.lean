import AgentIntake.Json.Schema
import AgentIntake.Proofs.Json.Extension
import AgentIntake.Proofs.Json.Passing

/-!
# What readers take is a value

A reader of a known kind refuses most values, but what it takes is a value of the grammar, and it
takes all of it (`Reader.Passes`).  A value ends at one place only, so the reader is then where the
reader that passes over values would be.

Strings and numbers are read more strictly than they are passed over: characters must be UTF-8,
surrogates must be paired, numbers must not be too large.  Where they are read the two go along with
each other (`skipString_of_readString`, `skipNumber_of_readNumber`).
-/

namespace AgentIntake

/-- The bytes of a character behind its first one are no ASCII characters. -/
theorem Utf8.next?_tail {a : UInt8} {s r : List UInt8} {c : Char}
    (h : next? (a :: s) = some (c, r)) :
    ∃ tail, s = tail ++ r ∧ ∀ b ∈ tail, 0x80 ≤ b := by
  have htail : ∀ {b : UInt8} {n : Nat}, tail? b = some n → 0x80 ≤ b := by
    intro b n hb
    unfold tail? at hb
    split at hb
    · rename_i hrange
      exact hrange.1
    · cases hb
  unfold next? at h
  dsimp only at h
  by_cases h₁ : a < 0x80
  · rw [if_pos h₁] at h
    obtain ⟨d, -, hr⟩ := Option.map_eq_some_iff.1 h
    cases hr
    exact ⟨[], rfl, nofun⟩
  rw [if_neg h₁] at h
  by_cases h₂ : a < 0xC0
  · rw [if_pos h₂] at h
    cases h
  rw [if_neg h₂] at h
  by_cases h₃ : a < 0xE0
  · rw [if_pos h₃] at h
    rcases s with _ | ⟨b, s⟩
    · cases h
    · simp only [bind, pure, Option.bind_eq_some_iff, Option.some.injEq, Prod.mk.injEq] at h
      obtain ⟨y, hy, d, -, -, rfl⟩ := h
      exact ⟨[b], rfl, by simpa using htail hy⟩
  rw [if_neg h₃] at h
  by_cases h₄ : a < 0xF0
  · rw [if_pos h₄] at h
    rcases s with _ | ⟨b, _ | ⟨b', s⟩⟩
    · cases h
    · cases h
    · simp only [bind, pure, Option.bind_eq_some_iff, Option.some.injEq, Prod.mk.injEq] at h
      obtain ⟨y, hy, z, hz, d, -, -, rfl⟩ := h
      exact ⟨[b, b'], rfl, by simpa using ⟨htail hy, htail hz⟩⟩
  rw [if_neg h₄] at h
  by_cases h₅ : a < 0xF8
  · rw [if_pos h₅] at h
    rcases s with _ | ⟨b, _ | ⟨b', _ | ⟨b'', s⟩⟩⟩
    · cases h
    · cases h
    · cases h
    · simp only [bind, pure, Option.bind_eq_some_iff, Option.some.injEq, Prod.mk.injEq] at h
      obtain ⟨y, hy, z, hz, w, hw, d, -, -, rfl⟩ := h
      exact ⟨[b, b', b''], rfl, by simpa using ⟨htail hy, htail hz, htail hw⟩⟩
  · rw [if_neg h₅] at h
    cases h

namespace Json

variable {α β : Type}

/-! ## 1.  Strings and numbers -/

theorem skipString_quote (r : List UInt8) : skipString (Byte.quote :: r) = .ok r := by
  rw [skipString, if_pos rfl]

theorem skipString_escape {s r : List UInt8} (h : skipEscape s = .ok r) :
    skipString (Byte.backslash :: s) = skipString r := by
  rw [skipString.eq_def]
  dsimp only
  rw [if_neg (by decide), if_pos rfl]
  split <;> rename_i hr <;> rw [h] at hr <;> cases hr
  rfl

theorem skipString_plain {b : UInt8} (hq : b ≠ Byte.quote) (hb : b ≠ Byte.backslash)
    (hs : ¬b < 0x20) (r : List UInt8) : skipString (b :: r) = skipString r := by
  rw [skipString.eq_def]
  dsimp only
  rw [if_neg hq, if_neg hb, if_neg hs]

theorem skipString_append {tail : List UInt8} (h : ∀ b ∈ tail, 0x80 ≤ b) (r : List UInt8) :
    skipString (tail ++ r) = skipString r := by
  induction tail with
  | nil => rfl
  | cons b tail ih =>
    have hb : 0x80 ≤ b.toNat := h b List.mem_cons_self
    have hne : ∀ c : UInt8, c.toNat < 0x80 → b ≠ c := by
      rintro c hc rfl
      omega
    have hs : ¬b < 0x20 := fun hlt => by
      have : b.toNat < 0x20 := hlt
      omega
    exact (skipString_plain (hne _ (by decide)) (hne _ (by decide)) hs _).trans
      (ih fun c hc => h c (List.mem_cons_of_mem _ hc))

theorem skipEscape_unicode (s : List UInt8) :
    skipEscape (Byte.letterU :: s) = (fourDigits s).map (·.2) := by
  have hu : (shortEscape? Byte.letterU).isSome = false := by decide
  rw [skipEscape, hu, if_neg (by decide), if_pos rfl]

/-- The first half of a pair of surrogates is passed over, and then the second. -/
theorem skipString_of_lowSurrogate {high : Nat} {s r : List UInt8} {c : Char}
    (h : lowSurrogate high s = .ok (c, r)) : skipString s = skipString r := by
  unfold lowSurrogate at h
  split at h
  · cases h
  · cases h
  · split at h
    · cases h
    · rename_i low r' hf
      split at h
      · simp only [Except.ok.injEq, Prod.mk.injEq] at h
        obtain ⟨-, rfl⟩ := h
        refine skipString_escape ((skipEscape_unicode _).trans ?_)
        rw [hf]
        rfl
      · cases h
  · cases h
  · cases h

theorem skipString_of_unescape {s r : List UInt8} {c : Char} (h : unescape s = .ok (c, r)) :
    skipString (Byte.backslash :: s) = skipString r := by
  unfold unescape at h
  split at h
  · cases h
  · rename_i b s
    split at h
    · rename_i c' hc
      cases h
      refine skipString_escape ?_
      rw [skipEscape, hc]
      rfl
    · split at h
      · rename_i hb
        subst hb
        unfold unicodeEscape at h
        split at h
        · cases h
        · rename_i n t hf
          have hpassed : skipString (Byte.backslash :: Byte.letterU :: s) = skipString t := by
            refine skipString_escape ?_
            rw [skipEscape_unicode, hf]
            rfl
          split at h
          · cases h
          · split at h
            · exact hpassed.trans (skipString_of_lowSurrogate h)
            · cases h
              exact hpassed
      · cases h

/-- **A string that is read is passed over.** -/
theorem skipString_of_readString {s r : List UInt8} {t : String} (h : readString s = .ok (t, r)) :
    skipString s = .ok r := by
  unfold readString at h
  generalize ([] : List Char) = done at h
  generalize hbad : (none : Option Nat) = bad at h
  fun_induction stringOnto done bad s with
  | case1 => cases h
  | case2 =>
    cases h
    exact skipString_quote r
  | case3 => cases h
  | case4 => cases h
  | case5 done bad s c s' hu hq ih => exact (skipString_of_unescape hu).trans (ih hbad h)
  | case6 => cases h
  | case7 done bad b s hq hb hs c s' hn ih =>
    obtain ⟨tail, rfl, htail⟩ := Utf8.next?_tail hn
    exact (skipString_plain hq hb hs _).trans ((skipString_append htail s').trans (ih hbad h))
  | case8 done bad b s =>
    subst hbad
    exact absurd h (stringOnto_bad _ _ _ _)

theorem skipWhole_of_wholeDigits {s digits r : List UInt8} (h : wholeDigits s = .ok (digits, r)) :
    skipWhole s = .ok r := by
  cases s with
  | nil => cases h
  | cons b s =>
    rw [wholeDigits.eq_def] at h
    rw [skipWhole.eq_def]
    dsimp only at h ⊢
    split at h
    · rename_i hz
      rw [if_pos hz]
      cases s with
      | nil =>
        cases h
        rfl
      | cons d s =>
        dsimp only at h ⊢
        split at h
        · cases h
        · rename_i hd
          cases h
          rw [if_neg hd]
    · rename_i hz
      rw [if_neg hz]
      split at h
      · rename_i hb
        cases h
        rw [if_pos hb]
        rfl
      · cases h

/-- The digits of an exponent are passed over, and those behind it if it is too large. -/
theorem skipDigits_exponentFrom (value : Nat) (s : List UInt8) :
    skipDigits (exponentFrom value s).2 = skipDigits s ∧
      ((exponentFrom value s).1.isSome → (exponentFrom value s).2 = skipDigits s) := by
  fun_induction exponentFrom value s with
  | case1 => exact ⟨rfl, fun _ => rfl⟩
  | case2 value d s hd hv ih =>
    have hskip : skipDigits (d :: s) = skipDigits s := List.dropWhile_cons_of_pos hd
    rw [hskip]
    exact ih
  | case3 value d s hd hv =>
      exact ⟨(List.dropWhile_cons_of_pos hd).symm, fun h => absurd h Bool.false_ne_true⟩
  | case4 value d s hd => exact ⟨rfl, fun _ => (List.dropWhile_cons_of_neg hd).symm⟩

theorem skipExponent_of_scientific {negative : Bool} {m : Mantissa} {s r : List UInt8} {n : Number}
    (h : scientific negative m s = .ok (n, r)) : skipExponent s = .ok r := by
  unfold scientific at h
  unfold skipExponent
  cases hsign : exponentSign s with
  | mk below t =>
    rw [hsign] at h
    cases t with
    | nil => cases h
    | cons d t =>
      dsimp only at h ⊢
      split at h
      · rename_i hd
        rw [if_pos hd]
        obtain ⟨hskip, hsome⟩ := skipDigits_exponentFrom (digitValue d) t
        cases he : exponentFrom (digitValue d) t with
        | mk value u =>
          rw [he] at h hskip hsome
          cases value with
          | some e =>
            dsimp only at h hsome
            rw [rest_of_realNumber h, ← hsome rfl]
          | none =>
            dsimp only at h hskip
            split at h
            · rw [rest_of_realNumber h, ← hskip]
              rfl
            · cases h
      · cases h

/-- **A number that is read is passed over.** -/
theorem skipNumber_of_readNumber {negative : Bool} {s r : List UInt8} {n : Number}
    (h : readNumber negative s = .ok (n, r)) : skipNumber s = .ok r := by
  unfold readNumber at h
  split at h
  · cases h
  rename_i digits t hw
  dsimp only at h
  split at h
  · cases h
  rename_i fraction u hf
  have hscale : skipScale u = .ok r := by
    cases u with
    | nil =>
      dsimp only at h
      split at h
      · rw [rest_of_wholeNumber h]
        rfl
      · rw [rest_of_realNumber h]
        rfl
    | cons e v =>
      dsimp only at h
      rw [skipScale]
      split at h
      · rename_i he
        rw [if_pos he]
        exact skipExponent_of_scientific h
      · rename_i he
        rw [if_neg he]
        split at h
        · rw [rest_of_wholeNumber h]
        · rw [rest_of_realNumber h]
  unfold skipNumber
  rw [skipWhole_of_wholeDigits hw]
  unfold fractionDigits at hf
  split at hf
  · rename_i t
    refine (if_pos rfl).trans ?_
    cases t with
    | nil => cases hf
    | cons d t =>
      dsimp only at hf ⊢
      split at hf
      · rename_i hd
        cases hf
        rw [if_pos hd]
        rwa [List.dropWhile_cons_of_pos hd] at hscale
      · cases hf
  · rename_i hpoint
    cases hf
    cases t with
    | nil => exact hscale
    | cons b t =>
      exact (if_neg fun he : b = Byte.point => hpoint t (he ▸ rfl)).trans hscale

/-! ## 2.  What readers take -/

/-- What the reader takes is a value, with what stands before it. -/
def Reader.Passes (reader : Reader α) : Prop :=
  ∀ ⦃s r : List UInt8⦄ ⦃a : α⦄, reader.read s = .ok (a, r) → Formed .value s r

theorem Reader.Passes.checkAt {reader : Reader α} (h : reader.Passes)
    (place : Cause → List UInt8 → Fault) (f : α → Except Cause β) :
    (reader.checkAt place f).Passes := by
  intro s r b hb
  unfold Reader.checkAt at hb
  dsimp only at hb
  split at hb
  · cases hb
  · rename_i a u ha
    split at hb
    · cases hb
    · cases hb
      exact h ha

theorem Reader.Passes.check {reader : Reader α} (h : reader.Passes) (f : α → Except Cause β) :
    (reader.check f).Passes :=
  h.checkAt _ f

theorem Reader.Passes.map {reader : Reader α} (h : reader.Passes) (f : α → β) :
    (reader.map f).Passes :=
  h.check _

/-- What a reader that goes by the first byte does with a text (`byFirst`), without the proof that
it leaves less of it. -/
def readFirst (reads : UInt8 → List UInt8 → Option (Except Fault (α × List UInt8)))
    (otherwise : UInt8 → List UInt8 → Fault) (s : List UInt8) : Except Fault (α × List UInt8) :=
  match skipBlank s with
  | [] => .error (.next .endInValue [])
  | b :: t =>
    match reads b t with
    | some result => result
    | none => .error (otherwise b t)

theorem exists_first_of_readFirst
    {reads : UInt8 → List UInt8 → Option (Except Fault (α × List UInt8))}
    {otherwise : UInt8 → List UInt8 → Fault} {s r : List UInt8} {a : α}
    (h : readFirst reads otherwise s = .ok (a, r)) :
    ∃ b t, skipBlank s = b :: t ∧ reads b t = some (.ok (a, r)) := by
  unfold readFirst at h
  split at h
  · cases h
  · rename_i b t hb
    split at h
    · rename_i hreads
      subst h
      exact ⟨b, t, hb, hreads⟩
    · cases h

theorem Formed.string {s t r : List UInt8} {u : String} (begins : skipBlank s = Byte.quote :: t)
    (read : readString t = .ok (u, r)) : Formed .value s r :=
  .scalar begins (skipString_of_readString read)

theorem Formed.number {s t r : List UInt8} {b : UInt8} {n : Number} (begins : skipBlank s = b :: t)
    (digit : Byte.isDigit b = true) (read : readNumber false (b :: t) = .ok (n, r)) :
    Formed .value s r := by
  refine .scalar begins ?_
  rw [skipScalar, if_neg (isDigit_ne digit (by decide)), if_neg (isDigit_ne digit (by decide)),
    if_neg (isDigit_ne digit (by decide)), if_neg (isDigit_ne digit (by decide)), if_pos digit]
  exact skipNumber_of_readNumber read

theorem Formed.negative {s t r : List UInt8} {n : Number} (begins : skipBlank s = Byte.minus :: t)
    (read : readNumber true t = .ok (n, r)) : Formed .value s r :=
  .scalar begins (skipNumber_of_readNumber read)

theorem Formed.null {s t r : List UInt8} (begins : skipBlank s = 0x6E :: t)
    (read : literal nullRest t = .ok r) : Formed .value s r :=
  .scalar begins read

/-- A string begins with a quote. -/
theorem exists_readString_of_stringAs {expected : String} {s r : List UInt8} {u : String}
    (h : (stringAs expected).read s = .ok (u, r)) :
    ∃ t, skipBlank s = Byte.quote :: t ∧ readString t = .ok (u, r) := by
  obtain ⟨b, t, hb, h⟩ := exists_first_of_readFirst h
  split at h
  · rename_i hq
    subst hq
    exact ⟨t, hb, Option.some.inj h⟩
  · cases h

theorem passes_stringAs (expected : String) : (stringAs expected).Passes := by
  intro s r u h
  obtain ⟨t, hb, h⟩ := exists_readString_of_stringAs h
  exact .string hb h

theorem passes_numberAs (expected : String) : (numberAs expected).Passes := by
  intro s r n h
  obtain ⟨b, t, hb, h⟩ := exists_first_of_readFirst h
  split at h
  · rename_i hm
    subst hm
    exact .negative hb (Option.some.inj h)
  · split at h
    · rename_i hd
      exact .number hb hd (Option.some.inj h)
    · cases h

theorem exists_skipBlank_of_closeList {s r : List UInt8} (h : closeList s = .ok r) :
    skipBlank s = Byte.closeBracket :: r := by
  unfold closeList at h
  split at h
  · cases h
  · rename_i b t hb
    split at h
    · rename_i hc
      cases h
      rw [hb, hc]
    · split at h
      · split at h
        · split at h <;> cases h
        · cases h
      · cases h

theorem formed_of_itemsOnto {item : Reader α} (hitem : item.Passes) {first : Bool}
    {done items : List α} {s u r : List UInt8} (h : itemsOnto item first done s = .ok (items, u))
    (hc : closeList u = .ok r) : Formed (.entries first .list) s r := by
  fun_induction itemsOnto item first done s with
  | case1 => cases h
  | case2 =>
    cases h
    exact .close (exists_skipBlank_of_closeList hc)
  | case3 => cases h
  | case4 first done s t hn a v hi ih =>
    have others := ih h
    have value := hitem hi
    unfold nextItem at hn
    split at hn
    · cases hn
    · rename_i b w begins
      split at hn
      · cases hn
      · rename_i goesOn
        split at hn
        · rename_i hfirst
          subst hfirst
          cases hn
          exact .first begins goesOn rfl value others
        · rename_i hfirst
          obtain rfl : first = false := by simpa using hfirst
          split at hn
          · rename_i hcomma
            subst hcomma
            split at hn
            · cases hn
            · rename_i c x hx
              split at hn
              · cases hn
              · cases hn
                exact .further begins rfl (.of_skipBlank (hx ▸ value)) others
          · cases hn

theorem formed_of_listOf {item : Reader α} (hitem : item.Passes) {items : List α} {s r : List UInt8}
    (h : listOf item s = .ok (items, r)) : Formed (.entries true .list) s r := by
  unfold listOf at h
  split at h
  · cases h
  · rename_i hi
    split at h
    · cases h
    · rename_i hc
      cases h
      exact formed_of_itemsOnto hitem hi hc

theorem passes_listAs (expected : String) {item : Reader α} (hitem : item.Passes) :
    (listAs expected item).Passes := by
  intro s r items h
  obtain ⟨b, t, hb, h⟩ := exists_first_of_readFirst h
  split at h
  · rename_i ho
    subst ho
    exact .enclosed (e := .list) hb (formed_of_listOf hitem (Option.some.inj h))
  · cases h

theorem skipKey_of_readString {s t u v : List UInt8} {key : String}
    (begins : skipBlank s = Byte.quote :: t) (read : readString t = .ok (key, u))
    (hc : colon u = .ok v) : skipKey s = .ok v := by
  rw [skipKey, begins]
  dsimp only
  rw [if_pos rfl, skipString_of_readString read]
  exact hc

/-- A name by itself is a value, and so is an object with `null` under it. -/
theorem passes_choiceReader (known : List (String × α)) : (Schema.choiceReader known).Passes := by
  have hname : (Schema.nameIn known).Passes := (passes_stringAs _).check _
  intro s r a h
  obtain ⟨b, t, hb, h⟩ := exists_first_of_readFirst h
  split at h
  · exact .of_skipBlank (hb ▸ hname (Option.some.inj h))
  · split at h
    · rename_i ho
      subst ho
      replace h := Option.some.inj h
      unfold Schema.choiceObject at h
      split at h
      · cases h
      rename_i a' u hk
      split at h
      · cases h
      rename_i v hc
      split at h
      · cases h
      rename_i w hu
      split at h
      · cases h
      rename_i c x hx
      split at h
      · rename_i hclose
        subst hclose
        cases h
        obtain ⟨key, y, hy, hread⟩ : ∃ key y, skipBlank t = Byte.quote :: y ∧
            readString y = .ok (key, u) := by
          unfold Schema.nameIn Reader.check Reader.checkAt at hk
          dsimp only at hk
          split at hk
          · cases hk
          · rename_i key u' hs
            split at hk
            · cases hk
            · cases hk
              obtain ⟨y, hy⟩ := exists_readString_of_stringAs hs
              exact ⟨key, y, hy⟩
        have value : Formed .value v w := by
          obtain ⟨b, z, hb, hu⟩ := exists_first_of_readFirst hu
          split at hu
          · rename_i hn
            subst hn
            obtain ⟨_, hz, hr⟩ := eq_ok_of_map (Option.some.inj hu)
            cases hr
            exact .null hb hz
          · cases hu
        have entry : skipKey (Byte.quote :: y) = .ok v :=
          skipKey_of_readString (skipBlank_cons (by decide) y) hread hc
        exact .enclosed (e := .object) hb (.first hy (by decide) entry value (.close hx))
      · cases h
    · cases h

/-- The members of an object are its entries. -/
theorem Laid.formed {first : Bool} {s t r : List UInt8} {entries : List Entry}
    (hl : Laid first s entries t) (hv : ∀ e ∈ entries, Formed .value e.start e.rest)
    (hc : closeObject t = .ok r) : Formed (.entries first .object) s r := by
  induction hl with
  | @nil first s ends =>
    refine .close ?_
    unfold closeObject at hc
    split at hc
    · cases hc
    · rename_i b u hb
      split at hc
      · rename_i hclose
        cases hc
        rw [hb, hclose]
        rfl
      · split at hc <;> cases hc
  | @cons first s t u v e entries next key colon others ih =>
    have value := hv e List.mem_cons_self
    have others := ih (fun d hd => hv d (List.mem_cons_of_mem _ hd)) hc
    unfold nextKey at next
    split at next
    · cases next
    · rename_i b w begins
      split at next
      · cases next
      · rename_i goesOn
        split at next
        · rename_i hfirst
          subst hfirst
          split at next
          · rename_i hq
            subst hq
            cases next
            exact .first begins (by decide)
              (skipKey_of_readString (skipBlank_cons (by decide) t) key colon) value others
          · cases next
        · rename_i hfirst
          obtain rfl : first = false := by simpa using hfirst
          split at next
          · rename_i hcomma
            subst hcomma
            split at next
            · cases next
            · rename_i c x hx
              split at next
              · rename_i hq
                subst hq
                cases next
                exact .further begins (skipKey_of_readString hx key colon) value others
              · split at next <;> cases next
          · cases next

theorem ValueAt.formed {inner : Option (Reader Json)}
    (hinner : ∀ reader, inner = some reader → reader.Passes) {b : UInt8}
    {s t r : List UInt8} {j : Json}
    (begins : skipBlank s = b :: t) (h : ValueAt inner b t j r) : Formed .value s r := by
  cases h with
  | null read | yes read | no read => exact .scalar begins read
  | negative read => exact .negative begins read
  | number digit read => exact .number begins digit read
  | string read => exact .string begins read
  | array allowed read =>
    exact .enclosed (e := .list) begins (formed_of_listOf (hinner _ allowed) read)
  | object allowed read =>
    obtain ⟨entries, members, u, hl, hh, hc, -⟩ := objectOf_everyMember_iff.1 read
    have hv : ∀ e ∈ entries, Formed .value e.start e.rest :=
      ((List.forall₂_and_left entries members).1
        (hh.imp fun e m hm => ⟨hinner _ allowed hm.2, hm⟩)).1
    exact .enclosed (e := .object) begins (hl.formed hv hc)

/-- **Documents of any depth are values.** -/
theorem passes_document (depth : Nat) : (document depth).Passes := by
  induction depth with
  | zero =>
    intro s r j h
    obtain ⟨b, t, hb, hv⟩ := read_document_eq_ok_iff.1 h
    exact hv.formed (fun _ hr => by cases hr) hb
  | succ depth ih =>
    intro s r j h
    obtain ⟨b, t, hb, hv⟩ := read_document_eq_ok_iff.1 h
    refine hv.formed (fun reader hr => ?_) hb
    cases hr
    exact ih

end Json

end AgentIntake
