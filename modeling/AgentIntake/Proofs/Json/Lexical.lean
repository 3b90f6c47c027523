import AgentIntake.Json.Lexical
import AgentIntake.Json.Printer
import AgentIntake.Proofs.Text.RoundTrip

/-!
# Strings and whole numbers are read back

The parts of a document that hold no other documents, written by the printer, come off the front of
a text as they were: a string up to its closing quote whatever follows (`readString_renderString`),
a whole number up to something that does not continue it (`readNumber_renderInt`).

## Why numbers look ahead

A string says where it ends.  A number ends where its digits end, so what follows it must not be a
digit, a point or the letter of an exponent.  `Stops` says that of a text, and everything that the
printer puts after a value satisfies it.

Nothing that is written is a control character.  The escapes see to that within strings, and the
bytes of the other characters lie above the controls.
-/

namespace AgentIntake.Json

/-! ## 1.  Escapes -/

variable {done : List Char} {bad : Option Nat}

theorem stringOnto_quote (rest : List UInt8) :
    stringOnto done none (Byte.quote :: rest) = .ok (String.ofList done.reverse, rest) := by
  rw [stringOnto, if_pos rfl]

theorem stringOnto_escape {s rest : List UInt8} {c : Char} (h : unescape s = .ok (c, rest)) :
    stringOnto done bad (Byte.backslash :: s) = stringOnto (c :: done) bad rest := by
  rw [stringOnto.eq_def]
  dsimp only
  rw [if_neg (by decide), if_pos rfl]
  split
  · rename_i hf
    rw [h] at hf
    cases hf
  · rename_i hc
    rw [h] at hc
    cases hc
    rfl

theorem stringOnto_plain {b : UInt8} {s rest : List UInt8} {c : Char} (hq : b ≠ Byte.quote)
    (hb : b ≠ Byte.backslash) (hs : ¬b < 0x20) (h : Utf8.next? (b :: s) = some (c, rest)) :
    stringOnto done bad (b :: s) = stringOnto (c :: done) bad rest := by
  rw [stringOnto.eq_def]
  dsimp only
  rw [if_neg hq, if_neg hb, if_neg hs]
  split
  · rename_i hc
    rw [h] at hc
    cases hc
    rfl
  · rename_i hc
    rw [h] at hc
    cases hc

/-- The escape of a control character by its code point. -/
theorem unescape_control {n : Nat} (h : n < 0x20) (rest : List UInt8) :
    unescape (Byte.letterU :: Byte.zero :: Byte.zero :: (Hex.digit (n / 16)).toNat.toUInt8 ::
      (Hex.digit (n % 16)).toNat.toUInt8 :: rest) = .ok (Char.ofNat n, rest) := by
  have hz : Hex.value? Byte.zero = some 0 := by decide
  have hf : fourDigits (Byte.zero :: Byte.zero :: (Hex.digit (n / 16)).toNat.toUInt8 ::
      (Hex.digit (n % 16)).toNat.toUInt8 :: rest) = .ok (n, rest) := by
    rw [fourDigits, hz, Hex.value?_digit _ (by omega), Hex.value?_digit _ (by omega)]
    dsimp only
    rw [show ((0 * 16 + 0) * 16 + n / 16) * 16 + n % 16 = n by omega]
  have hu : shortEscape? Byte.letterU = none := by decide
  rw [unescape, hu]
  dsimp only
  rw [if_pos rfl, unicodeEscape, hf]
  dsimp only
  rw [if_neg (by omega), if_neg (by omega)]

/-- A character that needs no escape is written as it is. -/
theorem stringOnto_utf8EncodeChar {c : Char} (hq : c ≠ '\x22') (hb : c ≠ '\\')
    (hc : ¬c.toNat < 0x20) (rest : List UInt8) :
    stringOnto done bad (String.utf8EncodeChar c ++ rest) = stringOnto (c :: done) bad rest := by
  obtain ⟨b, t, ht⟩ := List.exists_cons_of_ne_nil (@String.utf8EncodeChar_ne_nil c)
  have hn := Utf8.next?_utf8EncodeChar c rest
  have hm :=
    Utf8.toNat_of_mem_utf8EncodeChar (ht ▸ List.mem_cons_self : b ∈ String.utf8EncodeChar c)
  rw [ht, List.cons_append] at hn ⊢
  -- a byte below 128 is the character, so it is none of those that are escaped
  have hne : ∀ n < 0x80, c.toNat ≠ n → b.toNat ≠ n := by
    rintro n hn hcn rfl
    rcases hm with hm | hm
    · exact hcn hm.symm
    · omega
  refine stringOnto_plain ?_ ?_ ?_ hn
  · rintro rfl
    exact hne 0x22 (by decide) (fun h => hq (Char.toNat_inj.1 h)) rfl
  · rintro rfl
    exact hne 0x5C (by decide) (fun h => hb (Char.toNat_inj.1 h)) rfl
  · intro hlt
    have hlt' : b.toNat < 0x20 := hlt
    rcases hm with hm | hm <;> omega

/-- The five controls with letters of their own. -/
def shortControls : List Char := ['\x08', '\x0c', '\n', '\r', '\t']

theorem escape_of_not_short {c : Char} (hq : c ≠ '\x22') (hb : c ≠ '\\') (hc : c ∉ shortControls) :
    escape c =
      if c.toNat < 0x20 then
        [Byte.backslash, Byte.letterU, Byte.zero, Byte.zero,
          (Hex.digit (c.toNat / 16)).toNat.toUInt8, (Hex.digit (c.toNat % 16)).toNat.toUInt8]
      else String.utf8EncodeChar c := by
  simp only [shortControls, List.mem_cons, List.not_mem_nil, or_false, not_or] at hc
  rw [escape, if_neg hq, if_neg hb, if_neg hc.1, if_neg hc.2.1, if_neg hc.2.2.1, if_neg hc.2.2.2.1,
    if_neg hc.2.2.2.2]

/-- **An escaped character comes off the front of a string.** -/
theorem stringOnto_escape_append (c : Char) (rest : List UInt8) :
    stringOnto done bad (escape c ++ rest) = stringOnto (c :: done) bad rest := by
  by_cases hq : c = '\x22'
  · subst hq
    exact stringOnto_escape rfl
  by_cases hb : c = '\\'
  · subst hb
    exact stringOnto_escape rfl
  by_cases hs : c ∈ shortControls
  · simp only [shortControls, List.mem_cons, List.not_mem_nil, or_false] at hs
    rcases hs with rfl | rfl | rfl | rfl | rfl <;> exact stringOnto_escape rfl
  · rw [escape_of_not_short hq hb hs]
    split
    · rename_i hc
      have hu := unescape_control hc rest
      rw [Char.ofNat_toNat] at hu
      exact stringOnto_escape hu
    · rename_i hc
      exact stringOnto_utf8EncodeChar hq hb hc rest

/-- **A string that was written is read back.** -/
theorem readString_escapes (s : String) (rest : List UInt8) :
    readString (s.toList.flatMap escape ++ Byte.quote :: rest) = .ok (s, rest) := by
  have h : ∀ (cs done : List Char), stringOnto done none (cs.flatMap escape ++ Byte.quote :: rest) =
      .ok (String.ofList (done.reverse ++ cs), rest) := by
    intro cs
    induction cs with
    | nil =>
      intro done
      rw [List.append_nil]
      exact stringOnto_quote rest
    | cons c cs ih =>
      intro done
      rw [List.flatMap_cons, List.append_assoc, stringOnto_escape_append, ih, List.reverse_cons,
        List.append_assoc, List.singleton_append]
  rw [readString, h, List.reverse_nil, List.nil_append, String.ofList_toList]

/-! ## 2.  Whole numbers -/

/-- What follows does not continue a number. -/
def Stops (rest : List UInt8) : Prop :=
  ∀ b ∈ rest.head?, Byte.isDigit b = false ∧ b ≠ Byte.point ∧ Byte.isExponent b = false

theorem stops_nil : Stops [] := by
  intro b hb
  cases hb

theorem stops_cons {b : UInt8} (rest : List UInt8)
    (h : Byte.isDigit b = false ∧ b ≠ Byte.point ∧ Byte.isExponent b = false) :
    Stops (b :: rest) := by
  intro c hc
  cases hc
  exact h

/-- A digit of a number as it is written. -/
def digitByte (d : Nat) : UInt8 := (Nat.digitChar d).toNat.toUInt8

theorem digitByte_spec :
    ∀ d < 10, Byte.isDigit (digitByte d) = true ∧ digitValue (digitByte d) = d ∧
    (digitByte d = Byte.zero → d = 0) := by
  decide

theorem renderNat_of_lt {n : Nat} (h : n < 10) : renderNat n = [digitByte n] := by
  rw [renderNat, Nat.toDigits_of_lt_base h]
  rfl

theorem renderNat_of_le {n : Nat} (h : 10 ≤ n) :
    renderNat n = renderNat (n / 10) ++ [digitByte (n % 10)] := by
  rw [renderNat, Nat.toDigits_of_base_le (by decide) h, List.map_append]
  rfl

theorem isDigit_of_mem_renderNat (n : Nat) : ∀ b ∈ renderNat n, Byte.isDigit b = true := by
  induction n using Nat.strongRecOn with
  | ind n ih =>
    by_cases hn : n < 10
    · rw [renderNat_of_lt hn]
      intro b hb
      rw [List.mem_singleton.1 hb]
      exact (digitByte_spec n hn).1
    · rw [renderNat_of_le (Nat.le_of_not_lt hn)]
      intro b hb
      rcases List.mem_append.1 hb with hb | hb
      · exact ih (n / 10) (by omega) b hb
      · rw [List.mem_singleton.1 hb]
        exact (digitByte_spec (n % 10) (by omega)).1

/-- A positive number does not begin with a zero. -/
theorem exists_head_renderNat {n : Nat} (h : 0 < n) :
    ∃ b digits, renderNat n = b :: digits ∧ b ≠ Byte.zero := by
  induction n using Nat.strongRecOn with
  | ind n ih =>
    by_cases hn : n < 10
    · exact ⟨digitByte n, [], renderNat_of_lt hn, fun hz => by
        have := (digitByte_spec n hn).2.2 hz
        omega⟩
    · obtain ⟨b, digits, hb, hz⟩ := ih (n / 10) (by omega) (by omega)
      exact ⟨b, digits ++ [digitByte (n % 10)], by
        rw [renderNat_of_le (Nat.le_of_not_lt hn), hb, List.cons_append], hz⟩

/-- The digits of a number of sixty-four bits add up to the number. -/
theorem foldl_addWhole_renderNat {n : Nat} (h : n < 0x10000000000000000) :
    (renderNat n).foldl Mantissa.addWhole ⟨0, 0, false⟩ = ⟨n, 0, false⟩ := by
  have hadd : ∀ m d : Nat, d < 10 → m * 10 + d < 0x10000000000000000 →
      Mantissa.addWhole ⟨m, 0, false⟩ (digitByte d) = ⟨m * 10 + d, 0, false⟩ := by
    intro m d hd hm
    rw [Mantissa.addWhole, (digitByte_spec d hd).2.1, if_neg]
    rintro (hf | hl)
    · cases hf
    · exact absurd hl (Nat.not_le_of_lt hm)
  induction n using Nat.strongRecOn with
  | ind n ih =>
    by_cases hn : n < 10
    · rw [renderNat_of_lt hn, List.foldl_cons, List.foldl_nil, hadd 0 n hn (by omega), Nat.zero_mul,
        Nat.zero_add]
    · rw [renderNat_of_le (Nat.le_of_not_lt hn), List.foldl_append,
        ih (n / 10) (by omega) (by omega), List.foldl_cons, List.foldl_nil,
        hadd _ _ (by omega) (by omega)]
      rw [Nat.div_add_mod']

/-- The digits of a number are taken up to what follows them. -/
theorem span_renderNat {digits rest : List UInt8} (hd : ∀ b ∈ digits, Byte.isDigit b = true)
    (hs : Stops rest) :
    (digits ++ rest).takeWhile Byte.isDigit = digits ∧
      (digits ++ rest).dropWhile Byte.isDigit = rest := by
  have hr : rest.takeWhile Byte.isDigit = [] ∧ rest.dropWhile Byte.isDigit = rest := by
    cases rest with
    | nil => exact ⟨rfl, rfl⟩
    | cons b rest =>
      have hb := (hs b rfl).1
      exact ⟨List.takeWhile_cons_of_neg (by simp [hb]), List.dropWhile_cons_of_neg (by simp [hb])⟩
  rw [List.takeWhile_append_of_pos hd, List.dropWhile_append_of_pos hd, hr.1, hr.2]
  exact ⟨List.append_nil _, rfl⟩

theorem wholeDigits_renderNat (n : Nat) {rest : List UInt8} (hs : Stops rest) :
    wholeDigits (renderNat n ++ rest) = .ok (renderNat n, rest) := by
  rcases Nat.eq_zero_or_pos n with rfl | hn
  · have hz : renderNat 0 = [Byte.zero] := rfl
    rw [hz, List.singleton_append, wholeDigits.eq_def]
    dsimp only
    rw [if_pos rfl]
    cases rest with
    | nil => rfl
    | cons b rest =>
      dsimp only
      rw [if_neg (by simp [(hs b rfl).1])]
  · obtain ⟨b, digits, hb, hz⟩ := exists_head_renderNat hn
    have hd := isDigit_of_mem_renderNat n
    rw [hb] at hd ⊢
    obtain ⟨ht, hr⟩ := span_renderNat (fun c hc => hd c (List.mem_cons_of_mem _ hc)) hs
    rw [List.cons_append, wholeDigits.eq_def]
    dsimp only
    rw [if_neg hz, if_pos (hd b List.mem_cons_self), ht, hr]

theorem fractionDigits_of_stops {rest : List UInt8} (hs : Stops rest) :
    fractionDigits rest = .ok ([], rest) := by
  unfold fractionDigits
  split
  · exact absurd rfl (hs _ rfl).2.1
  · rfl

/-- The digits of a number are read up to something that does not continue it. -/
theorem readNumber_renderNat (negative : Bool) {n : Nat} (hn : n < 0x10000000000000000)
    {rest : List UInt8} (hs : Stops rest) :
    readNumber negative (renderNat n ++ rest) = wholeNumber negative ⟨n, 0, false⟩ rest := by
  rw [readNumber, wholeDigits_renderNat n hs]
  dsimp only
  rw [foldl_addWhole_renderNat hn, fractionDigits_of_stops hs]
  dsimp only
  cases rest with
  | nil => rfl
  | cons b rest =>
    dsimp only
    rw [if_neg (by simp [(hs b rfl).2.2])]
    rfl

theorem ofInt?_eq_some {n : Int} (h : -0x8000000000000000 ≤ n ∧ n < 0x10000000000000000) :
    Number.ofInt? n = some (.whole n h) :=
  dif_pos h

/-- **A negative number is read back**, after its sign. -/
theorem readNumber_of_neg {n : Int} (h : -0x8000000000000000 ≤ n ∧ n < 0x10000000000000000)
    (hn : n < 0) {rest : List UInt8} (hs : Stops rest) :
    readNumber true (renderNat n.natAbs ++ rest) = .ok (.whole n h, rest) := by
  rw [readNumber_renderNat true (by omega) hs, wholeNumber]
  dsimp only
  rw [if_neg (by simp; omega), if_pos rfl, show -(n.natAbs : Int) = n by omega, ofInt?_eq_some h]

/-- **A number that is not negative is read back.** -/
theorem readNumber_of_nonneg {n : Int} (h : -0x8000000000000000 ≤ n ∧ n < 0x10000000000000000)
    (hn : 0 ≤ n) {rest : List UInt8} (hs : Stops rest) :
    readNumber false (renderNat n.natAbs ++ rest) = .ok (.whole n h, rest) := by
  rw [readNumber_renderNat false (by omega) hs, wholeNumber]
  dsimp only
  rw [if_neg (by simp), if_neg (by decide), show (n.natAbs : Int) = n by omega, ofInt?_eq_some h]

/-! ## 3.  No control characters -/

/-- None of the bytes is a control character. -/
def Printable (bytes : List UInt8) : Prop :=
  ∀ b ∈ bytes, 0x20 ≤ b.toNat

instance (bytes : List UInt8) : Decidable (Printable bytes) :=
  List.decidableBAll (fun b : UInt8 => 0x20 ≤ b.toNat) bytes

theorem Printable.append {first second : List UInt8} (h : Printable first) (k : Printable second) :
    Printable (first ++ second) := by
  intro b hb
  rcases List.mem_append.1 hb with hb | hb
  · exact h b hb
  · exact k b hb

theorem Printable.cons {b : UInt8} {bytes : List UInt8} (h : 0x20 ≤ b.toNat) (k : Printable bytes) :
    Printable (b :: bytes) := by
  intro c hc
  rcases List.mem_cons.1 hc with rfl | hc
  · exact h
  · exact k c hc

theorem printable_nil : Printable [] := by
  intro b hb
  cases hb

theorem Printable.newline_not_mem {bytes : List UInt8} (h : Printable bytes) :
    Byte.newline ∉ bytes := by
  intro hm
  exact absurd (h _ hm) (by decide)

theorem printable_digit : ∀ n < 16, 0x20 ≤ ((Hex.digit n).toNat.toUInt8).toNat := by
  decide

theorem printable_escape (c : Char) : Printable (escape c) := by
  by_cases hq : c = '\x22'
  · subst hq
    decide
  by_cases hb : c = '\\'
  · subst hb
    decide
  by_cases hs : c ∈ shortControls
  · simp only [shortControls, List.mem_cons, List.not_mem_nil, or_false] at hs
    rcases hs with rfl | rfl | rfl | rfl | rfl <;> decide
  · rw [escape_of_not_short hq hb hs]
    split
    · exact .cons (by decide) (.cons (by decide) (.cons (by decide) (.cons (by decide)
        (.cons (printable_digit _ (by omega)) (.cons (printable_digit _ (by omega))
          printable_nil)))))
    · rename_i hc
      intro b hb
      rcases Utf8.toNat_of_mem_utf8EncodeChar hb with h | h <;> omega

theorem printable_renderString (s : String) : Printable (renderString s) := by
  refine .cons (by decide) (.append ?_ (.cons (by decide) printable_nil))
  intro b hb
  obtain ⟨c, -, hc⟩ := List.mem_flatMap.1 hb
  exact printable_escape c b hc

theorem printable_renderInt (n : Int) : Printable (renderInt n) := by
  have hd : Printable (renderNat n.natAbs) := by
    intro b hb
    have hb' := isDigit_of_mem_renderNat _ b hb
    simp only [Byte.isDigit, Bool.and_eq_true, decide_eq_true_eq, UInt8.le_iff_toNat_le] at hb'
    exact Nat.le_trans (by decide) hb'.1
  unfold renderInt
  split
  · exact .cons (by decide) hd
  · exact hd

end AgentIntake.Json
