import AgentIntake.Proofs.Json.Exact
import Mathlib.Data.List.Induction

/-!
# Whole numbers are integer literals

A number of a document is whole exactly if it is written as an integer of sixty-four bits, signed or
not: with digits only, no zero before them that does not stand alone, and a minus sign if it is
negative (`read_whole_iff`).  A fraction or an exponent makes any number real, be its value whole or
not; so do a minus sign before zero, and digits that go beyond sixty-four bits.

A text of digits without a spare zero is the text of its value (`eq_renderNat`).  It is read back to
front: the last digit is the remainder by ten and the others are the quotient.
-/

namespace AgentIntake.Json

/-! ## 1.  Digits -/

theorem digitByte_digitValue {b : UInt8} (h : Byte.isDigit b = true) :
    digitValue b < 10 ∧ digitByte (digitValue b) = b := by
  have hs : ∀ n < 10, digitByte n = UInt8.ofNat (n + 0x30) := by decide
  simp only [Byte.isDigit, Bool.and_eq_true, decide_eq_true_eq, UInt8.le_iff_toNat_le] at h
  have hl : 0x30 ≤ b.toNat := h.1
  have hh : b.toNat ≤ 0x39 := h.2
  have hv : digitValue b < 10 := by
    rw [digitValue]
    omega
  refine ⟨hv, ?_⟩
  rw [hs _ hv, digitValue, Nat.sub_add_cancel hl, UInt8.ofNat_toNat]

/-- A digit that is taken into the significand is its last one. -/
theorem addWhole_of_not_full {m : Mantissa} {b : UInt8} (h : (m.addWhole b).full = false) :
    m.full = false ∧ (m.addWhole b).significand = m.significand * 10 + digitValue b := by
  unfold Mantissa.addWhole at h ⊢
  dsimp only at h ⊢
  split at h
  · cases h
  · rename_i hm
    rw [if_neg hm]
    exact ⟨h, rfl⟩

/-- **Digits without a spare zero are the text of their value.** -/
theorem eq_renderNat {b : UInt8} {digits : List UInt8} (hz : b ≠ Byte.zero ∨ digits = [])
    (hd : ∀ c ∈ b :: digits, Byte.isDigit c = true)
    (hf : ((b :: digits).foldl Mantissa.addWhole ⟨0, 0, false⟩).full = false) :
    b :: digits =
      renderNat ((b :: digits).foldl Mantissa.addWhole ⟨0, 0, false⟩).significand := by
  induction digits using List.reverseRecOn with
  | nil =>
    obtain ⟨hb, hv⟩ := digitByte_digitValue (hd b List.mem_cons_self)
    have hs := (addWhole_of_not_full hf).2
    rw [List.foldl_cons, List.foldl_nil, hs, Nat.zero_mul, Nat.zero_add, renderNat_of_lt hb, hv]
  | append_singleton digits c ih =>
    have hb : b ≠ Byte.zero := hz.resolve_right (by simp)
    rw [← List.cons_append, List.foldl_append, List.foldl_cons, List.foldl_nil] at hf ⊢
    obtain ⟨hfull, hs⟩ := addWhole_of_not_full hf
    have ih := ih (.inl hb) (fun d hm => hd d (by simp at hm ⊢; tauto)) hfull
    obtain ⟨hc, hv⟩ := digitByte_digitValue (hd c (by simp))
    -- the digits before the last are not zero, since they begin with something else
    have hpos : ((b :: digits).foldl Mantissa.addWhole ⟨0, 0, false⟩).significand ≠ 0 := by
      intro h0
      rw [h0] at ih
      exact hb (List.cons.inj ih).1
    rw [hs]
    generalize ((b :: digits).foldl Mantissa.addWhole ⟨0, 0, false⟩).significand = n at ih hpos
    rw [renderNat_of_le (by omega), show (n * 10 + digitValue c) / 10 = n by omega,
      show (n * 10 + digitValue c) % 10 = digitValue c by omega, hv, ← ih]

/-- What stands before the point is a digit with no spare zero. -/
theorem exists_digits_of_wholeDigits {s digits r : List UInt8}
    (h : wholeDigits s = .ok (digits, r)) :
    ∃ b more, digits = b :: more ∧ (b ≠ Byte.zero ∨ more = []) ∧
      ∀ c ∈ digits, Byte.isDigit c = true := by
  unfold wholeDigits at h
  split at h
  · cases h
  · rename_i b s
    split at h
    · rename_i hz
      have hzero : ∀ c ∈ [b], Byte.isDigit c = true := by
        intro c hc
        rw [List.mem_singleton.1 hc, hz]
        decide
      cases s with
      | nil =>
        cases h
        exact ⟨b, [], rfl, .inr rfl, hzero⟩
      | cons d s =>
        dsimp only at h
        split at h
        · cases h
        · cases h
          exact ⟨b, [], rfl, .inr rfl, hzero⟩
    · rename_i hz
      split at h
      · rename_i hb
        cases h
        refine ⟨b, _, rfl, .inl hz, fun c hc => ?_⟩
        rcases List.mem_cons.1 hc with rfl | hc
        · exact hb
        · exact List.mem_takeWhile_imp hc
      · cases h

/-! ## 2.  Numbers -/

theorem realNumber_ne_whole {negative : Bool} {significand : Nat} {exponent : Int}
    {s r : List UInt8} {n : Int} {fits : -0x8000000000000000 ≤ n ∧ n < 0x10000000000000000} :
    realNumber negative significand exponent s ≠ .ok (.whole n fits, r) := by
  intro h
  unfold realNumber at h
  split at h <;> cases h

theorem scientific_ne_whole {negative : Bool} {m : Mantissa} {s r : List UInt8} {n : Int}
    {fits : -0x8000000000000000 ≤ n ∧ n < 0x10000000000000000} :
    scientific negative m s ≠ .ok (.whole n fits, r) := by
  intro h
  unfold scientific at h
  generalize exponentSign s = p at h
  obtain ⟨below, u⟩ := p
  dsimp only at h
  split at h
  · cases h
  · split at h
    · split at h
      · exact realNumber_ne_whole h
      · split at h
        · exact realNumber_ne_whole h
        · cases h
    · cases h

theorem eq_of_ofInt?_eq_some {m n : Int}
    {fits : -0x8000000000000000 ≤ n ∧ n < 0x10000000000000000}
    (h : Number.ofInt? m = some (.whole n fits)) : m = n := by
  unfold Number.ofInt? at h
  split at h
  · exact (Number.whole.inj (Option.some.inj h))
  · cases h

theorem wholeNumber_eq_whole {negative : Bool} {m : Mantissa} {s r : List UInt8} {n : Int}
    {fits : -0x8000000000000000 ≤ n ∧ n < 0x10000000000000000}
    (h : wholeNumber negative m s = .ok (.whole n fits, r)) :
    m.full = false ∧ m.significand = n.natAbs ∧ negative = Decidable.decide (n < 0) ∧ s = r := by
  unfold wholeNumber at h
  dsimp only at h
  split at h
  · exact absurd h realNumber_ne_whole
  · rename_i hm
    have hfull : m.full = false := Bool.eq_false_iff.2 fun hf => hm (.inl hf)
    split at h
    · rename_i hn
      cases h
      have hv := eq_of_ofInt?_eq_some hn
      refine ⟨hfull, ?_, ?_, rfl⟩ <;> clear fits hn
      · split at hv <;> omega
      · cases negative with
        | true =>
          have h0 : m.significand ≠ 0 := fun h0 => hm (.inr ⟨rfl, h0⟩)
          rw [if_pos rfl] at hv
          exact (decide_eq_true (by omega)).symm
        | false =>
          rw [if_neg (by decide)] at hv
          exact (decide_eq_false (by omega)).symm
    · exact absurd h realNumber_ne_whole

/-- A whole number is written as its digits. -/
theorem eq_append_of_readNumber_whole {negative : Bool} {s r : List UInt8} {n : Int}
    {fits : -0x8000000000000000 ≤ n ∧ n < 0x10000000000000000}
    (h : readNumber negative s = .ok (.whole n fits, r)) :
    s = renderNat n.natAbs ++ r ∧ negative = Decidable.decide (n < 0) := by
  unfold readNumber at h
  split at h
  · cases h
  rename_i digits u hw
  dsimp only at h
  split at h
  · cases h
  rename_i fraction v hf
  have hwhole : ∀ v' : List UInt8,
      (if fraction.isEmpty then
          wholeNumber negative (digits.foldl Mantissa.addWhole ⟨0, 0, false⟩) v'
        else realNumber negative
          (fraction.foldl Mantissa.addFraction
            { digits.foldl Mantissa.addWhole ⟨0, 0, false⟩ with full := false }).significand
          (fraction.foldl Mantissa.addFraction
            { digits.foldl Mantissa.addWhole ⟨0, 0, false⟩ with full := false }).exponent v') =
        .ok (.whole n fits, r) →
      v' = v → s = renderNat n.natAbs ++ r ∧ negative = Decidable.decide (n < 0) := by
    rintro v' hn rfl
    split at hn
    · rename_i hempty
      obtain ⟨hfull, hs, hneg, rfl⟩ := wholeNumber_eq_whole hn
      obtain ⟨b, more, rfl, hz, hd⟩ := exists_digits_of_wholeDigits hw
      -- a fraction has digits, so there was no point
      have hu : u = v' := by
        unfold fractionDigits at hf
        split at hf
        · rename_i t
          cases t with
          | nil => cases hf
          | cons d t =>
            dsimp only at hf
            split at hf
            · rename_i hd
              cases hf
              rw [List.takeWhile_cons_of_pos hd] at hempty
              cases hempty
            · cases hf
        · cases hf
          rfl
      rw [← hs, ← eq_renderNat hz hd hfull, ← hu]
      exact ⟨(wholeDigits_exact hw).1, hneg⟩
    · exact absurd hn realNumber_ne_whole
  cases v with
  | nil => exact hwhole [] h rfl
  | cons e v =>
    dsimp only at h
    split at h
    · exact absurd h scientific_ne_whole
    · exact hwhole _ h rfl

/-! ## 3.  Documents -/

theorem renderInt_of_decide {n : Int} {negative : Bool} (h : negative = Decidable.decide (n < 0)) :
    renderInt n = if negative then Byte.minus :: renderNat n.natAbs else renderNat n.natAbs := by
  rw [renderInt]
  by_cases hn : n < 0 <;> simp [h, hn]

/-- **A text is a whole number exactly if it is the integer literal.** -/
theorem read_whole_iff {depth : Nat} {s r : List UInt8} {n : Int}
    (fits : -0x8000000000000000 ≤ n ∧ n < 0x10000000000000000) (hr : Stops r) :
    (document depth).read s = .ok (.number (.whole n fits), r) ↔
      skipBlank s = renderInt n ++ r := by
  constructor
  · intro h
    obtain ⟨b, t, hb, hv⟩ := read_document_eq_ok_iff.1 h
    rw [hb]
    cases hv with
    | negative read =>
      obtain ⟨rfl, hneg⟩ := eq_append_of_readNumber_whole read
      rw [renderInt_of_decide hneg, if_pos rfl, List.cons_append]
    | number digit read =>
      obtain ⟨he, hneg⟩ := eq_append_of_readNumber_whole read
      rw [renderInt_of_decide hneg, if_neg (by decide), he]
    | object _ read =>
      obtain ⟨entries, members, t, -, -, -, hj⟩ := objectOf_everyMember_iff.1 read
      cases hj
  · intro h
    have hskip : skipBlank (renderInt n ++ r) = renderInt n ++ r := by
      rw [← h, skipBlank_skipBlank]
    have he : valueOf (innerOf depth) s = valueOf (innerOf depth) (renderInt n ++ r) := by
      rw [valueOf, valueOf, hskip, h]
    rw [read_document, he, valueOf_number fits hr]

end AgentIntake.Json
