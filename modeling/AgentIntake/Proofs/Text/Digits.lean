import AgentIntake.Text.Digits
import Mathlib.Algebra.Group.Nat.Defs
import Mathlib.Data.List.TakeWhile

/-!
# Numbers are read back from their digits

The digits of a number come off the front of a text as they were written, up to the first character
that is no digit, and are the number again (`span_toDigits`, `toNat_valuesOf`).  Readers of numbers
put bounds on how many digits they take and on zeros in front, so the number of digits and the first
of them are known, too.
-/

namespace AgentIntake.Digits

variable {base : Nat}

/-- The bases that there are digits for, which are letters from ten to fifteen. -/
structure IsBase (base : Nat) : Prop where
  two_le : 2 ≤ base
  le_sixteen : base ≤ 16

theorem isBase_ten : IsBase 10 :=
  ⟨by decide, by decide⟩

theorem isBase_sixteen : IsBase 16 :=
  ⟨by decide, by decide⟩

/-! ## 1.  The digits of a number -/

/-- A digit of the base has its value. -/
theorem IsBase.value?_digitChar (hb : IsBase base) {d : Nat} (hd : d < base) :
    value? base d.digitChar = some d := by
  have h : ∀ base ≤ 16, ∀ d < base, value? base d.digitChar = some d := by decide
  exact h base hb.le_sixteen d hd

/-- The values of the digits of a number. -/
def valuesOf (base n : Nat) : List Nat :=
  (Nat.toDigits base n).filterMap (value? base)

/-- A number below the base is a digit, and any other has one digit more than its quotient. -/
theorem IsBase.toDigits_cases (hb : IsBase base) (n : Nat) :
    n < base ∧ Nat.toDigits base n = [n.digitChar] ∨
      n / base < n ∧ 0 < n / base ∧ n % base < base ∧
        Nat.toDigits base n = Nat.toDigits base (n / base) ++ [(n % base).digitChar] := by
  have := hb.two_le
  by_cases hn : n < base
  · exact .inl ⟨hn, Nat.toDigits_of_lt_base hn⟩
  · have hle : base ≤ n := Nat.le_of_not_lt hn
    exact .inr ⟨Nat.div_lt_self (by omega) hb.two_le, Nat.div_pos hle (by omega),
      Nat.mod_lt n (by omega), Nat.toDigits_of_base_le hb.two_le hle⟩

/-- Everything that is written is a digit. -/
theorem IsBase.isSome_value? (hb : IsBase base) (n : Nat) :
    ∀ c ∈ Nat.toDigits base n, (value? base c).isSome = true := by
  induction n using Nat.strongRecOn with
  | ind n ih =>
    rcases hb.toDigits_cases n with ⟨hn, hd⟩ | ⟨hlt, -, hmod, hd⟩ <;> rw [hd] <;> intro c hc
    · obtain rfl := List.mem_singleton.1 hc
      rw [hb.value?_digitChar hn]
      rfl
    · rcases List.mem_append.1 hc with hc | hc
      · exact ih (n / base) hlt c hc
      · obtain rfl := List.mem_singleton.1 hc
        rw [hb.value?_digitChar hmod]
        rfl

theorem IsBase.valuesOf_cases (hb : IsBase base) (n : Nat) :
    n < base ∧ valuesOf base n = [n] ∨
      n / base < n ∧ 0 < n / base ∧ valuesOf base n = valuesOf base (n / base) ++ [n % base] := by
  rcases hb.toDigits_cases n with ⟨hn, hd⟩ | ⟨hlt, hpos, hmod, hd⟩
  · left
    rw [valuesOf, hd, List.filterMap_cons, hb.value?_digitChar hn]
    exact ⟨hn, rfl⟩
  · right
    rw [valuesOf, hd, List.filterMap_append, List.filterMap_cons, hb.value?_digitChar hmod]
    exact ⟨hlt, hpos, rfl⟩

/-- **The digits of a number make the number.** -/
theorem IsBase.toNat_valuesOf (hb : IsBase base) (n : Nat) : toNat base (valuesOf base n) = n := by
  induction n using Nat.strongRecOn with
  | ind n ih =>
    rcases hb.valuesOf_cases n with ⟨-, hv⟩ | ⟨hlt, -, hv⟩
    · rw [hv, toNat, List.foldl_cons, List.foldl_nil, Nat.zero_mul, Nat.zero_add]
    · have hquotient := ih (n / base) hlt
      rw [toNat] at hquotient
      rw [hv, toNat, List.foldl_append, hquotient, List.foldl_cons, List.foldl_nil]
      exact Nat.div_add_mod' n base

theorem IsBase.valuesOf_ne_nil (hb : IsBase base) (n : Nat) : valuesOf base n ≠ [] := by
  rcases hb.valuesOf_cases n with ⟨-, hv⟩ | ⟨-, -, hv⟩ <;> simp [hv]

/-- A number below a power of the base has no more digits than that. -/
theorem IsBase.length_valuesOf_le (hb : IsBase base) {n k : Nat} (hk : 0 < k) (h : n < base ^ k) :
    (valuesOf base n).length ≤ k := by
  induction n using Nat.strongRecOn generalizing k with
  | ind n ih =>
    rcases hb.valuesOf_cases n with ⟨-, hv⟩ | ⟨hlt, hpos, hv⟩
    · rw [hv]
      exact hk
    · obtain ⟨k, rfl⟩ := Nat.exists_eq_succ_of_ne_zero (Nat.ne_of_gt hk)
      have hdiv : n / base < base ^ k :=
        Nat.div_lt_of_lt_mul (by rwa [Nat.mul_comm, ← Nat.pow_succ])
      have hk' : 0 < k := Nat.pos_of_ne_zero fun h0 => by
        rw [h0, Nat.pow_zero] at hdiv
        omega
      rw [hv, List.length_append, List.length_singleton]
      exact Nat.succ_le_succ (ih (n / base) hlt hk' hdiv)

/-- A number with more than one digit does not begin with a zero. -/
theorem IsBase.head?_valuesOf (hb : IsBase base) (n : Nat) (hl : 1 < (valuesOf base n).length) :
    (valuesOf base n).head? ≠ some 0 := by
  have hne : ∀ m, 0 < m → (valuesOf base m).head? ≠ some 0 := by
    intro m
    induction m using Nat.strongRecOn with
    | ind m ih =>
      intro hm
      rcases hb.valuesOf_cases m with ⟨-, hv⟩ | ⟨hlt, hpos, hv⟩
      · rw [hv]
        simpa using Nat.ne_of_gt hm
      · have hquotient := ih (m / base) hlt hpos
        obtain ⟨d, ds, hds⟩ := List.exists_cons_of_ne_nil (hb.valuesOf_ne_nil (m / base))
        rw [hds] at hquotient
        rw [hv, hds]
        exact hquotient
  refine hne n (Nat.pos_of_ne_zero ?_)
  rintro rfl
  rcases hb.valuesOf_cases 0 with ⟨-, hv⟩ | ⟨hlt, -, -⟩
  · rw [hv] at hl
    exact Nat.lt_irrefl 1 hl
  · exact Nat.not_lt_zero _ hlt

/-! ## 2.  Digits in front of a text -/

/-- No digit of the base comes first. -/
def NoDigit (base : Nat) (rest : List Char) : Prop :=
  ∀ c ∈ rest.head?, value? base c = none

theorem noDigit_nil (base : Nat) : NoDigit base [] :=
  nofun

theorem noDigit_cons {c : Char} (h : value? base c = none) (rest : List Char) :
    NoDigit base (c :: rest) := by
  rintro _ ⟨⟩
  exact h

/-- Nothing is taken where no digit comes first. -/
theorem span_of_noDigit {rest : List Char} (h : NoDigit base rest) :
    span base rest = ([], rest) := by
  cases rest with
  | nil => rfl
  | cons c rest =>
    have hc : value? base c = none := h c rfl
    simp [span, hc]

/-- **The digits of a number come off the front of a text.** -/
theorem IsBase.span_toDigits (hb : IsBase base) (n : Nat) {rest : List Char}
    (hr : NoDigit base rest) :
    span base (Nat.toDigits base n ++ rest) = (valuesOf base n, rest) := by
  have hd := hb.isSome_value? n
  have hrest := span_of_noDigit hr
  rw [span, Prod.mk.injEq] at hrest
  rw [span, List.takeWhile_append_of_pos hd, List.dropWhile_append_of_pos hd, List.filterMap_append,
    hrest.1, hrest.2, List.append_nil]
  rfl

end AgentIntake.Digits
