import AgentIntake.Text.Hex
import AgentIntake.Text.Utf8

/-!
# What is written as text is read back

The character that was written comes off the front of a text whatever follows it
(`next?_utf8EncodeChar`), so the reader of strings can be followed character by character, and a
whole string is read back (`decode?_encode`).  Hexadecimal digits give back the bytes that they were
made from (`decode_encode`).

Both are about bytes below a bound.  A byte made from a number that is small enough has that number
for its value, and then everything is arithmetic on the numbers.
-/

namespace AgentIntake

/-! ## 1.  Bytes of small numbers -/

theorem toNat_ofNat_of_lt {n : Nat} (h : n < 256) : (UInt8.ofNat n).toNat = n :=
  UInt8.toNat_ofNat_of_lt' h

theorem ofNat_lt_iff {n : Nat} (h : n < 256) (b : UInt8) : UInt8.ofNat n < b ↔ n < b.toNat := by
  rw [UInt8.lt_iff_toNat_lt, toNat_ofNat_of_lt h]

namespace Utf8

/-! ## 2.  Characters -/

theorem tail?_ofNat {n : Nat} (h : n < 64) : tail? (UInt8.ofNat (n + 0x80)) = some n := by
  have hv : (UInt8.ofNat (n + 0x80)).toNat = n + 0x80 := toNat_ofNat_of_lt (by omega)
  rw [tail?, if_pos, hv, Nat.add_sub_cancel]
  simp only [UInt8.le_iff_toNat_le, hv]
  exact ⟨Nat.le_add_left .., Nat.le_of_lt_succ (show n + 0x80 < 0xBF + 1 by omega)⟩

theorem scalar?_val {c : Char} {least : Nat} (h : least ≤ c.val.toNat) :
    scalar? least c.val.toNat = some c := by
  have hc : c.val.toNat.isValidChar := c.valid
  rw [scalar?, dif_pos hc, if_pos h]
  rfl

/-- **The character that was written comes off the front.** -/
theorem next?_utf8EncodeChar (c : Char) (rest : List UInt8) :
    next? (String.utf8EncodeChar c ++ rest) = some (c, rest) := by
  have hc : c.val.toNat < 0x110000 := by
    have := c.valid
    simp only [UInt32.isValidChar, Nat.isValidChar] at this
    omega
  unfold String.utf8EncodeChar
  dsimp only
  generalize hv : c.val.toNat = v at hc
  have hs : ∀ {least n : Nat}, least ≤ v → n = v → scalar? least n = some c := by
    rintro least n hl rfl
    rw [← hv] at hl ⊢
    exact scalar?_val hl
  split
  · have ha : v < 256 := by omega
    rw [List.singleton_append]
    unfold next?
    dsimp only
    rw [if_pos ((ofNat_lt_iff ha 0x80).2 (show v < 128 by omega)), toNat_ofNat_of_lt ha,
      hs (Nat.zero_le v) rfl]
    rfl
  · split
    · have ha : v / 64 % 0x20 + 0xC0 < 256 := by omega
      rw [List.cons_append, List.singleton_append, next?,
        if_neg (mt (ofNat_lt_iff ha 0x80).1 (show ¬ _ < 128 by omega)),
        if_neg (mt (ofNat_lt_iff ha 0xC0).1 (show ¬ _ < 192 by omega)),
        if_pos ((ofNat_lt_iff ha 0xE0).2 (show _ < 224 by omega)),
        tail?_ofNat (Nat.mod_lt _ (by decide)), toNat_ofNat_of_lt ha]
      have hn : (v / 64 % 0x20 + 0xC0 - 0xC0) * 64 + v % 0x40 = v := by omega
      simp only [Option.bind_eq_bind, Option.bind_some, hs (show 0x80 ≤ v by omega) hn]
      rfl
    · split
      · have ha : v / 4096 % 0x10 + 0xE0 < 256 := by omega
        rw [List.cons_append, List.cons_append, List.singleton_append, next?,
          if_neg (mt (ofNat_lt_iff ha 0x80).1 (show ¬ _ < 128 by omega)),
          if_neg (mt (ofNat_lt_iff ha 0xC0).1 (show ¬ _ < 192 by omega)),
          if_neg (mt (ofNat_lt_iff ha 0xE0).1 (show ¬ _ < 224 by omega)),
          if_pos ((ofNat_lt_iff ha 0xF0).2 (show _ < 240 by omega))]
        dsimp only
        rw [tail?_ofNat (Nat.mod_lt _ (by decide)), tail?_ofNat (Nat.mod_lt _ (by decide)),
          toNat_ofNat_of_lt ha]
        have hn : ((v / 4096 % 0x10 + 0xE0 - 0xE0) * 64 + v / 64 % 0x40) * 64 + v % 0x40 = v := by
          omega
        simp only [Option.bind_eq_bind, Option.bind_some, hs (show 0x800 ≤ v by omega) hn]
        rfl
      · have ha : v / 262144 % 0x08 + 0xF0 < 256 := by omega
        rw [List.cons_append, List.cons_append, List.cons_append, List.singleton_append, next?,
          if_neg (mt (ofNat_lt_iff ha 0x80).1 (show ¬ _ < 128 by omega)),
          if_neg (mt (ofNat_lt_iff ha 0xC0).1 (show ¬ _ < 192 by omega)),
          if_neg (mt (ofNat_lt_iff ha 0xE0).1 (show ¬ _ < 224 by omega)),
          if_neg (mt (ofNat_lt_iff ha 0xF0).1 (show ¬ _ < 240 by omega)),
          if_pos ((ofNat_lt_iff ha 0xF8).2 (show _ < 248 by omega))]
        dsimp only
        rw [tail?_ofNat (Nat.mod_lt _ (by decide)), tail?_ofNat (Nat.mod_lt _ (by decide)),
          tail?_ofNat (Nat.mod_lt _ (by decide)), toNat_ofNat_of_lt ha]
        have hn : (((v / 262144 % 0x08 + 0xF0 - 0xF0) * 64 + v / 4096 % 0x40) * 64 +
            v / 64 % 0x40) * 64 + v % 0x40 = v := by
          omega
        simp only [Option.bind_eq_bind, Option.bind_some, hs (show 0x10000 ≤ v by omega) hn]
        rfl

/-- A byte of a character is the character itself or none of the first 128. -/
theorem toNat_of_mem_utf8EncodeChar {c : Char} {b : UInt8} (h : b ∈ String.utf8EncodeChar c) :
    b.toNat = c.toNat ∨ 0x80 ≤ b.toNat := by
  unfold String.utf8EncodeChar at h
  dsimp only at h
  split at h
  · rw [List.mem_singleton.1 h]
    exact .inl (toNat_ofNat_of_lt (by omega))
  · refine .inr ?_
    repeat' split at h
    all_goals
      simp only [List.mem_cons, List.not_mem_nil, or_false] at h
      rcases h with rfl | rfl | rfl | rfl <;> rw [toNat_ofNat_of_lt (by omega)] <;> omega

/-- What was read so far comes before what was written. -/
theorem decodeOnto_flatMap (cs done : List Char) :
    decodeOnto done (cs.flatMap String.utf8EncodeChar) = some (cs.reverse ++ done) := by
  induction cs generalizing done with
  | nil => rw [List.flatMap_nil, decodeOnto, List.reverse_nil, List.nil_append]
  | cons c cs ih =>
    have hc := next?_utf8EncodeChar c (cs.flatMap String.utf8EncodeChar)
    rw [List.flatMap_cons]
    generalize String.utf8EncodeChar c ++ cs.flatMap String.utf8EncodeChar = s at hc
    cases s with
    | nil => cases hc
    | cons b s =>
      rw [decodeOnto]
      split
      · rename_i hn
        cases hc.symm.trans hn
      · rename_i d r hn
        cases hc.symm.trans hn
        rw [ih, List.reverse_cons, List.append_assoc, List.singleton_append]

/-- **A string is read back from its bytes.** -/
theorem decode?_encode (s : String) : decode? (encode s) = some s := by
  rw [decode?, encode, decodeOnto_flatMap, List.append_nil, Option.map_some, List.reverse_reverse,
    String.ofList_toList]

end Utf8

namespace Hex

/-! ## 3.  Hexadecimal digits -/

theorem utf8EncodeChar_digit : ∀ n < 16,
    String.utf8EncodeChar (digit n) = [(digit n).toNat.toUInt8] := by
  decide

theorem value?_digit : ∀ n < 16, value? (digit n).toNat.toUInt8 = some n := by
  decide

/-- The bytes of hexadecimal text. -/
theorem utf8_encode (bytes : List UInt8) :
    Utf8.encode (encode bytes) = bytes.flatMap fun b =>
      [(digit (b.toNat / 16)).toNat.toUInt8, (digit (b.toNat % 16)).toNat.toUInt8] := by
  rw [Utf8.encode, encode, String.toList_ofList, List.flatMap_assoc]
  refine congrArg (List.flatMap · bytes) (funext fun b => ?_)
  have hb := b.toNat_lt
  rw [List.flatMap_cons, List.flatMap_singleton, utf8EncodeChar_digit _ (by omega),
    utf8EncodeChar_digit _ (by omega)]
  rfl

theorem decodeFrom_digits (bytes : List UInt8) (place : Nat) (done : List UInt8) :
    decodeFrom place done (bytes.flatMap fun b =>
      [(digit (b.toNat / 16)).toNat.toUInt8, (digit (b.toNat % 16)).toNat.toUInt8]) =
        .ok (done.reverse ++ bytes) := by
  induction bytes generalizing place done with
  | nil => simp [decodeFrom]
  | cons b bytes ih =>
    have hb := b.toNat_lt
    have hn : UInt8.ofNat (16 * (b.toNat / 16) + b.toNat % 16) = b := by
      rw [Nat.div_add_mod, UInt8.ofNat_toNat]
    rw [List.flatMap_cons, List.cons_append, List.singleton_append, decodeFrom,
      value?_digit _ (by omega), value?_digit _ (by omega)]
    dsimp only
    rw [hn, ih, List.reverse_cons, List.append_assoc, List.singleton_append]

/-- **The digits of bytes give back the bytes.** -/
theorem decode_encode (bytes : List UInt8) : decode (Utf8.encode (encode bytes)) = .ok bytes := by
  have hl : (Utf8.encode (encode bytes)).length = 2 * bytes.length := by
    rw [utf8_encode]
    induction bytes with
    | nil => rfl
    | cons b bytes ih =>
      rw [List.flatMap_cons, List.length_append, ih, List.length_cons]
      exact Nat.add_comm ..
  rw [decode, if_neg (by omega), utf8_encode, decodeFrom_digits]
  rfl

end Hex

end AgentIntake
