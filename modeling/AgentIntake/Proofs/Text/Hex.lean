import AgentIntake.Proofs.Text.RoundTrip
import Mathlib.Data.List.Induction

/-!
# Which texts are hexadecimal

A text gives bytes exactly if it has an even number of characters and all of them are hexadecimal
digits of either case (`exists_decode_iff`), and the bytes are those whose digits are the text in
lower case (`encode_of_decode`).

The reader of digits is given the UTF-8 bytes of the text, so it has to be seen that no other
character has a byte that is a digit.  The characters below 128 are few enough to look at each, and
the bytes of the others are no characters.
-/

namespace AgentIntake.Hex

/-! ## 1.  Characters -/

theorem value?_ofNat : ∀ n < 128, (Char.ofNat n).isHexDigit = true →
    ∃ v < 16, value? (UInt8.ofNat n) = some v ∧ (Char.ofNat n).toLower = digit v := by
  decide +kernel

theorem value?_ofNat_eq_none : ∀ n < 128, (Char.ofNat n).isHexDigit = false →
    value? (UInt8.ofNat n) = none := by
  decide +kernel

theorem value?_of_le {b : UInt8} (h : 0x80 ≤ b.toNat) : value? b = none := by
  have hle : ∀ c : UInt8, c.toNat < 0x80 → ¬ b ≤ c := by
    intro c hc hbc
    rw [UInt8.le_iff_toNat_le] at hbc
    omega
  rw [value?, if_neg fun h => hle 0x39 (by decide) h.2, if_neg fun h => hle 0x66 (by decide) h.2,
    if_neg fun h => hle 0x46 (by decide) h.2]

theorem toNat_lt_of_isHexDigit {c : Char} (h : c.isHexDigit = true) : c.toNat < 128 := by
  simp only [Char.isHexDigit, Char.isDigit, Bool.or_eq_true, Bool.and_eq_true, decide_eq_true_eq,
    UInt32.le_iff_toNat_le] at h
  have hv : c.val.toNat = c.toNat := rfl
  have h9 : ('9' : Char).val.toNat = 57 := rfl
  have hf : ('f' : Char).val.toNat = 102 := rfl
  have hF : ('F' : Char).val.toNat = 70 := rfl
  omega

theorem utf8EncodeChar_of_lt {c : Char} (h : c.toNat < 128) :
    String.utf8EncodeChar c = [UInt8.ofNat c.toNat] := by
  have hv : c.val.toNat ≤ 127 := Nat.le_of_lt_succ h
  rw [String.utf8EncodeChar, if_pos hv]
  rfl

/-- A digit is one byte, and its value is that of its lower case. -/
theorem exists_value {c : Char} (h : c.isHexDigit = true) :
    ∃ b v, String.utf8EncodeChar c = [b] ∧ v < 16 ∧ value? b = some v ∧ c.toLower = digit v := by
  have hlt := toNat_lt_of_isHexDigit h
  have hc : Char.ofNat c.toNat = c := Char.ofNat_toNat c
  obtain ⟨v, hv, hb, hl⟩ := value?_ofNat c.toNat hlt (by rwa [hc])
  exact ⟨_, v, utf8EncodeChar_of_lt hlt, hv, hb, by rw [← hl, hc]⟩

/-- A character that is no digit has a byte that is none. -/
theorem exists_byte_of_not_isHexDigit {c : Char} (h : c.isHexDigit = false) :
    ∃ b ∈ String.utf8EncodeChar c, value? b = none := by
  have hc : Char.ofNat c.toNat = c := Char.ofNat_toNat c
  by_cases hlt : c.toNat < 128
  · refine ⟨UInt8.ofNat c.toNat, by rw [utf8EncodeChar_of_lt hlt]; exact List.mem_cons_self, ?_⟩
    exact value?_ofNat_eq_none c.toNat hlt (by rwa [hc])
  · obtain ⟨b, t, hb⟩ := List.exists_cons_of_ne_nil (@String.utf8EncodeChar_ne_nil c)
    have hm : b ∈ String.utf8EncodeChar c := hb ▸ List.mem_cons_self
    refine ⟨b, hm, value?_of_le ?_⟩
    rcases Utf8.toNat_of_mem_utf8EncodeChar hm with he | he <;> omega

/-! ## 2.  Texts -/

/-- Only digits are read, and only in pairs. -/
theorem of_decodeFrom_eq_ok {place : Nat} {done text payload : List UInt8}
    (h : decodeFrom place done text = .ok payload) :
    text.length % 2 = 0 ∧ ∀ b ∈ text, value? b ≠ none := by
  fun_induction decodeFrom place done text with
  | case1 => exact ⟨rfl, by simp⟩
  | case2 => cases h
  | case3 => cases h
  | case4 => cases h
  | case5 place done a b rest x y hb ha ih =>
    obtain ⟨hl, hr⟩ := ih h
    refine ⟨by simp only [List.length_cons]; omega, fun c hc => ?_⟩
    rcases List.mem_cons.1 hc with rfl | hc
    · rw [ha]
      nofun
    rcases List.mem_cons.1 hc with rfl | hc
    · rw [hb]
      nofun
    · exact hr c hc

/-- Pairs of digits are read, and their bytes are written as the same digits in lower case. -/
theorem exists_decodeFrom {cs : List Char} (hl : cs.length % 2 = 0)
    (hd : ∀ c ∈ cs, c.isHexDigit = true) (place : Nat) (done : List UInt8) :
    ∃ payload, decodeFrom place done (cs.flatMap String.utf8EncodeChar) =
        .ok (done.reverse ++ payload) ∧
      (payload.flatMap fun b => [digit (b.toNat / 16), digit (b.toNat % 16)]) =
        cs.map Char.toLower := by
  induction cs using List.twoStepInduction generalizing place done with
  | nil => exact ⟨[], by simp [decodeFrom], rfl⟩
  | singleton c => simp at hl
  | cons_cons c c' cs ih _ =>
    obtain ⟨b, x, hb, hx, hbx, hlow⟩ := exists_value (hd c List.mem_cons_self)
    obtain ⟨b', y, hb', hy, hby, hlow'⟩ :=
      exists_value (hd c' (List.mem_cons_of_mem _ List.mem_cons_self))
    have hbyte : (UInt8.ofNat (16 * x + y)).toNat = 16 * x + y := toNat_ofNat_of_lt (by omega)
    obtain ⟨payload, hp, he⟩ := ih (by simp only [List.length_cons] at hl; omega)
      (fun d hm => hd d (List.mem_cons_of_mem _ (List.mem_cons_of_mem _ hm))) (place + 2)
      (UInt8.ofNat (16 * x + y) :: done)
    refine ⟨UInt8.ofNat (16 * x + y) :: payload, ?_, ?_⟩
    · rw [List.flatMap_cons, List.flatMap_cons, hb, hb', List.singleton_append,
        List.singleton_append, decodeFrom, hbx, hby]
      dsimp only
      rw [hp, List.reverse_cons, List.append_assoc, List.singleton_append]
    · rw [List.flatMap_cons, he, hbyte, show (16 * x + y) / 16 = x by omega,
        show (16 * x + y) % 16 = y by omega, List.map_cons, List.map_cons, hlow, hlow']
      rfl

theorem length_flatMap_utf8EncodeChar {cs : List Char} (hd : ∀ c ∈ cs, c.isHexDigit = true) :
    (cs.flatMap String.utf8EncodeChar).length = cs.length := by
  induction cs with
  | nil => rfl
  | cons c cs ih =>
    obtain ⟨b, v, hb, -⟩ := exists_value (hd c List.mem_cons_self)
    rw [List.flatMap_cons, hb, List.singleton_append, List.length_cons, List.length_cons,
      ih fun d hm => hd d (List.mem_cons_of_mem _ hm)]

/-- Texts of digits in pairs give bytes, and the bytes give back the text in lower case. -/
theorem exists_decode {s : String} (hl : s.length % 2 = 0)
    (hd : ∀ c ∈ s.toList, c.isHexDigit = true) :
    ∃ payload, decode (Utf8.encode s) = .ok payload ∧ encode payload = s.toLower := by
  obtain ⟨payload, hp, he⟩ := exists_decodeFrom (by rwa [String.length_toList]) hd 0 []
  refine ⟨payload, ?_, ?_⟩
  · have hlen : (Utf8.encode s).length % 2 ≠ 1 := by
      rw [Utf8.encode, length_flatMap_utf8EncodeChar hd, String.length_toList, hl]
      decide
    rw [decode, if_neg hlen]
    exact hp
  · rw [encode, he, ← String.toList_map, String.ofList_toList]
    rfl

theorem of_decode_eq_ok {s : String} {payload : List UInt8}
    (h : decode (Utf8.encode s) = .ok payload) :
    s.length % 2 = 0 ∧ ∀ c ∈ s.toList, c.isHexDigit = true := by
  unfold decode at h
  split at h
  · cases h
  · obtain ⟨hl, hv⟩ := of_decodeFrom_eq_ok h
    have hd : ∀ c ∈ s.toList, c.isHexDigit = true := by
      intro c hc
      by_contra hn
      obtain ⟨b, hb, hnone⟩ := exists_byte_of_not_isHexDigit (Bool.eq_false_iff.2 hn)
      exact hv b (List.mem_flatMap.2 ⟨c, hc, hb⟩) hnone
    rw [Utf8.encode, length_flatMap_utf8EncodeChar hd, String.length_toList] at hl
    exact ⟨hl, hd⟩

/-- **A text gives bytes if it has an even number of digits and nothing else.** -/
theorem exists_decode_iff {s : String} :
    (∃ payload, decode (Utf8.encode s) = .ok payload) ↔
      s.length % 2 = 0 ∧ ∀ c ∈ s.toList, c.isHexDigit = true :=
  ⟨fun ⟨_, h⟩ => of_decode_eq_ok h, fun ⟨hl, hd⟩ => (exists_decode hl hd).imp fun _ h => h.1⟩

/-- **The digits of the bytes are the text in lower case.** -/
theorem encode_of_decode {s : String} {payload : List UInt8}
    (h : decode (Utf8.encode s) = .ok payload) : encode payload = s.toLower := by
  obtain ⟨hl, hd⟩ := of_decode_eq_ok h
  obtain ⟨payload', hp, he⟩ := exists_decode hl hd
  rw [h] at hp
  cases hp
  exact he

end AgentIntake.Hex
