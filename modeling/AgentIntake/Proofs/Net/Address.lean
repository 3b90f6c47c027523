import AgentIntake.Net.Address
import AgentIntake.Proofs.Text.Digits

/-!
# Addresses are read back from their texts

The text of an address, of either version, is read as that address (`ofText?_text`).
-/

namespace AgentIntake

open Digits (NoDigit noDigit_nil noDigit_cons isBase_ten isBase_sixteen)

/-! ## 1.  Addresses of version 4 -/

namespace Address

@[simp] theorem char?_cons (c : Char) (r : List Char) : char? c (c :: r) = some r :=
  if_pos rfl

theorem mem_of_char? {c : Char} {s r : List Char} (h : char? c s = some r) : c ∈ s := by
  unfold char? at h
  split at h
  · cases h
  · split at h
    · rename_i hc
      exact hc ▸ List.mem_cons_self
    · cases h

/-- A number of a byte is read back. -/
theorem octet?_toDigits (x : UInt8) {rest : List Char} (hr : NoDigit 10 rest) :
    octet? (Nat.toDigits 10 x.toNat ++ rest) = some (x, rest) := by
  have hx := x.toNat_lt
  have hlength := isBase_ten.length_valuesOf_le (n := x.toNat) (k := 3) (by decide) (by omega)
  rw [octet?, isBase_ten.span_toDigits x.toNat hr]
  dsimp only
  rw [isBase_ten.toNat_valuesOf, if_neg, UInt8.ofNat_toNat]
  rintro (hnil | hlong | ⟨hl, hzero⟩ | hlarge)
  · exact isBase_ten.valuesOf_ne_nil _ hnil
  · exact Nat.not_lt.2 hlength hlong
  · exact isBase_ten.head?_valuesOf _ hl hzero
  · omega

theorem octet?_of_noDigit {s : List Char} (h : NoDigit 10 s) : octet? s = none := by
  rw [octet?, Digits.span_of_noDigit h]
  rfl

/-- An address of version 4 begins with a digit. -/
theorem v4?_of_noDigit {s : List Char} (h : NoDigit 10 s) : v4? s = none := by
  rw [v4?, octet?_of_noDigit h]
  rfl

/-- There are points in an address of version 4. -/
theorem v4?_of_notMem {s : List Char} (h : '.' ∉ s) : v4? s = none := by
  rw [v4?]
  cases ho : octet? s with
  | none => rfl
  | some p =>
    obtain ⟨a, t⟩ := p
    have ht : t = (Digits.span 10 s).2 := by
      unfold octet? at ho
      dsimp only at ho
      split at ho
      · cases ho
      · cases ho
        rfl
    have hsub : ∀ c ∈ t, c ∈ s := fun c hc => (List.dropWhile_sublist _).subset (ht ▸ hc)
    cases hc : char? '.' t with
    | none =>
      show ((char? '.' t).bind fun _ => _) = none
      rw [hc]
      rfl
    | some r => exact absurd (hsub _ (mem_of_char? hc)) h

end Address

theorem Ipv4.toList_text (x : Ipv4) : x.text.toList =
    Nat.toDigits 10 x.a.toNat ++ '.' :: (Nat.toDigits 10 x.b.toNat ++ '.' ::
      (Nat.toDigits 10 x.c.toNat ++ '.' :: Nat.toDigits 10 x.d.toNat)) := by
  have hpoint : (toString ".").toList = ['.'] := rfl
  simp [Ipv4.text, String.toList_append, Nat.toString_eq_repr, Nat.toList_repr, hpoint]

namespace Address

/-- **An address of version 4 is read back.** -/
theorem v4?_text (x : Ipv4) {rest : List Char} (hr : NoDigit 10 rest) :
    v4? (x.text.toList ++ rest) = some (x, rest) := by
  have hpoint : ∀ r, NoDigit 10 ('.' :: r) := noDigit_cons rfl
  simp only [x.toList_text, List.append_assoc, List.cons_append]
  rw [v4?, octet?_toDigits x.a (hpoint _)]
  simp only [Option.bind_eq_bind, Option.bind_some, char?_cons, octet?_toDigits _ (hpoint _),
    octet?_toDigits x.d hr]
  rfl

/-! ## 2.  Groups -/

/-- A group is read back. -/
theorem group?_toDigits (g : UInt16) {rest : List Char} (hr : NoDigit 16 rest) :
    group? (Nat.toDigits 16 g.toNat ++ rest) = some (g, rest) := by
  have hg := g.toNat_lt
  have hlength := isBase_sixteen.length_valuesOf_le (n := g.toNat) (k := 4) (by decide) (by omega)
  rw [group?, isBase_sixteen.span_toDigits g.toNat hr]
  dsimp only
  rw [isBase_sixteen.toNat_valuesOf, if_neg, UInt16.ofNat_toNat]
  rintro (hnil | hlong)
  · exact isBase_sixteen.valuesOf_ne_nil _ hnil
  · exact Nat.not_lt.2 hlength hlong

theorem group?_of_noDigit {s : List Char} (h : NoDigit 16 s) : group? s = none := by
  rw [group?, Digits.span_of_noDigit h]
  rfl

/-- Groups with colons between, and one before the first of them unless it comes `first`. -/
def chars : Bool → List UInt16 → List Char
  | _, [] => []
  | true, g :: gs => Nat.toDigits 16 g.toNat ++ chars false gs
  | false, g :: gs => ':' :: (Nat.toDigits 16 g.toNat ++ chars false gs)

/-- No group follows: nothing does, or the place where zeros are left out. -/
inductive Ends : List Char → Prop where
  | nil : Ends []
  | gap (s : List Char) : Ends (':' :: ':' :: s)

theorem Ends.noDigit {base : Nat} (hc : Digits.value? base ':' = none) {rest : List Char}
    (h : Ends rest) : NoDigit base rest := by
  cases h with
  | nil => exact noDigit_nil base
  | gap s => exact noDigit_cons hc _

theorem noDigit_chars {base : Nat} (hc : Digits.value? base ':' = none) (gs : List UInt16)
    {rest : List Char} (h : Ends rest) : NoDigit base (chars false gs ++ rest) := by
  cases gs with
  | nil => exact h.noDigit hc
  | cons g gs => exact noDigit_cons hc _

/-- Digits and colons are all that groups are written with. -/
theorem of_mem_chars {first : Bool} {gs : List UInt16} {c : Char} (h : c ∈ chars first gs) :
    (Digits.value? 16 c).isSome = true ∨ c = ':' := by
  induction gs generalizing first with
  | nil =>
    cases first <;> cases h
  | cons g gs ih =>
    have hrest : c ∈ Nat.toDigits 16 g.toNat ++ chars false gs →
        (Digits.value? 16 c).isSome = true ∨ c = ':' := fun hm =>
      (List.mem_append.1 hm).elim (fun hd => .inl (isBase_sixteen.isSome_value? _ c hd)) ih
    cases first with
    | true => exact hrest h
    | false => exact (List.mem_cons.1 h).elim .inr hrest

theorem notMem_chars (first : Bool) (gs : List UInt16) : '.' ∉ chars first gs := fun h =>
  absurd (of_mem_chars h) (by decide)

/-- No group is read where none follows. -/
theorem groupsUpTo_of_ends (first : Bool) (limit : Nat) {rest : List Char} (h : Ends rest) :
    groupsUpTo first limit rest = ⟨[], false, rest⟩ := by
  cases limit with
  | zero => rfl
  | succ limit =>
    have hnone : ∀ t, NoDigit 10 t → NoDigit 16 t →
        (if limit = 0 then none else v4? t) = none ∧ group? t = none := fun t h10 h16 =>
      ⟨by rw [v4?_of_noDigit h10, ite_self], group?_of_noDigit h16⟩
    rw [groupsUpTo]
    cases first with
    | true =>
      obtain ⟨h4, hg⟩ := hnone rest (h.noDigit rfl) (h.noDigit rfl)
      simp only [if_true, h4, hg]
    | false =>
      cases h with
      | nil => rfl
      | gap s =>
        obtain ⟨h4, hg⟩ := hnone (':' :: s) (noDigit_cons rfl _) (noDigit_cons rfl _)
        simp only [Bool.false_eq_true, if_false, char?_cons, h4, hg]

/-- A group that is not the beginning of an address of version 4 is read, and then those behind
it. -/
theorem groupsUpTo_cons (first : Bool) (limit : Nat) (g : UInt16) {rest : List Char}
    (hr : NoDigit 16 rest) (h4 : v4? (Nat.toDigits 16 g.toNat ++ rest) = none) :
    groupsUpTo first (limit + 1) ((if first then [] else [':']) ++
        (Nat.toDigits 16 g.toNat ++ rest)) =
      { groupsUpTo false limit rest with groups := g :: (groupsUpTo false limit rest).groups } := by
  have hg := group?_toDigits g hr
  cases first <;>
    simp only [groupsUpTo, Bool.false_eq_true, if_false, if_true, List.nil_append,
      List.singleton_append, char?_cons, h4, ite_self, hg]

/-- **Groups are read back.** -/
theorem groupsUpTo_chars (first : Bool) {limit : Nat} {gs : List UInt16} (hl : gs.length ≤ limit)
    {rest : List Char} (h : Ends rest) (hp : '.' ∉ rest) :
    groupsUpTo first limit (chars first gs ++ rest) = ⟨gs, false, rest⟩ := by
  induction gs generalizing first limit with
  | nil =>
    have : chars first [] = [] := by cases first <;> rfl
    rw [this]
    exact groupsUpTo_of_ends first limit h
  | cons g gs ih =>
    obtain ⟨limit, rfl⟩ : ∃ l, limit = l + 1 := ⟨limit - 1, by simp at hl; omega⟩
    have hchars : chars first (g :: gs) ++ rest =
        (if first then [] else [':']) ++ (Nat.toDigits 16 g.toNat ++ (chars false gs ++ rest)) := by
      cases first <;> simp [chars]
    have h4 : v4? (Nat.toDigits 16 g.toNat ++ (chars false gs ++ rest)) = none := by
      refine v4?_of_notMem fun hm => ?_
      rw [← List.append_assoc] at hm
      exact (List.mem_append.1 hm).elim (notMem_chars true (g :: gs)) hp
    rw [hchars, groupsUpTo_cons first limit g (noDigit_chars rfl gs h) h4,
      ih false (Nat.le_of_succ_le_succ hl)]

/-! ## 3.  Addresses of version 6 -/

theorem ofGroups?_groups (x : Ipv6) : ofGroups? x.groups = some x :=
  dif_pos x.eight

/-- Eight groups are an address. -/
theorem v6?_of_eight {s rest : List Char} {x : Ipv6} {dotted : Bool}
    (h : groupsUpTo true 8 s = ⟨x.groups, dotted, rest⟩) : v6? s = some (x, rest) := by
  rw [v6?, h]
  simp [x.eight, ofGroups?_groups]

/-- Where groups are left out, zeros fill the place. -/
theorem v6?_of_gap {s t rest : List Char} {x : Ipv6} {front back : List UInt16} {dotted : Bool}
    (hfront : groupsUpTo true 8 s = ⟨front, false, ':' :: ':' :: t⟩)
    (hback : groupsUpTo true (7 - front.length) t = ⟨back, dotted, rest⟩)
    (hl : front.length ≠ 8)
    (hx : front ++ List.replicate (8 - front.length - back.length) 0 ++ back = x.groups) :
    v6? s = some (x, rest) := by
  rw [List.append_assoc] at hx
  rw [v6?, hfront]
  simp [hl, hback, hx, ofGroups?_groups]

end Address

namespace Ipv6

open Address

theorem toList_groupsText (gs : List UInt16) : (groupsText gs).toList = chars true gs := by
  cases gs with
  | nil => rfl
  | cons g gs =>
    induction gs generalizing g with
    | nil => simp [groupsText, groupText, chars]
    | cons g' gs ih =>
      have htext : groupsText (g :: g' :: gs) = groupText g ++ ":" ++ groupsText (g' :: gs) :=
        String.intercalate_cons_cons
      rw [htext, String.toList_append, String.toList_append, ih, groupText, String.toList_ofList,
        List.append_assoc]
      rfl

/-- So many groups at the front are zeros. -/
theorem replicate_zerosAt (gs : List UInt16) :
    List.replicate (zerosAt gs) 0 ++ gs.drop (zerosAt gs) = gs := by
  induction gs with
  | nil => rfl
  | cons g gs ih =>
    by_cases hg : g = 0
    · have hz : zerosAt (g :: gs) = zerosAt gs + 1 := by simp [zerosAt, hg]
      rw [hz, List.replicate_succ, List.drop_succ_cons, List.cons_append, ih, hg]
    · have hz : zerosAt (g :: gs) = 0 := by simp [zerosAt, hg]
      rw [hz]
      rfl

/-- **The longest run of zeros consists of zeros.** -/
theorem take_longestZeros (gs : List UInt16) :
    gs.take (longestZeros gs).1 ++ List.replicate (longestZeros gs).2 0 ++
      gs.drop ((longestZeros gs).1 + (longestZeros gs).2) = gs := by
  induction gs with
  | nil => rfl
  | cons g gs ih =>
    rw [longestZeros]
    dsimp only
    split
    · rw [List.take_zero, List.nil_append, Nat.zero_add]
      exact replicate_zerosAt (g :: gs)
    · rw [List.take_succ_cons, Nat.add_right_comm, List.drop_succ_cons, List.cons_append,
        List.cons_append, ih]

/-- The number whose high and low bytes are those of a group is the group. -/
theorem bytes_eq (g : UInt16) : (g >>> 8).toUInt8.toUInt16 * 256 + g.toUInt8.toUInt16 = g := by
  rw [← UInt16.toNat_inj]
  have := g.toNat_lt
  simp [Nat.shiftRight_eq_div_pow]
  omega

/-- An address that stands for one of version 4 ends with its groups. -/
theorem groups_of_mapped? {x : Ipv6} {v4 : Ipv4} (h : x.mapped? = some v4) :
    x.groups = [0, 0, 0, 0, 0, 0xFFFF] ++ Address.Ipv4.groups v4 := by
  unfold mapped? at h
  split at h
  · rename_i g g' hg
    cases h
    rw [hg, Address.Ipv4.groups, bytes_eq, bytes_eq]
    rfl
  · cases h

theorem toList_text_of_mapped? {x : Ipv6} {v4 : Ipv4} (h : x.mapped? = some v4) :
    x.text.toList = ':' :: ':' :: ("ffff:".toList ++ v4.text.toList) := by
  rw [text, h, String.toList_append]
  rfl

/-- An address that stands for one of version 4 is read back. -/
theorem v6?_of_mapped? {x : Ipv6} {v4 : Ipv4} (h : x.mapped? = some v4) :
    v6? x.text.toList = some (x, []) := by
  have hx := groups_of_mapped? h
  -- the last two groups are read as an address of version 4, behind the one that marks it
  have hback : groupsUpTo true 7 ("ffff:".toList ++ v4.text.toList) =
      ⟨0xFFFF :: Address.Ipv4.groups v4, true, []⟩ := by
    have hv4 := v4?_text v4 (noDigit_nil 10)
    rw [List.append_nil] at hv4
    have hcolon : NoDigit 16 (':' :: v4.text.toList) := noDigit_cons rfl _
    have hgroup := groupsUpTo_cons true 6 0xFFFF hcolon (v4?_of_noDigit (noDigit_cons rfl _))
    have hfurther : groupsUpTo false 6 (':' :: v4.text.toList) =
        ⟨Address.Ipv4.groups v4, true, []⟩ := by
      rw [groupsUpTo]
      simp only [Bool.false_eq_true, if_false, char?_cons, hv4]
      rfl
    rw [hfurther] at hgroup
    exact hgroup
  rw [toList_text_of_mapped? h]
  exact v6?_of_gap (groupsUpTo_of_ends true 8 (.gap _)) hback (by decide) (by rw [hx]; rfl)

/-- An address that stands for none of version 4 is written in groups, of which at least two that
are zeros may be left out. -/
theorem toList_text_cases {x : Ipv6} (h : x.mapped? = none) :
    x.text.toList = chars true x.groups ∨
      ∃ front back, x.text.toList = chars true front ++ ':' :: ':' :: chars true back ∧
        front.length + back.length ≤ 6 ∧
        front ++ List.replicate (8 - front.length - back.length) 0 ++ back = x.groups := by
  have hzeros := take_longestZeros x.groups
  rw [text, h]
  dsimp only
  generalize (longestZeros x.groups).1 = start at *
  generalize (longestZeros x.groups).2 = length at *
  split
  · right
    refine ⟨x.groups.take start, x.groups.drop (start + length), ?_, ?_⟩
    · rw [String.toList_append, String.toList_append, toList_groupsText, toList_groupsText,
        List.append_assoc]
      rfl
    · generalize x.groups.take start = front at *
      generalize x.groups.drop (start + length) = back at *
      have hlength := congrArg List.length hzeros
      simp only [List.length_append, List.length_replicate, x.eight] at hlength
      obtain rfl : length = 8 - front.length - back.length := by omega
      exact ⟨by omega, hzeros⟩
  · exact .inl (toList_groupsText x.groups)

/-- **An address of version 6 is read back.** -/
theorem v6?_text (x : Ipv6) : v6? x.text.toList = some (x, []) := by
  have hgroups : ∀ limit gs, gs.length ≤ limit →
      groupsUpTo true limit (chars true gs) = ⟨gs, false, []⟩ := by
    intro limit gs hl
    have := groupsUpTo_chars true hl .nil List.not_mem_nil
    rwa [List.append_nil] at this
  cases hm : x.mapped? with
  | some v4 => exact v6?_of_mapped? hm
  | none =>
    rcases toList_text_cases hm with ht | ⟨front, back, ht, hl, hx⟩
    · rw [ht]
      exact v6?_of_eight (hgroups 8 x.groups (Nat.le_of_eq x.eight))
    · have hpoint : '.' ∉ ':' :: ':' :: chars true back := by simp [notMem_chars]
      rw [ht]
      exact v6?_of_gap (groupsUpTo_chars true (by omega) (.gap _) hpoint)
        (hgroups _ back (by omega)) (by omega) hx

/-- The text of an address of version 6 is none of version 4. -/
theorem v4?_text_eq_none (x : Ipv6) : v4? x.text.toList = none := by
  cases hm : x.mapped? with
  | some v4 =>
    rw [toList_text_of_mapped? hm]
    exact v4?_of_noDigit (noDigit_cons rfl _)
  | none =>
    refine v4?_of_notMem ?_
    rcases toList_text_cases hm with ht | ⟨front, back, ht, -⟩ <;> rw [ht] <;> simp [notMem_chars]

end Ipv6

/-! ## 4.  Addresses -/

/-- **An address is read back from its text.** -/
theorem IpAddress.ofText?_text (x : IpAddress) : ofText? x.text = some x := by
  cases x with
  | v4 x =>
    have h := Address.v4?_text x (noDigit_nil 10)
    rw [List.append_nil] at h
    rw [ofText?, text, h]
  | v6 x => rw [ofText?, text, x.v4?_text_eq_none, x.v6?_text]

end AgentIntake
