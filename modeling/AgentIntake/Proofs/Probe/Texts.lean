import AgentIntake.Proofs.Net.Address
import AgentIntake.Proofs.Probe.Resolution

/-!
# Resolved hosts can be written down

The addresses that a list of probe hosts comes to can be put in place of the hosts, as texts, and
come to themselves (`resolve_texts`).  No lookup is asked any more, so it does not matter what it
would say.

Two facts meet here.  The text of an address is read as that address, and it has no white space at
its ends that trimming could take away.  And addresses that have been listed once are listed so
again.
-/

namespace AgentIntake

/-! ## 1.  Texts of addresses -/

/-- A digit is not white space. -/
theorem Digits.IsBase.isBlank_of_isSome {base : Nat} (hb : IsBase base) {c : Char}
    (h : (value? base c).isSome = true) : Blank.isBlank c = false := by
  have hnone : ∀ base ≤ 16, ∀ n ∈ Blank.whiteSpace, value? base (Char.ofNat n) = none := by decide
  rw [Bool.eq_false_iff]
  intro hblank
  have := hnone base hb.le_sixteen c.toNat (List.contains_iff_mem.1 hblank)
  rw [Char.ofNat_toNat] at this
  rw [this] at h
  cases h

open Digits (isBase_ten isBase_sixteen)

theorem Ipv4.isBlank_of_mem_text {x : Ipv4} {c : Char} (h : c ∈ x.text.toList) :
    Blank.isBlank c = false := by
  have hdigit : ∀ n, c ∈ Nat.toDigits 10 n → Blank.isBlank c = false := fun n hc =>
    isBase_ten.isBlank_of_isSome (isBase_ten.isSome_value? n c hc)
  rw [x.toList_text] at h
  simp only [List.mem_append, List.mem_cons] at h
  rcases h with h | rfl | h | rfl | h | rfl | h
  · exact hdigit _ h
  · decide
  · exact hdigit _ h
  · decide
  · exact hdigit _ h
  · decide
  · exact hdigit _ h

theorem Ipv6.isBlank_of_mem_text {x : Ipv6} {c : Char} (h : c ∈ x.text.toList) :
    Blank.isBlank c = false := by
  have hchars : ∀ first gs, c ∈ Address.chars first gs → Blank.isBlank c = false := by
    intro first gs hc
    rcases Address.of_mem_chars hc with hd | rfl
    · exact isBase_sixteen.isBlank_of_isSome hd
    · decide
  cases hm : x.mapped? with
  | some v4 =>
    rw [toList_text_of_mapped? hm, ← List.cons_append, ← List.cons_append] at h
    rcases List.mem_append.1 h with h | h
    · have hmark : (':' :: ':' :: "ffff:".toList).all (!Blank.isBlank ·) = true := by decide
      simpa using List.all_eq_true.1 hmark c h
    · exact Ipv4.isBlank_of_mem_text h
  | none =>
    rcases toList_text_cases hm with ht | ⟨front, back, ht, -⟩ <;> rw [ht] at h
    · exact hchars _ _ h
    · rw [List.mem_append, List.mem_cons, List.mem_cons] at h
      rcases h with h | rfl | rfl | h
      · exact hchars _ _ h
      · decide
      · decide
      · exact hchars _ _ h

namespace IpAddress

theorem isBlank_of_mem_text {x : IpAddress} {c : Char} (h : c ∈ x.text.toList) :
    Blank.isBlank c = false := by
  cases x with
  | v4 x => exact Ipv4.isBlank_of_mem_text h
  | v6 x => exact Ipv6.isBlank_of_mem_text h

theorem text_ne_empty (x : IpAddress) : x.text ≠ "" := fun h => by
  have hread := x.ofText?_text
  rw [h, show ofText? "" = none by decide] at hread
  cases hread

/-- The text of an address is what is left when white space around it is taken away. -/
theorem names_text (x : IpAddress) {entry : String} {left right : List Char}
    (he : entry.toList = left ++ x.text.toList ++ right) (hl : Blank.AllBlank left)
    (hr : Blank.AllBlank right) : Probe.Names entry x.text where
  trimmed :=
    { padded := ⟨left, right, he, hl, hr⟩
      head := fun _ hc => isBlank_of_mem_text (List.mem_of_mem_head? hc)
      last := fun _ hc => isBlank_of_mem_text (List.mem_of_mem_getLast? hc) }
  ne := x.text_ne_empty

end IpAddress

/-! ## 2.  Lists of texts -/

namespace Probe

/-- The entries spell addresses: each of them in turn by its text, with any white space around it,
and there may be blank entries anywhere. -/
inductive Spells : List String → List IpAddress → Prop where
  | nil : Spells [] []
  | blank {entry : String} {entries : List String} {addresses : List IpAddress}
    (all : Blank.AllBlank entry.toList) (others : Spells entries addresses) :
    Spells (entry :: entries) addresses
  | text {entry : String} {x : IpAddress} {entries : List String} {addresses : List IpAddress}
    (left right : List Char) (spelt : entry.toList = left ++ x.text.toList ++ right)
    (hl : Blank.AllBlank left) (hr : Blank.AllBlank right) (others : Spells entries addresses) :
    Spells (entry :: entries) (x :: addresses)

/-- The texts alone spell addresses. -/
theorem spells_map_text (addresses : List IpAddress) :
    Spells (addresses.map IpAddress.text) addresses := by
  induction addresses with
  | nil => exact .nil
  | cons x addresses ih =>
    exact .text [] [] (List.append_nil _).symm (List.forall_mem_nil _) (List.forall_mem_nil _) ih

/-- Entries add the addresses that they spell. -/
theorem Spells.adds (lookup : Lookup) {entries : List String} {addresses : List IpAddress}
    (h : Spells entries addresses) :
    ∃ parts, List.Forall₂ (Adds lookup) entries parts ∧ parts.flatten = addresses := by
  induction h with
  | nil => exact ⟨[], .nil, rfl⟩
  | blank all _ ih =>
    obtain ⟨parts, hparts, hflatten⟩ := ih
    exact ⟨[] :: parts, .cons (.blank all) hparts, hflatten⟩
  | @text _ x _ _ left right spelt hl hr _ ih =>
    obtain ⟨parts, hparts, hflatten⟩ := ih
    refine ⟨[x] :: parts, .cons ?_ hparts, by rw [List.flatten_cons, hflatten]; rfl⟩
    exact .host (x.names_text spelt hl hr) (.literal x.ofText?_text)

/-- Addresses that are listed once are listed as they are, also when some of them are repeated
behind. -/
theorem firsts_append {addresses more : List IpAddress} (hn : addresses.Nodup)
    (hm : ∀ a ∈ more, a ∈ addresses) : Firsts (addresses ++ more) addresses := by
  have hself : Firsts addresses addresses := by
    refine ⟨hn, fun _ => Iff.rfl, List.pairwise_iff_getElem.2 fun i j hi hj hij => ?_⟩
    rwa [hn.idxOf_getElem, hn.idxOf_getElem]
  refine ⟨hn, fun a => ?_, hself.order_append more⟩
  rw [List.mem_append]
  exact ⟨.inl, fun h => h.elim id (hm a)⟩

/-- **Resolution is idempotent through texts.**  Where hosts have been resolved, the texts of their
addresses are resolved to the same addresses; so are entries that spell these addresses and then
some of them again, with white space and blank entries anywhere, whatever names are looked up to. -/
theorem resolve_texts {lookup : Lookup} {hosts : List String} {addresses : List IpAddress}
    (h : resolve lookup hosts = .ok addresses) (lookup' : Lookup) :
    resolve lookup' (addresses.map IpAddress.text) = .ok addresses ∧
    ∀ entries more, (∀ a ∈ more, a ∈ addresses) → Spells entries (addresses ++ more) →
      resolve lookup' entries = .ok addresses := by
  obtain ⟨_, -, hfirsts⟩ := resolve_eq_ok_iff.1 h
  have hspelt : ∀ entries more, (∀ a ∈ more, a ∈ addresses) → Spells entries (addresses ++ more) →
      resolve lookup' entries = .ok addresses := by
    intro entries more hm hs
    obtain ⟨parts, hparts, hflatten⟩ := hs.adds lookup'
    refine resolve_eq_ok_iff.2 ⟨parts, hparts, ?_⟩
    rw [hflatten]
    exact firsts_append hfirsts.nodup hm
  refine ⟨hspelt _ [] (List.forall_mem_nil _) ?_, hspelt⟩
  rw [List.append_nil]
  exact spells_map_text addresses

/-- Addresses that are written with an embedded address of version 4, with zeros left out, and
plainly. -/
def sampleAddresses : List IpAddress :=
  [ .v6 ⟨[0, 0, 0, 0, 0, 0xFFFF, 0x0A00, 2], rfl⟩,
    .v6 ⟨[0x2001, 0xDB8, 0, 0, 1, 0, 0, 1], rfl⟩,
    .v4 ⟨10, 0, 0, 1⟩ ]

/-- A lookup that knows one name, and gives one of its addresses twice. -/
def sampleLookup : Lookup := fun host =>
  if host = "db" then .ok (sampleAddresses.tail ++ sampleAddresses.tail) else .error "unknown"

/-- Once looked up, the addresses are known without the lookup. -/
theorem resolve_texts_sample :
    resolve sampleLookup ["::FFFF:a00:2", "db ", "", "10.0.0.1"] = .ok sampleAddresses ∧
    resolve offline ["::ffff:10.0.0.2", "2001:db8::1:0:0:1", "10.0.0.1"] = .ok sampleAddresses ∧
    resolve offline
        [" ::ffff:10.0.0.2", "2001:db8::1:0:0:1", "  ", "10.0.0.1\t", "::ffff:10.0.0.2"] =
      .ok sampleAddresses := by
  have h : resolve sampleLookup ["::FFFF:a00:2", "db ", "", "10.0.0.1"] = .ok sampleAddresses := by
    decide
  refine ⟨h, (resolve_texts h offline).1, (resolve_texts h offline).2 _
    [.v6 ⟨[0, 0, 0, 0, 0, 0xFFFF, 0x0A00, 2], rfl⟩] (by decide) ?_⟩
  have hnone : Blank.AllBlank [] := List.forall_mem_nil _
  refine .text [' '] [] (by decide) (by decide) hnone ?_
  refine .text [] [] (by decide) hnone hnone (.blank (by decide) ?_)
  refine .text [] ['\t'] (by decide) hnone (by decide) ?_
  exact .text [] [] (by decide) hnone hnone .nil

end Probe

end AgentIntake
