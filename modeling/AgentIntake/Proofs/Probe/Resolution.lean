import AgentIntake.Probe
import AgentIntake.Proofs.Text.Blank
import Mathlib.Data.List.Forall2
import Mathlib.Data.List.Nodup
import Mathlib.Data.List.Perm.Basic

/-!
# What a list of probe hosts comes to

The list is gone through once, and what was found so far is carried along.  What comes of it can be
said without that.  An entry is blank or names a host; a host is resolved by itself (`Found`) or is
the reason why nothing is (`Fails`).  The first entry that fails decides, whatever stands around it;
if none does, the addresses of all entries are listed in order, each where it first occurs
(`Firsts`).

`resolve_exact` says both, and that there is nothing else.  The lookup may be any function.
-/

namespace AgentIntake.Probe

/-! ## 1.  Each address where it first occurs -/

/-- The addresses of `all`, each of them once, in the order in which they first occur there. -/
structure Firsts (all listed : List IpAddress) : Prop where
  nodup : listed.Nodup
  mem_iff : ∀ a, a ∈ listed ↔ a ∈ all
  order : listed.Pairwise fun a b => all.idxOf a < all.idxOf b

namespace Firsts

theorem nil : Firsts [] [] :=
  ⟨List.nodup_nil, fun _ => Iff.rfl, List.Pairwise.nil⟩

/-- An order of first occurrences does not change when more addresses follow. -/
theorem order_append {all listed : List IpAddress} (h : Firsts all listed) (more : List IpAddress) :
    listed.Pairwise fun a b => (all ++ more).idxOf a < (all ++ more).idxOf b := by
  refine h.order.imp_of_mem fun {a b} ha hb hlt => ?_
  rwa [List.idxOf_append_of_mem ((h.mem_iff a).1 ha), List.idxOf_append_of_mem ((h.mem_iff b).1 hb)]

/-- One more address is added if it is new. -/
theorem add {all listed : List IpAddress} (h : Firsts all listed) (a : IpAddress) :
    Firsts (all ++ [a]) (if a ∈ listed then listed else listed ++ [a]) := by
  by_cases ha : a ∈ listed
  · rw [if_pos ha]
    refine ⟨h.nodup, fun b => ?_, h.order_append [a]⟩
    rw [h.mem_iff, List.mem_append, List.mem_singleton]
    refine ⟨.inl, ?_⟩
    rintro (hb | rfl)
    · exact hb
    · exact (h.mem_iff b).1 ha
  · rw [if_neg ha]
    have hall : a ∉ all := fun hm => ha ((h.mem_iff a).2 hm)
    refine ⟨?_, fun b => by simp only [List.mem_append, h.mem_iff], ?_⟩
    · exact List.nodup_append.2 ⟨h.nodup, List.nodup_singleton a, fun b hb c hc hbc =>
        ha (List.mem_singleton.1 hc ▸ hbc ▸ hb)⟩
    · refine List.pairwise_append.2 ⟨h.order_append [a], List.pairwise_singleton _ _, ?_⟩
      intro b hb c hc
      obtain rfl := List.mem_singleton.1 hc
      have hb' : b ∈ all := (h.mem_iff b).1 hb
      rw [List.idxOf_append_of_mem hb', List.idxOf_append_of_notMem hall]
      exact Nat.lt_add_right _ (List.idxOf_lt_length_iff.2 hb')

/-- Of more addresses those are added that are new. -/
theorem addNew {all listed : List IpAddress} (h : Firsts all listed) (more : List IpAddress) :
    Firsts (all ++ more) (addNew listed more) := by
  induction more generalizing all listed with
  | nil =>
    rw [List.append_nil]
    exact h
  | cons a more ih =>
    have := ih (h.add a)
    rwa [List.append_assoc, List.singleton_append] at this

/-- There is only one way to list addresses so. -/
theorem unique {all first second : List IpAddress} (hf : Firsts all first)
    (hs : Firsts all second) : first = second := by
  have hperm : first.Perm second :=
    (List.perm_ext_iff_of_nodup hf.nodup hs.nodup).2 fun a =>
      (hf.mem_iff a).trans (hs.mem_iff a).symm
  exact hperm.eq_of_pairwise (fun a b _ _ hab hba => absurd hba (Nat.lt_asymm hab))
    hf.order hs.order

end Firsts

/-! ## 2.  One entry -/

variable (lookup : Lookup)

/-- An entry of the list names a host, which stands in it with white space around it; a blank entry
names none. -/
structure Names (entry host : String) : Prop where
  trimmed : Blank.Trimmed entry host
  ne : host ≠ ""

/-- The addresses of a host, which is an address itself and is not looked up, or is none and its
lookup gives some. -/
inductive Found (host : String) : List IpAddress → Prop where
  | literal {a : IpAddress} (numeric : IpAddress.ofText? host = some a) : Found host [a]
  | lookedUp {addresses : List IpAddress} (numeric : IpAddress.ofText? host = none)
    (answer : lookup host = .ok addresses) (nonempty : addresses ≠ []) : Found host addresses

/-- Why a host has no addresses: it is none itself, and its lookup fails or gives none. -/
inductive Fails (host : String) : Failure → Prop where
  | lookup {cause : String} (numeric : IpAddress.ofText? host = none)
    (answer : lookup host = .error cause) : Fails host (.lookup host cause)
  | empty (numeric : IpAddress.ofText? host = none) (answer : lookup host = .ok []) :
    Fails host (.empty host)

/-- What an entry adds to the addresses: nothing if it is blank, and otherwise the addresses of its
host. -/
inductive Adds (entry : String) : List IpAddress → Prop where
  | blank (all : Blank.AllBlank entry.toList) : Adds entry []
  | host {host : String} {addresses : List IpAddress} (names : Names entry host)
    (found : Found lookup host addresses) : Adds entry addresses

/-- An entry stands in the way: it names a host that is no address and is not looked up to any. -/
def Blocks (entry : String) : Prop :=
  ∃ host, Names entry host ∧ IpAddress.ofText? host = none ∧
    ∀ addresses, lookup host = .ok addresses → addresses = []

variable {lookup}

theorem Found.resolveHost {host : String} {addresses : List IpAddress}
    (h : Found lookup host addresses) : resolveHost lookup host = .ok addresses := by
  cases h with
  | literal numeric => rw [Probe.resolveHost, numeric]
  | lookedUp numeric answer nonempty =>
    obtain ⟨a, more, rfl⟩ := List.exists_cons_of_ne_nil nonempty
    rw [Probe.resolveHost, numeric]
    dsimp only
    rw [answer]

theorem Fails.resolveHost {host : String} {failure : Failure} (h : Fails lookup host failure) :
    resolveHost lookup host = .error failure := by
  cases h with
  | lookup numeric answer | empty numeric answer =>
    rw [Probe.resolveHost, numeric]
    dsimp only
    rw [answer]

/-- A host has addresses or fails. -/
theorem found_or_fails (lookup : Lookup) (host : String) :
    (∃ addresses, Found lookup host addresses) ∨ ∃ failure, Fails lookup host failure := by
  cases numeric : IpAddress.ofText? host with
  | some a => exact .inl ⟨[a], .literal numeric⟩
  | none =>
    cases answer : lookup host with
    | error cause => exact .inr ⟨_, .lookup numeric answer⟩
    | ok addresses =>
      cases addresses with
      | nil => exact .inr ⟨_, .empty numeric answer⟩
      | cons a more => exact .inl ⟨_, .lookedUp numeric answer (List.cons_ne_nil a more)⟩

/-- An entry is blank or names the host that is left of it. -/
theorem blank_or_names (entry : String) :
    Blank.AllBlank entry.toList ∨ Names entry (Blank.trim entry) := by
  by_cases h : Blank.trim entry = ""
  · exact .inl (Blank.trim_eq_empty_iff.1 h)
  · exact .inr ⟨Blank.trimmed_trim entry, h⟩

theorem Names.trim_eq {entry host : String} (h : Names entry host) : Blank.trim entry = host :=
  Blank.trim_eq_iff.2 h.trimmed

theorem Names.not_allBlank {entry host : String} (h : Names entry host) :
    ¬ Blank.AllBlank entry.toList := fun hblank =>
  h.ne (h.trim_eq.symm.trans (Blank.trim_eq_empty_iff.2 hblank))

/-- A host that fails blocks the list. -/
theorem Names.blocks {entry host : String} (h : Names entry host) {failure : Failure}
    (hf : Fails lookup host failure) : Blocks lookup entry := by
  refine ⟨host, h, ?_⟩
  cases hf with
  | lookup numeric answer =>
    refine ⟨numeric, fun addresses ha => ?_⟩
    rw [answer] at ha
    cases ha
  | empty numeric answer =>
    refine ⟨numeric, fun addresses ha => ?_⟩
    rw [answer] at ha
    exact (Except.ok.inj ha).symm

theorem Adds.not_blocks {entry : String} {addresses : List IpAddress}
    (h : Adds lookup entry addresses) : ¬ Blocks lookup entry := by
  rintro ⟨host, hn, hnumeric, hl⟩
  cases h with
  | blank all => exact hn.not_allBlank all
  | host names found =>
    obtain rfl := names.trim_eq.symm.trans hn.trim_eq
    cases found with
    | literal numeric =>
      rw [hnumeric] at numeric
      cases numeric
    | lookedUp _ answer nonempty => exact nonempty (hl _ answer)

/-- An entry adds addresses, or it names a host that fails. -/
theorem adds_or_fails (lookup : Lookup) (entry : String) :
    (∃ addresses, Adds lookup entry addresses) ∨
      ∃ host failure, Names entry host ∧ Fails lookup host failure := by
  rcases blank_or_names entry with hblank | hn
  · exact .inl ⟨[], .blank hblank⟩
  · rcases found_or_fails lookup (Blank.trim entry) with ⟨addresses, hf⟩ | ⟨failure, hf⟩
    · exact .inl ⟨addresses, .host hn hf⟩
    · exact .inr ⟨_, failure, hn, hf⟩

/-! ## 3.  The list -/

theorem resolveOnto_blank {entry : String} (h : Blank.AllBlank entry.toList)
    (listed : List IpAddress) (hosts : List String) :
    resolveOnto lookup listed (entry :: hosts) = resolveOnto lookup listed hosts := by
  rw [resolveOnto, Blank.trim_eq_empty_iff.2 h]
  exact if_pos rfl

theorem Names.resolveOnto_cons {entry host : String} (h : Names entry host)
    (listed : List IpAddress) (hosts : List String) :
    resolveOnto lookup listed (entry :: hosts) =
      match resolveHost lookup host with
      | .error failure => .error failure
      | .ok found => resolveOnto lookup (addNew listed found) hosts := by
  have hne : ¬ host.isEmpty = true := fun he => h.ne (String.isEmpty_iff.1 he)
  rw [resolveOnto, h.trim_eq]
  exact if_neg hne

/-- **Entries that all add addresses are resolved to these, each where it first occurs.** -/
theorem exists_resolveOnto {hosts : List String} {parts : List (List IpAddress)}
    (h : List.Forall₂ (Adds lookup) hosts parts) {all listed : List IpAddress}
    (hl : Firsts all listed) :
    ∃ addresses, resolveOnto lookup listed hosts = .ok addresses ∧
      Firsts (all ++ parts.flatten) addresses := by
  induction h generalizing all listed with
  | nil => exact ⟨listed, rfl, by rwa [List.flatten_nil, List.append_nil]⟩
  | @cons entry part hosts parts hadds _ ih =>
    cases hadds with
    | blank hblank =>
      rw [resolveOnto_blank hblank]
      exact ih hl
    | host names found =>
      rw [names.resolveOnto_cons, found.resolveHost, List.flatten_cons, ← List.append_assoc]
      exact ih (hl.addNew part)

/-- **The first host that fails decides.** -/
theorem resolveOnto_of_fails {before after : List String} {entry host : String} {failure : Failure}
    (hbefore : ∀ e ∈ before, ¬ Blocks lookup e) (hn : Names entry host)
    (hf : Fails lookup host failure) (listed : List IpAddress) :
    resolveOnto lookup listed (before ++ entry :: after) = .error failure := by
  induction before generalizing listed with
  | nil => rw [List.nil_append, hn.resolveOnto_cons, hf.resolveHost]
  | cons other before ih =>
    have hrest := ih fun e he => hbefore e (List.mem_cons_of_mem _ he)
    rcases adds_or_fails lookup other with ⟨addresses, hadds⟩ | ⟨name, failure', hno, hfo⟩
    · cases hadds with
      | blank hblank =>
        rw [List.cons_append, resolveOnto_blank hblank]
        exact hrest listed
      | host names found =>
        rw [List.cons_append, names.resolveOnto_cons, found.resolveHost]
        exact hrest _
    · exact absurd (hno.blocks hfo) (hbefore other List.mem_cons_self)

theorem not_blocks_of_adds {hosts : List String} {parts : List (List IpAddress)}
    (h : List.Forall₂ (Adds lookup) hosts parts) : ∀ e ∈ hosts, ¬ Blocks lookup e := by
  induction h with
  | nil => exact List.forall_mem_nil _
  | cons hadds _ ih => exact List.forall_mem_cons.2 ⟨hadds.not_blocks, ih⟩

/-- Either all entries add addresses, or there is a first one whose host fails. -/
theorem all_add_or_first_fails (lookup : Lookup) (hosts : List String) :
    (∃ parts, List.Forall₂ (Adds lookup) hosts parts) ∨
      ∃ before entry after host failure, hosts = before ++ entry :: after ∧
        (∀ e ∈ before, ¬ Blocks lookup e) ∧ Names entry host ∧ Fails lookup host failure := by
  induction hosts with
  | nil => exact .inl ⟨[], .nil⟩
  | cons entry hosts ih =>
    rcases adds_or_fails lookup entry with ⟨part, hadds⟩ | ⟨host, failure, hn, hf⟩
    · rcases ih with ⟨parts, hparts⟩ | ⟨before, other, after, host, failure, rfl, hbefore, hn, hf⟩
      · exact .inl ⟨part :: parts, .cons hadds hparts⟩
      · exact .inr ⟨entry :: before, other, after, host, failure, rfl,
          List.forall_mem_cons.2 ⟨hadds.not_blocks, hbefore⟩, hn, hf⟩
    · exact .inr ⟨[], entry, hosts, host, failure, rfl, List.forall_mem_nil _, hn, hf⟩

/-- The hosts are resolved exactly if every entry adds addresses. -/
theorem resolve_eq_ok_iff {hosts : List String} {addresses : List IpAddress} :
    resolve lookup hosts = .ok addresses ↔
      ∃ parts, List.Forall₂ (Adds lookup) hosts parts ∧ Firsts parts.flatten addresses := by
  constructor
  · intro h
    rcases all_add_or_first_fails lookup hosts with
      ⟨parts, hparts⟩ | ⟨before, entry, after, host, failure, rfl, hbefore, hn, hf⟩
    · obtain ⟨_, hok, hfirsts⟩ := exists_resolveOnto hparts .nil
      obtain rfl := Except.ok.inj (h.symm.trans hok)
      exact ⟨parts, hparts, hfirsts⟩
    · rw [resolve, resolveOnto_of_fails hbefore hn hf] at h
      cases h
  · rintro ⟨parts, hparts, hfirsts⟩
    obtain ⟨_, hok, hfirsts'⟩ := exists_resolveOnto hparts .nil
    rwa [hfirsts.unique hfirsts']

/-- They are not exactly if some entry's host fails, and the first of these says why. -/
theorem resolve_eq_error_iff {hosts : List String} {failure : Failure} :
    resolve lookup hosts = .error failure ↔
      ∃ before entry after host, hosts = before ++ entry :: after ∧
        (∀ e ∈ before, ¬ Blocks lookup e) ∧ Names entry host ∧ Fails lookup host failure := by
  constructor
  · intro h
    rcases all_add_or_first_fails lookup hosts with
      ⟨parts, hparts⟩ | ⟨before, entry, after, host, failure', rfl, hbefore, hn, hf⟩
    · obtain ⟨_, hok, -⟩ := exists_resolveOnto hparts .nil
      cases h.symm.trans hok
    · have herror : resolveOnto lookup [] (before ++ entry :: after) = .error failure' :=
        resolveOnto_of_fails hbefore hn hf []
      obtain rfl := Except.error.inj (h.symm.trans herror)
      exact ⟨before, entry, after, host, rfl, hbefore, hn, hf⟩
  · rintro ⟨before, entry, after, host, rfl, hbefore, hn, hf⟩
    exact resolveOnto_of_fails hbefore hn hf []

/-- **Resolution of probe hosts.**  It fails exactly if some entry names a host that is no address
and is not looked up to any, and then for the first of them, whatever stands around it.  Otherwise
it gives the addresses that the entries add, in order, each where it first occurs, and nothing
else. -/
theorem resolve_exact (lookup : Lookup) (hosts : List String) :
    ((∃ failure, resolve lookup hosts = .error failure) ↔ ∃ entry ∈ hosts, Blocks lookup entry) ∧
    (∀ failure, resolve lookup hosts = .error failure ↔
      ∃ before entry after host, hosts = before ++ entry :: after ∧
        (∀ e ∈ before, ¬ Blocks lookup e) ∧ Names entry host ∧ Fails lookup host failure) ∧
    ∀ addresses, resolve lookup hosts = .ok addresses ↔
      ∃ parts, List.Forall₂ (Adds lookup) hosts parts ∧ Firsts parts.flatten addresses := by
  refine ⟨⟨?_, ?_⟩, fun _ => resolve_eq_error_iff, fun _ => resolve_eq_ok_iff⟩
  · rintro ⟨failure, h⟩
    obtain ⟨before, entry, after, host, rfl, -, hn, hf⟩ := resolve_eq_error_iff.1 h
    exact ⟨entry, by simp, hn.blocks hf⟩
  · rintro ⟨entry, he, hb⟩
    cases h : resolve lookup hosts with
    | error failure => exact ⟨failure, rfl⟩
    | ok addresses =>
      obtain ⟨parts, hparts, -⟩ := resolve_eq_ok_iff.1 h
      exact absurd hb (not_blocks_of_adds hparts entry he)

example : resolve (fun _ => .ok []) ["10.0.0.1", " ", "\tdb ", "::1"] = .error (.empty "db") := by
  decide

end AgentIntake.Probe
