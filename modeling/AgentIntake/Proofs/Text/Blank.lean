import AgentIntake.Text.Blank
import Mathlib.Data.List.TakeWhile

/-!
# Texts without the white space around them

What `trim` leaves of a text can be said without looking at how it is found: white space stands
before and behind it and nothing else does, and it has none at its own ends (`trim_eq_iff`).
-/

namespace AgentIntake.Blank

/-- The characters are white space. -/
def AllBlank (cs : List Char) : Prop :=
  ∀ c ∈ cs, isBlank c = true

instance (cs : List Char) : Decidable (AllBlank cs) :=
  List.decidableBAll (fun c => isBlank c = true) cs

/-- The first text is the second with white space around it, and the second has none at its ends. -/
structure Trimmed (s t : String) : Prop where
  padded : ∃ left right, s.toList = left ++ t.toList ++ right ∧ AllBlank left ∧ AllBlank right
  head : ∀ c ∈ t.toList.head?, isBlank c = false
  last : ∀ c ∈ t.toList.getLast?, isBlank c = false

/-- What does not begin with white space stays as it is. -/
theorem trimStart_of_head {cs : List Char} (h : ∀ c ∈ cs.head?, isBlank c = false) :
    trimStart cs = cs := by
  cases cs with
  | nil => rfl
  | cons c cs => exact List.dropWhile_cons_of_neg (by simp [h c rfl])

theorem head?_trimStart (cs : List Char) : ∀ c ∈ (trimStart cs).head?, isBlank c = false := by
  intro c hc
  have h := List.head?_dropWhile_not isBlank cs
  rw [show (cs.dropWhile isBlank).head? = some c from hc] at h
  exact h

theorem trimStart_append {left : List Char} (h : AllBlank left) (cs : List Char) :
    trimStart (left ++ cs) = trimStart cs :=
  List.dropWhile_append_of_pos h

/-- All that is taken away at the front is white space. -/
theorem exists_eq_append_trimStart (cs : List Char) :
    ∃ left, cs = left ++ trimStart cs ∧ AllBlank left :=
  ⟨cs.takeWhile isBlank, List.takeWhile_append_dropWhile.symm, fun _ => List.mem_takeWhile_imp⟩

theorem AllBlank.reverse {cs : List Char} (h : AllBlank cs) : AllBlank cs.reverse :=
  fun c hc => h c (List.mem_reverse.1 hc)

theorem trimmed_trim (s : String) : Trimmed s (trim s) := by
  obtain ⟨left, hs, hleft⟩ := exists_eq_append_trimStart s.toList
  obtain ⟨right, hu, hright⟩ := exists_eq_append_trimStart (trimStart s.toList).reverse
  have hcore : trimStart s.toList = (trim s).toList ++ right.reverse := by
    rw [trim, String.toList_ofList, ← List.reverse_append, ← hu, List.reverse_reverse]
  refine ⟨⟨left, right.reverse, ?_, hleft, hright.reverse⟩, fun c hc => ?_, fun c hc => ?_⟩
  · rw [List.append_assoc, ← hcore]
    exact hs
  · refine head?_trimStart s.toList c ?_
    rw [hcore, List.head?_append, Option.mem_def.1 hc]
    rfl
  · rw [trim, String.toList_ofList, List.getLast?_reverse] at hc
    exact head?_trimStart _ c hc

/-- **What is left of a text is what stands between the white space at its ends.** -/
theorem trim_eq_iff {s t : String} : trim s = t ↔ Trimmed s t := by
  refine ⟨fun h => h ▸ trimmed_trim s, fun ⟨⟨left, right, hs, hleft, hright⟩, hhead, hlast⟩ => ?_⟩
  have hreverse : trimStart t.toList.reverse = t.toList.reverse :=
    trimStart_of_head (by rwa [List.head?_reverse])
  rw [trim, hs, List.append_assoc, trimStart_append hleft]
  cases ht : t.toList with
  | nil =>
    have hnil : trimStart right = [] := List.dropWhile_eq_nil_iff.2 hright
    rw [List.nil_append, hnil, ← String.ofList_toList (s := t), ht]
    rfl
  | cons c cs =>
    -- the front stops at the text's first character, so the white space behind it is still there
    have hfront : trimStart (c :: cs ++ right) = c :: cs ++ right :=
      trimStart_of_head fun d hd => hhead d (by rw [ht]; exact hd)
    rw [hfront, List.reverse_append, trimStart_append hright.reverse, ← ht, hreverse,
      List.reverse_reverse, String.ofList_toList]

/-- A text is blank exactly if nothing is left of it. -/
theorem trim_eq_empty_iff {s : String} : trim s = "" ↔ AllBlank s.toList := by
  rw [trim_eq_iff]
  constructor
  · rintro ⟨⟨left, right, hs, hleft, hright⟩, -, -⟩ c hc
    rw [hs, String.toList_empty, List.append_nil] at hc
    exact (List.mem_append.1 hc).elim (hleft c) (hright c)
  · intro h
    exact ⟨⟨s.toList, [], by simp, h, List.forall_mem_nil _⟩, nofun, nofun⟩

end AgentIntake.Blank
