import AgentIntake.Json.Basic

/-!
# Values

A `Value` is what a document means: the order of an object's members and all but the last binding of
a key are forgotten.  It is kept as the one document of canonical form that means it, so that values
are equal exactly when they mean the same.  `Value.ofJson` is the meaning of a document.

The work is in showing that the canonical form has itself for canonical form: a list that is sorted
already is only copied by binding its members one by one.
-/

namespace AgentIntake

namespace Json

/-! ## 1.  Sorted lists of members -/

variable {α : Type}

/-- The keys stand in strictly increasing order. -/
def Sorted (members : List (String × α)) : Prop :=
  members.Pairwise fun a b => a.1 < b.1

theorem mem_bind {key : String} {value : α} {members : List (String × α)} {m : String × α}
    (h : m ∈ bind key value members) : m = (key, value) ∨ m ∈ members := by
  fun_induction bind key value members with
  | case1 => simpa using h
  | case2 => simpa using h
  | case3 v rest h₁ => simp only [List.mem_cons] at h ⊢; exact h.imp_right .inr
  | case4 k v rest h₁ h₂ ih =>
    simp only [List.mem_cons] at h ⊢
    rcases h with h | h
    · exact .inr (.inl h)
    · exact (ih h).imp_right .inr

theorem sorted_bind {key : String} {value : α} {members : List (String × α)}
    (h : Sorted members) : Sorted (bind key value members) := by
  fun_induction bind key value members with
  | case1 => exact List.pairwise_singleton _ _
  | case2 k v rest hlt =>
    refine List.pairwise_cons.2 ⟨fun m hm => ?_, h⟩
    rcases List.mem_cons.1 hm with rfl | hm
    · exact hlt
    · exact String.lt_trans hlt ((List.pairwise_cons.1 h).1 m hm)
  | case3 v rest hlt =>
    exact List.pairwise_cons.2 (List.pairwise_cons.1 h)
  | case4 k v rest h₁ h₂ ih =>
    obtain ⟨hk, hr⟩ := List.pairwise_cons.1 h
    refine List.pairwise_cons.2 ⟨fun m hm => ?_, ih hr⟩
    rcases mem_bind hm with rfl | hm
    · exact Decidable.byContradiction fun h =>
        h₂ (String.le_antisymm (String.not_lt.1 h) (String.not_lt.1 h₁))
    · exact hk m hm

theorem bind_append {key : String} {value : α} {members : List (String × α)}
    (h : ∀ m ∈ members, m.1 < key) : bind key value members = members ++ [(key, value)] := by
  fun_induction bind key value members with
  | case1 => rfl
  | case2 k v rest hlt =>
    exact absurd (h (k, v) (List.mem_cons_self ..)) (String.lt_asymm hlt)
  | case3 v rest hlt =>
    exact absurd (h (key, v) (List.mem_cons_self ..)) (String.lt_irrefl _)
  | case4 k v rest h₁ h₂ ih =>
    rw [ih fun m hm => h m (List.mem_cons_of_mem _ hm)]
    rfl

/-- The key is bound, and the others are bound to what they were. -/
theorem find?_bind (key : String) (value : α) (members : List (String × α)) (name : String) :
    (bind key value members).find? (·.1 == name) =
      if key = name then some (key, value) else members.find? (·.1 == name) := by
  have hcons (k : String) (v : α) (rest : List (String × α)) :
      ((k, v) :: rest).find? (·.1 == name) =
        if k = name then some (k, v) else rest.find? (·.1 == name) := by
    by_cases hk : k = name <;> simp [hk]
  fun_induction bind key value members with
  | case1 => exact hcons ..
  | case2 => exact hcons ..
  | case3 v rest hlt =>
    rw [hcons, hcons]
    split <;> rfl
  | case4 k v rest hlt hne ih =>
    rw [hcons, hcons, ih]
    by_cases hk : k = name
    · subst hk
      rw [if_pos rfl, if_neg hne, if_pos rfl]
    · rw [if_neg hk, if_neg hk]

/-! ## 2.  The canonical form is canonical -/

/-- A list of members that is sorted and whose values are canonical. -/
def CanonicalMembers (members : List (String × Json)) : Prop :=
  Sorted members ∧ ∀ m ∈ members, m.2.canonical = m.2

theorem canonicalMembers_append {done members : List (String × Json)}
    (h : CanonicalMembers (done ++ members)) : canonicalMembers done members = done ++ members := by
  induction members generalizing done with
  | nil => simp [canonicalMembers]
  | cons m rest ih =>
    obtain ⟨key, value⟩ := m
    have hv : value.canonical = value := h.2 (key, value) (by simp)
    have hk : ∀ m ∈ done, m.1 < key := fun m hm =>
      (List.pairwise_append.1 h.1).2.2 m hm (key, value) (List.mem_cons_self ..)
    rw [canonicalMembers, hv, bind_append hk, ih (by simpa using h)]
    simp

theorem canonical_object {members : List (String × Json)} (h : CanonicalMembers members) :
    (object members).canonical = object members := by
  rw [canonical, canonicalMembers_append (by simpa using h), List.nil_append]

theorem CanonicalMembers.bind {members : List (String × Json)} (h : CanonicalMembers members)
    {key : String} {value : Json} (hv : value.canonical = value) :
    CanonicalMembers (bind key value members) := by
  refine ⟨sorted_bind h.1, fun m hm => ?_⟩
  rcases mem_bind hm with rfl | hm
  · exact hv
  · exact h.2 m hm

mutual

theorem canonical_canonical : ∀ j : Json, j.canonical.canonical = j.canonical
  | null => rfl
  | bool _ => rfl
  | number _ => rfl
  | string _ => rfl
  | array items => by
    rw [canonical, canonical, canonicalItems_canonicalItems items]
  | object members => by
    rw [canonical]
    exact canonical_object
      (canonicalMembers_canonicalMembers ⟨List.Pairwise.nil, by simp⟩ members)

theorem canonicalItems_canonicalItems :
    ∀ items : List Json, canonicalItems (canonicalItems items) = canonicalItems items
  | [] => rfl
  | item :: rest => by
    rw [canonicalItems, canonicalItems, canonical_canonical item,
      canonicalItems_canonicalItems rest]

theorem canonicalMembers_canonicalMembers {done : List (String × Json)}
    (h : CanonicalMembers done) :
    ∀ members : List (String × Json), CanonicalMembers (canonicalMembers done members)
  | [] => h
  | (_, value) :: rest => by
    rw [canonicalMembers]
    exact canonicalMembers_canonicalMembers (h.bind (canonical_canonical value)) rest

end

end Json

/-! ## 3.  Values -/

/-- What a document means: a document of canonical form. -/
structure Value where
  json : Json
  canonical_json : json.canonical = json

namespace Value

/-- The meaning of a document. -/
def ofJson (j : Json) : Value :=
  ⟨j.canonical, j.canonical_canonical⟩

/-- The value `null`. -/
def null : Value :=
  ⟨.null, rfl⟩

instance : Inhabited Value := ⟨null⟩

@[ext] theorem ext {a b : Value} (h : a.json = b.json) : a = b := by
  cases a; cases b; cases h; rfl

theorem ofJson_json (v : Value) : ofJson v.json = v :=
  ext v.canonical_json

end Value

end AgentIntake
