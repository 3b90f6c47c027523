import AgentIntake.Config.Load
import AgentIntake.Proofs.Config.Layers
import Mathlib.Data.List.Induction

/-!
# Files and the environment

Two of the layers are read from outside.  In both, a name can be written several times: in the
environment the last variable counts, and a file that binds a key twice is refused.  So neither
layer gives a name twice (`distinct_layer`, `distinct_membersOf`).  The lines of a file are taken
one after the other (`linesOnto?_cons`).

`ConfigFile.Found` says which file is read.
-/

namespace AgentIntake

open Layer (Distinct)

/-! ## 1.  The environment -/

namespace Environment

/-- What a variable says under a name. -/
def givenBy (entry : String × String) (name : String) : Option Json :=
  match settingOf? entry.1 with
  | none | some [] => none
  | some (setting :: inner) =>
    if setting = name then some (nested (valueOf entry.2) inner) else none

/-- What variables say under a name: the last that gives it counts. -/
def given (entries : List (String × String)) (name : String) : Option Json :=
  entries.reverse.findSome? (givenBy · name)

theorem get?_bind (key : String) (j : Json) (layer : Layer) (name : String) :
    Layer.get? (Json.bind key j layer) name = if key = name then some j else layer.get? name := by
  refine (congrArg (Option.map Prod.snd) (Json.find?_bind key j layer name)).trans ?_
  split <;> rfl

/-- One more variable, after the others. -/
theorem layer_append_singleton (entries : List (String × String)) (entry : String × String) :
    layer (entries ++ [entry]) =
      match settingOf? entry.1 with
      | none | some [] => layer entries
      | some (setting :: inner) =>
        Json.bind setting (nested (valueOf entry.2) inner) (layer entries) := by
  rw [layer, List.foldl_append]
  rfl

/-- **The layer of the environment gives what its variables say.** -/
theorem get?_layer (entries : List (String × String)) (name : String) :
    (layer entries).get? name = given entries name := by
  induction entries using List.reverseRecOn with
  | nil => rfl
  | append_singleton entries entry ih =>
    have hgiven :
      given (entries ++ [entry]) name = (givenBy entry name).or (given entries name) := by
      rw [given, List.reverse_append, List.reverse_singleton, List.singleton_append,
        List.findSome?_cons]
      cases givenBy entry name <;> rfl
    rw [layer_append_singleton, hgiven, givenBy]
    split
    · exact ih
    · exact ih
    · rename_i setting inner hs
      rw [get?_bind, ih]
      split <;> rfl

/-- It gives no name twice. -/
theorem distinct_layer (entries : List (String × String)) : Distinct (layer entries) := by
  have hsorted : Json.Sorted (layer entries) := by
    induction entries using List.reverseRecOn with
    | nil => exact List.Pairwise.nil
    | append_singleton entries entry ih =>
      rw [layer_append_singleton]
      split
      · exact ih
      · exact ih
      · exact Json.sorted_bind ih
  refine List.pairwise_map.2 (hsorted.imp ?_)
  intro a b hlt he
  exact String.lt_irrefl _ (he ▸ hlt)

end Environment

/-! ## 2.  Files -/

namespace Toml

/-- No key is bound twice. -/
def Entries.Distinct (entries : Entries) : Prop :=
  (entries.map Prod.fst).Nodup

namespace Entries

variable {entries bound : Entries}

theorem Distinct.put (h : entries.Distinct) (name : String) (node : Node) :
    (entries.put name node).Distinct := by
  unfold Entries.put
  split
  · -- the key keeps its place
    have hkeys : ∀ f : String × Node → String × Node, (∀ entry, (f entry).1 = entry.1) →
        (entries.map f).map Prod.fst = entries.map Prod.fst := by
      intro f hf
      rw [List.map_map]
      exact List.map_congr_left fun entry _ => hf entry
    rw [Entries.Distinct, hkeys]
    · exact h
    · rintro ⟨k, v⟩
      by_cases hk : k = name <;> simp [hk]
  · rename_i hn
    have hnew : ∀ entry ∈ entries, entry.1 ≠ name := by
      have hnone : entries.get? name = none := by simpa using hn
      rw [get?, Option.map_eq_none_iff, List.find?_eq_none] at hnone
      intro entry hm
      simpa using hnone entry hm
    rw [Entries.Distinct, List.map_append, List.nodup_append]
    refine ⟨h, by simp, ?_⟩
    rintro key hk _ hm rfl
    obtain ⟨entry, he, rfl⟩ := List.mem_map.1 hk
    exact hnew entry he (by simpa using hm)

theorem Distinct.bind? (h : entries.Distinct) {v : Toml} {path : List String}
    (hb : entries.bind? v path = some bound) : bound.Distinct := by
  unfold Entries.bind? at hb
  split at hb
  · cases hb
  · split at hb
    · cases hb
    · cases hb
      exact h.put _ _
  · split at hb
    · obtain ⟨inner, -, rfl⟩ := Option.map_eq_some_iff.1 hb
      exact h.put _ _
    · split at hb
      · cases hb
      · obtain ⟨inner, -, rfl⟩ := Option.map_eq_some_iff.1 hb
        exact h.put _ _
    · cases hb
    · cases hb

theorem Distinct.within? (h : entries.Distinct) {f : Entries → Option Entries}
    (hf : ∀ {r}, f entries = some r → r.Distinct) {path : List String}
    (hb : entries.within? f path = some bound) : bound.Distinct := by
  unfold Entries.within? at hb
  split at hb
  · exact hf hb
  · split at hb
    · obtain ⟨inner, -, rfl⟩ := Option.map_eq_some_iff.1 hb
      exact h.put _ _
    · obtain ⟨inner, -, rfl⟩ := Option.map_eq_some_iff.1 hb
      exact h.put _ _
    · obtain ⟨inner, -, rfl⟩ := Option.map_eq_some_iff.1 hb
      exact h.put _ _
    · cases hb

theorem Distinct.open? (h : entries.Distinct) {name : String}
    (hb : entries.open? name = some bound) : bound.Distinct := by
  unfold Entries.open? at hb
  split at hb
  · cases hb
    exact h.put _ _
  · cases hb
    exact h.put _ _
  · cases hb

theorem Distinct.extend? (h : entries.Distinct) {name : String}
    (hb : entries.extend? name = some bound) : bound.Distinct := by
  unfold Entries.extend? at hb
  split at hb
  · cases hb
    exact h.put _ _
  · cases hb
    exact h.put _ _
  · cases hb
  · cases hb

end Entries

/-- A line binds no key twice. -/
theorem distinct_take? {d e : Draft} {line : Line} (h : d.root.Distinct)
    (ht : d.take? line = some e) : e.root.Distinct := by
  cases line with
  | blank =>
    cases ht
    exact h
  | header path =>
    unfold Draft.take? at ht
    dsimp only at ht
    split at ht
    · cases ht
    · obtain ⟨root, hr, rfl⟩ := Option.map_eq_some_iff.1 ht
      exact h.within? h.open? hr
  | listHeader path =>
    unfold Draft.take? at ht
    dsimp only at ht
    split at ht
    · cases ht
    · obtain ⟨root, hr, rfl⟩ := Option.map_eq_some_iff.1 ht
      exact h.within? h.extend? hr
  | binding path v =>
    obtain ⟨root, hr, rfl⟩ := Option.map_eq_some_iff.1 ht
    exact h.within? h.bind? hr

theorem distinct_linesOnto? {fuel : Nat} {d e : Draft} {s : List Char} (h : d.root.Distinct)
    (hl : linesOnto? fuel d s = some e) : e.root.Distinct := by
  induction fuel generalizing d s with
  | zero =>
    cases s with
    | nil =>
      cases hl
      exact h
    | cons c s => cases hl
  | succ fuel ih =>
    cases s with
    | nil =>
      cases hl
      exact h
    | cons c s =>
      unfold linesOnto? at hl
      split at hl
      · cases hl
      · obtain ⟨f, hf, hrest⟩ := Option.bind_eq_some_iff.1 hl
        exact ih (distinct_take? h hf) hrest

theorem map_fst_entriesToToml (entries : Entries) :
    (entriesToToml entries).map Prod.fst = entries.map Prod.fst := by
  induction entries with
  | nil => rfl
  | cons entry entries ih =>
    obtain ⟨name, node⟩ := entry
    rw [entriesToToml, List.map_cons, ih]
    rfl

theorem map_fst_membersOf (entries : List (String × Toml)) :
    (membersOf entries).map Prod.fst = entries.map Prod.fst := by
  induction entries with
  | nil => rfl
  | cons entry entries ih =>
    obtain ⟨name, value⟩ := entry
    rw [membersOf, List.map_cons, ih]
    rfl

/-- **The layer of a file gives no name twice.** -/
theorem distinct_membersOf {text : List UInt8} {entries : List (String × Toml)}
    (h : parse? text = some entries) : Distinct (membersOf entries) := by
  unfold parse? at h
  split at h
  · cases h
  · obtain ⟨d, hd, rfl⟩ := Option.map_eq_some_iff.1 h
    rw [Distinct, map_fst_membersOf, map_fst_entriesToToml]
    exact distinct_linesOnto? (d := ⟨[], []⟩) List.nodup_nil hd

theorem skipGap_of_none {s : List Char} (h : newline? (skipComment s) = none) :
    skipGap s = skipSpace s := by
  rw [skipGap]
  split
  · rename_i hs
    cases h.symm.trans hs
  · rfl

/-- A value that is a word. -/
theorem value?_of_word {c : Char} {s w r : List Char} {v : Toml} (fuel : Nat)
    (hc : c ∉ ['[', '\x7b', '\x22', '\x27']) (hw : word (c :: s) = (w, r))
    (hv : ofWord? w = some v) : value? (fuel + 1) (c :: s) = some (v, r) := by
  simp only [List.mem_cons, List.not_mem_nil, or_false, not_or] at hc
  obtain ⟨hbracket, hbrace, hquote, happ⟩ := hc
  unfold value?
  split
  · rename_i h
    exact absurd (List.cons.inj h).1 hbracket
  · rename_i h
    exact absurd (List.cons.inj h).1 hbrace
  · rename_i h
    exact absurd (List.cons.inj h).1 hquote
  · rename_i h
    exact absurd (List.cons.inj h).1 happ
  · rw [hw]
    dsimp only
    rw [hv]
    rfl

/-- A value in quotes. -/
theorem value?_of_string {s r : List Char} {text : String} (fuel : Nat)
    (h : string? false ('\x22' :: s) = some (text, r)) :
    value? (fuel + 1) ('\x22' :: s) = some (.string text, r) := by
  rw [value?, h]
  rfl

/-- A value in brackets. -/
theorem value?_of_items {fuel : Nat} {s r : List Char} {items : List Toml}
    (h : items? fuel [] s = some (items, r)) :
    value? (fuel + 1) ('[' :: s) = some (.array items, r) := by
  rw [value?, h]
  rfl

/-- The last item of a list. -/
theorem items?_of_last {fuel : Nat} {before : List Toml} {c : Char} {s t u r : List Char} {v : Toml}
    (hc : c ≠ ']') (hs : skipGap s = c :: t) (hv : value? fuel (c :: t) = some (v, u))
    (hu : skipGap u = ']' :: r) :
    items? (fuel + 1) before s = some ((v :: before).reverse, r) := by
  unfold items?
  rw [hs]
  split
  · rename_i h
    exact absurd (List.cons.inj h).1 hc
  · rw [hv]
    dsimp only
    rw [hu]
    rfl

/-- A line that binds a key. -/
theorem line?_of_binding {c : Char} {s t u r : List Char} {path : List String} {v : Toml}
    (hc : c ≠ '[') (hend : lineEnd? (c :: s) = none) (hskip : skipSpace (c :: s) = c :: s)
    (hpath : path? (c :: s).length (c :: s) = some (path, '=' :: t))
    (hvalue : value? (t.length + 1) (skipSpace t) = some (v, u)) (hrest : lineEnd? u = some r) :
    line? (c :: s) = some (.binding path v, r) := by
  rw [line?, hend]
  dsimp only
  rw [hskip]
  split
  · rename_i h
    exact absurd (List.cons.inj h).1 hc
  · rename_i h
    exact absurd (List.cons.inj h).1 hc
  · rw [hpath]
    show (value? (t.length + 1) (skipSpace t)).bind _ = _
    rw [hvalue, Option.bind_some, hrest]
    rfl

/-- Lines are taken one after the other. -/
theorem linesOnto?_cons {fuel : Nat} {d e : Draft} {c : Char} {s r : List Char} {line : Line}
    (h : line? (c :: s) = some (line, r)) (hd : d.take? line = some e) :
    linesOnto? (fuel + 1) d (c :: s) = linesOnto? fuel e r := by
  rw [linesOnto?.eq_def]
  dsimp only
  rw [h]
  show (d.take? line).bind _ = _
  rw [hd]
  rfl

end Toml

namespace ConfigFile

variable {s : Surroundings} {path : String} {layer file : Layer} {asked : Option String}

theorem distinct_of_layer? (h : layer? s path = some (.ok layer)) : Distinct layer := by
  unfold layer? at h
  split at h
  · cases h
  · cases h
  · split at h
    · cases h
    · split at h
      · cases h
      · rename_i hp
        cases h
        exact Toml.distinct_membersOf hp

/-- The layer of the configuration file: that of the file the command line names, or else of the
first of the usual places at which there is a file, or none if there is no file. -/
inductive Found (s : Surroundings) : Option String → Layer → Prop where
  | asked {path : String} {layer : Layer} (reads : layer? s path = some (.ok layer)) :
    Found s (some path) layer
  | usual {before after : List String} {path : String} {layer : Layer}
    (places : places s = before ++ path :: after) (missing : ∀ p ∈ before, layer? s p = none)
    (reads : layer? s path = some (.ok layer)) : Found s none layer
  | absent (missing : ∀ p ∈ places s, layer? s p = none) : Found s none []

theorem firstOf_of_missing {failures : Nat} {before : List String}
    (h : ∀ p ∈ before, layer? s p = none) (after : List String) :
    firstOf s failures (before ++ after) = firstOf s failures after := by
  induction before with
  | nil => rfl
  | cons p before ih =>
    rw [List.cons_append, firstOf, h p (List.mem_cons_self ..)]
    exact ih fun q hq => h q (List.mem_cons_of_mem _ hq)

/-- **The layer that is found is read without an error.** -/
theorem Found.layer_eq (h : Found s asked file) : ConfigFile.layer s asked = (file, []) := by
  cases h with
  | asked reads => simp [ConfigFile.layer, reads]
  | usual places missing reads =>
    simp [ConfigFile.layer, places, firstOf_of_missing missing, firstOf, reads]
  | absent missing =>
    have hf : firstOf s 0 (places s ++ []) = firstOf s 0 [] := firstOf_of_missing missing []
    rw [List.append_nil] at hf
    simp [ConfigFile.layer, hf, firstOf]

theorem Found.distinct (h : Found s asked file) : Distinct file := by
  cases h with
  | asked reads | usual _ _ reads => exact distinct_of_layer? reads
  | absent => exact List.nodup_nil

/-- The file that the environment names comes first. -/
theorem Found.named {path : String} (hn : s.lookup? "COLLECTOR_CONFIG_PATH" = some path)
    (reads : layer? s path = some (.ok layer)) : Found s none layer := by
  have hplaces : ∃ after, places s = path :: after := by
    unfold places
    rw [hn]
    simp only [Option.toList_some, List.cons_append, List.nil_append, List.append_assoc,
      List.eraseDups_cons]
    exact ⟨_, rfl⟩
  obtain ⟨after, ha⟩ := hplaces
  exact .usual (show places s = [] ++ path :: after from ha) nofun reads

end ConfigFile

end AgentIntake
