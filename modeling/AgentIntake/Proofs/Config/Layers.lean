import AgentIntake.Proofs.Config.Setting

/-!
# Layers, one laid over another

What counts of a setting is what the highest layer says that says anything (`get?_stack`), so each
setting can be looked up in the layers by itself.  The lists of probe hosts are the exception: they
are joined, and all of them count.

`exists_config` says what layers come to if each is fit for its place: no name is given twice, and
what is given is of the right kind.  The built-in defaults are such a layer, and they give every
other setting the value it has when nothing is set (`value?_builtIn`).
-/

namespace AgentIntake.Layer

/-! ## 1.  Looking up -/

variable {higher lower layer : Layer} {layers : List Layer} {name : String} {k : Setting}

theorem get?_append (first second : Layer) (name : String) :
    get? (first ++ second) name = (first.get? name).or (second.get? name) := by
  rw [get?, List.find?_append, get?, get?]
  cases first.find? (·.1 = name) <;> rfl

/-- Leaving out other names does not matter. -/
theorem get?_filter {p : String × Json → Bool} (h : ∀ j, p (name, j) = true) (layer : Layer) :
    get? (layer.filter p) name = layer.get? name := by
  rw [get?, get?, List.find?_filter]
  refine congrArg (Option.map _) (congrArg (List.find? · layer) (funext fun entry => ?_))
  by_cases he : entry.1 = name
  · subst he
    simp [h entry.2]
  · simp [he]

/-- The higher of two layers counts. -/
theorem get?_laidOver (higher lower : Layer) (name : String) :
    (higher.laidOver lower).get? name = (higher.get? name).or (lower.get? name) := by
  rw [laidOver, get?_append]
  cases h : higher.get? name with
  | some j => rfl
  | none => rw [get?_filter fun j => by simp [h]]

/-- Of several layers the highest counts that says anything. -/
theorem get?_stack (layers : List Layer) (name : String) :
    (stack layers).get? name = layers.reverse.findSome? (·.get? name) := by
  have hgo : ∀ lower : Layer,
      (layers.foldl (fun lower higher => higher.laidOver lower) lower).get? name =
        (layers.reverse.findSome? (·.get? name)).or (lower.get? name) := by
    induction layers with
    | nil => intro lower; rfl
    | cons layer layers ih =>
      intro lower
      rw [List.foldl_cons, ih, get?_laidOver, List.reverse_cons, List.findSome?_append,
        Option.or_assoc]
      cases h : layer.get? name <;> simp [h]
  exact (hgo []).trans (Option.or_none)

/-! ## 2.  Names that differ -/

theorem Distinct.filter (h : Distinct layer) (p : String × Json → Bool) :
    Distinct (layer.filter p) :=
  h.sublist (List.filter_sublist.map Prod.fst)

theorem Distinct.laidOver (hh : Distinct higher) (hl : Distinct lower) :
    Distinct (higher.laidOver lower) := by
  rw [Distinct, Layer.laidOver, List.map_append]
  refine List.nodup_append.2 ⟨hh, hl.filter _, ?_⟩
  rintro key hk _ hm rfl
  obtain ⟨entry, he, rfl⟩ := List.mem_map.1 hm
  -- what is left of the lower layer has no name of the higher
  have hnone := get?_eq_none_iff.1 (Option.isNone_iff_eq_none.1 (List.mem_filter.1 he).2)
  exact hnone hk

theorem distinct_stack (h : ∀ layer ∈ layers, Distinct layer) : Distinct (stack layers) := by
  have hgo : ∀ lower : Layer, Distinct lower →
      Distinct (layers.foldl (fun lower higher => higher.laidOver lower) lower) := by
    induction layers with
    | nil => exact fun _ hl => hl
    | cons layer layers ih =>
      intro lower hl
      exact ih (fun l hm => h l (List.mem_cons_of_mem _ hm)) _
        ((h layer (List.mem_cons_self ..)).laidOver hl)
  exact hgo [] List.nodup_nil

/-! ## 3.  Layers of the right kinds -/

/-- What a layer gives is of the right kinds: the probe hosts are a list of texts, or one text, and
the others are what their settings are. -/
structure IsTyped (layer : Layer) : Prop where
  hosts : ∃ hosts, layer.hosts = .ok hosts
  reads : ∀ k : Setting, k ≠ .probeHosts → layer.Reads k

/-- The probe hosts that a layer gives, none if they are not of the right kind. -/
def hostTexts (layer : Layer) : List String :=
  layer.hosts.toOption.getD []

/-- The value that the highest layer gives a setting. -/
def top? (layers : List Layer) (k : Setting) : Option k.Value :=
  layers.reverse.findSome? (·.value? k)

@[simp] theorem top?_nil (k : Setting) : top? [] k = none :=
  rfl

/-- A layer counts where those above it say nothing. -/
theorem top?_cons (layer : Layer) (higher : List Layer) (k : Setting) :
    top? (layer :: higher) k = (top? higher k).or (layer.value? k) := by
  rw [top?, List.reverse_cons, List.findSome?_append, top?, List.findSome?_singleton]

/-- The probe hosts of all layers are joined. -/
theorem allHosts_eq (h : ∀ layer ∈ layers, ∃ hosts, layer.hosts = .ok hosts) :
    allHosts layers = .ok (layers.flatMap hostTexts) := by
  induction layers with
  | nil => rfl
  | cons layer layers ih =>
    obtain ⟨hosts, hh⟩ := h layer (List.mem_cons_self ..)
    rw [allHosts, hh]
    simp [ih fun l hm => h l (List.mem_cons_of_mem _ hm), hostTexts, hh, Except.toOption]

theorem Reads.value?_eq (h : layer.Reads k) {j : Json} (hj : layer.get? k.name = some j) :
    ∃ v, k.schema.ofJson j = .ok v ∧ layer.value? k = some v := by
  obtain ⟨v, hv⟩ := h j hj
  exact ⟨v, hv, by rw [value?, hj, Option.bind_some, hv]; rfl⟩

/-- What has a value is of the right kind. -/
theorem reads_of_isSome (h : (layer.value? k).isSome = true) : layer.Reads k := by
  intro j hj
  rw [value?, hj, Option.bind_some] at h
  cases hr : k.schema.ofJson j with
  | error cause => rw [hr] at h; cases h
  | ok v => exact ⟨v, rfl⟩

/-- Layers of the right kinds come to values of the right kinds, the highest layer's. -/
theorem value?_stack (h : ∀ layer ∈ layers, layer.Reads k) :
    (stack layers).Reads k ∧ (stack layers).value? k = top? layers k := by
  have hgo : ∀ ls : List Layer, (∀ layer ∈ ls, layer.Reads k) →
      (∀ j, ls.findSome? (·.get? k.name) = some j → ∃ v, k.schema.ofJson j = .ok v) ∧
        (ls.findSome? (·.get? k.name)).bind (fun j => (k.schema.ofJson j).toOption) =
          ls.findSome? (·.value? k) := by
    intro ls hls
    induction ls with
    | nil => exact ⟨nofun, rfl⟩
    | cons layer ls ih =>
      have hl := hls layer (List.mem_cons_self ..)
      rw [List.findSome?_cons, List.findSome?_cons]
      cases hj : layer.get? k.name with
      | none =>
        rw [show layer.value? k = none by rw [value?, hj]; rfl]
        exact ih fun l hm => hls l (List.mem_cons_of_mem _ hm)
      | some j =>
        obtain ⟨v, hv, hvalue⟩ := hl.value?_eq hj
        rw [hvalue]
        refine ⟨?_, by simp [hv, Except.toOption]⟩
        rintro i hi
        cases hi
        exact ⟨v, hv⟩
  obtain ⟨hreads, hvalue⟩ := hgo layers.reverse fun l hm => h l (List.mem_reverse.1 hm)
  rw [← get?_stack] at hreads hvalue
  exact ⟨hreads, hvalue⟩

/-! ## 4.  What layers come to -/

/-- A list of texts reads as itself. -/
theorem itemsOfJson_map_string (texts : List String) :
    Json.Schema.itemsOfJson Settings.text.ofJson (texts.map .string) = .ok texts := by
  induction texts with
  | nil => rfl
  | cons text texts ih =>
    rw [List.map_cons, Json.Schema.itemsOfJson, ih]
    rfl

/-- **What layers come to.** -/
theorem exists_config (hd : ∀ layer ∈ layers, Distinct layer)
    (ht : ∀ layer ∈ layers, IsTyped layer) :
    ∃ c, config layers = .ok c ∧
      (∀ k : Setting, k ≠ .probeHosts → k.ofConfig c = (top? layers k).getD (k.ofConfig .default)) ∧
      c.probeHosts = layers.flatMap hostTexts := by
  let hosts := layers.flatMap hostTexts
  let others := (stack layers).filter (·.1 ≠ hostsName)
  let members : Layer := (hostsName, .array (hosts.map .string)) :: others
  have hothers : ∀ k : Setting, k ≠ .probeHosts →
      Layer.get? members k.name = (stack layers).get? k.name := by
    intro k hk
    have hne : hostsName ≠ k.name :=
      fun he => hk (Setting.name_injective (k := .probeHosts) he).symm
    rw [get?_cons, if_neg hne]
    exact get?_filter (fun j => by simpa using hne.symm) _
  have hhosts : Layer.get? members Setting.probeHosts.name = some (.array (hosts.map .string)) :=
    (get?_cons ..).trans (if_pos rfl)
  have hdistinct : Distinct members := by
    refine List.nodup_cons.2 ⟨fun hm => ?_, (distinct_stack hd).filter _⟩
    obtain ⟨entry, he, hn⟩ := List.mem_map.1 hm
    simpa [hn] using (List.mem_filter.1 he).2
  have hstack : ∀ k : Setting, k ≠ .probeHosts →
      (stack layers).Reads k ∧ (stack layers).value? k = top? layers k :=
    fun k hk => value?_stack fun l hm => (ht l hm).reads k hk
  have hreads : ∀ k, Reads members k := by
    intro k j hj
    by_cases hk : k = .probeHosts
    · subst hk
      rw [hhosts] at hj
      cases hj
      exact ⟨hosts, itemsOfJson_map_string hosts⟩
    · rw [hothers k hk] at hj
      exact (hstack k hk).1 j hj
  obtain ⟨c, hc, hvalues⟩ := Config.exists_ofJson hdistinct hreads
  refine ⟨c, ?_, fun k hk => ?_, ?_⟩
  · rw [config, allHosts_eq fun l hm => (ht l hm).hosts]
    exact hc
  · rw [hvalues k, ← (hstack k hk).2, value?, hothers k hk, value?]
  · have hv := hvalues .probeHosts
    have hitems : (Setting.schema .probeHosts).ofJson (.array (hosts.map .string)) = .ok hosts :=
      itemsOfJson_map_string hosts
    rw [value?, hhosts, Option.bind_some, hitems] at hv
    exact hv

/-! ## 5.  The built-in defaults -/

/-- The built-in defaults are what each setting is when nothing is set. -/
theorem value?_builtIn (h : k ≠ .probeHosts) : builtIn.value? k = some (k.ofConfig .default) := by
  cases k <;> first | rfl | exact absurd rfl h

theorem distinct_builtIn : Distinct builtIn := by
  unfold Distinct builtIn
  decide

theorem isTyped_builtIn : IsTyped builtIn where
  hosts := ⟨[], rfl⟩
  reads _ hk := reads_of_isSome (by rw [value?_builtIn hk]; rfl)

end AgentIntake.Layer
