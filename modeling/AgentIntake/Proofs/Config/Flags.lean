import AgentIntake.Config.CommandLine
import AgentIntake.Proofs.Config.Layers
import Mathlib.Data.List.TakeDrop
import Mathlib.Data.List.TakeWhile

/-!
# Flags

A flag is an option with its value, and there are five ways to write one: by name or by letter, with
the value apart or right after, with or without an equals sign.  A command line of flags, each
written in any way, says what the flags say (`exists_parse`).  Each option may be used once, but
that of the probe hosts as often as one likes.

A value that stands apart is given to its option only when the next option comes or the arguments
end.  So a state is compared here by what it comes to when it is settled, and `takeAll_flag` says
that a flag adds itself to that.
-/

namespace AgentIntake.CommandLine

open Layer (Distinct)

/-! ## 1.  Flags -/

/-- How a flag is written: by name or by letter, with its value in the next argument or after an
equals sign; or by letter with its value right after it. -/
inductive Spelling where
  | apart
  | joined
  | letterApart (letter : Char)
  | letterJoined (letter : Char)
  | letterClose (letter : Char)

/-- An option and its value, as they are written. -/
structure Flag where
  switch : Switch
  value : String
  spelling : Spelling

namespace Flag

/-- The arguments that make a flag. -/
def arguments (f : Flag) : List String :=
  match f.spelling with
  | .apart => ["--" ++ f.switch.long, f.value]
  | .joined => ["--" ++ f.switch.long ++ "=" ++ f.value]
  | .letterApart c => [String.ofList ['-', c], f.value]
  | .letterJoined c => [String.ofList ('-' :: c :: '=' :: f.value.toList)]
  | .letterClose c => [String.ofList ('-' :: c :: f.value.toList)]

/-- The flag can be written as it is: it uses its own letter, a value apart does not begin as an
option does, and one right after its letter does not begin with an equals sign. -/
def Writes (f : Flag) : Prop :=
  match f.spelling with
  | .apart => ∀ c r, f.value.toList ≠ '-' :: c :: r
  | .joined => True
  | .letterApart c => f.switch.letter = some c ∧ ∀ d r, f.value.toList ≠ '-' :: d :: r
  | .letterJoined c => f.switch.letter = some c
  | .letterClose c => f.switch.letter = some c ∧ f.value ≠ "" ∧ ∀ r, f.value.toList ≠ '=' :: r

/-- The document that a flag gives. -/
def json (f : Flag) : Json :=
  match f.switch.read f.value with
  | .ok j => j
  | .error _ => .null

/-- A flag that means something: there is such an option, it is written in a way that can be read,
and its value is one that the option takes. -/
structure Fits (f : Flag) : Prop where
  known : f.switch ∈ switches
  writes : f.Writes
  reads : ∃ j, f.switch.read f.value = .ok j

end Flag

/-- Flags that mean something together: each does by itself, and only the option of the probe hosts
is used twice. -/
structure Proper (flags : List Flag) : Prop where
  fits : ∀ f ∈ flags, f.Fits
  once : flags.Pairwise fun f g => f.switch.name = g.switch.name → f.switch.name = Layer.hostsName

/-- The values of an option. -/
def textsOf (flags : List Flag) (name : String) : List String :=
  (flags.filter (·.switch.name = name)).map Flag.value

/-- What flags say under a name. -/
def said (flags : List Flag) (name : String) : Option Json :=
  if name = Layer.hostsName then
    if textsOf flags name = [] then none else some (.array ((textsOf flags name).map .string))
  else (flags.find? (·.switch.name = name)).map Flag.json

/-! ## 2.  The options -/

variable {switch : Switch} {c : Char}

theorem find?_long (h : switch ∈ switches) :
    switches.find? (·.long = switch.long) = some switch := by
  simp only [switches, List.mem_cons, List.not_mem_nil, or_false] at h
  rcases h with rfl | rfl | rfl | rfl | rfl | rfl | rfl | rfl | rfl | rfl <;> rfl

theorem find?_letter (h : switch ∈ switches) (hc : switch.letter = some c) :
    switches.find? (·.letter = some c) = some switch := by
  simp only [switches, List.mem_cons, List.not_mem_nil, or_false] at h
  rcases h with rfl | rfl | rfl | rfl | rfl | rfl | rfl | rfl | rfl | rfl <;> cases hc <;> rfl

/-- A letter is neither a hyphen nor that of help. -/
theorem letter_ne (h : switch ∈ switches) (hc : switch.letter = some c) : c ≠ '-' ∧ c ≠ 'h' := by
  simp only [switches, List.mem_cons, List.not_mem_nil, or_false] at h
  rcases h with rfl | rfl | rfl | rfl | rfl | rfl | rfl | rfl | rfl | rfl <;> cases hc <;> decide

/-- A name is not empty, holds no equals sign, and is not that of help. -/
theorem long_ne (h : switch ∈ switches) :
    switch.long.toList ≠ [] ∧ '=' ∉ switch.long.toList ∧ switch.long ≠ "help" := by
  simp only [switches, List.mem_cons, List.not_mem_nil, or_false] at h
  rcases h with rfl | rfl | rfl | rfl | rfl | rfl | rfl | rfl | rfl | rfl <;> decide

/-- Only the option of the probe hosts may be repeated, and its values are texts. -/
theorem repeats_iff (h : switch ∈ switches) :
    (switch.repeats = true ↔ switch.name = Layer.hostsName) ∧
      (switch.name = Layer.hostsName → switch.read = readText) := by
  simp only [switches, List.mem_cons, List.not_mem_nil, or_false] at h
  rcases h with rfl | rfl | rfl | rfl | rfl | rfl | rfl | rfl | rfl | rfl <;>
    exact ⟨by decide, fun hn => by first | rfl | exact absurd hn (by decide)⟩

/-! ## 3.  What arguments look like -/

namespace Argument

theorem ofText_of_plain {text : String} (h : ∀ c r, text.toList ≠ '-' :: c :: r) :
    ofText text = .value text := by
  unfold ofText
  split
  · rename_i ht
    exact absurd ht (h _ _)
  · rename_i ht
    exact absurd ht (h _ _)
  · rename_i ht
    exact absurd ht (h _ _)
  · rfl

theorem toList_long (name : String) : ("--" ++ name).toList = '-' :: '-' :: name.toList := by
  rw [String.toList_append]
  rfl

theorem bne_equals_of_not_mem {name : String} (h : '=' ∉ name.toList) :
    ∀ c ∈ name.toList, (c != '=') = true :=
  fun _ hc => bne_iff_ne.2 fun he => h (he ▸ hc)

/-- An option by its name, with nothing more. -/
theorem ofText_long {name : String} (hne : name.toList ≠ []) (h : '=' ∉ name.toList) :
    ofText ("--" ++ name) = .long name none := by
  have hspan : name.toList.span (· != '=') = (name.toList, []) := by
    have hall := bne_equals_of_not_mem h
    rw [List.span_eq_takeWhile_dropWhile, List.takeWhile_eq_self_iff.2 hall,
      List.dropWhile_eq_nil_iff.2 hall]
  unfold ofText
  rw [toList_long]
  obtain ⟨c, r, hr⟩ := List.exists_cons_of_ne_nil hne
  rw [hr] at hspan ⊢
  simp only [hspan]
  rw [← hr, String.ofList_toList]

/-- An option by its name, with its value after an equals sign. -/
theorem ofText_joined {name : String} (hne : name.toList ≠ []) (h : '=' ∉ name.toList)
    (value : String) : ofText ("--" ++ name ++ "=" ++ value) = .long name (some value) := by
  have hlist : ("--" ++ name ++ "=" ++ value).toList =
      '-' :: '-' :: (name.toList ++ '=' :: value.toList) := by
    rw [String.toList_append, String.toList_append, toList_long, List.append_assoc]
    rfl
  have hspan : (name.toList ++ '=' :: value.toList).span (· != '=') =
      (name.toList, '=' :: value.toList) := by
    have hall := bne_equals_of_not_mem h
    rw [List.span_eq_takeWhile_dropWhile, List.takeWhile_append_of_pos hall,
      List.dropWhile_append_of_pos hall]
    simp
  unfold ofText
  rw [hlist]
  obtain ⟨c, r, hr⟩ := List.exists_cons_of_ne_nil hne
  rw [hr] at hspan ⊢
  rw [List.cons_append] at hspan ⊢
  simp only [hspan]
  rw [← hr, String.ofList_toList, String.ofList_toList]

/-- An option by its letter, with nothing more. -/
theorem ofText_letter (h : c ≠ '-') : ofText (String.ofList ['-', c]) = .short c none := by
  unfold ofText
  rw [String.toList_ofList]
  simp [h]

/-- An option by its letter, with its value after an equals sign. -/
theorem ofText_letterJoined (h : c ≠ '-') (value : List Char) :
    ofText (String.ofList ('-' :: c :: '=' :: value)) = .short c (some (String.ofList value)) := by
  unfold ofText
  rw [String.toList_ofList]
  simp

/-- An option by its letter, with its value right after it. -/
theorem ofText_letterClose (h : c ≠ '-') {value : List Char} (hne : value ≠ [])
    (hv : ∀ r, value ≠ '=' :: r) :
    ofText (String.ofList ('-' :: c :: value)) = .short c (some (String.ofList value)) := by
  obtain ⟨d, r, rfl⟩ := List.exists_cons_of_ne_nil hne
  have hd : d ≠ '=' := fun he => hv r (he ▸ rfl)
  unfold ofText
  rw [String.toList_ofList]
  simp

end Argument

/-! ## 4.  Taking flags -/

/-- An argument is an option, with this value in the same argument. -/
def Names (argument : String) (switch : Switch) (value : Option String) : Prop :=
  Argument.ofText argument = .long switch.long value ∨
    ∃ c, switch.letter = some c ∧ Argument.ofText argument = .short c value

/-- The value of an option after one more: the option of the probe hosts gathers its values. -/
def Switch.gathered (switch : Switch) (before : Option Json) (j : Json) : Json :=
  if switch.repeats then
    match before with
    | some (.array items) => .array (items ++ [j])
    | _ => .array [j]
  else j

namespace State

variable {s t u : State} {f : Flag} {argument : String} {value : Option String}

theorem settle_of_pending (h : s.pending = none) : s.settle = .ok s := by
  rw [settle, h]

/-- An option is given a value, unless it has one and may not be repeated. -/
theorem give_eq (t : State) {text : String} {j : Json} (hr : switch.read text = .ok j)
    (hn : t.given.get? switch.name = none ∨ switch.repeats = true) :
    t.give switch text =
      .ok { t with
        given := Layer.laidOver
          [(switch.name, switch.gathered (t.given.get? switch.name) j)] t.given } := by
  unfold give Switch.gathered
  cases hb : t.given.get? switch.name with
  | none => simp only [hr]
  | some before =>
    have hrepeats : switch.repeats = true := by
      rcases hn with hn | hn
      · rw [hb] at hn
        cases hn
      · exact hn
    cases before <;> simp only [hrepeats, hr]

theorem pending_of_give {text : String} (h : t.give switch text = .ok u) :
    u.pending = t.pending ∧ u.escaped = t.escaped := by
  unfold give at h
  split at h
  · cases h
  · split at h
    · cases h
    · cases h
      exact ⟨rfl, rfl⟩

/-- A state that is settled has nothing pending. -/
theorem pending_of_settle (h : s.settle = .ok t) : t.pending = none ∧ t.escaped = s.escaped := by
  unfold settle at h
  split at h
  · rename_i hp
    cases h
    exact ⟨hp, rfl⟩
  · cases h
  · exact pending_of_give h

/-- An argument that is an option settles what is pending. -/
theorem take_of_names (hk : switch ∈ switches) (he : s.escaped = false) (hs : s.settle = .ok t)
    (ha : Names argument switch value) : s.take argument = t.takeSwitch switch value := by
  have hswitch : s.takeSwitch switch value = t.takeSwitch switch value := by
    rw [takeSwitch, takeSwitch, hs, settle_of_pending (pending_of_settle hs).1]
  rcases ha with ha | ⟨c, hc, ha⟩
  · simp only [take, he, ha, if_neg (long_ne hk).2.2, find?_long hk]
    exact hswitch
  · simp only [take, he, ha, if_neg (letter_ne hk hc).2, find?_letter hk hc]
    exact hswitch

/-- An option and its value in the next argument. -/
theorem takeAll_apart (hk : switch ∈ switches) (he : s.escaped = false) (hs : s.settle = .ok t)
    (ha : Names argument switch none) {text : String} (hv : ∀ c r, text.toList ≠ '-' :: c :: r)
    (hg : t.give switch text = .ok u) (rest : List String) :
    ∃ r : State, s.takeAll (argument :: text :: rest) = r.takeAll rest ∧ r.escaped = false ∧
      r.settle = .ok u := by
  obtain ⟨hpending, hescaped⟩ := pending_of_settle hs
  have hte : t.escaped = false := hescaped.trans he
  refine ⟨{ t with pending := some (switch, some text) }, ?_, hte, ?_⟩
  · rw [takeAll, take_of_names hk he hs ha, takeSwitch, settle_of_pending hpending]
    simp [takeAll, take, hte, Argument.ofText_of_plain hv]
  · have ht : ({ t with pending := none } : State) = t := by
      obtain ⟨given, pending, escaped⟩ := t
      cases hpending
      rfl
    show ({ t with pending := none } : State).give switch text = _
    rw [ht, hg]

/-- An option with its value in one argument. -/
theorem takeAll_joined (hk : switch ∈ switches) (he : s.escaped = false) (hs : s.settle = .ok t)
    {text : String} (ha : Names argument switch (some text)) (hg : t.give switch text = .ok u)
    (rest : List String) :
    ∃ r : State, s.takeAll (argument :: rest) = r.takeAll rest ∧ r.escaped = false ∧
      r.settle = .ok u := by
  obtain ⟨hpending, hescaped⟩ := pending_of_settle hs
  obtain ⟨hup, hue⟩ := pending_of_give hg
  refine ⟨u, ?_, hue.trans (hescaped.trans he), settle_of_pending (hup.trans hpending)⟩
  rw [takeAll, take_of_names hk he hs ha, takeSwitch, settle_of_pending hpending]
  simp only [hg]

/-- **A flag gives its option its value**, however it is written. -/
theorem takeAll_flag (hf : f.Fits) (he : s.escaped = false) (hs : s.settle = .ok t)
    (hg : t.give f.switch f.value = .ok u) (rest : List String) :
    ∃ r : State, s.takeAll (f.arguments ++ rest) = r.takeAll rest ∧ r.escaped = false ∧
      r.settle = .ok u := by
  obtain ⟨hk, hw, -⟩ := hf
  obtain ⟨hne, heq, -⟩ := long_ne hk
  obtain ⟨switch, text, spelling⟩ := f
  cases spelling with
  | apart => exact takeAll_apart hk he hs (.inl (Argument.ofText_long hne heq)) hw hg rest
  | joined => exact takeAll_joined hk he hs (.inl (Argument.ofText_joined hne heq text)) hg rest
  | letterApart c =>
    obtain ⟨hc, hv⟩ := hw
    have ha := Argument.ofText_letter (letter_ne hk hc).1
    exact takeAll_apart hk he hs (.inr ⟨c, hc, ha⟩) hv hg rest
  | letterJoined c =>
    have ha := Argument.ofText_letterJoined (letter_ne hk hw).1 text.toList
    rw [String.ofList_toList] at ha
    exact takeAll_joined hk he hs (.inr ⟨c, hw, ha⟩) hg rest
  | letterClose c =>
    obtain ⟨hc, hempty, hv⟩ := hw
    have hl : text.toList ≠ [] := fun h => hempty (String.toList_eq_nil_iff.1 h)
    have ha := Argument.ofText_letterClose (letter_ne hk hc).1 hl hv
    rw [String.ofList_toList] at ha
    exact takeAll_joined hk he hs (.inr ⟨c, hc, ha⟩) hg rest

end State

/-! ## 5.  What flags say -/

section

variable (flags : List Flag) (f : Flag) (name : String)

theorem textsOf_append_singleton :
    textsOf (flags ++ [f]) name =
      textsOf flags name ++ if f.switch.name = name then [f.value] else [] := by
  by_cases h : f.switch.name = name <;> simp [textsOf, h]

variable {flags f name}

/-- Another option's flag says nothing under a name. -/
theorem said_append_of_ne (h : f.switch.name ≠ name) :
    said (flags ++ [f]) name = said flags name := by
  simp [said, textsOf_append_singleton, h, List.find?_append]

/-- A flag of the probe hosts adds its value to those before. -/
theorem said_append_hosts (h : f.switch.name = Layer.hostsName) (hr : f.Fits) :
    said (flags ++ [f]) f.switch.name =
      some (f.switch.gathered (said flags f.switch.name) f.json) := by
  obtain ⟨hrepeats, hread⟩ := repeats_iff hr.known
  have hjson : f.json = .string f.value := by rw [Flag.json, hread h]; rfl
  have hsaid : ∀ flags : List Flag, said flags f.switch.name =
      if textsOf flags f.switch.name = [] then none
      else some (.array ((textsOf flags f.switch.name).map .string)) :=
    fun flags => by rw [said, if_pos h]
  unfold Switch.gathered
  rw [if_pos (hrepeats.2 h), hjson, hsaid, hsaid, textsOf_append_singleton, if_pos rfl]
  by_cases ht : textsOf flags f.switch.name = []
  · simp [ht]
  · simp [ht]

/-- Any other flag says its own value, if it is the first of its option. -/
theorem said_append_first (h : f.switch.name ≠ Layer.hostsName) (hr : f.Fits)
    (hfirst : ∀ g ∈ flags, g.switch.name ≠ f.switch.name) :
    said flags f.switch.name = none ∧
      said (flags ++ [f]) f.switch.name = some (f.switch.gathered none f.json) := by
  have hnone : flags.find? (·.switch.name = f.switch.name) = none :=
    List.find?_eq_none.2 fun g hg => by simpa using hfirst g hg
  have hrepeats : f.switch.repeats = false :=
    eq_false_of_ne_true fun ht => h ((repeats_iff hr.known).1.1 ht)
  simp [said, h, List.find?_append, hnone, Switch.gathered, hrepeats]

end

/-- A settled state has been given what flags say, and no name is given twice. -/
structure Says (t : State) (flags : List Flag) : Prop where
  get?_eq : ∀ name, t.given.get? name = said flags name
  distinct : Distinct t.given

/-- One more flag. -/
theorem Says.give {t : State} {flags : List Flag} {f : Flag} (h : Says t flags)
    (hp : Proper (flags ++ [f])) :
    ∃ u, t.give f.switch f.value = .ok u ∧ Says u (flags ++ [f]) := by
  have hf : f.Fits := hp.fits f (by simp)
  obtain ⟨j, hj⟩ := hf.reads
  have hjson : f.json = j := by rw [Flag.json, hj]
  have hpair := (List.pairwise_append.1 hp.once).2.2
  -- the option is new, or it is that of the probe hosts
  have hnew : t.given.get? f.switch.name = none ∨ f.switch.repeats = true := by
    by_cases hn : f.switch.name = Layer.hostsName
    · exact .inr ((repeats_iff hf.known).1.2 hn)
    · refine .inl ?_
      rw [h.get?_eq]
      refine (said_append_first hn hf fun g hg he => hn ?_).1
      exact he.symm.trans (hpair g hg f (List.mem_singleton_self f) he)
  refine ⟨_, State.give_eq t hj hnew, fun name => ?_, ?_⟩
  · rw [Layer.get?_laidOver, Layer.get?_cons, h.get?_eq, h.get?_eq]
    by_cases hname : f.switch.name = name
    · subst hname
      rw [if_pos rfl, Option.some_or, ← hjson]
      by_cases hn : f.switch.name = Layer.hostsName
      · rw [said_append_hosts hn hf]
      · have hfirst : ∀ g ∈ flags, g.switch.name ≠ f.switch.name := fun g hg he =>
          hn (he.symm.trans (hpair g hg f (List.mem_singleton_self f) he))
        obtain ⟨hnone, hsome⟩ := said_append_first hn hf hfirst
        rw [hnone, hsome]
    · rw [if_neg hname, said_append_of_ne hname]
      rfl
  · exact Distinct.laidOver (by simp [Distinct]) h.distinct

/-- **A command line of flags is read**, and it says what they say. -/
theorem takeAll_flags (flags : List Flag) (hp : Proper flags) :
    ∃ u, State.takeAll ⟨[], none, false⟩ (flags.flatMap Flag.arguments) = .ok u ∧ Says u flags := by
  have hgo : ∀ (more before : List Flag) (s t : State), Proper (before ++ more) →
    s.escaped = false →
      s.settle = .ok t → Says t before →
      ∃ u, s.takeAll (more.flatMap Flag.arguments) = .ok u ∧ Says u (before ++ more) := by
    intro more
    induction more with
    | nil =>
      intro before s t _ _ hs ht
      exact ⟨t, hs, by rwa [List.append_nil]⟩
    | cons f more ih =>
      intro before s t hp he hs ht
      have hb : before ++ f :: more = (before ++ [f]) ++ more := by simp
      have hp' : Proper (before ++ [f]) := by
        rw [hb] at hp
        exact ⟨fun g hg => hp.fits g (List.mem_append_left _ hg),
          (List.pairwise_append.1 hp.once).1⟩
      obtain ⟨u, hg, hu⟩ := ht.give hp'
      obtain ⟨r, hr, hre, hrs⟩ :=
        State.takeAll_flag (hp.fits f (by simp)) he hs hg (more.flatMap Flag.arguments)
      obtain ⟨v, hv, htold⟩ := ih (before ++ [f]) r u (hb ▸ hp) hre hrs hu
      refine ⟨v, ?_, hb ▸ htold⟩
      rw [List.flatMap_cons, hr, hv]
  exact hgo flags [] _ _ hp rfl rfl ⟨fun name => by simp [said, textsOf], List.nodup_nil⟩

/-! ## 6.  Values of flags -/

/-- How the option of a setting reads its value. -/
def readerOf : Setting → String → Except Fault Json
  | .listenIp | .logFilter | .probeHosts => readText
  | .listenPort => readPort
  | .workerThreads | .workerQueueSize | .eventWorkerThreads | .eventWorkerQueueSize => readSize
  | .logFormat => readFormat

theorem read_eq {k : Setting} (h : switch ∈ switches) (hn : switch.name = k.name) :
    switch.read = readerOf k := by
  simp only [switches, List.mem_cons, List.not_mem_nil, or_false] at h
  rcases h with rfl | rfl | rfl | rfl | rfl | rfl | rfl | rfl | rfl | rfl <;> cases k <;>
    first | rfl | exact absurd hn (by decide)

theorem orBad_eq_ok {value : Option Json} {j : Json} (h : orBad value = .ok j) :
    value = some j := by
  cases value with
  | none => cases h
  | some v =>
    cases h
    rfl

theorem eq_whole_of_ofInt? {n : Int} {x : Number} (h : Number.ofInt? n = some x) :
    n < 0x10000000000000000 ∧ ∃ fits, x = .whole n fits := by
  unfold Number.ofInt? at h
  split at h
  · rename_i fits
    cases h
    exact ⟨fits.2, fits, rfl⟩
  · cases h

theorem exists_unsigned16_of_readPort {text : String} {j : Json} (h : readPort text = .ok j) :
    ∃ v, Json.Schema.unsigned16.ofJson j = .ok v := by
  obtain ⟨n, -, hn⟩ := Option.bind_eq_some_iff.1 (orBad_eq_ok h)
  split at hn
  · rename_i hb
    obtain ⟨x, hx, rfl⟩ := Option.map_eq_some_iff.1 hn
    obtain ⟨-, fits, rfl⟩ := eq_whole_of_ofInt? hx
    exact ⟨_, Json.Schema.ofJson_map
      (Json.Schema.ofJson_integer _ _ n "u16" ⟨hb.1, by omega⟩ fits) _⟩
  · cases hn

theorem exists_size_of_readSize {text : String} {j : Json} (h : readSize text = .ok j) :
    ∃ v, Settings.size.ofJson j = .ok v := by
  obtain ⟨n, -, hn⟩ := Option.bind_eq_some_iff.1 (orBad_eq_ok h)
  obtain ⟨x, hx, rfl⟩ := Option.map_eq_some_iff.1 hn
  obtain ⟨hlt, fits, rfl⟩ := eq_whole_of_ofInt? hx
  exact ⟨_, Json.Schema.ofJson_map
    (Json.Schema.ofJson_integer _ _ n "usize" ⟨by omega, by omega⟩ fits) _⟩

theorem exists_format_of_readFormat {text : String} {j : Json} (h : readFormat text = .ok j) :
    ∃ v, LogFormat.schema.ofJson j = .ok v := by
  obtain ⟨f, -, rfl⟩ := Option.map_eq_some_iff.1 (orBad_eq_ok h)
  exact ⟨f, by cases f <;> rfl⟩

/-- **What an option takes is of its setting's kind.** -/
theorem exists_ofJson_of_read {k : Setting} (hk : k ≠ .probeHosts) {text : String} {j : Json}
    (h : readerOf k text = .ok j) : ∃ v, k.schema.ofJson j = .ok v := by
  cases k with
  | listenIp | logFilter =>
    cases h
    exact ⟨text, rfl⟩
  | listenPort => exact exists_unsigned16_of_readPort h
  | workerThreads | workerQueueSize | eventWorkerThreads | eventWorkerQueueSize =>
    exact exists_size_of_readSize h
  | probeHosts => exact absurd rfl hk
  | logFormat => exact exists_format_of_readFormat h

/-! ## 7.  Command lines -/

/-- The file that flags name. -/
def pathOf (flags : List Flag) : Option String :=
  (flags.find? (·.switch.name = pathName)).map Flag.value

/-- The value that flags give a setting. -/
def valueOf? (flags : List Flag) (k : Setting) : Option k.Value :=
  (flags.find? (·.switch.name = k.name)).bind fun f => (k.schema.ofJson f.json).toOption

/-- What flags come to: the file that is named, the value of each setting, and the probe hosts in
the order of their flags, all of the right kind, and no name twice. -/
structure Comes (flags : List Flag) (line : CommandLine) : Prop where
  path_eq : line.path = pathOf flags
  value?_eq : ∀ k : Setting, k ≠ .probeHosts → line.layer.value? k = valueOf? flags k
  hostTexts_eq : line.layer.hostTexts = textsOf flags Layer.hostsName
  isTyped : line.layer.IsTyped
  distinct : Distinct line.layer

/-- No setting is the file. -/
theorem name_ne_pathName (k : Setting) : k.name ≠ pathName := by
  cases k <;> decide

theorem said_of_ne {flags : List Flag} {name : String} (h : name ≠ Layer.hostsName) :
    said flags name = (flags.find? (·.switch.name = name)).map Flag.json :=
  if_neg h

/-- A flag that is found says the document that its option reads. -/
theorem Proper.read_of_find? {flags : List Flag} (hp : Proper flags) {name : String} {f : Flag}
    (h : flags.find? (·.switch.name = name) = some f) :
    f.switch ∈ switches ∧ f.switch.name = name ∧ f.switch.read f.value = .ok f.json := by
  have hf := hp.fits f (List.mem_of_find?_eq_some h)
  obtain ⟨j, hj⟩ := hf.reads
  exact ⟨hf.known, by simpa using List.find?_some h, by rw [Flag.json, hj]⟩

theorem pathOf_eq {flags : List Flag} (hp : Proper flags) :
    (match said flags pathName with
      | some (.string path) => some path
      | _ => none) = pathOf flags := by
  rw [said_of_ne (by decide), pathOf]
  cases hf : flags.find? (·.switch.name = pathName) with
  | none => rfl
  | some f =>
    obtain ⟨hk, hn, hr⟩ := hp.read_of_find? hf
    have hread : f.switch.read = readPath := by
      simp only [switches, List.mem_cons, List.not_mem_nil, or_false] at hk
      rcases hk with hk | hk | hk | hk | hk | hk | hk | hk | hk | hk <;> rw [hk] at hn ⊢ <;>
        first | rfl | exact absurd hn (by decide)
    rw [hread, readPath] at hr
    split at hr
    · cases hr
    · rw [Option.map_some, ← Except.ok.inj hr]
      rfl

/-- **A command line of flags comes to what the flags say.** -/
theorem exists_parse (flags : List Flag) (hp : Proper flags) :
    ∃ line, CommandLine.parse (flags.flatMap Flag.arguments) = .ok line ∧ Comes flags line := by
  obtain ⟨u, hu, htold, hdistinct⟩ := takeAll_flags flags hp
  refine ⟨_, by rw [CommandLine.parse, hu], ?_⟩
  have hget : ∀ k : Setting,
      Layer.get? (u.given.filter (·.1 ≠ pathName)) k.name = said flags k.name := by
    intro k
    rw [← htold]
    exact Layer.get?_filter (fun j => by simpa using name_ne_pathName k) _
  have hreads : ∀ k : Setting, k ≠ .probeHosts →
      Layer.Reads (u.given.filter (·.1 ≠ pathName)) k := by
    intro k hk j hj
    rw [hget, said_of_ne fun he => hk (Setting.name_injective he)] at hj
    obtain ⟨f, hf, rfl⟩ := Option.map_eq_some_iff.1 hj
    obtain ⟨hknown, hn, hr⟩ := hp.read_of_find? hf
    rw [read_eq hknown hn] at hr
    exact exists_ofJson_of_read hk hr
  have hhosts : Layer.hosts (u.given.filter (·.1 ≠ pathName)) =
      .ok (textsOf flags Layer.hostsName) := by
    have h := hget .probeHosts
    rw [said, if_pos (show Setting.probeHosts.name = Layer.hostsName from rfl)] at h
    rw [Layer.hosts, show Layer.hostsName = Setting.probeHosts.name from rfl, h]
    by_cases ht : textsOf flags Setting.probeHosts.name = []
    · simp [ht]
    · simp [ht, Layer.itemsOfJson_map_string]
  constructor
  · have hpath := pathOf_eq hp
    rw [← htold] at hpath
    exact hpath
  · intro k hk
    rw [Layer.value?, hget, said_of_ne fun he => hk (Setting.name_injective he), valueOf?]
    cases flags.find? (·.switch.name = k.name) <;> rfl
  · exact congrArg (fun hosts => hosts.toOption.getD []) hhosts
  · exact ⟨⟨_, hhosts⟩, hreads⟩
  · exact hdistinct.filter _

end AgentIntake.CommandLine
