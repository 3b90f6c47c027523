import AgentIntake.Proofs.Config.Flags
import AgentIntake.Proofs.Config.Sources
import AgentIntake.Proofs.Text.RoundTrip

/-!
# Layered configuration

Any of the nine settings may be given by any of the sources, together with any others: by the file,
by variables of the environment, by flags.  The collector then starts, and each setting has the
value of the highest source that gives it, or its default; what a source says about one setting has
no bearing on another.  Only the probe hosts of all sources count, those of the file first and those
of the command line last.

The pieces are proved elsewhere: what layers come to that are fit for it (`Layer.exists_config`),
and that the built-in defaults, files, the environment and command lines make such layers.

## The words

"Gives" means for a file that it binds the name, for the environment that some variable names it
(`Environment.given`), and for the command line that a flag is its option.  A value that is given
has to be of the setting's kind; for a flag that is what its option takes.
-/

namespace AgentIntake

/-- The value that variables give a setting. -/
def Environment.valueOf? (entries : List (String × String)) (k : Setting) : Option k.Value :=
  (given entries k.name).bind fun j => (k.schema.ofJson j).toOption

theorem Environment.value?_layer (entries : List (String × String)) (k : Setting) :
    (layer entries).value? k = valueOf? entries k := by
  rw [Layer.value?, get?_layer]
  rfl

namespace Config

open CommandLine (Flag)

/-- What a configuration is to be for a file, an environment and flags.

Each setting but the probe hosts has the highest value that is given, or its default (`value_eq`).
The probe hosts are those of the file, of the environment and of the flags, in this order
(`probeHosts_eq`). -/
structure Layered (file : Layer) (entries : List (String × String)) (flags : List Flag)
    (c : Config) : Prop where
  value_eq : ∀ k : Setting, k ≠ .probeHosts → k.ofConfig c =
    ((CommandLine.valueOf? flags k).or
      ((Environment.valueOf? entries k).or (file.value? k))).getD (k.ofConfig .default)
  probeHosts_eq : c.probeHosts =
    file.hostTexts ++ (Environment.layer entries).hostTexts ++
      CommandLine.textsOf flags Layer.hostsName

/-- **A configuration is layered.**  The flags are any that mean something together, in any order
and spelling; the file is the one that they or the environment name, or one in a usual place, or
there is none; and file and environment give any settings, each a value of its kind. -/
theorem load_layered {s : Surroundings} {flags : List Flag} {file : Layer}
    (arguments : s.arguments = flags.flatMap Flag.arguments) (proper : CommandLine.Proper flags)
    (found : ConfigFile.Found s (CommandLine.pathOf flags) file) (typed : file.IsTyped)
    (environment : (Environment.layer s.environment).IsTyped) :
    ∃ c, load s = .ok c ∧ Layered file s.environment flags c := by
  obtain ⟨line, hline, hcomes⟩ := CommandLine.exists_parse flags proper
  have hfile : ConfigFile.layer s line.path = (file, []) := by
    rw [hcomes.path_eq]
    exact found.layer_eq
  let layers := [Layer.builtIn, file, Environment.layer s.environment, line.layer]
  have hdistinct : ∀ layer ∈ layers, layer.Distinct := by
    simp only [layers, List.forall_mem_cons]
    exact ⟨Layer.distinct_builtIn, found.distinct, Environment.distinct_layer _, hcomes.distinct,
      nofun⟩
  have htyped : ∀ layer ∈ layers, layer.IsTyped := by
    simp only [layers, List.forall_mem_cons]
    exact ⟨Layer.isTyped_builtIn, typed, environment, hcomes.isTyped, nofun⟩
  obtain ⟨c, hc, hvalues, hhosts⟩ := Layer.exists_config hdistinct htyped
  refine ⟨c, ?_, fun k hk => ?_, ?_⟩
  · rw [load, arguments, hline]
    simp only [hfile, List.append_nil]
    rw [show Layer.config _ = _ from hc]
    rfl
  · -- the built-in defaults are the lowest layer and give every setting
    rw [hvalues k hk]
    simp only [layers, Layer.top?_cons, Layer.top?_nil, hcomes.value?_eq k hk,
      Environment.value?_layer, Layer.value?_builtIn hk, Option.none_or, Option.getD_or,
      Option.getD_some]
  · rw [hhosts]
    simp [layers, hcomes.hostTexts_eq, show Layer.builtIn.hostTexts = [] from rfl]

/-- A port apart from its option, a number of workers right after its letter, and two probe
hosts. -/
def sampleFlags : List Flag :=
  [ ⟨CommandLine.switches[1], "7", .apart⟩, ⟨CommandLine.switches[6], "c", .joined⟩,
    ⟨CommandLine.switches[2], "3", .letterClose 'w'⟩, ⟨CommandLine.switches[6], "c", .apart⟩ ]

/-- A file with a port, a number of workers and a probe host. -/
def sampleText : List UInt8 :=
  Utf8.encode "listen_port = 5\nworker_threads = 6\nl4_ip_list = [\"f\"]\n"

/-- What it gives. -/
def sampleFile : Layer :=
  [ ("listen_port", .number (.whole 5 (by decide))),
    ("worker_threads", .number (.whole 6 (by decide))),
    ("l4_ip_list", .array [.string "f"]) ]

/-- The environment names the file, and it gives a filter, a number of workers and two probe
hosts. -/
def sampleSurroundings : Surroundings where
  arguments := ["--listen-port", "7", "--l4-ip-list=c", "-w3", "--l4-ip-list", "c"]
  environment :=
    [ ("COLLECTOR_CONFIG_PATH", "/c.toml"), ("COLLECTOR_LOG_FILTER", "debug"),
      ("COLLECTOR_WORKER_THREADS", "4"), ("COLLECTOR_L4_IP_LIST", "[e, f]") ]
  directory := "/"
  read path := if path = "/c.toml" then .bytes sampleText else .missing

/-- A list with one text in it. -/
theorem value?_sampleHosts :
    Toml.value? 8 "[\"f\"]\n".toList = some (.array [.string "f"], ['\n']) := by
  have hstring : Toml.stringOnto ⟨'\x22', true, false⟩ [] "f\"]\n".toList =
      some ("f", "]\n".toList) := by
    show Toml.stringOnto ⟨'\x22', true, false⟩ [] ['f', '\x22', ']', '\n'] = _
    rw [Toml.stringOnto, if_neg (by decide), if_neg (by decide)]
    split
    · rename_i h
      cases h
    · rw [if_neg (by decide), Toml.stringOnto, if_pos (by decide)]
      rfl
  exact Toml.value?_of_items (Toml.items?_of_last (by decide) (Toml.skipGap_of_none rfl)
    (Toml.value?_of_string _ hstring) (Toml.skipGap_of_none rfl))

theorem parse?_sampleText : (Toml.parse? sampleText).map Toml.membersOf = some sampleFile := by
  have hport : Toml.line? "listen_port = 5\nworker_threads = 6\nl4_ip_list = [\"f\"]\n".toList =
      some (.binding ["listen_port"] (.integer 5),
        "worker_threads = 6\nl4_ip_list = [\"f\"]\n".toList) :=
    Toml.line?_of_binding (by decide) rfl rfl rfl (Toml.value?_of_word _ (by decide) rfl rfl) rfl
  have hworkers : Toml.line? "worker_threads = 6\nl4_ip_list = [\"f\"]\n".toList =
      some (.binding ["worker_threads"] (.integer 6), "l4_ip_list = [\"f\"]\n".toList) :=
    Toml.line?_of_binding (by decide) rfl rfl rfl (Toml.value?_of_word _ (by decide) rfl rfl) rfl
  have hhosts : Toml.line? "l4_ip_list = [\"f\"]\n".toList =
      some (.binding ["l4_ip_list"] (.array [.string "f"]), []) :=
    Toml.line?_of_binding (by decide) rfl rfl rfl value?_sampleHosts rfl
  have hlines : Toml.linesOnto? 55 ⟨[], []⟩
      "listen_port = 5\nworker_threads = 6\nl4_ip_list = [\"f\"]\n".toList =
        some ⟨[("listen_port", .value (.integer 5)), ("worker_threads", .value (.integer 6)),
          ("l4_ip_list", .value (.array [.string "f"]))], []⟩ :=
    (Toml.linesOnto?_cons hport rfl).trans
      ((Toml.linesOnto?_cons hworkers rfl).trans (Toml.linesOnto?_cons hhosts rfl))
  rw [Toml.parse?, sampleText, Utf8.decode?_encode]
  show ((Toml.linesOnto? 55 ⟨[], []⟩
    "listen_port = 5\nworker_threads = 6\nl4_ip_list = [\"f\"]\n".toList).map _).map _ = _
  rw [hlines]
  rfl

theorem layer?_sample :
    ConfigFile.layer? sampleSurroundings "/c.toml" = some (.ok sampleFile) := by
  obtain ⟨entries, he, hm⟩ := Option.map_eq_some_iff.1 parse?_sampleText
  have hread : sampleSurroundings.read "/c.toml" = .bytes sampleText := rfl
  have hending : (ConfigFile.foreignEndings.any fun ending =>
      ending.toList.isSuffixOf ("/c.toml".toList.map Char.toLower)) = false := by decide +kernel
  simp only [ConfigFile.layer?, hread, hending, he, hm]
  rfl

theorem layer_sample : Environment.layer sampleSurroundings.environment =
    [ ("config_path", .string "/c.toml"), ("l4_ip_list", .array [.string "e", .string "f"]),
      ("log_filter", .string "debug"), ("worker_threads", .number (.whole 4 (by decide))) ] := by
  rfl

theorem proper_sampleFlags : CommandLine.Proper sampleFlags := by
  constructor
  · intro f hf
    simp only [sampleFlags, List.mem_cons, List.not_mem_nil, or_false] at hf
    rcases hf with rfl | rfl | rfl | rfl
    · exact ⟨List.getElem_mem _, nofun, _, rfl⟩
    · exact ⟨List.getElem_mem _, trivial, _, rfl⟩
    · exact ⟨List.getElem_mem _, ⟨rfl, by decide, nofun⟩, _, rfl⟩
    · exact ⟨List.getElem_mem _, nofun, _, rfl⟩
  · unfold sampleFlags
    decide

/-- A layer is read if each of its settings is. -/
theorem isTyped_of_value? {layer : Layer} {hosts : List String} (hh : layer.hosts = .ok hosts)
    (h : ∀ k : Setting, layer.get? k.name = none ∨ (layer.value? k).isSome = true) :
    layer.IsTyped where
  hosts := ⟨hosts, hh⟩
  reads k _ := by
    rcases h k with hk | hk
    · intro j hj
      rw [hk] at hj
      cases hj
    · exact Layer.reads_of_isSome hk

/-- All sources are used, and the port, the number of workers and the probe hosts are given by
several of them. -/
theorem sample_layered :
    (sampleSurroundings.arguments = sampleFlags.flatMap Flag.arguments ∧
      CommandLine.Proper sampleFlags ∧
      ConfigFile.Found sampleSurroundings (CommandLine.pathOf sampleFlags) sampleFile ∧
      sampleFile.IsTyped ∧ (Environment.layer sampleSurroundings.environment).IsTyped) ∧
    ∃ c, load sampleSurroundings = .ok c ∧
      Layered sampleFile sampleSurroundings.environment sampleFlags c ∧
      c.listenPort = 7 ∧ c.workerThreads = 3 ∧ c.logFilter = "debug" ∧ c.logFormat = .json ∧
      c.probeHosts = ["f", "e", "f", "c", "c"] := by
  have hnamed : sampleSurroundings.lookup? "COLLECTOR_CONFIG_PATH" = some "/c.toml" := rfl
  have hfound : ConfigFile.Found sampleSurroundings (CommandLine.pathOf sampleFlags) sampleFile :=
    .named hnamed layer?_sample
  have hfile : sampleFile.IsTyped := by
    refine isTyped_of_value? (show sampleFile.hosts = .ok ["f"] from rfl) fun k => ?_
    cases k <;> first | exact .inl rfl | exact .inr rfl
  have henvironment : (Environment.layer sampleSurroundings.environment).IsTyped := by
    rw [layer_sample]
    refine isTyped_of_value? (show Layer.hosts _ = Except.ok ["e", "f"] from rfl) fun k => ?_
    cases k <;> first | exact .inl rfl | exact .inr rfl
  obtain ⟨c, hc, h⟩ := load_layered rfl proper_sampleFlags hfound hfile henvironment
  refine ⟨⟨rfl, proper_sampleFlags, hfound, hfile, henvironment⟩, c, hc, h, ?_, ?_, ?_, ?_, ?_⟩
  · exact h.value_eq .listenPort nofun
  · exact h.value_eq .workerThreads nofun
  · exact h.value_eq .logFilter nofun
  · exact h.value_eq .logFormat nofun
  · exact h.probeHosts_eq.trans rfl

end Config

end AgentIntake
