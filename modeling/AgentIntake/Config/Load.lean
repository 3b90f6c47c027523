import AgentIntake.Config.CommandLine
import AgentIntake.Config.Environment
import AgentIntake.Toml.Document

/-!
# Loading a configuration

The built-in defaults lie lowest, the settings of a configuration file above them, then those of the
environment, and those of the command line highest.  The file is the one that the command line
names, or else the first that there is of those that the environment names and of the usual places.
A file that cannot be read is passed over for the next one, but if none is read in the end, or if
the command line asked for it, that is an error.

All sources are looked at even if one of them has an error, and all errors are told.
-/

namespace AgentIntake

/-- Why a source of settings could not be used: a setting was refused, a file could not be read, a
setting has a value of the wrong kind, the command line has no meaning, or several of these. -/
inductive LoadError where
  | validation (key : String) (message : String)
  | file
  | merge
  | commandLine (fault : CommandLine.Fault)
  | several (errors : List LoadError)
  deriving Inhabited

namespace LoadError

/-- The wording of one error. -/
def message : LoadError → String
  | validation key message => s!"Validation failed for '{key}': {message}"
  | file => "a configuration file could not be read"
  | merge => "a setting has a value of the wrong kind"
  | commandLine _ => "the command line has no meaning"
  | several _ => "several sources of settings could not be used"

/-- One error for all of a list. -/
def ofList : List LoadError → LoadError
  | [e] => e
  | es => several es

end LoadError

/-! ## 1.  Surroundings -/

/-- What is found under the name of a file. -/
inductive FileContent where
  | missing
  | unreadable
  | bytes (content : List UInt8)

/-- What a program is started in: the arguments after the program's name, the environment, the
directory, and the file system, in which a name that does not begin with a slash counts from that
directory. -/
structure Surroundings where
  arguments : List String
  environment : List (String × String)
  directory : String
  read : String → FileContent

/-- The text of a variable of the environment, if it is not empty. -/
def Surroundings.lookup? (s : Surroundings) (name : String) : Option String :=
  match s.environment.find? (·.1 = name) with
  | some (_, text) => if text.isEmpty then none else some text
  | none => none

/-! ## 2.  Files -/

namespace ConfigFile

/-- The places for a configuration file in a directory for such files. -/
def placesIn (directory : String) : List String :=
  [directory ++ "/collector/config.toml", directory ++ "/.collector.toml"]

/-- The file in a directory that is not only for such files. -/
def hidden (directory : String) : String :=
  directory ++ "/.collector.toml"

/-- The usual places for a configuration file, in the order in which they are looked at. -/
def places (s : Surroundings) : List String :=
  ((s.lookup? "COLLECTOR_CONFIG_PATH").toList ++
    (s.lookup? "XDG_CONFIG_HOME").toList.flatMap placesIn ++
    (((s.lookup? "XDG_CONFIG_DIRS").getD "/etc/xdg").splitOn ":").flatMap placesIn ++
    (s.lookup? "HOME").toList.flatMap
      (fun home => placesIn (home ++ "/.config") ++ [hidden home]) ++
    [hidden s.directory]).eraseDups

/-- The endings of names of files in formats that are not read. -/
def foreignEndings : List String :=
  [".json", ".json5", ".yaml", ".yml"]

/-- The layer of a file, if there is one. -/
def layer? (s : Surroundings) (path : String) : Option (Except Unit Layer) :=
  match s.read path with
  | .missing => none
  | .unreadable => some (.error ())
  | .bytes content =>
    if foreignEndings.any fun ending => ending.toList.isSuffixOf (path.toList.map Char.toLower) then
      some (.error ())
    else
      match Toml.parse? content with
      | none => some (.error ())
      | some entries => some (.ok (Toml.membersOf entries))

/-- The layer of the first of some places that can be read, and how many before it could not. -/
def firstOf (s : Surroundings) (failures : Nat) : List String → Option Layer × Nat
  | [] => (none, failures)
  | path :: paths =>
    match layer? s path with
    | none => firstOf s failures paths
    | some (.error ()) => firstOf s (failures + 1) paths
    | some (.ok layer) => (some layer, failures)

/-- The layer of the configuration file, and the errors; `asked` is the file that the command line
names. -/
def layer (s : Surroundings) (asked : Option String) : Layer × List LoadError :=
  let usual := fun (errors : List LoadError) =>
    match firstOf s 0 (places s) with
    | (some layer, _) => (layer, errors)
    | (none, failures) => ([], errors ++ List.replicate failures .file)
  match asked with
  | none => usual []
  | some path =>
    match layer? s path with
    | some (.ok layer) => (layer, [])
    | some (.error ()) | none => usual [.file]

end ConfigFile

/-! ## 3.  All sources -/

namespace Config

/-- The configuration that a program is started with. -/
def load (s : Surroundings) : Except LoadError Config :=
  let (line, lineErrors) : CommandLine × List LoadError :=
    match CommandLine.parse s.arguments with
    | .ok line => (line, [])
    | .error fault => (⟨[], none⟩, [.commandLine fault])
  let (file, fileErrors) := ConfigFile.layer s line.path
  let errors := lineErrors ++ fileErrors
  match Layer.config [Layer.builtIn, file, Environment.layer s.environment, line.layer] with
  | .error _ => .error (.ofList (errors ++ [.merge]))
  | .ok config => if errors.isEmpty then .ok config else .error (.ofList errors)

end Config

end AgentIntake
