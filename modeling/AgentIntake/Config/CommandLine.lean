import AgentIntake.Config.Layer
import AgentIntake.Text.Digits

/-!
# Settings on the command line

Every setting has an option, named like it with hyphens, that takes one value, in the next argument
or after an equals sign.  An argument that begins with a hyphen is never taken for a value.  The
option of the list of probe hosts may be repeated; every other option may be given once.  Some
options have a letter, too.  There are no arguments besides options.

What is wrong with a value is told when the next option comes or the arguments end, so an argument
that is no option at all is told first if it comes before that.
-/

namespace AgentIntake

namespace CommandLine

/-- Why a command line has no meaning.  A value is missing also if it is empty and is to name a
file; an argument is unknown if it is no option and no value of one. -/
inductive Fault where
  | help
  | unknownArgument
  | missingValue
  | badValue
  | repeated
  | surplusValue
  deriving DecidableEq, Inhabited

/-- An option that takes a value: the setting that the value is for, or the file to read, its
letter, whether it may be repeated, and the value that a text is. -/
structure Switch where
  name : String
  letter : Option Char
  repeats : Bool
  read : String → Except Fault Json

/-! ## 1.  Options -/

/-- A value that may be wrong. -/
def orBad (value : Option Json) : Except Fault Json :=
  match value with
  | some v => .ok v
  | none => .error .badValue

/-- Any text. -/
def readText (s : String) : Except Fault Json :=
  .ok (.string s)

/-- The name of a file. -/
def readPath (s : String) : Except Fault Json :=
  if s.isEmpty then .error .missingValue else .ok (.string s)

/-- A port. -/
def readPort (s : String) : Except Fault Json :=
  orBad ((Digits.signed? s.toList).bind fun n =>
    if 0 ≤ n ∧ n < 0x10000 then (Number.ofInt? n).map .number else none)

/-- A size. -/
def readSize (s : String) : Except Fault Json :=
  orBad ((Digits.unsigned? s.toList).bind fun n => (Number.ofInt? n).map .number)

/-- A log format, its letters in either case. -/
def readFormat (s : String) : Except Fault Json :=
  orBad ((LogFormat.ofText? s).map fun f => .string f.text)

/-- The name of the option that names a file. -/
def pathName : String := "config_path"

/-- The options.  A setting's letter is its first one, small if no option before has it and else
capital; where both are taken there is none. -/
def switches : List Switch :=
  [ ⟨"listen_ip", some 'l', false, readText⟩,
    ⟨"listen_port", some 'L', false, readPort⟩,
    ⟨"worker_threads", some 'w', false, readSize⟩,
    ⟨"worker_queue_size", some 'W', false, readSize⟩,
    ⟨"event_worker_threads", some 'e', false, readSize⟩,
    ⟨"event_worker_queue_size", some 'E', false, readSize⟩,
    ⟨Layer.hostsName, none, true, readText⟩,
    ⟨"log_filter", none, false, readText⟩,
    ⟨"log_format", none, false, readFormat⟩,
    ⟨pathName, none, false, readPath⟩ ]

/-- The name of an option as it is written. -/
def Switch.long (switch : Switch) : String :=
  String.ofList (switch.name.toList.map fun c => if c = '_' then '-' else c)

/-! ## 2.  Arguments -/

/-- What an argument looks like: the mark after which nothing but values can follow, an option by
its name or its letter with the value written in the same argument, if it is, or a value. -/
inductive Argument where
  | escape
  | long (name : String) (value : Option String)
  | short (letter : Char) (value : Option String)
  | value (text : String)

/-- What an argument looks like. -/
def Argument.ofText (text : String) : Argument :=
  match text.toList with
  | ['-', '-'] => .escape
  | '-' :: '-' :: r =>
    match r.span (· != '=') with
    | (name, []) => .long (String.ofList name) none
    | (name, _ :: given) => .long (String.ofList name) (some (String.ofList given))
  | '-' :: letter :: r =>
    match r with
    | [] => .short letter none
    | '=' :: given => .short letter (some (String.ofList given))
    | given => .short letter (some (String.ofList given))
  | _ => .value text

/-- What is known after some arguments: the values of the options before the last one, the last one
with its value unless that is to come, and whether nothing but values can follow. -/
structure State where
  given : Layer
  pending : Option (Switch × Option String)
  escaped : Bool

/-- Gives an option a value. -/
def State.give (s : State) (switch : Switch) (text : String) : Except Fault State :=
  match s.given.get? switch.name, switch.repeats with
  | some _, false => .error .repeated
  | before, _ =>
    match switch.read text with
    | .error fault => .error fault
    | .ok v =>
      let value :=
        if switch.repeats then
          match before with
          | some (.array items) => .array (items ++ [v])
          | _ => .array [v]
        else v
      .ok { s with given := Layer.laidOver [(switch.name, value)] s.given }

/-- Gives the last option its value. -/
def State.settle (s : State) : Except Fault State :=
  match s.pending with
  | none => .ok s
  | some (_, none) => .error .missingValue
  | some (switch, some text) => { s with pending := none }.give switch text

/-- Takes an option. -/
def State.takeSwitch (s : State) (switch : Switch) (value : Option String) : Except Fault State :=
  match s.settle with
  | .error fault => .error fault
  | .ok t =>
    match value with
    | none => .ok { t with pending := some (switch, none) }
    | some text => t.give switch text

/-- Takes the option that asks for help. -/
def State.takeHelp (s : State) (value : Option String) : Fault :=
  match value, s.settle with
  | some _, _ => .surplusValue
  | none, .error fault => fault
  | none, .ok _ => .help

/-- Takes an argument. -/
def State.take (s : State) (argument : String) : Except Fault State :=
  if s.escaped then .error .unknownArgument
  else
    match Argument.ofText argument with
    | .escape => .ok { s with escaped := true }
    | .long name value =>
      if name = "help" then .error (s.takeHelp value)
      else
        match switches.find? (·.long = name) with
        | some switch => s.takeSwitch switch value
        | none => .error .unknownArgument
    | .short letter value =>
      if letter = 'h' then .error (s.takeHelp none)
      else
        match switches.find? (·.letter = some letter) with
        | some switch => s.takeSwitch switch value
        | none => .error .unknownArgument
    | .value text =>
      match s.pending with
      | some (switch, none) => .ok { s with pending := some (switch, some text) }
      | _ => .error .unknownArgument

/-- Takes arguments in order. -/
def State.takeAll (s : State) : List String → Except Fault State
  | [] => s.settle
  | argument :: rest =>
    match s.take argument with
    | .error fault => .error fault
    | .ok t => t.takeAll rest

end CommandLine

/-! ## 3.  Command lines -/

/-- What a command line says: the settings, and the configuration file to read. -/
structure CommandLine where
  layer : Layer
  path : Option String

/-- The meaning of the arguments after the program's name. -/
def CommandLine.parse (arguments : List String) : Except CommandLine.Fault CommandLine :=
  match CommandLine.State.takeAll ⟨[], none, false⟩ arguments with
  | .error fault => .error fault
  | .ok s =>
    .ok
      { layer := s.given.filter (·.1 ≠ CommandLine.pathName)
        path :=
          match s.given.get? CommandLine.pathName with
          | some (.string path) => some path
          | _ => none }

end AgentIntake
