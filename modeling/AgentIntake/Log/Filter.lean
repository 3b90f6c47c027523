import AgentIntake.Log.Record
import AgentIntake.Text.Blank
import AgentIntake.Text.Digits

/-!
# Log filters

Which records are written.  A filter is a list of directives with commas between, each of them a
level, a target, or a target and its level:

    warn,collectord::pool=debug

A directive concerns the records whose target begins with its own.  Of those that concern a record,
the most specific one decides: the one with the longest target, and then the one that asks for the
most fields.  In brackets a directive may name a span, and in braces inside them fields that a
record must have.  The collector has no spans, so a directive that names one, or asks for the value
of a field, never lets a record through; but it keeps a filter from being empty.  An empty filter
lets errors through.
-/

namespace AgentIntake.Log

/-! ## 1.  Directives -/

/-- One part of a filter: what the targets of its records begin with, the span and the fields it
asks for, and whether it asks for a value of each, and the records that it lets through. -/
structure Directive where
  target : Option String
  span : Option String
  fields : List (String × Bool)
  level : Verbosity
  deriving DecidableEq

/-- The finest level. -/
def everything : Verbosity := Level.trace.rank

/-- Why a text is no filter. -/
inductive FilterFault where
  | level
  | directive
  deriving DecidableEq, Inhabited

/-- The wording. -/
def FilterFault.message : FilterFault → String
  | level =>
    "error parsing level filter: " ++
    "expected one of \"off\", \"error\", \"warn\", \"info\", \"debug\", " ++
      "\"trace\", or a number 0-5"
  | directive => "invalid filter directive"

namespace Directive

/-- The names of levels, in lower case. -/
def levelNames : List (String × Verbosity) :=
  [("off", 0), ("error", Level.error.rank), ("warn", Level.warn.rank), ("info", Level.info.rank),
    ("debug", Level.debug.rank), ("trace", Level.trace.rank)]

/-- The level that a text is: a number up to five, or a name with its letters in either case. -/
def level? (s : List Char) : Option Verbosity :=
  match Digits.unsigned? s with
  | some n => if n ≤ everything then some n else none
  | none => (levelNames.find? fun entry => entry.1.toList == s.map Char.toLower).map (·.2)

/-- Where the reading of a directive is, and where the part that is being read begins.  Targets and
levels are a `word`; spans stand in brackets with their fields in braces, and a level may follow an
equals sign. -/
inductive Stage where
  | start
  | word (since : Nat)
  | span (since : Nat)
  | field (since : Nat)
  | fieldsEnd
  | spanEnd
  | level (since : Nat)

/-- A directive may begin with this character: any but the punctuation of ASCII. -/
def isFirst (c : Char) : Bool :=
  c.isAlphanum || c == '-' || c == ':' || c == '_' || 0x80 ≤ c.toNat

/-- A part of a text. -/
def piece (text : List Char) (since upto : Nat) : List Char :=
  (text.take upto).drop since

/-- A field that is asked for: its name, and whether a value follows. -/
def fieldOf (s : List Char) : String × Bool :=
  (String.ofList (s.takeWhile (· != '=')), s.contains '=')

/-- Takes the character at a place.  Parts are cut out of `text`. -/
def step (text : List Char) (state : Directive × Stage) (place : Nat) (c : Char) :
    Except FilterFault (Directive × Stage) :=
  let (d, stage) := state
  match stage with
  | .start =>
    if c = '[' then .ok (d, .span (place + 1))
    else if isFirst c then .ok (d, .word place)
    else .error .directive
  | .word since =>
    let named := { d with target := some (String.ofList (piece text since place)) }
    if c = '=' then .ok (named, .level (place + 1))
    else if c = '[' then .ok (named, .span (place + 1))
    else .ok state
  | .span since =>
    let name := String.ofList (piece text since place)
    if c = ']' then .ok ({ d with span := some name }, .spanEnd)
    else if c = '\x7b' then
      .ok ({ d with span := if name.isEmpty then none else some name }, .field (place + 1))
    else .ok state
  | .field since =>
    let name := piece text since place
    if c = '\x7d' then
      if name = [] then .error .directive
      else .ok ({ d with fields := d.fields ++ [fieldOf name] }, .fieldsEnd)
    else .ok state
  | .fieldsEnd => if c = ']' then .ok (d, .spanEnd) else .error .directive
  | .spanEnd => if c = '=' then .ok (d, .level (place + 1)) else .error .directive
  | .level _ => .ok state

/-- Takes characters from a place on. -/
def steps (text : List Char) (state : Directive × Stage) (place : Nat) :
    List Char → Except FilterFault (Directive × Stage)
  | [] => .ok state
  | c :: rest =>
    match step text state place c with
    | .error fault => .error fault
    | .ok next => steps text next (place + 1) rest

/-- The directive at the end of its text. -/
def finish (text : List Char) (state : Directive × Stage) : Except FilterFault Directive :=
  let (d, stage) := state
  match stage with
  | .word since =>
    let name := text.drop since
    match level? name with
    | some level => .ok { d with level := level }
    | none => .ok { d with target := if name = [] then none else some (String.ofList name) }
  | .level since =>
    let name := text.drop since
    if name = [] then .ok d
    else
      match level? name with
      | some level => .ok { d with level := level }
      | none => .error .level
  | .spanEnd => .ok d
  | .start | .span _ | .field _ | .fieldsEnd => .error .directive

/-- The directive that a text is.  White space around it is not read, but the places of its parts
are counted from where it begins. -/
def parse (text : String) : Except FilterFault Directive :=
  match steps text.toList (⟨none, none, [], everything⟩, .start) 0 (Blank.trim text).toList with
  | .error fault => .error fault
  | .ok state => finish text.toList state

/-- It asks for nothing that no record has. -/
def isStatic (d : Directive) : Bool :=
  d.span.isNone && !d.fields.any (·.2)

/-- The record's target begins with its own, and the record has the fields it asks for. -/
def concerns (d : Directive) (record : Record) : Bool :=
  d.target.all (fun target => target.toList.isPrefixOf record.target.toList) &&
    d.fields.all fun field => field.1 == "message" || record.fields.any (·.1 == field.1)

/-- How specific its target is. -/
def reach (d : Directive) : Nat :=
  match d.target with
  | none => 0
  | some target => target.utf8ByteSize + 1

/-- It is asked before another one. -/
def precedes (d e : Directive) : Bool :=
  if d.reach = e.reach then
    if d.fields.length = e.fields.length then decide (e.fields.map (·.1) < d.fields.map (·.1))
    else e.fields.length < d.fields.length
  else e.reach < d.reach

/-- It asks for the same as another one. -/
def isLike (d e : Directive) : Bool :=
  d.target == e.target && d.fields == e.fields

end Directive

/-! ## 2.  Filters -/

/-- The directives that can let a record through, the most specific first. -/
abbrev Filter := List Directive

namespace Filter

/-- Adds a directive, in place of one that asks for the same. -/
def add (filter : Filter) (d : Directive) : Filter :=
  let others := filter.filter fun e => !d.isLike e
  others.takeWhile (fun e => !d.precedes e) ++ d :: others.dropWhile fun e => !d.precedes e

/-- The filter of directives. -/
def ofDirectives (ds : List Directive) : Filter :=
  if ds.isEmpty then [⟨none, none, [], Level.error.rank⟩]
  else (ds.filter Directive.isStatic).foldl add []

/-- Directive by directive. -/
def parseAll : List String → Except FilterFault (List Directive)
  | [] => .ok []
  | text :: rest =>
    match Directive.parse text with
    | .error fault => .error fault
    | .ok d =>
      match parseAll rest with
      | .error fault => .error fault
      | .ok ds => .ok (d :: ds)

/-- The filter that a text is. -/
def parse (text : String) : Except FilterFault Filter :=
  match parseAll ((text.splitOn ",").filter fun part => !part.isEmpty) with
  | .error fault => .error fault
  | .ok ds => .ok (ofDirectives ds)

/-- The filter lets a record through. -/
def passes (filter : Filter) (record : Record) : Bool :=
  match filter.find? (·.concerns record) with
  | some d => record.isWithin d.level
  | none => false

end Filter

end AgentIntake.Log
