import AgentIntake.Text.Utf8
import AgentIntake.Toml.Lexical

/-!
# TOML documents

A document is a table that is built line by line.  A header opens a table, or adds one to a list of
tables; the lines after it bind keys there.  A table may be opened by a header once, before or after
tables inside it were; a table that came about by keys with points may only be added to by such
keys.
-/

namespace AgentIntake.Toml

/-! ## 1.  Tables under construction -/

/-- How a table came about: by the header of a table inside it, by a key with points, or by its own
header. -/
inductive Origin where
  | implied
  | dotted
  | headed
  deriving DecidableEq

/-- What a key is bound to so far: a value, to which nothing is added, a table, or a list of tables
that headers add to, the last one and those before it, last first. -/
inductive Node where
  | value (v : Toml)
  | table (origin : Origin) (entries : List (String × Node))
  | tables (last : List (String × Node)) (before : List (List (String × Node)))

/-- The keys of a table and what they are bound to so far, in the order of their first binding. -/
abbrev Entries := List (String × Node)

/-- What a key is bound to. -/
def Entries.get? (entries : Entries) (name : String) : Option Node :=
  (entries.find? (·.1 = name)).map (·.2)

/-- Binds a key, in its old place if it has one. -/
def Entries.put (entries : Entries) (name : String) (node : Node) : Entries :=
  if (entries.get? name).isSome then
    entries.map fun (k, v) => if k = name then (k, node) else (k, v)
  else entries ++ [(name, node)]

/-- Binds a key with points. -/
def Entries.bind? (v : Toml) (entries : Entries) : List String → Option Entries
  | [] => none
  | [name] => if (entries.get? name).isSome then none else some (entries.put name (.value v))
  | name :: names =>
    match entries.get? name with
    | none => (bind? v [] names).map fun inner => entries.put name (.table .dotted inner)
    | some (.table origin inner) =>
      if origin = .headed then none
      else (bind? v inner names).map fun inner => entries.put name (.table origin inner)
    | some (.value _) | some (.tables ..) => none

/-- Does something to the table that a header names: the last one of a list. -/
def Entries.within? (f : Entries → Option Entries) (entries : Entries) :
    List String → Option Entries
  | [] => f entries
  | name :: names =>
    match entries.get? name with
    | none => (within? f [] names).map fun inner => entries.put name (.table .implied inner)
    | some (.table origin inner) =>
      (within? f inner names).map fun inner => entries.put name (.table origin inner)
    | some (.tables last before) =>
      (within? f last names).map fun last => entries.put name (.tables last before)
    | some (.value _) => none

/-- Opens the table with a name. -/
def Entries.open? (name : String) (entries : Entries) : Option Entries :=
  match entries.get? name with
  | none => some (entries.put name (.table .headed []))
  | some (.table .implied inner) => some (entries.put name (.table .headed inner))
  | some _ => none

/-- Adds a table to the list with a name. -/
def Entries.extend? (name : String) (entries : Entries) : Option Entries :=
  match entries.get? name with
  | none => some (entries.put name (.tables [] []))
  | some (.tables last before) => some (entries.put name (.tables [] (last :: before)))
  | some (.value _) | some (.table ..) => none

mutual

/-- The value of a node. -/
def Node.toToml : Node → Toml
  | .value v => v
  | .table _ entries => .table (entriesToToml entries)
  | .tables last before => .array (tablesToToml before [.table (entriesToToml last)])

/-- Key by key. -/
def entriesToToml : List (String × Node) → List (String × Toml)
  | [] => []
  | (name, node) :: rest => (name, node.toToml) :: entriesToToml rest

/-- Tables in their order, before others. -/
def tablesToToml : List (List (String × Node)) → List Toml → List Toml
  | [], after => after
  | entries :: before, after => tablesToToml before (.table (entriesToToml entries) :: after)

end

/-! ## 2.  Values -/

mutual

/-- The value at the front; `fuel` bounds how much is read. -/
def value? : Nat → List Char → Option (Toml × List Char)
  | 0, _ => none
  | fuel + 1, s =>
    match s with
    | '[' :: r => (items? fuel [] r).map fun (items, t) => (.array items, t)
    | '\x7b' :: r =>
      match skipSpace r with
      | '\x7d' :: t => some (.table [], t)
      | _ => (bindings? fuel [] r).map fun (entries, t) => (.table (entriesToToml entries), t)
    | '\x22' :: _ | '\x27' :: _ => (string? false s).map fun (text, r) => (.string text, r)
    | _ =>
      let (w, r) := word s
      (ofWord? w).map fun v => (v, r)

/-- The items of a list up to its bracket, onto those before, which come last first. -/
def items? : Nat → List Toml → List Char → Option (List Toml × List Char)
  | 0, _, _ => none
  | fuel + 1, done, s =>
    match skipGap s with
    | ']' :: r => some (done.reverse, r)
    | t =>
      match value? fuel t with
      | none => none
      | some (v, r) =>
        match skipGap r with
        | ',' :: u => items? fuel (v :: done) u
        | ']' :: u => some ((v :: done).reverse, u)
        | _ => none

/-- The bindings of a table within a line up to its brace. -/
def bindings? : Nat → Entries → List Char → Option (Entries × List Char)
  | 0, _, _ => none
  | fuel + 1, entries, s =>
    match path? s.length s with
    | some (path, '=' :: r) =>
      match value? fuel (skipSpace r) with
      | none => none
      | some (v, t) =>
        match entries.bind? v path, skipSpace t with
        | some bound, ',' :: u => bindings? fuel bound u
        | some bound, '\x7d' :: u => some (bound, u)
        | _, _ => none
    | _ => none

end

/-! ## 3.  Lines -/

/-- What a line does to a document: nothing; it opens a table, or adds one to a list; or it binds a
key. -/
inductive Line where
  | blank
  | header (path : List String)
  | listHeader (path : List String)
  | binding (path : List String) (v : Toml)

/-- The line at the front, and the text after it. -/
def line? (s : List Char) : Option (Line × List Char) :=
  match lineEnd? s with
  | some r => some (.blank, r)
  | none =>
    match skipSpace s with
    | '[' :: '[' :: r =>
      match path? r.length r with
      | some (path, ']' :: ']' :: t) => (lineEnd? t).map fun u => (.listHeader path, u)
      | _ => none
    | '[' :: r =>
      match path? r.length r with
      | some (path, ']' :: t) => (lineEnd? t).map fun u => (.header path, u)
      | _ => none
    | r =>
      match path? r.length r with
      | some (path, '=' :: t) =>
        (value? (t.length + 1) (skipSpace t)).bind fun (v, u) =>
          (lineEnd? u).map fun w => (.binding path v, w)
      | _ => none

/-- A document under construction: its tables, and where bindings go. -/
structure Draft where
  root : Entries
  here : List String

/-- The document after a line. -/
def Draft.take? (d : Draft) : Line → Option Draft
  | .blank => some d
  | .header path =>
    match path.getLast? with
    | none => none
    | some name =>
      (d.root.within? (Entries.open? name) path.dropLast).map fun root => ⟨root, path⟩
  | .listHeader path =>
    match path.getLast? with
    | none => none
    | some name =>
      (d.root.within? (Entries.extend? name) path.dropLast).map fun root => ⟨root, path⟩
  | .binding path v =>
    (d.root.within? (fun entries => entries.bind? v path) d.here).map fun root =>
      { d with root := root }

/-- The document after the lines of a text; `fuel` bounds their number. -/
def linesOnto? : Nat → Draft → List Char → Option Draft
  | _, d, [] => some d
  | 0, _, _ :: _ => none
  | fuel + 1, d, s =>
    match line? s with
    | none => none
    | some (line, r) => (d.take? line).bind fun e => linesOnto? fuel e r

/-- The table that a text is. -/
def parse? (text : List UInt8) : Option (List (String × Toml)) :=
  match Utf8.decode? text with
  | none => none
  | some s =>
    let cs :=
      match s.toList with
      | '\ufeff' :: r => r
      | r => r
    (linesOnto? (cs.length + 1) ⟨[], []⟩ cs).map fun d => entriesToToml d.root

end AgentIntake.Toml
