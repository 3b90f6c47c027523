import AgentIntake.Config.Layer
import AgentIntake.Text.Blank
import AgentIntake.Toml.Json

/-!
# Settings in the environment

A variable whose name begins with `COLLECTOR_` gives the setting that the rest of its name names;
letters may be in either case.  Its value is a truth value, a number, a string, a list or a table if
it reads as one, and otherwise the text itself.  A text with commas that does not begin as a list, a
table or a quoted string is a list of texts.
-/

namespace AgentIntake.Environment

/-! ## 1.  Values -/

/-- A character that ends a word. -/
def isSeparator (c : Char) : Bool :=
  c == ',' || c == '\x7b' || c == '\x7d' || c == '[' || c == ']'

/-- White space around a value. -/
def isSpace (c : Char) : Bool :=
  c == ' ' || c == '\t' || c == '\n' || c == '\r' || c == '\x0c'

/-- What follows white space at the front. -/
def skipSpace (s : List Char) : List Char :=
  s.dropWhile isSpace

/-- The letters at the front, in either case, and what follows them. -/
def letters? : List Char → List Char → Option (List Char)
  | [], s => some s
  | _ :: _, [] => none
  | letter :: more, c :: r => if c.toLower = letter then letters? more r else none

/-- The exponent of a number, if there is one, is a whole number. -/
def isExponent : List Char → Bool
  | [] => true
  | _ :: r => (Digits.signed? r).isSome

/-- The text is a number with a point. -/
def isReal (s : List Char) : Bool :=
  let (mantissa, exponent) := (Toml.unsigned s).span fun c => c != 'e' && c != 'E'
  let (whole, fraction) := mantissa.span (· != '.')
  fraction ≠ [] && (Digits.natural? 10 (whole ++ fraction.drop 1)).isSome && isExponent exponent

/-- The value that a word is: a number, or its own text. -/
def ofWord (w : List Char) : Json :=
  if isReal w then Toml.realJson w
  else
    match (Digits.signed? w).bind Number.ofInt? with
    | some n => .number n
    | none => .string (String.ofList w)

/-- A key of a table at the front. -/
def key? (s : List Char) : Option (String × List Char) :=
  match s with
  | '\x22' :: _ => Toml.string? true s
  | _ =>
    let name := s.takeWhile Toml.isBare
    if name = [] then none else some (String.ofList name, s.drop name.length)

mutual

/-- The value at the front, and white space around it; `fuel` bounds how much is read. -/
def value? : Nat → List Char → Option (Json × List Char)
  | 0, _ => none
  | fuel + 1, s =>
    (bare? fuel (skipSpace s)).map fun (v, r) => (v, skipSpace r)

/-- The value at the front. -/
def bare? : Nat → List Char → Option (Json × List Char)
  | 0, _ => none
  | fuel + 1, s =>
    match letters? ['t', 'r', 'u', 'e'] s, letters? ['f', 'a', 'l', 's', 'e'] s with
    | some r, _ => some (.bool true, r)
    | none, some r => some (.bool false, r)
    | none, none =>
      match s with
      | '\x7b' :: r => (members? fuel [] r).map fun (members, t) => (.object members, t)
      | '[' :: r => (items? fuel [] r).map fun (items, t) => (.array items, t)
      | '\x22' :: r => (Toml.stringOnto ⟨'\x22', true, false⟩ [] r).map fun (text, t) =>
          (.string text, t)
      | '\x27' :: c :: '\x27' :: r => some (.string c.toString, r)
      | '\x27' :: _ => none
      | _ =>
        let w := s.takeWhile fun c => !isSeparator c
        some (ofWord (Blank.trim (String.ofList w)).toList, s.drop w.length)

/-- The items of a list up to its bracket, onto those before, which come last first. -/
def items? : Nat → List Json → List Char → Option (List Json × List Char)
  | 0, _, _ => none
  | fuel + 1, done, s =>
    match s with
    | ']' :: r => some (done.reverse, r)
    | _ =>
      match value? fuel s with
      | some (v, ',' :: r) => items? fuel (v :: done) r
      | some (v, ']' :: r) => some ((v :: done).reverse, r)
      | _ => none

/-- The members of a table up to its brace, onto those before. -/
def members? : Nat → List (String × Json) → List Char → Option (List (String × Json) × List Char)
  | 0, _, _ => none
  | fuel + 1, done, s =>
    match s with
    | '\x7d' :: r => some (done, r)
    | _ =>
      match (key? (skipSpace s)).map fun (name, r) => (name, skipSpace r) with
      | some (name, '=' :: r) =>
        match value? fuel r with
        | some (v, ',' :: t) => members? fuel (Json.bind name v done) t
        | some (v, '\x7d' :: t) => some (Json.bind name v done, t)
        | _ => none
      | _ => none

end

/-- The texts between commas. -/
def fields (s : String) : List Json :=
  (s.splitOn ",").map fun field => .string (Blank.trim field)

/-- The value of a variable. -/
def valueOf (text : String) : Json :=
  let s := Blank.trim text
  let cs := s.toList
  let isOpened := cs.head?.any fun c => c == '[' || c == '\x7b' || c == '\x22' || c == '\x27'
  if cs.contains ',' && !isOpened then .array (fields s)
  else
    match value? (2 * cs.length + 2) cs with
    | some (v, []) => v
    | _ => .string s

/-! ## 2.  Variables -/

/-- What the names of variables begin with that give settings, in lower case. -/
def namesBegin : List Char := "collector_".toList

/-- The parts of a name: two underscores and a point lead into a table. -/
def nameParts (done : List Char) : List Char → List String
  | [] => [String.ofList done.reverse]
  | '_' :: '_' :: r => String.ofList done.reverse :: nameParts [] r
  | '.' :: r => String.ofList done.reverse :: nameParts [] r
  | c :: r => nameParts (c :: done) r

/-- The parts of the name of the setting that a variable gives. -/
def settingOf? (name : String) : Option (List String) :=
  (letters? namesBegin name.toList).map fun rest => nameParts [] (rest.map Char.toLower)

/-- A value inside tables. -/
def nested (v : Json) : List String → Json
  | [] => v
  | name :: names => .object [(name, nested v names)]

/-- The layer of the environment; a later variable of the same name counts. -/
def layer (entries : List (String × String)) : Layer :=
  entries.foldl
    (fun layer (name, text) =>
      match settingOf? name with
      | none | some [] => layer
      | some (setting :: inner) => Json.bind setting (nested (valueOf text) inner) layer)
    []

end AgentIntake.Environment
