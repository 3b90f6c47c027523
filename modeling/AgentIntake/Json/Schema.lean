import AgentIntake.Json.Skip
import AgentIntake.Json.Value

/-!
# Values of a known kind

A `Schema` reads one kind of value in two ways: off the front of a text, and out of a document that
was read before anyone knew what it had to be.  Both say the same of a value of another kind, but
only the first can say where it stands.

A kind of choice is written as a string, or as an object whose one key is the name and whose value
is `null`.
-/

namespace AgentIntake.Json

variable {α β : Type}

/-! ## 1.  The wrong kind of value -/

/-- The kind of a number. -/
def foundNumber : Number → Found
  | .whole n _ => .integer n
  | .real x => .float x

/-- The kind of a document. -/
def found : Json → Found
  | null => .null
  | bool b => .bool b
  | number n => foundNumber n
  | string s => .string s
  | array _ => .sequence
  | object _ => .map

/-- The kind of the value that begins with the byte `b`, and what follows it.  An array or an object
is left where it is. -/
def foundAt (b : UInt8) (r : List UInt8) : Except Fault (Found × List UInt8) :=
  if b = 0x6E then (literal nullRest r).map (.null, ·)
  else if b = 0x74 then (literal trueRest r).map (.bool true, ·)
  else if b = 0x66 then (literal falseRest r).map (.bool false, ·)
  else if b = Byte.minus then (readNumber true r).map fun (n, r) => (foundNumber n, r)
  else if Byte.isDigit b then (readNumber false (b :: r)).map fun (n, r) => (foundNumber n, r)
  else if b = Byte.quote then (readString r).map fun (t, r) => (.string t, r)
  else if b = Byte.openBracket then .ok (.sequence, b :: r)
  else if b = Byte.openBrace then .ok (.map, b :: r)
  else .error (.next .noValue (b :: r))

/-- The fault of a value that begins with the byte `b` where `expected` was wanted. -/
def mismatch (expected : String) (b : UInt8) (r : List UInt8) : Fault :=
  match foundAt b r with
  | .error fault => fault
  | .ok (found, r) => .here (.wrongType found expected) r

/-- The reader of a value by its first byte: `reads b r` is the value that begins with `b`, if such
a value may. -/
def byFirst (reads : UInt8 → List UInt8 → Option (Except Fault (α × List UInt8)))
    (shrinks : ∀ {b r a t}, reads b r = some (.ok (a, t)) → t.length ≤ r.length)
    (otherwise : UInt8 → List UInt8 → Fault) : Reader α where
  read s :=
    match skipBlank s with
    | [] => .error (.next .endInValue [])
    | b :: r =>
      match reads b r with
      | some result => result
      | none => .error (otherwise b r)
  shrinks {s r a} h := by
    have hs := length_skipBlank_le s
    split at h
    · cases h
    · rename_i hb
      rw [hb, List.length_cons] at hs
      split at h
      · subst h
        rename_i hr
        have := shrinks hr
        omega
      · cases h

/-! ## 2.  Readers of one kind -/

/-- A string. -/
def stringAs (expected : String) : Reader String :=
  byFirst (fun b r => if b = Byte.quote then some (readString r) else none)
    (by
      intro b r a t h
      split at h
      · exact Nat.le_of_lt (length_lt_of_stringOnto (Option.some.inj h))
      · cases h)
    (mismatch expected)

/-- A number. -/
def numberAs (expected : String) : Reader Number :=
  byFirst
    (fun b r =>
      if b = Byte.minus then some (readNumber true r)
      else if Byte.isDigit b then some (readNumber false (b :: r)) else none)
    (by
      intro b r a t h
      split at h
      · exact Nat.le_of_lt (length_lt_of_readNumber (Option.some.inj h))
      · split at h
        · exact Nat.le_of_lt_succ (length_lt_of_readNumber (Option.some.inj h))
        · cases h)
    (mismatch expected)

/-- A list. -/
def listAs (expected : String) (item : Reader α) : Reader (List α) :=
  byFirst (fun b r => if b = Byte.openBracket then some (listOf item r) else none)
    (by
      intro b r a t h
      split at h
      · exact Nat.le_of_lt (length_lt_of_listOf (Option.some.inj h))
      · cases h)
    (mismatch expected)

/-- An object. -/
def objectAs {σ : Type} (expected : String) (fields : Fields σ α) : Reader α :=
  byFirst (fun b r => if b = Byte.openBrace then some (objectOf fields r) else none)
    (by
      intro b r a t h
      split at h
      · exact Nat.le_of_lt (length_lt_of_objectOf (Option.some.inj h))
      · cases h)
    (mismatch expected)

/-- Nothing but `null`. -/
def unit : Reader Unit :=
  byFirst (fun b r => if b = 0x6E then some ((literal nullRest r).map ((), ·)) else none)
    (by
      intro b r a t h
      split at h
      · obtain ⟨u, hu, hr⟩ := eq_ok_of_map (Option.some.inj h)
        cases hr
        exact length_le_of_literal hu
      · cases h)
    (mismatch "unit")

/-- `null`, or a value. -/
def orNull (reader : Reader α) : Reader (Option α) where
  read s :=
    match skipBlank s with
    | [] => (reader.map some).read []
    | b :: r =>
      if b = 0x6E then (literal nullRest r).map (none, ·) else (reader.map some).read (b :: r)
  shrinks {s r a} h := by
    have hs := length_skipBlank_le s
    split at h
    · exact absurd (Reader.shrinks _ h) (Nat.not_lt_zero _)
    · rename_i hb
      rw [hb] at hs
      split at h
      · obtain ⟨u, hu, hr⟩ := eq_ok_of_map h
        cases hr
        have := length_le_of_literal hu
        rw [List.length_cons] at hs
        omega
      · have := Reader.shrinks _ h
        omega

/-! ## 3.  Schemas -/

/-- One kind of value, to be read from a text or from a document. -/
structure Schema (α : Type) where
  reader : Reader α
  ofJson : Json → Except Cause α

namespace Schema

/-- The kind whose values are changed by `f`, unless that refuses them. -/
def check (f : α → Except Cause β) (schema : Schema α) : Schema β where
  reader := schema.reader.check f
  ofJson j :=
    match schema.ofJson j with
    | .error cause => .error cause
    | .ok a => f a

/-- The kind whose values are changed by `f`. -/
def map (f : α → β) (schema : Schema α) : Schema β :=
  schema.check fun a => .ok (f a)

theorem ofJson_check {schema : Schema α} {j : Json} {a : α} {b : β} {f : α → Except Cause β}
    (h : schema.ofJson j = .ok a) (hf : f a = .ok b) : (schema.check f).ofJson j = .ok b := by
  unfold check
  dsimp only
  rw [h]
  exact hf

theorem ofJson_map {schema : Schema α} {j : Json} {a : α} (h : schema.ofJson j = .ok a)
    (f : α → β) : (schema.map f).ofJson j = .ok (f a) :=
  ofJson_check (f := fun a => .ok (f a)) h rfl

/-- Any value, with at most so many arrays and objects inside one another. -/
def any (depth : Nat) : Schema Value where
  reader := (document depth).map Value.ofJson
  ofJson j := .ok (Value.ofJson j)

/-- A string. -/
def string (expected : String) : Schema String where
  reader := stringAs expected
  ofJson
    | .string s => .ok s
    | other => .error (.wrongType other.found expected)

/-- A whole number from `low` to `high`, which messages call `expected`. -/
def between (low high : Int) (expected : String) (n : Number) :
    Except Cause { n : Int // low ≤ n ∧ n ≤ high } :=
  match n with
  | .whole n _ =>
    if h : low ≤ n ∧ n ≤ high then .ok ⟨n, h⟩ else .error (.wrongValue (.integer n) expected)
  | .real x => .error (.wrongType (.float x) expected)

/-- A whole number from `low` to `high`. -/
def integer (low high : Int) (expected : String) : Schema { n : Int // low ≤ n ∧ n ≤ high } :=
  check (between low high expected)
    { reader := numberAs expected
      ofJson := fun j =>
        match j with
        | .number n => .ok n
        | other => .error (.wrongType other.found expected) }

/-- A whole number between the bounds is one of the kind. -/
theorem ofJson_integer (low high n : Int) (expected : String) (h : low ≤ n ∧ n ≤ high)
    (fits : -0x8000000000000000 ≤ n ∧ n < 0x10000000000000000) :
    (integer low high expected).ofJson (.number (.whole n fits)) = .ok ⟨n, h⟩ :=
  ofJson_check rfl (dif_pos h)

/-- A natural number of sixteen bits. -/
def unsigned16 : Schema UInt16 :=
  (integer 0 0xFFFF "u16").map fun n => UInt16.ofNat n.1.toNat

/-- A natural number of sixty-four bits, under one of its names. -/
def unsigned64 (expected : String) : Schema UInt64 :=
  (integer 0 0xFFFFFFFFFFFFFFFF expected).map fun n => UInt64.ofNat n.1.toNat

/-- A whole number of thirty-two bits. -/
def signed32 : Schema Int32 :=
  (integer (-0x80000000) 0x7FFFFFFF "i32").map fun n => Int32.ofInt n.1

/-- Item by item. -/
def itemsOfJson (item : Json → Except Cause α) : List Json → Except Cause (List α)
  | [] => .ok []
  | j :: rest =>
    match item j with
    | .error cause => .error cause
    | .ok a =>
      match itemsOfJson item rest with
      | .error cause => .error cause
      | .ok items => .ok (a :: items)

/-- A list. -/
def list (item : Schema α) : Schema (List α) where
  reader := listAs "a sequence" item.reader
  ofJson
    | .array items => itemsOfJson item.ofJson items
    | other => .error (.wrongType other.found "a sequence")

/-- `null`, or a value. -/
def optional (schema : Schema α) : Schema (Option α) where
  reader := orNull schema.reader
  ofJson
    | .null => .ok none
    | other =>
      match schema.ofJson other with
      | .error cause => .error cause
      | .ok a => .ok (some a)

/-! ## 4.  Choices -/

/-- The value with a name, among those known. -/
def named (known : List (String × α)) (name : String) : Except Cause α :=
  match known.find? (·.1 == name) with
  | some (_, a) => .ok a
  | none => .error (.unknownVariant name (known.map (·.1)))

/-- The reader of one of the names. -/
def nameIn (known : List (String × α)) : Reader α :=
  (stringAs "variant identifier").check (named known)

/-- A choice written as an object, after its opening brace. -/
def choiceObject (known : List (String × α)) (s : List UInt8) : Except Fault (α × List UInt8) :=
  match (nameIn known).read s with
  | .error fault => .error fault
  | .ok (a, r) =>
    match colon r with
    | .error fault => .error fault
    | .ok r =>
      match unit.read r with
      | .error fault => .error fault
      | .ok ((), r) =>
        match skipBlank r with
        | [] => .error (.here .endInObject [])
        | b :: t => if b = Byte.closeBrace then .ok (a, t) else .error (.here .noValue (b :: t))

theorem length_lt_of_choiceObject {known : List (String × α)} {a : α} {s r : List UInt8}
    (h : choiceObject known s = .ok (a, r)) : r.length < s.length := by
  unfold choiceObject at h
  split at h
  · cases h
  · rename_i hk
    have := Reader.shrinks _ hk
    split at h
    · cases h
    · rename_i hc
      have := length_lt_of_colon hc
      split at h
      · cases h
      · rename_i r' hu
        have := Reader.shrinks _ hu
        have := length_skipBlank_le r'
        split at h
        · cases h
        · rename_i hb
          rw [hb, List.length_cons] at this
          split at h
          · cases h; omega
          · cases h

/-- The reader of a choice in either form. -/
def choiceReader (known : List (String × α)) : Reader α :=
  byFirst
    (fun b r =>
      if b = Byte.quote then some ((nameIn known).read (b :: r))
      else if b = Byte.openBrace then some (choiceObject known r)
      else none)
    (by
      intro b r a t h
      split at h
      · exact Nat.le_of_lt_succ (Reader.shrinks _ (Option.some.inj h))
      · split at h
        · exact Nat.le_of_lt (length_lt_of_choiceObject (Option.some.inj h))
        · cases h)
    (fun b r => .next .noValue (b :: r))

/-- A choice between names. -/
def choice (known : List (String × α)) : Schema α where
  reader := choiceReader known
  ofJson
    | .string name => named known name
    | .object [(name, value)] =>
      match named known name with
      | .error cause => .error cause
      | .ok a =>
        match value with
        | .null => .ok a
        | .object [] => .ok a
        | other => .error (.wrongType other.found "unit")
    | .object _ => .error (.wrongValue .map "map with a single key")
    | other => .error (.wrongType other.found "string or map")

end Schema

end AgentIntake.Json
