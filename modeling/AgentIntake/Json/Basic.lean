import AgentIntake.Decimal.Double

/-!
# JSON documents

A document keeps what a reader was given: the members of an object stand in the order written, and a
key may occur more than once.  `Json.canonical` is the form in which two documents mean the same: in
every object the keys are in the order of their bytes and the last binding of a key is the one kept.

Numbers come in two kinds.  A whole number of sixty-four bits, signed or not, is kept exactly;
everything else is a finite binary64 number.  In particular `-0` is not whole.
-/

namespace AgentIntake

/-- A number of a document: a whole one that fits sixty-four bits, signed or unsigned, or any other,
rounded. -/
inductive Number where
  | whole (n : Int) (fits : -0x8000000000000000 ≤ n ∧ n < 0x10000000000000000)
  | real (x : Double)
  deriving DecidableEq

instance : Inhabited Number := ⟨.whole 0 (by decide)⟩

/-- The whole number `n`, if it fits. -/
def Number.ofInt? (n : Int) : Option Number :=
  if h : -0x8000000000000000 ≤ n ∧ n < 0x10000000000000000 then some (.whole n h) else none

/-- A document; the members of an object are in the order written. -/
inductive Json where
  | null
  | bool (b : Bool)
  | number (n : Number)
  | string (s : String)
  | array (items : List Json)
  | object (members : List (String × Json))
  deriving Inhabited

namespace Json

/-- A natural number of sixty-four bits. -/
def ofUInt64 (n : UInt64) : Json :=
  .number (.whole n.toNat (by have := n.toNat_lt; omega))

/-! ## 1.  Sorted members -/

/-- Binds `key` in a list sorted by key, in place of an earlier binding. -/
def bind {α : Type} (key : String) (value : α) : List (String × α) → List (String × α)
  | [] => [(key, value)]
  | (k, v) :: rest =>
    if key < k then (key, value) :: (k, v) :: rest
    else if key = k then (key, value) :: rest
    else (k, v) :: bind key value rest

mutual

/-- The same document with the keys of every object sorted and its last bindings kept. -/
def canonical : Json → Json
  | array items => array (canonicalItems items)
  | object members => object (canonicalMembers [] members)
  | other => other

/-- Item by item. -/
def canonicalItems : List Json → List Json
  | [] => []
  | item :: rest => item.canonical :: canonicalItems rest

/-- Member by member, onto those bound so far. -/
def canonicalMembers (done : List (String × Json)) : List (String × Json) → List (String × Json)
  | [] => done
  | (key, value) :: rest => canonicalMembers (bind key value.canonical done) rest

end

/-! ## 2.  Depth -/

mutual

/-- How many arrays and objects stand inside one another, this one included. -/
def depth : Json → Nat
  | array items => depthItems items + 1
  | object members => depthMembers members + 1
  | _ => 0

/-- The greatest depth of an item. -/
def depthItems : List Json → Nat
  | [] => 0
  | item :: rest => max item.depth (depthItems rest)

/-- The greatest depth of a value. -/
def depthMembers : List (String × Json) → Nat
  | [] => 0
  | (_, value) :: rest => max value.depth (depthMembers rest)

end

/-- The value last bound to a key, for an object. -/
def get? (key : String) : Json → Option Json
  | object members => (members.reverse.find? (·.1 == key)).map (·.2)
  | _ => none

end Json

end AgentIntake
