import AgentIntake.Json.Printer
import AgentIntake.Json.Schema

/-!
# Handshake properties

The property set an agent presents while connecting: a finite map from keys to values, kept as the
list of its bindings in the order of their keys.  Two sets are equal exactly when they bind the same
keys to the same values.
-/

namespace AgentIntake

/-- A finite map from keys to values: the bindings in the order of their keys, each key once, and
the values in canonical form. -/
structure Properties where
  bindings : List (String × Json)
  isCanonical : Json.CanonicalMembers bindings

namespace Properties

/-- No bindings. -/
def empty : Properties :=
  ⟨[], .nil, by simp⟩

instance : Inhabited Properties := ⟨empty⟩

@[ext] theorem ext {p q : Properties} (h : p.bindings = q.bindings) : p = q := by
  cases p; cases q; cases h; rfl

/-- The same set with `key` bound to `value`, in place of an earlier binding. -/
def insert (p : Properties) (key : String) (value : Value) : Properties :=
  ⟨Json.bind key value.json p.bindings, p.isCanonical.bind value.canonical_json⟩

/-- The same set without a binding of `key`. -/
def erase (p : Properties) (key : String) : Properties where
  bindings := p.bindings.filter (·.1 != key)
  isCanonical :=
    ⟨p.isCanonical.1.sublist List.filter_sublist,
      fun m hm => p.isCanonical.2 m ((List.mem_filter.1 hm).1)⟩

/-- The value of a key. -/
def get? (p : Properties) (key : String) : Option Json :=
  (p.bindings.find? (·.1 == key)).map (·.2)

/-- The set of the last bindings of a list. -/
def ofList (bindings : List (String × Value)) : Properties :=
  bindings.foldl (fun p b => p.insert b.1 b.2) empty

/-- The set of the last bindings of a document's members. -/
def ofMembers (members : List (String × Json)) : Properties :=
  ofList (members.map fun m => (m.1, Value.ofJson m.2))

/-- The set as a document. -/
def toJson (p : Properties) : Json :=
  .object p.bindings

/-- A property set in a text or a document. -/
def schema : Json.Schema Properties where
  reader :=
    Json.objectAs "a map"
      { start := empty
        member := fun p key =>
          .ok ((Json.Schema.any (Json.depthLimit - 1)).reader.map fun value => p.insert key value)
        finish := .ok }
  ofJson
    | .object members => .ok (ofMembers members)
    | other => .error (.wrongType other.found "a map")

end Properties

end AgentIntake
