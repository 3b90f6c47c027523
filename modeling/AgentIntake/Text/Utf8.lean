/-!
# UTF-8

Texts travel as bytes.  `encode` writes a string as its UTF-8 bytes, and `next?` takes one character
off the front of a byte sequence, refusing overlong forms, surrogates and code points past the last
plane; `decode?` repeats it to the end.

`next?` gives back a strictly shorter rest (`length_lt_of_next?`), which is what lets every loop
over characters be defined without a bound supplied from outside.
-/

namespace AgentIntake.Utf8

/-! ## 1.  Writing -/

/-- The UTF-8 bytes of a string. -/
def encode (s : String) : List UInt8 :=
  s.toList.flatMap String.utf8EncodeChar

/-! ## 2.  Reading one character -/

/-- The six bits a continuation byte contributes. -/
def tail? (b : UInt8) : Option Nat :=
  if 0x80 ≤ b ∧ b ≤ 0xBF then some (b.toNat - 0x80) else none

/-- A code point of at least `least`, the smallest that needs this many bytes, as a character. -/
def scalar? (least n : Nat) : Option Char :=
  if h : n.isValidChar then
    if least ≤ n then some (Char.ofNatAux n h) else none
  else none

/-- The character at the front of `s`, and what follows it. -/
def next? : List UInt8 → Option (Char × List UInt8)
  | [] => none
  | a :: s =>
    if a < 0x80 then (scalar? 0 a.toNat).map (·, s)
    else if a < 0xC0 then none
    else if a < 0xE0 then
      match s with
      | b :: s => do
        let y ← tail? b
        let c ← scalar? 0x80 ((a.toNat - 0xC0) * 64 + y)
        return (c, s)
      | _ => none
    else if a < 0xF0 then
      match s with
      | b :: c :: s => do
        let y ← tail? b
        let z ← tail? c
        let c ← scalar? 0x800 (((a.toNat - 0xE0) * 64 + y) * 64 + z)
        return (c, s)
      | _ => none
    else if a < 0xF8 then
      match s with
      | b :: c :: d :: s => do
        let y ← tail? b
        let z ← tail? c
        let w ← tail? d
        let c ← scalar? 0x10000 ((((a.toNat - 0xF0) * 64 + y) * 64 + z) * 64 + w)
        return (c, s)
      | _ => none
    else none

/-- Taking a character leaves less. -/
theorem length_lt_of_next? {s r : List UInt8} {c : Char} (h : next? s = some (c, r)) :
    r.length < s.length := by
  unfold next? at h
  split at h
  · cases h
  · repeat' split at h
    all_goals
      first
      | contradiction
      | simp only [bind, Option.bind_eq_some_iff, pure, Option.map_eq_some_iff, Option.some.injEq,
          Prod.mk.injEq] at h
        simp only [List.length_cons]
        grind

/-! ## 3.  Reading to the end -/

/-- Characters taken so far, last first, followed by those of `s`. -/
def decodeOnto (done : List Char) (s : List UInt8) : Option (List Char) :=
  match s with
  | [] => some done
  | b :: s =>
    match _h : next? (b :: s) with
    | none => none
    | some (c, r) => decodeOnto (c :: done) r
termination_by s.length
decreasing_by exact length_lt_of_next? _h

/-- The string whose UTF-8 bytes are `s`, if there is one. -/
def decode? (s : List UInt8) : Option String :=
  (decodeOnto [] s).map fun cs => String.ofList cs.reverse

end AgentIntake.Utf8
