import AgentIntake.Text.Digits

/-!
# Addresses

Internet addresses of both versions, with and without a port, and their texts.

An address of version 4 is written as four decimal numbers.  One of version 6 is written as eight
groups of hexadecimal digits without leading zeros, of which the longest run of at least two zero
groups, the first among equals, is left out; one that stands for an address of version 4 shows it.
Reading takes more: groups with leading zeros, any run of zero groups left out, and an address of
version 4 in the place of the last two groups.
-/

namespace AgentIntake

/-- An address of version 4. -/
structure Ipv4 where
  a : UInt8
  b : UInt8
  c : UInt8
  d : UInt8
  deriving DecidableEq, Inhabited

/-- An address of version 6: eight groups. -/
structure Ipv6 where
  groups : List UInt16
  eight : groups.length = 8
  deriving DecidableEq

/-- An address. -/
inductive IpAddress where
  | v4 (address : Ipv4)
  | v6 (address : Ipv6)
  deriving DecidableEq

/-- An address with a port; the zone of an address of version 4 is zero. -/
structure SocketAddress where
  ip : IpAddress
  port : UInt16
  zone : UInt32
  deriving DecidableEq

/-! ## 1.  Texts -/

/-- Four numbers with points between. -/
def Ipv4.text (x : Ipv4) : String :=
  s!"{x.a.toNat}.{x.b.toNat}.{x.c.toNat}.{x.d.toNat}"

namespace Ipv6

/-- A group in hexadecimal digits. -/
def groupText (g : UInt16) : String :=
  String.ofList (Nat.toDigits 16 g.toNat)

/-- Groups with colons between. -/
def groupsText (gs : List UInt16) : String :=
  ":".intercalate (gs.map groupText)

/-- How many zero groups stand at the front. -/
def zerosAt (gs : List UInt16) : Nat :=
  (gs.takeWhile (· == 0)).length

/-- Where the longest run of zero groups begins, the first among equals, and its length. -/
def longestZeros : List UInt16 → Nat × Nat
  | [] => (0, 0)
  | g :: gs =>
    let (start, length) := longestZeros gs
    if length ≤ zerosAt (g :: gs) then (0, zerosAt (g :: gs)) else (start + 1, length)

/-- The address of version 4 that an address stands for. -/
def mapped? (x : Ipv6) : Option Ipv4 :=
  match x.groups with
  | [0, 0, 0, 0, 0, 0xFFFF, g, h] =>
    some ⟨(g >>> 8).toUInt8, g.toUInt8, (h >>> 8).toUInt8, h.toUInt8⟩
  | _ => none

/-- The groups, the longest run of zeros left out. -/
def text (x : Ipv6) : String :=
  match x.mapped? with
  | some v4 => "::ffff:" ++ v4.text
  | none =>
    let (start, length) := longestZeros x.groups
    if 2 ≤ length then
      groupsText (x.groups.take start) ++ "::" ++ groupsText (x.groups.drop (start + length))
    else groupsText x.groups

end Ipv6

/-- The text of an address. -/
def IpAddress.text : IpAddress → String
  | v4 x => x.text
  | v6 x => x.text

/-- The text of an address with its port. -/
def SocketAddress.text (x : SocketAddress) : String :=
  match x.ip with
  | .v4 ip => s!"{ip.text}:{x.port.toNat}"
  | .v6 ip =>
    let zone := if x.zone = 0 then "" else s!"%{x.zone.toNat}"
    s!"[{ip.text}{zone}]:{x.port.toNat}"

/-! ## 2.  Reading -/

namespace Address

/-- One number of an address of version 4: at most three digits, no spare zero. -/
def octet? (s : List Char) : Option (UInt8 × List Char) :=
  let (ds, r) := Digits.span 10 s
  let n := Digits.toNat 10 ds
  if ds = [] ∨ 3 < ds.length ∨ (1 < ds.length ∧ ds.head? = some 0) ∨ 255 < n then none
  else some (UInt8.ofNat n, r)

/-- A given character at the front. -/
def char? (c : Char) : List Char → Option (List Char)
  | [] => none
  | x :: r => if x = c then some r else none

/-- An address of version 4 at the front. -/
def v4? (s : List Char) : Option (Ipv4 × List Char) := do
  let (a, s) ← octet? s
  let s ← char? '.' s
  let (b, s) ← octet? s
  let s ← char? '.' s
  let (c, s) ← octet? s
  let s ← char? '.' s
  let (d, s) ← octet? s
  return (⟨a, b, c, d⟩, s)

/-- One group of an address of version 6: at most four digits. -/
def group? (s : List Char) : Option (UInt16 × List Char) :=
  let (ds, r) := Digits.span 16 s
  if ds = [] ∨ 4 < ds.length then none else some (UInt16.ofNat (Digits.toNat 16 ds), r)

/-- The two groups of an address of version 4. -/
def Ipv4.groups (x : Ipv4) : List UInt16 :=
  [x.a.toUInt16 * 256 + x.b.toUInt16, x.c.toUInt16 * 256 + x.d.toUInt16]

/-- Groups at the front of a text: whether the last two were written as an address of version 4, and
what follows them. -/
structure Groups where
  groups : List UInt16
  dotted : Bool
  rest : List Char

/-- At most `limit` groups with colons between; `first` says that no colon comes before the next. -/
def groupsUpTo (first : Bool) : Nat → List Char → Groups
  | 0, s => ⟨[], false, s⟩
  | limit + 1, s =>
    match if first then some s else char? ':' s with
    | none => ⟨[], false, s⟩
    | some t =>
      match if limit = 0 then none else v4? t with
      | some (x, r) => ⟨Ipv4.groups x, true, r⟩
      | none =>
        match group? t with
        | none => ⟨[], false, s⟩
        | some (g, r) =>
          let more := groupsUpTo false limit r
          { more with groups := g :: more.groups }

/-- The address of eight groups. -/
def ofGroups? (gs : List UInt16) : Option Ipv6 :=
  if h : gs.length = 8 then some ⟨gs, h⟩ else none

/-- An address of version 6 at the front. -/
def v6? (s : List Char) : Option (Ipv6 × List Char) := do
  let front := groupsUpTo true 8 s
  if front.groups.length = 8 then
    return (← ofGroups? front.groups, front.rest)
  if front.dotted then none
  let s ← char? ':' front.rest
  let s ← char? ':' s
  let back := groupsUpTo true (7 - front.groups.length) s
  let zeros := List.replicate (8 - front.groups.length - back.groups.length) 0
  return (← ofGroups? (front.groups ++ zeros ++ back.groups), back.rest)

/-- A number below `bound` in decimal digits. -/
def below? (bound : Nat) (s : List Char) : Option (Nat × List Char) :=
  let (ds, r) := Digits.span 10 s
  if ds = [] ∨ bound ≤ Digits.toNat 10 ds then none else some (Digits.toNat 10 ds, r)

/-- A colon, a port and nothing more. -/
def port? (s : List Char) : Option UInt16 := do
  let s ← char? ':' s
  let (n, r) ← below? 0x10000 s
  if r.isEmpty then return UInt16.ofNat n else none

/-- The zone of an address of version 6, zero if there is none. -/
def zone (s : List Char) : UInt32 × List Char :=
  match char? '%' s >>= below? 0x100000000 with
  | some (n, r) => (UInt32.ofNat n, r)
  | none => (0, s)

end Address

/-- The address with a text. -/
def IpAddress.ofText? (text : String) : Option IpAddress :=
  match Address.v4? text.toList with
  | some (x, []) => some (.v4 x)
  | _ =>
    match Address.v6? text.toList with
    | some (x, []) => some (.v6 x)
    | _ => none

/-- The address and port with a text. -/
def SocketAddress.ofText? (text : String) : Option SocketAddress :=
  match text.toList with
  | '[' :: s => do
    let (ip, s) ← Address.v6? s
    let (zone, s) := Address.zone s
    let s ← Address.char? ']' s
    return ⟨.v6 ip, ← Address.port? s, zone⟩
  | s => do
    let (ip, s) ← Address.v4? s
    return ⟨.v4 ip, ← Address.port? s, 0⟩

end AgentIntake
