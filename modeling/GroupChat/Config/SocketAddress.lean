/-!
# Socket addresses

An address to listen on: four bytes or eight groups of sixteen bits, and a port. Addresses of eight
groups stand in square brackets, where one run of zeros may be left out.

## Main definitions

- `SocketAddress`: the addresses.
- `SocketAddress.parse?`: the address that a text stands for.
- `SocketAddress.render`: the text of an address.
-/

namespace GroupChat

/-- An address of four bytes. -/
structure Ipv4 where
  /-- First byte. -/
  a : UInt8
  /-- Second byte. -/
  b : UInt8
  /-- Third byte. -/
  c : UInt8
  /-- Fourth byte. -/
  d : UInt8
  deriving DecidableEq, Repr

/-- An address to listen on. -/
inductive SocketAddress where
  /-- Four bytes and a port. -/
  | v4 (ip : Ipv4) (port : UInt16)
  /-- Eight groups, the number of a network interface, and a port. -/
  | v6 (groups : List UInt16) (scope : UInt32) (port : UInt16)
  deriving DecidableEq, Repr

namespace SocketAddress

/-- The value of a digit to some base up to sixteen. -/
def digit? (base : Nat) (c : Char) : Option Nat :=
  let n :=
    if '0' ≤ c ∧ c ≤ '9' then c.toNat - '0'.toNat
    else if 'a' ≤ c ∧ c ≤ 'f' then c.toNat - 'a'.toNat + 10
    else if 'A' ≤ c ∧ c ≤ 'F' then c.toNat - 'A'.toNat + 10
    else base
  if n < base then some n else none

/-- Takes a number below `limit` of at most `maxDigits` digits off a text. -/
def number (base limit : Nat) (maxDigits : Option Nat) (cs : List Char) :
    Option (Nat × List Char) :=
  let ds := cs.takeWhile fun c => (digit? base c).isSome
  let n : Nat := ds.foldl (fun n c => n * base + (digit? base c).getD 0) 0
  if ds.isEmpty ∨ maxDigits.any (· < ds.length) ∨ limit ≤ n then none
  else some (n, cs.drop ds.length)

/-- Takes a character off a text. -/
def expect (c : Char) : List Char → Option (List Char)
  | x :: cs => if x = c then some cs else none
  | [] => none

/-- Takes a byte, which has no zeros in front. -/
def byte (cs : List Char) : Option (UInt8 × List Char) := do
  let (n, rest) ← number 10 256 (some 3) cs
  if cs.head? = some '0' ∧ cs.length ≠ rest.length + 1 then none
  else pure (n.toUInt8, rest)

/-- Takes an address of four bytes. -/
def ipv4 (cs : List Char) : Option (Ipv4 × List Char) := do
  let (a, cs) ← byte cs
  let cs ← expect '.' cs
  let (b, cs) ← byte cs
  let cs ← expect '.' cs
  let (c, cs) ← byte cs
  let cs ← expect '.' cs
  let (d, cs) ← byte cs
  pure (⟨a, b, c, d⟩, cs)

/-- Takes a port behind a colon. -/
def port (cs : List Char) : Option (UInt16 × List Char) := do
  let cs ← expect ':' cs
  let (n, cs) ← number 10 0x10000 none cs
  pure (n.toUInt16, cs)

/-- The two groups of an address of four bytes. -/
def Ipv4.groups (ip : Ipv4) : List UInt16 :=
  [ip.a.toUInt16 * 256 + ip.b.toUInt16, ip.c.toUInt16 * 256 + ip.d.toUInt16]

/-- Takes the colon in front of a group, which the first group does not have. -/
def separator (first : Bool) (cs : List Char) : Option (List Char) :=
  if first then some cs else expect ':' cs

/-- Takes up to `limit` groups with colons between them. The last two may be written as four bytes,
which the result tells. -/
def groups : Nat → Bool → List Char → List UInt16 × Bool × List Char
  | 0, _, cs => ([], false, cs)
  | limit + 1, first, cs =>
    let four := if limit = 0 then none else (separator first cs).bind ipv4
    match four with
    | some (ip, rest) => (Ipv4.groups ip, true, rest)
    | none =>
      match (separator first cs).bind (number 16 0x10000 (some 4)) with
      | some (n, rest) =>
        let (gs, isFour, rest) := groups limit false rest
        (n.toUInt16 :: gs, isFour, rest)
      | none => ([], false, cs)

/-- Takes an address of eight groups; two colons stand for a run of zeros. -/
def ipv6 (cs : List Char) : Option (List UInt16 × List Char) := do
  let (head, isFour, cs) := groups 8 true cs
  if head.length = 8 then
    pure (head, cs)
  else if isFour then
    none
  else
    let cs ← expect ':' cs
    let cs ← expect ':' cs
    let (tail, _, cs) := groups (7 - head.length) true cs
    pure (head ++ List.replicate (8 - head.length - tail.length) 0 ++ tail, cs)

/-- Takes the number of a network interface, if there is one. -/
def scope (cs : List Char) : UInt32 × List Char :=
  match (expect '%' cs).bind (number 10 0x100000000 none) with
  | some (n, rest) => (n.toUInt32, rest)
  | none => (0, cs)

/-- Takes an address of four bytes with a port. -/
def socketV4 (cs : List Char) : Option (SocketAddress × List Char) := do
  let (ip, cs) ← ipv4 cs
  let (p, cs) ← port cs
  pure (.v4 ip p, cs)

/-- Takes an address of eight groups with a port. -/
def socketV6 (cs : List Char) : Option (SocketAddress × List Char) := do
  let cs ← expect '[' cs
  let (gs, cs) ← ipv6 cs
  let (s, cs) := scope cs
  let cs ← expect ']' cs
  let (p, cs) ← port cs
  pure (.v6 gs s p, cs)

/-- The address that the `text` stands for. -/
def parse? (text : String) : Option SocketAddress :=
  match (socketV4 text.toList).orElse fun _ => socketV6 text.toList with
  | some (address, []) => some address
  | _ => none

/-- A number in decimal digits. -/
def decimal (n : Nat) : String := String.ofList (Nat.toDigits 10 n)

/-- The text of four bytes. -/
def Ipv4.render (ip : Ipv4) : String :=
  ".".intercalate ([ip.a, ip.b, ip.c, ip.d].map fun x => decimal x.toNat)

/-- The text of groups with colons between them. -/
def renderGroups (gs : List UInt16) : String :=
  ":".intercalate (gs.map fun g => String.ofList (Nat.toDigits 16 g.toNat))

/-- The number of zeros in front of groups. -/
def zeros (gs : List UInt16) : Nat := (gs.takeWhile (· == 0)).length

/-- Start and length of the first of the longest runs of zeros, where `start` groups precede. -/
def longestRun : Nat → List UInt16 → Nat × Nat
  | _, [] => (0, 0)
  | start, g :: gs =>
    let here := zeros (g :: gs)
    let later := longestRun (start + 1) gs
    if here = 0 ∨ here < later.2 then later else (start, here)

/-- The text of eight groups: an address that stands for four bytes shows them, and of several runs
of zeros the longest is left out. -/
def renderV6 (gs : List UInt16) : String :=
  match gs with
  | [0, 0, 0, 0, 0, 0xffff, g, h] =>
    "::ffff:" ++ Ipv4.render ⟨(g / 256).toUInt8, g.toUInt8, (h / 256).toUInt8, h.toUInt8⟩
  | _ =>
    let (start, n) := longestRun 0 gs
    if n ≤ 1 then renderGroups gs
    else renderGroups (gs.take start) ++ "::" ++ renderGroups (gs.drop (start + n))

/-- The text of an address. -/
def render : SocketAddress → String
  | .v4 ip p => Ipv4.render ip ++ ":" ++ decimal p.toNat
  | .v6 gs s p =>
    "[" ++ renderV6 gs ++ (if s = 0 then "" else "%" ++ decimal s.toNat) ++ "]:" ++ decimal p.toNat

end SocketAddress

end GroupChat
