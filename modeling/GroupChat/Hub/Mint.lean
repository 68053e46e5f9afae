import GroupChat.Hub.Basic

/-!
# Identifiers in a row

A source of new identifiers that counts them. They have the form of a universally unique identifier,
whose last group of digits holds the number and whose group in front of it the kind.

## Main definitions

- `Mint.identifier`: the identifier of a kind and a number.
- `Mint.counting`: the source, with one time for everything.
-/

namespace GroupChat

/-- The kinds of new identifiers that a `Mint` has. -/
inductive MintKind where
  /-- Rooms. -/
  | room
  /-- Messages. -/
  | message
  /-- Notifications that are kept. -/
  | notice
  /-- Notifications that are not kept. -/
  | signal
  deriving DecidableEq, Repr

/-- The group of digits in the identifiers of a `MintKind`. -/
def MintKind.group : MintKind → String
  | .room => "8001"
  | .message => "8002"
  | .notice => "8003"
  | .signal => "8004"

namespace Mint

/-- A number in decimal digits, with zeros in front up to `width` digits. -/
def padded (width n : Nat) : List Char :=
  let digits := Nat.toDigits 10 n
  List.replicate (width - digits.length) '0' ++ digits

/-- The identifier of a `kind` and a number. -/
def identifier (kind : MintKind) (n : Nat) : String :=
  "00000000-0000-4000-" ++ kind.group ++ "-" ++ String.ofList (padded 12 n)

/-- A `Mint` of identifiers that count, and of one `time` for everything. -/
def counting (time : Int64) : Mint where
  room := identifier .room
  message n := ⟨identifier .message n, time⟩
  notice n := ⟨identifier .notice n, time⟩
  signal n := ⟨identifier .signal n, time⟩

end Mint

end GroupChat
