import GroupChat.Json.Record

/-!
# Records with a member among another's

A value that is written as the members of a record with one more member behind them. It is read from
an object only: the extra member is read where it stands, and all others are put aside until the
object ends.

## Main definitions

- `Flat`: a record and the extra member.
- `Flat.shape`: the shape of the value.
-/

namespace GroupChat.Json

/-- A `Record` and one more member, which make up a value. -/
structure Flat (β γ δ : Type) : Type 1 where
  /-- What a value is called. -/
  label : String
  /-- The record. -/
  inner : Record β
  /-- The extra member. -/
  own : Member γ
  /-- The value with the given parts. -/
  build : β → γ → δ
  /-- The parts of a value. -/
  parts : δ → β × γ

namespace Flat

variable {β γ δ : Type}

/-- What was found of a value: the extra member `own` and the members put aside. -/
abbrev Found (γ : Type) : Type := Option γ × List (String × Json)

/-- Takes the member `name`. -/
def readMember (f : Flat β γ δ) (allowed : Nat) (found : Found γ) (name : String) :
    Reader (Found γ) := do
  if name = f.own.name then
    if found.1.isSome then Reader.misfit (.duplicateField f.own.name)
    Reader.colon
    return (some (← f.own.shape.read allowed), found.2)
  else
    Reader.colon
    return (found.1, found.2 ++ [(name, ← Reader.value allowed)])

/-- The value of what was `found`. -/
def finish (f : Flat β γ δ) (found : Found γ) : Except ShapeFault δ :=
  match found.1 with
  | none => .error (.missingField f.own.name)
  | some own => do
    let inner ← f.inner.ofMembers .buffered found.2
    pure (f.build inner own)

/-- Takes a value of `f`. -/
def read (f : Flat β γ δ) (allowed : Nat) : Reader δ := do
  match ← Reader.peekPastSpace with
  | some '\x7b' =>
    Reader.objectOf allowed fun allowed => do
      let found ← Reader.foldMembers (f.readMember allowed) (← Reader.fuel) true (none, [])
      Reader.ofExcept (f.finish found)
  | _ => Reader.misplaced f.label

/-- Puts a `member` of a value at hand to what was `found`. -/
def putMember (f : Flat β γ δ) (origin : Origin) (found : Found γ) (member : String × Json) :
    Except ShapeFault (Found γ) :=
  if member.1 = f.own.name then
    match found.1 with
    | some _ => .error (.duplicateField f.own.name)
    | none => do
      let own ← f.own.shape.ofJson origin member.2
      pure (some own, found.2)
  else .ok (found.1, found.2 ++ [member])

/-- The value of `f` that a `Json` stands for. -/
def ofJson (f : Flat β γ δ) (origin : Origin) : Json → Except ShapeFault δ
  | .object ms => do
    let found ← ms.foldlM (f.putMember origin) (none, [])
    f.finish found
  | v => .error (.invalidType (found v) f.label)

/-- The members of the value `d`. -/
def members (f : Flat β γ δ) (d : δ) : List (String × Json) :=
  f.inner.members (f.parts d).1 ++ [(f.own.name, f.own.shape.toJson (f.parts d).2)]

/-- The `Shape` of the values of `f`. -/
def shape (f : Flat β γ δ) : Shape δ where
  read := f.read
  ofJson := f.ofJson
  toJson d := .object (f.members d)

end Flat

end GroupChat.Json
