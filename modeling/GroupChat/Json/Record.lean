import GroupChat.Json.Shape
import GroupChat.Json.Skip

/-!
# Records

A record has named members of fixed shapes. It is read from an object, whose other members are
passed over, or from a list of its members in their order. A member with a fallback may be missing.

## Main definitions

- `Member`: one member.
- `Members`: the members of a record, `Row` their values and `Slots` the values found so far.
- `Record`: the members of a type.
- `Record.shape`: the shape of the type.
-/

namespace GroupChat.Json

/-- A member of a `Record`, with its `Shape`. -/
structure Member (α : Type) where
  /-- The name of the member. -/
  name : String
  /-- The shape of its value. -/
  shape : Shape α
  /-- Its value when it is missing. -/
  fallback : Option α := none
  /-- Other names under which it is read. -/
  aliases : List String := []
  /-- Whether a value is written. -/
  shown : α → Bool := fun _ => true

/-- Whether `name` is a name of the member. -/
def Member.answersTo {α : Type} (f : Member α) (name : String) : Bool :=
  f.name == name || f.aliases.contains name

/-- The members of a record with values of the types `ts`. -/
inductive Members : List Type → Type 1 where
  /-- No members. -/
  | nil : Members []
  /-- A member and others behind it. -/
  | cons {α : Type} {ts : List Type} (f : Member α) (rest : Members ts) : Members (α :: ts)

/-- A value of each of the types `ts`. -/
def Row : List Type → Type
  | [] => Unit
  | t :: ts => t × Row ts

/-- For each of the types `ts` a value or nothing. -/
def Slots : List Type → Type
  | [] => Unit
  | t :: ts => Option t × Slots ts

/-- No value for any of the types `ts`. -/
def Slots.empty : (ts : List Type) → Slots ts
  | [] => ()
  | _ :: ts => (none, empty ts)

namespace Members

/-- The number of `Members`. -/
def size {ts : List Type} : Members ts → Nat
  | .nil => 0
  | .cons _ rest => rest.size + 1

/-- Takes the colon and the value of the member `name`, or nothing if there is no such member. -/
def readInto? (allowed : Nat) (name : String) : {ts : List Type} → Members ts → Slots ts →
    Option (Reader (Slots ts))
  | [], .nil, _ => none
  | _ :: _, .cons f rest, (slot, slots) =>
    if f.answersTo name then
      some do
        if slot.isSome then Reader.misfit (.duplicateField f.name)
        Reader.colon
        let a ← f.shape.read allowed
        pure (some a, slots)
    else
      (rest.readInto? allowed name slots).map fun r => do
        let slots ← r
        pure (slot, slots)

/-- Puts the value of the member `name` into its slot, or does nothing if there is no such
member. -/
def putInto (origin : Origin) (name : String) (v : Json) :
    {ts : List Type} → Members ts → Slots ts →
    Except ShapeFault (Slots ts)
  | [], .nil, slots => .ok slots
  | _ :: _, .cons f rest, (slot, slots) =>
    if f.answersTo name then
      match slot with
      | some _ => .error (.duplicateField f.name)
      | none => do
        let a ← f.shape.ofJson origin v
        pure (some a, slots)
    else do
      let slots ← rest.putInto origin name v slots
      pure (slot, slots)

/-- The values in the `Slots`, with fallbacks for those that are missing. -/
def complete : {ts : List Type} → Members ts → Slots ts → Except ShapeFault (Row ts)
  | [], .nil, _ => .ok ()
  | _ :: _, .cons f rest, (slot, slots) =>
    match slot.orElse fun _ => f.fallback with
    | none => .error (.missingField f.name)
    | some a => do
      let row ← rest.complete slots
      pure (a, row)

/-- Takes the members from the items of a list, of which `index` are taken already. -/
def readItems (allowed : Nat) (expected : String) : {ts : List Type} → Members ts → Nat → Bool →
    Reader (Row ts)
  | [], .nil, _, _ => pure ()
  | _ :: _, .cons f rest, index, first => do
    if ← Reader.nextItem first then
      let a ← f.shape.read allowed
      let row ← rest.readItems allowed expected (index + 1) false
      pure (a, row)
    else
      match f.fallback with
      | none => Reader.misfit (.invalidLength index expected)
      | some a => do
        let row ← rest.readItems allowed expected (index + 1) first
        pure (a, row)

/-- The members from the items of a list, of which `index` are taken already, and the items that are
left over. -/
def ofItems (origin : Origin) (expected : String) : {ts : List Type} → Members ts → Nat →
    List Json → Except ShapeFault (Row ts × List Json)
  | [], .nil, _, vs => .ok ((), vs)
  | _ :: _, .cons f rest, index, [] =>
    match f.fallback with
    | none => .error (.invalidLength index expected)
    | some a => do
      let (row, vs) ← rest.ofItems origin expected (index + 1) []
      pure ((a, row), vs)
  | _ :: _, .cons f rest, index, v :: vs => do
    let a ← f.shape.ofJson origin v
    let (row, vs) ← rest.ofItems origin expected (index + 1) vs
    pure ((a, row), vs)

/-- The members of an object with the values of a `Row`. -/
def members : {ts : List Type} → Members ts → Row ts → List (String × Json)
  | [], .nil, _ => []
  | _ :: _, .cons f rest, (a, row) =>
    if f.shown a then (f.name, f.shape.toJson a) :: rest.members row else rest.members row

end Members

/-- The `Members` of a type. -/
structure Record (β : Type) : Type 1 where
  /-- What a value is called. -/
  label : String
  /-- The types of the members. -/
  types : List Type
  /-- The members. -/
  fields : Members types
  /-- The value with the given members. -/
  build : Row types → β
  /-- The members of a value. -/
  parts : β → Row types
  /-- Whether a list of the members is read too. -/
  positional : Bool := true

namespace Record

variable {β : Type}

/-- The number `n` of elements as a phrase. -/
def elements (n : Nat) : String :=
  String.ofList (Nat.toDigits 10 n) ++ (if n = 1 then " element" else " elements")

/-- What a list of the wrong length should have been for `r`. -/
def expected (r : Record β) : String := r.label ++ " with " ++ elements r.fields.size

/-- Takes the member `name` of an object. -/
def readMember (r : Record β) (allowed : Nat) (slots : Slots r.types) (name : String) :
    Reader (Slots r.types) :=
  match r.fields.readInto? allowed name slots with
  | some read => read
  | none => do
    Reader.colon
    Reader.skipValue
    pure slots

/-- Takes the members of an object, by `readMember`. -/
def readMembers (r : Record β) (allowed : Nat) : Reader β := do
  let slots ← Reader.foldMembers (r.readMember allowed) (← Reader.fuel) true (Slots.empty r.types)
  Reader.ofExcept ((r.fields.complete slots).map r.build)

/-- Takes a record of `r`, which is an object or a list. -/
def read (r : Record β) (allowed : Nat) : Reader β := do
  match ← Reader.peekPastSpace with
  | some '\x7b' => Reader.objectOf allowed r.readMembers
  | some '[' =>
    if r.positional then
      Reader.listOf allowed fun allowed => do
        return r.build (← r.fields.readItems allowed r.expected 0 true)
    else Reader.misplaced r.label
  | _ => Reader.misplaced r.label

/-- The record of `r` with the members `ms`. -/
def ofMembers (r : Record β) (origin : Origin) (ms : List (String × Json)) :
    Except ShapeFault β := do
  let slots ← ms.foldlM (fun slots (name, v) => r.fields.putInto origin name v slots)
    (Slots.empty r.types)
  r.build <$> r.fields.complete slots

/-- The record of `r` with the members `vs` in their order. -/
def ofList (r : Record β) (origin : Origin) (vs : List Json) : Except ShapeFault β := do
  let (row, left) ← r.fields.ofItems origin r.expected 0 vs
  if left.isEmpty then
    pure (r.build row)
  else
    match origin with
    | .parsed => .error (.invalidLength vs.length "fewer elements in array")
    | .buffered =>
      .error (.invalidLength vs.length (elements (vs.length - left.length) ++ " in sequence"))

/-- The record of `r` that a `Json` stands for. -/
def ofJson (r : Record β) (origin : Origin) : Json → Except ShapeFault β
  | .object ms => r.ofMembers origin ms
  | .list vs =>
    if r.positional then r.ofList origin vs else .error (.invalidType .list r.label)
  | v => .error (.invalidType (found v) r.label)

/-- The members of the value `b`. -/
def members (r : Record β) (b : β) : List (String × Json) := r.fields.members (r.parts b)

/-- The `Shape` of the records of `r`. -/
def shape (r : Record β) : Shape β where
  read := r.read
  ofJson := r.ofJson
  toJson b := .object (r.members b)

end Record

end GroupChat.Json
