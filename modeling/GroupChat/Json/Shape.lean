import GroupChat.Json.Reader

/-!
# Shapes of values

A shape says how the values of a type look in JSON: how one is read from a text, how one is taken
from a value that is already at hand, and how one is written. Reading from a text is not the same as
reading a value first and taking it apart then: of two faults in a text the first one counts,
whichever kind it is.

## Main definitions

- `Decoder`: reading of a type.
- `Shape`: reading and writing of a type.
- `Shape.decode`, `Shape.ofValue`, `Shape.encode`: the three uses of a shape.
- `text`, `flag`, `whole`, `any`, `optional`, `list`, `choice`: the shapes without members.
-/

namespace GroupChat.Json

/-- Where a `Json` at hand comes from. -/
inductive Origin where
  /-- It was asked for as a value of any kind. -/
  | parsed
  /-- It was put aside while a text was read, until it was known what it should be. -/
  | buffered
  deriving DecidableEq, Repr

/-- How the values of a type are read, from a text or from a `Json`. -/
structure Decoder (α : Type) where
  /-- Reads a value from a text in which so many lists and objects may stand inside each other. -/
  read : Nat → Reader α
  /-- Takes a value from one at hand. -/
  ofJson : Origin → Json → Except ShapeFault α

/-- Reads the values of `d` and puts them into another type by `f`. -/
def Decoder.map {α β : Type} (f : α → β) (d : Decoder α) : Decoder β where
  read allowed := f <$> d.read allowed
  ofJson origin v := f <$> d.ofJson origin v

/-- How the values of a type look in JSON: a `Decoder`, and how they are written. -/
structure Shape (α : Type) extends Decoder α where
  /-- Writes a value. -/
  toJson : α → Json

namespace Shape

variable {α : Type}

/-- The value that the `text` stands for. -/
def decode (shape : Shape α) (text : String) : Except Fault α := (shape.read nestingLimit).run text

/-- The value that `v` stands for. -/
def ofValue (shape : Shape α) (v : Json) : Except Fault α :=
  (shape.ofJson .parsed v).mapError Fault.ofShape

/-- The text of the value `a`. -/
def encode (shape : Shape α) (a : α) : String := (shape.toJson a).render

/-- The `Shape` of texts. -/
def text : Shape String where
  read _ := do
    match ← Reader.peekPastSpace with
    | some '"' => Reader.quoted
    | _ => Reader.misplaced "a string"
  ofJson _
    | .text s => .ok s
    | v => .error (.invalidType (found v) "a string")
  toJson := .text

/-- The truth value that `v` is. -/
def flagOf : Json → Except ShapeFault Bool
  | .bool b => .ok b
  | v => .error (.invalidType (found v) "a boolean")

/-- The `Shape` of truth values. -/
def flag : Shape Bool where
  read _ := do
    match ← Reader.peekPastSpace with
    | some 't' => Reader.ofExceptHere (flagOf (← Reader.scalar 't'))
    | some 'f' => Reader.ofExceptHere (flagOf (← Reader.scalar 'f'))
    | _ => Reader.misplaced "a boolean"
  ofJson _ v := flagOf v
  toJson := .bool

/-- A kind of whole numbers, for `Shape.whole`. -/
structure Range (α : Type) where
  /-- The name of the kind. -/
  label : String
  /-- The number of the kind, if it is in the range. -/
  ofInt? : Int → Option α
  /-- The value of a number of the kind. -/
  toInt : α → JsonInt

/-- The number of the range that `v` is. -/
def Range.of (range : Range α) : Json → Except ShapeFault α
  | .int n =>
    match range.ofInt? n.val with
    | some a => .ok a
    | none => .error (.invalidValue (.int n.val) range.label)
  | v => .error (.invalidType (found v) range.label)

/-- The whole numbers of a `range`. -/
def whole (range : Range α) : Shape α where
  read _ := do
    match ← Reader.peekPastSpace with
    | some c =>
      if c = '-' ∨ c.isDigit then
        Reader.ofExceptHere (range.of (← Reader.numeral).toJson)
      else Reader.misplaced range.label
    | none => Reader.misplaced range.label
  ofJson _ v := range.of v
  toJson a := .int (range.toInt a)

/-- The `Range` of signed numbers of sixty-four bits. -/
def int64Range : Range Int64 where
  label := "i64"
  ofInt? n :=
    if -0x8000000000000000 ≤ n ∧ n < 0x8000000000000000 then some (Int64.ofInt n) else none
  toInt := JsonInt.ofInt64

/-- The `Range` of unsigned numbers of sixteen bits. -/
def uint16Range : Range UInt16 where
  label := "u16"
  ofInt? n := if 0 ≤ n ∧ n < 0x10000 then some (UInt16.ofNat n.toNat) else none
  toInt := JsonInt.ofUInt16

/-- The `Shape` of signed numbers of sixty-four bits. -/
def int64 : Shape Int64 := whole int64Range

/-- The `Shape` of unsigned numbers of sixteen bits. -/
def uint16 : Shape UInt16 := whole uint16Range

/-- The `Shape` of values of any kind, with sorted members (`Json.canonical`). -/
def any : Shape Json where
  read allowed := do
    return (← Reader.value allowed).canonical
  ofJson _ v := .ok v.canonical
  toJson v := v

/-- The values of the shape `inner`, or the empty value for `none`. -/
def optional (inner : Shape α) : Shape (Option α) where
  read allowed := do
    match ← Reader.peekPastSpace with
    | some 'n' =>
      Reader.skip
      Reader.word ['u', 'l', 'l']
      pure none
    | _ => return some (← inner.read allowed)
  ofJson origin
    | .null => .ok none
    | v => some <$> inner.ofJson origin v
  toJson
    | none => .null
    | some a => inner.toJson a

/-- The lists of values of the shape `inner`. -/
def list (inner : Shape α) : Shape (List α) where
  read allowed := do
    match ← Reader.peekPastSpace with
    | some '[' =>
      Reader.listOf allowed fun allowed => do
        Reader.items (inner.read allowed) (← Reader.fuel) true
    | _ => Reader.misplaced "a sequence"
  ofJson origin
    | .list vs => vs.mapM (inner.ofJson origin)
    | v => .error (.invalidType (found v) "a sequence")
  toJson xs := .list (xs.map inner.toJson)

/-- The value of the name `name` among `variants`. -/
def variantOf (variants : List (String × α)) (name : String) : Except ShapeFault α :=
  match variants.lookup name with
  | some a => .ok a
  | none => .error (.unknownVariant name (variants.map Prod.fst))

/-- Takes the name of one of the `variants`. -/
def readVariant (variants : List (String × α)) : Reader α := do
  match ← Reader.peekPastSpace with
  | some '"' => Reader.ofExceptHere (variantOf variants (← Reader.quoted))
  | _ => Reader.misplaced "variant identifier"

/-- Takes the empty value, `.null`. -/
def readUnit : Reader Unit := do
  match ← Reader.peekPastSpace with
  | some 'n' =>
    Reader.skip
    Reader.word ['u', 'l', 'l']
  | _ => Reader.misplaced "unit"

/-- Takes the only member of an object, behind the opening bracket: the name of one of the
`variants` with the empty value. -/
def readVariantMember (variants : List (String × α)) : Reader α := do
  match ← Reader.peekPastSpace with
  | none => Reader.failNext .endInObject
  | some '\x7d' => Reader.failNext .expectedValue
  | some '"' =>
    let a ← readVariant variants
    Reader.colon
    readUnit
    match ← Reader.peekPastSpace with
    | none => Reader.failHere .endInObject
    | some '\x7d' => Reader.skip
    | some _ => Reader.failHere .expectedValue
    pure a
  | some _ => Reader.failNext .nameNotText

/-- Takes the name of one of the `variants`, either alone or as the only member of an object whose
value is the empty one. -/
def readChoice (variants : List (String × α)) (allowed : Nat) : Reader α := do
  match ← Reader.peekPastSpace with
  | none => Reader.failNext .endInValue
  | some '"' => readVariant variants
  | some '\x7b' =>
    Reader.deeper allowed fun _ => do
      Reader.skip
      readVariantMember variants
  | some _ => Reader.failNext .expectedValue

/-- Whether `v` can stand beside the name of a variant. -/
def checkUnit : Json → Except ShapeFault Unit
  | .null | .object [] => .ok ()
  | v => .error (.invalidType (found v) "unit")

/-- Which of the `variants` a `Json` names. -/
def choiceOf (variants : List (String × α)) : Json → Except ShapeFault α
  | .text s => variantOf variants s
  | .object [(name, v)] => do
    let a ← variantOf variants name
    checkUnit v
    pure a
  | .object _ => .error (.invalidValue .object "map with a single key")
  | v => .error (.invalidType (found v) "string or map")

/-- The `Shape` of the values of an enumeration, by their names in `variants`. -/
def choice (variants : List (String × α)) (nameOf : α → String) : Shape α where
  read := readChoice variants
  ofJson _ v := choiceOf variants v
  toJson a := .text (nameOf a)

end Shape

end GroupChat.Json
