import GroupChat.Json.Word
import GroupChat.Json.Numeral

/-!
# Lists and objects

How the items of a list and the members of an object follow each other, whatever is read for each
of them. The items and members are counted by fuel, of which the characters ahead are enough.

## Main definitions

- `Reader.nextItem`: whether there is another item.
- `Reader.nextName`: the name of the next member.
- `Reader.items`: the items of a list.
- `Reader.foldMembers`: the members of an object, one after the other.
- `Reader.listOf`, `Reader.objectOf`: a list and an object with their brackets.
-/

namespace GroupChat.Json.Reader

variable {α σ : Type}

/-- Looks for another item; a comma stands between two items, but not in front of the `first` one.
-/
def nextItem (first : Bool) : Reader Bool := do
  match ← peekPastSpace with
  | none => failNext .endInList
  | some ']' => pure false
  | some c =>
    if first then
      pure true
    else if c = ',' then
      skip
      match ← peekPastSpace with
      | none => failNext .endInValue
      | some ']' => failNext .trailingComma
      | some _ => pure true
    else failNext .expectedItemEnd

/-- Takes the name at which the reader stands, before the character `c`. -/
def name (c : Option Char) : Reader String :=
  match c with
  | none => failNext .endInValue
  | some '"' => quoted
  | some '\x7d' => failNext .trailingComma
  | some _ => failNext .nameNotText

/-- Takes the name of the next member, if there is one; a comma stands between two members, but not
in front of the `first` one. -/
def nextName (first : Bool) : Reader (Option String) := do
  match ← peekPastSpace with
  | none => failNext .endInObject
  | some '\x7d' => pure none
  | some c =>
    if first then
      return some (← name (some c))
    else if c = ',' then
      skip
      return some (← name (← peekPastSpace))
    else failNext .expectedMemberEnd

/-- Takes the `:` behind a name. -/
def colon : Reader Unit := do
  match ← peekPastSpace with
  | none => failNext .endInObject
  | some ':' => skip
  | some _ => failNext .expectedColon

/-- Takes the items up to the closing bracket, each of them with `item`. -/
def items (item : Reader α) : Nat → Bool → Reader (List α)
  | 0, _ => failNext .endInList
  | fuel + 1, first => do
    if ← nextItem first then
      let a ← item
      return a :: (← items item fuel false)
    else pure []

/-- Takes the members up to the closing bracket, where `member` takes the colon and the value. -/
def foldMembers (member : σ → String → Reader σ) : Nat → Bool → σ → Reader σ
  | 0, _, _ => failNext .endInObject
  | fuel + 1, first, s => do
    match ← nextName first with
    | some name => foldMembers member fuel false (← member s name)
    | none => pure s

/-- Takes the closing bracket of a list, `]`. -/
def endList : Reader Unit := do
  match ← peekPastSpace with
  | some ']' => skip
  | some ',' =>
    skip
    match ← peekPastSpace with
    | some ']' => failNext .trailingComma
    | _ => failNext .trailingCharacters
  | some _ => failNext .trailingCharacters
  | none => failNext .endInList

/-- Takes the closing bracket of an object. -/
def endObject : Reader Unit := do
  match ← peekPastSpace with
  | some '\x7d' => skip
  | some ',' => failNext .trailingComma
  | some _ => failNext .trailingCharacters
  | none => failNext .endInObject

/-- Takes a list whose items `body` takes. -/
def listOf (allowed : Nat) (body : Nat → Reader α) : Reader α :=
  deeper allowed fun allowed => do
    skip
    let a ← placed ']' (body allowed)
    endList
    pure a

/-- Takes an object whose members `body` takes. -/
def objectOf (allowed : Nat) (body : Nat → Reader α) : Reader α :=
  deeper allowed fun allowed => do
    skip
    let a ← placed '\x7d' (body allowed)
    endObject
    pure a

end GroupChat.Json.Reader
