import GroupChat.Json.Enclosed

/-!
# Reading values

Reading of any value, and of a single word, number or text. Lists and objects may stand inside each
other up to a limit.

## Main definitions

- `nestingLimit`: how many lists and objects may stand inside each other.
- `Reader.scalar`: a value that is neither a list nor an object.
- `Reader.value`: any value.
- `Json.parse`: the value of a whole text.
-/

namespace GroupChat.Json

/-- How many lists and objects may stand inside each other in what `parse` reads. -/
def nestingLimit : Nat := 127

namespace Reader

/-- Takes a value that begins with `c` and is neither a list nor an object. -/
def scalar (c : Char) : Reader Json := do
  if c = 'n' then
    skip
    word ['u', 'l', 'l']
    pure .null
  else if c = 't' then
    skip
    word ['r', 'u', 'e']
    pure (.bool true)
  else if c = 'f' then
    skip
    word ['a', 'l', 's', 'e']
    pure (.bool false)
  else if c = '"' then
    return .text (← quoted)
  else if c = '-' ∨ c.isDigit then
    return (← numeral).toJson
  else failNext .expectedValue

/-- Takes the items of a list behind its opening bracket, with `inner`. -/
def listTail (inner : Reader Json) : Reader Json := do
  let vs ← items inner (← fuel) true
  endList
  pure (.list vs)

/-- Takes the colon and the value of the member `name`, and puts the member behind `ms`. -/
def member (inner : Reader Json) (ms : List (String × Json)) (name : String) :
    Reader (List (String × Json)) := do
  colon
  return ms ++ [(name, ← inner)]

/-- Takes the members of an object behind its opening bracket, their values with `inner`. -/
def objectTail (inner : Reader Json) : Reader Json := do
  let ms ← foldMembers (member inner) (← fuel) true []
  endObject
  pure (.object ms)

/-- Takes a value, where `inner` takes what stands inside a list or an object if there may be
one. -/
def valueAround (inner : Option (Reader Json)) : Reader Json := do
  match ← peekPastSpace with
  | none => failNext .endInValue
  | some c =>
    if c = '[' ∨ c = '\x7b' then
      match inner with
      | none => failNext .tooDeep
      | some inner =>
        skip
        if c = '[' then listTail inner else objectTail inner
    else scalar c

/-- Takes any value, with at most `allowed` lists and objects inside each other. -/
def value : Nat → Reader Json
  | 0 => valueAround none
  | allowed + 1 => valueAround (some (value allowed))

/-- Takes the value at which the reader stands, which is not what was `expected`. A list or an
object is not entered. -/
def misplaced {α : Type} (expected : String) : Reader α := do
  match ← peekPastSpace with
  | none => failNext .endInValue
  | some '[' => misfitHere (.invalidType .list expected)
  | some '\x7b' => misfitHere (.invalidType .object expected)
  | some c => misfitHere (.invalidType (found (← scalar c)) expected)

end Reader

/-- The `Json` of a whole `text`. -/
def parse (text : String) : Except Fault Json := (Reader.value nestingLimit).run text

end GroupChat.Json
