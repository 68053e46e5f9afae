import GroupChat.Json.Enclosed

/-!
# Passing over values

A value that nobody asked for is passed over. Its form is looked at, but numbers of any size,
halves of surrogate pairs and any depth are let pass.

## Main definitions

- `Reader.skipScalar`: passes over a value that is neither a list nor an object.
- `Reader.skipValue`: passes over any value.
-/

namespace GroupChat.Json.Reader

/-- Passes over a value that begins with `c` and is neither a list nor an object. -/
def skipScalar (c : Char) : Reader Unit := do
  if c = 'n' then
    skip
    word ['u', 'l', 'l']
  else if c = 't' then
    skip
    word ['r', 'u', 'e']
  else if c = 'f' then
    skip
    word ['a', 'l', 's', 'e']
  else if c = '"' then
    skipQuoted
  else if c = '-' ∨ c.isDigit then
    skipNumeral
  else failNext .expectedValue

mutual

/-- Passes over a value; `fuel` bounds the values and brackets in it, of which each character makes
two at most. -/
def skipValueFrom : Nat → Reader Unit
  | 0 => failNext .endInValue
  | fuel + 1 => do
    match ← peekPastSpace with
    | none => failNext .endInValue
    | some '[' =>
      skip
      match ← peekPastSpace with
      | none => failNext .endInList
      | some ']' => skip
      | some _ => skipItems fuel
    | some '\x7b' =>
      skip
      match ← peekPastSpace with
      | none => failNext .endInObject
      | some '\x7d' => skip
      | some _ => skipMembers fuel
    | some c => skipScalar c

/-- Passes over an item and what follows it, up to the closing bracket, as `items` reads them. -/
def skipItems : Nat → Reader Unit
  | 0 => failNext .endInList
  | fuel + 1 => do
    skipValueFrom fuel
    match ← peekPastSpace with
    | none => failNext .endInList
    | some ',' =>
      skip
      skipItems fuel
    | some ']' => skip
    | some _ => failNext .expectedItemEnd

/-- Passes over a member and what follows it, up to the closing bracket, as `foldMembers` reads
them. -/
def skipMembers : Nat → Reader Unit
  | 0 => failNext .endInObject
  | fuel + 1 => do
    match ← peekPastSpace with
    | none => failNext .endInObject
    | some '"' =>
      skipQuoted
      colon
      skipValueFrom fuel
      match ← peekPastSpace with
      | none => failNext .endInObject
      | some ',' =>
        skip
        skipMembers fuel
      | some '\x7d' => skip
      | some _ => failNext .expectedMemberEnd
    | some _ => failNext .nameNotText

end

/-- Passes over a value, as `value` reads it. -/
def skipValue : Reader Unit := do
  skipValueFrom (2 * (← fuel))

end GroupChat.Json.Reader
