import GroupChat.Json.Cursor

/-!
# Words and texts

The words of the format and the texts between quotation marks. Escapes in a text give one character
each, and a pair of escapes that are the halves of a surrogate pair gives one character too. Texts
can also be passed over, which looks at the form of their escapes only.

## Main definitions

- `Reader.word`: the rest of a word.
- `Reader.textTail`: a text behind its opening mark.
- `Reader.skipTextTail`: passes over a text.
-/

namespace GroupChat.Json

/-- The value of the hexadecimal digit `c`. -/
def hexValue? (c : Char) : Option Nat :=
  if '0' ≤ c ∧ c ≤ '9' then some (c.toNat - '0'.toNat)
  else if 'a' ≤ c ∧ c ≤ 'f' then some (c.toNat - 'a'.toNat + 10)
  else if 'A' ≤ c ∧ c ≤ 'F' then some (c.toNat - 'A'.toNat + 10)
  else none

/-- Whether `n` is the first half of a surrogate pair. -/
def isHighSurrogate (n : Nat) : Bool := 0xD800 ≤ n && n ≤ 0xDBFF

/-- Whether `n` is the second half of a surrogate pair. -/
def isLowSurrogate (n : Nat) : Bool := 0xDC00 ≤ n && n ≤ 0xDFFF

/-- The character of the surrogate pair `high` and `low`. -/
def joinSurrogates (high low : Nat) : Char :=
  Char.ofNat ((high - 0xD800) * 0x400 + (low - 0xDC00) + 0x10000)

namespace Reader

/-- Takes the characters of a word; the first other character is taken too and is the fault. -/
def word : List Char → Reader Unit
  | [] => pure ()
  | w :: ws => do
    match ← peek with
    | none => failHere .endInValue
    | some c =>
      if c = w then
        skip
        word ws
      else failNext .expectedWord

/-- Whether characters have `n` bytes at least. -/
def hasBytes : Nat → List Char → Bool
  | 0, _ => true
  | _ + 1, [] => false
  | n + 1, c :: cs => hasBytes (n + 1 - c.utf8Size) cs

/-- Takes the four hexadecimal digits of an escape, by `hexValue?`. -/
def hexQuad : Reader Nat := fun c =>
  if !hasBytes 4 c.rest then
    .error ⟨.form .endInText, .known (c.position.afterBytes 4 c.rest)⟩
  else
    match c.rest with
    | a :: b :: d :: e :: rest =>
      match hexValue? a, hexValue? b, hexValue? d, hexValue? e with
      | some a, some b, some d, some e =>
        .ok (((a * 16 + b) * 16 + d) * 16 + e, ⟨rest, ⟨c.position.line, c.position.column + 4⟩⟩)
      | _, _, _, _ => .error ⟨.form .invalidEscape, .known (c.position.afterBytes 4 c.rest)⟩
    | _ => .error ⟨.form .invalidEscape, .known (c.position.afterBytes 4 c.rest)⟩

/-- Takes the character `x` of the second half of a surrogate pair. -/
def pairSign (x : Char) : Reader Unit := do
  match ← peek with
  | none => failHere .endInText
  | some c => if c = x then skip else failNext .missingSurrogate

/-- Takes an escape behind its `u`. -/
def unicodeEscape : Reader Char := do
  let n ← hexQuad
  if isLowSurrogate n then
    failHere .loneSurrogate
  else if isHighSurrogate n then
    pairSign '\\'
    pairSign 'u'
    let m ← hexQuad
    if isLowSurrogate m then
      pure (joinSurrogates n m)
    else failHere .loneSurrogate
  else pure (Char.ofNat n)

/-- The character of an escape with the one letter `c`. -/
def shortEscape? (c : Char) : Option Char :=
  if c = '"' ∨ c = '\\' ∨ c = '/' then some c
  else if c = 'b' then some '\x08'
  else if c = 'f' then some '\x0c'
  else if c = 'n' then some '\n'
  else if c = 'r' then some '\r'
  else if c = 't' then some '\t'
  else none

/-- Takes an escape behind its backslash: `shortEscape?` or `hexQuad`. -/
def escaped : Reader Char := do
  match ← peek with
  | none => failHere .endInText
  | some c =>
    match shortEscape? c with
    | some x =>
      skip
      pure x
    | none =>
      if c = 'u' then
        skip
        unicodeEscape
      else failNext .invalidEscape

/-- Takes the characters up to the closing mark and the mark, each of them plain or `escaped`. -/
def textChars : Nat → Reader (List Char)
  | 0 => failHere .endInText
  | fuel + 1 => do
    match ← peek with
    | none => failHere .endInText
    | some c =>
      if c = '"' then
        skip
        pure []
      else if c = '\\' then
        skip
        let x ← escaped
        return x :: (← textChars fuel)
      else if c.toNat < 0x20 then
        failNext .controlCharacter
      else
        skip
        return c :: (← textChars fuel)

/-- Takes a text behind its opening mark, by `textChars`. -/
def textTail : Reader String := do
  return String.ofList (← textChars (← fuel))

/-- Takes a text with its marks, by `textTail`. -/
def quoted : Reader String := do
  skip
  textTail

/-- Passes over an escape behind its backslash, as `escaped` reads it. -/
def skipEscaped : Reader Unit := do
  match ← peek with
  | none => failHere .endInText
  | some c =>
    match shortEscape? c with
    | some _ => skip
    | none =>
      if c = 'u' then
        skip
        let _ ← hexQuad
      else failNext .invalidEscape

/-- Passes over the characters up to the closing mark and over the mark, as `textChars` reads them.
-/
def skipTextChars : Nat → Reader Unit
  | 0 => failHere .endInText
  | fuel + 1 => do
    match ← peek with
    | none => failHere .endInText
    | some c =>
      if c = '"' then
        skip
      else if c = '\\' then
        skip
        skipEscaped
        skipTextChars fuel
      else if c.toNat < 0x20 then
        failHere .controlCharacter
      else
        skip
        skipTextChars fuel

/-- Passes over a text, as `quoted` reads it. -/
def skipQuoted : Reader Unit := do
  skip
  skipTextChars (← fuel)

end Reader

end GroupChat.Json
