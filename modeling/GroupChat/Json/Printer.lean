import GroupChat.Decimal.Layout
import GroupChat.Json.Value

/-!
# Compact JSON text

The text of a value without blanks. A text is written between quotation marks; marks, backslashes
and control characters are escaped and all other characters stand for themselves.

## Main definitions

- `Json.escape`: how one character of a text is written.
- `Json.render`: the text of a value.
-/

namespace GroupChat.Json

/-- The `Layout` of numbers. They are written positionally from five places behind the point to
sixteen before it, and always with a point or an exponent. -/
def numberLayout : Layout := ⟨-5, 15, ".0", "e+", "e-"⟩

/-- The hexadecimal digit of `n` in small letters. -/
def hexDigit (n : Nat) : Char := Nat.digitChar n

/-- How the character `c` is written inside a text. -/
def escape (c : Char) : List Char :=
  if c = '"' then ['\\', '"']
  else if c = '\\' then ['\\', '\\']
  else if c = '\x08' then ['\\', 'b']
  else if c = '\x0c' then ['\\', 'f']
  else if c = '\n' then ['\\', 'n']
  else if c = '\r' then ['\\', 'r']
  else if c = '\t' then ['\\', 't']
  else if c.toNat < 0x20 then
    ['\\', 'u', '0', '0', hexDigit (c.toNat / 16), hexDigit (c.toNat % 16)]
  else [c]

/-- The text `s` between quotation marks. -/
def renderText (s : String) : List Char := '"' :: (s.toList.flatMap escape ++ ['"'])

/-- The whole number `n` in decimal digits. -/
def renderInt (n : Int) : List Char :=
  (if n < 0 then ['-'] else []) ++ Nat.toDigits 10 n.natAbs

/-- The floating-point number `x`. One that is not finite has no notation and is written as the
empty value. -/
def renderFloat (x : Float) : List Char :=
  if x.isFinite then numberLayout.render (FloatParts.ofBits x.toBits) else "null".toList

/-- The parts with a `,` between them. -/
def commaSeparated : List (List Char) → List Char
  | [] => []
  | [part] => part
  | part :: rest => part ++ ',' :: commaSeparated rest

mutual

/-- The characters of a `Json`. -/
def renderChars : Json → List Char
  | .null => "null".toList
  | .bool true => "true".toList
  | .bool false => "false".toList
  | .int n => renderInt n.val
  | .float x => renderFloat x
  | .text s => renderText s
  | .list items => '[' :: (commaSeparated (renderItems items) ++ [']'])
  | .object members => '\x7b' :: (commaSeparated (renderMembers members) ++ ['\x7d'])

/-- The characters of each item, by `renderChars`. -/
def renderItems : List Json → List (List Char)
  | [] => []
  | v :: rest => v.renderChars :: renderItems rest

/-- The characters of each member, by `renderText` and `renderChars`. -/
def renderMembers : List (String × Json) → List (List Char)
  | [] => []
  | (name, v) :: rest => (renderText name ++ ':' :: v.renderChars) :: renderMembers rest

end

/-- The text of the value `v`. -/
def render (v : Json) : String := String.ofList v.renderChars

end GroupChat.Json
