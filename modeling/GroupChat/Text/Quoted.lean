import GroupChat.Text.Printable

/-!
# Quoted texts

The form in which an error message shows a text it found: between quotation marks, with backslash
escapes for the marks themselves, for line breaks and for characters that cannot be seen.

## Main definitions

- `quoteChar`: how one character is shown.
- `quote`: a text between quotation marks.
-/

namespace GroupChat.Text

/-- The digits of `n` to the base sixteen, in small letters. -/
def hexDigits (n : Nat) : List Char := Nat.toDigits 16 n

/-- How the character `c` is shown between quotation marks. -/
def quoteChar (c : Char) : List Char :=
  if c = '"' ∨ c = '\\' then ['\\', c]
  else if c = '\t' then ['\\', 't']
  else if c = '\n' then ['\\', 'n']
  else if c = '\r' then ['\\', 'r']
  else if c = '\x00' then ['\\', '0']
  else if unprintable.contains c then
    ['\\', 'u', '\x7b'] ++ hexDigits c.toNat ++ ['\x7d']
  else [c]

/-- The text `s` between quotation marks. -/
def quote (s : String) : String :=
  String.ofList ('"' :: (s.toList.flatMap quoteChar ++ ['"']))

end GroupChat.Text
