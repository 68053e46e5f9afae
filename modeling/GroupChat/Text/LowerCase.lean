import GroupChat.Text.Casing

/-!
# Texts in small letters

A text written in small letters, by the full mapping of Unicode: a capital with a dot above keeps
its dot as a mark of its own, and a sigma at the end of a word takes its final form.

## Main definitions

- `lowerChar`: the small letters of one character, whatever stands beside it.
- `endsWord`: whether a sigma between two texts is the last letter of a word.
- `lowerCase`: a text in small letters.
-/

namespace GroupChat.Text

/-- The small letters of the character `c`, without regard to its neighbours. -/
def lowerChar (c : Char) : List Char :=
  if c.toNat < 0x80 then [c.toLower]
  else if c = 'İ' then ['i', '\u0307']
  else [(smallLetters.findSome? (·.lower? c)).getD c]

/-- Whether the nearest letter or sign of `cs` that counts is a letter with a case. -/
def casedFirst (cs : List Char) : Bool :=
  match cs.dropWhile caseIgnorable.contains with
  | [] => false
  | c :: _ => cased.contains c

/-- Whether a sigma after the letters `before` (nearest first) and ahead of `after` is the last
letter of a word. -/
def endsWord (before after : List Char) : Bool :=
  casedFirst before && !casedFirst after

/-- The characters `cs` in small letters, where `before` are the characters ahead of them, nearest
first. -/
def lowerChars (before : List Char) : List Char → List Char
  | [] => []
  | c :: cs =>
    if c = 'Σ' then
      (if endsWord before cs then 'ς' else 'σ') :: lowerChars (c :: before) cs
    else
      lowerChar c ++ lowerChars (c :: before) cs

/-- The text `s` in small letters. -/
def lowerCase (s : String) : String := String.ofList (lowerChars [] s.toList)

end GroupChat.Text
