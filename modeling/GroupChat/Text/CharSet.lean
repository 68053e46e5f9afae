/-!
# Sets of characters

A set of characters given by the code point ranges it is made of. The tables of character
properties in this folder are such sets.

## Main definitions

- `CharSet`: ascending closed ranges of code points.
- `CharSet.contains`: membership of a character.
-/

namespace GroupChat.Text

/-- A set of characters, as closed ranges of code points in ascending order. -/
structure CharSet where
  /-- First and last code point of each range. -/
  ranges : List (Nat × Nat)
  deriving Repr

namespace CharSet

/-- Whether `c` lies in one of the ranges. -/
def contains (set : CharSet) (c : Char) : Bool :=
  set.ranges.any fun (first, last) => first ≤ c.toNat && c.toNat ≤ last

theorem contains_iff (set : CharSet) (c : Char) :
    set.contains c = true ↔ ∃ r ∈ set.ranges, r.1 ≤ c.toNat ∧ c.toNat ≤ r.2 := by
  simp [contains]

end CharSet

end GroupChat.Text
