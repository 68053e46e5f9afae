import GroupChat.Text.CharSet

/-!
# Blank characters

The characters of the Unicode property `White_Space`, and the text that is left when blanks at
both ends are dropped.

## Main definitions

- `isBlank`: whether a character has the property.
- `trimChars`: what is left of a text without the blanks at its ends.
-/

namespace GroupChat.Text

/-- The characters of the property `White_Space`. -/
def blanks : CharSet :=
  ⟨[(0x9, 0xD), (0x20, 0x20), (0x85, 0x85), (0xA0, 0xA0), (0x1680, 0x1680), (0x2000, 0x200A),
    (0x2028, 0x2029), (0x202F, 0x202F), (0x205F, 0x205F), (0x3000, 0x3000)]⟩

/-- Whether `c` separates words. -/
def isBlank (c : Char) : Bool := blanks.contains c

/-- The characters of `cs` between the blanks at the two ends. -/
def trimChars (cs : List Char) : List Char :=
  ((cs.dropWhile isBlank).reverse.dropWhile isBlank).reverse

private theorem dropWhile_isBlank_eq_nil_iff {cs : List Char} :
    cs.dropWhile isBlank = [] ↔ ∀ c ∈ cs, isBlank c = true := by
  induction cs with
  | nil => simp
  | cons c cs ih =>
    rw [List.dropWhile_cons]
    split
    · rename_i h
      simp [ih, h]
    · rename_i h
      simp [h]

theorem trimChars_append_left {front cs : List Char} (h : ∀ c ∈ front, isBlank c = true) :
    trimChars (front ++ cs) = trimChars cs := by
  simp [trimChars, List.dropWhile_append, dropWhile_isBlank_eq_nil_iff.2 h]

/-- `trimChars` leaves nothing exactly of blanks. -/
theorem trimChars_eq_nil_iff {cs : List Char} :
    trimChars cs = [] ↔ ∀ c ∈ cs, isBlank c = true := by
  rw [trimChars, List.reverse_eq_nil_iff, dropWhile_isBlank_eq_nil_iff]
  constructor
  · intro h c hc
    rw [← List.takeWhile_append_dropWhile (p := isBlank) (l := cs)] at hc
    rcases List.mem_append.1 hc with hc | hc
    · exact List.all_eq_true.1 List.all_takeWhile c hc
    · exact h c (List.mem_reverse.2 hc)
  · intro h c hc
    exact h c ((List.dropWhile_suffix _).subset (List.mem_reverse.1 hc))

end GroupChat.Text
