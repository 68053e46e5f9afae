import GroupChat.Text.Blank
import Mathlib.Data.List.TakeWhile

/-!
# What is left between blanks

A text that is trimmed neither begins nor ends with a blank, and stands between blanks in the text
that it was.

## Main definitions

- `Bare`: a text that neither begins nor ends with a blank.

## Main statements

- `trimChars_eq_iff`: what is left of a text is the bare text that stands in it between blanks.
- `trimChars_between`: blanks around a text do not change what is left of it.
-/

namespace GroupChat.Text

variable {cs front back : List Char}

/-- The text `cs` neither begins nor ends with a blank (`isBlank`). -/
def Bare (cs : List Char) : Prop :=
  ∀ c, cs.head? = some c ∨ cs.getLast? = some c → isBlank c = false

theorem dropWhile_isBlank_of_head? (h : ∀ c, cs.head? = some c → isBlank c = false) :
    cs.dropWhile isBlank = cs := by
  cases cs with
  | nil => rfl
  | cons c cs => rw [List.dropWhile_cons, if_neg (by simp [h c rfl])]

theorem isBlank_of_head?_dropWhile {c : Char} (h : (cs.dropWhile isBlank).head? = some c) :
    isBlank c = false := by
  have hhead := List.head?_dropWhile_not isBlank cs
  rwa [h] at hhead

/-- Blanks at the end make no difference to `trimChars`. -/
theorem trimChars_append_right (h : ∀ c ∈ back, isBlank c = true) :
    trimChars (cs ++ back) = trimChars cs := by
  have hback : ∀ c ∈ back.reverse, isBlank c = true := fun c hc => h c (List.mem_reverse.1 hc)
  rw [trimChars, trimChars, List.dropWhile_append]
  split_ifs with hempty
  · rw [List.dropWhile_eq_nil_iff.2 h, List.isEmpty_iff.1 hempty]
  · rw [List.reverse_append, List.dropWhile_append_of_pos hback]

/-- Blanks around a text make no difference to `trimChars`. -/
theorem trimChars_between (hfront : ∀ c ∈ front, isBlank c = true)
    (hback : ∀ c ∈ back, isBlank c = true) : trimChars (front ++ cs ++ back) = trimChars cs := by
  rw [trimChars_append_right hback, trimChars_append_left hfront]

/-- `trimChars` leaves a text as it is that neither begins nor ends with a blank. -/
theorem trimChars_of_bare (h : Bare cs) : trimChars cs = cs := by
  have hlast : cs.reverse.dropWhile isBlank = cs.reverse := by
    refine dropWhile_isBlank_of_head? fun c hc => h c (Or.inr ?_)
    rwa [List.head?_reverse] at hc
  rw [trimChars, dropWhile_isBlank_of_head? fun c hc => h c (Or.inl hc), hlast,
    List.reverse_reverse]

/-- `trimChars` drops blanks only. -/
theorem exists_eq_append_trimChars (cs : List Char) :
    ∃ front back, (∀ c ∈ front, isBlank c = true) ∧ (∀ c ∈ back, isBlank c = true) ∧
      cs.dropWhile isBlank = trimChars cs ++ back ∧ cs = front ++ trimChars cs ++ back := by
  have hblank : ∀ (ds : List Char), ∀ c ∈ ds.takeWhile isBlank, isBlank c = true :=
    fun ds => List.all_eq_true.1 List.all_takeWhile
  -- what is dropped at the end, with the last blank first
  have hrest : cs.dropWhile isBlank =
      trimChars cs ++ ((cs.dropWhile isBlank).reverse.takeWhile isBlank).reverse := by
    rw [trimChars, ← List.reverse_append, List.takeWhile_append_dropWhile, List.reverse_reverse]
  refine ⟨cs.takeWhile isBlank, _, hblank cs, ?_, hrest, ?_⟩
  · exact fun c hc => hblank _ c (List.mem_reverse.1 hc)
  · rw [List.append_assoc, ← hrest, List.takeWhile_append_dropWhile]

/-- `trimChars` leaves no blank at the ends. -/
theorem bare_trimChars (cs : List Char) : Bare (trimChars cs) := by
  rintro c (hc | hc)
  · obtain ⟨front, back, -, -, hrest, -⟩ := exists_eq_append_trimChars cs
    have hhead : (cs.dropWhile isBlank).head? = some c := by
      rw [hrest, List.head?_append, hc]
      rfl
    exact isBlank_of_head?_dropWhile hhead
  · rw [trimChars, List.getLast?_reverse] at hc
    exact isBlank_of_head?_dropWhile hc

/-- `trimChars` leaves the `Bare` text that stands between blanks. -/
theorem trimChars_eq_iff {cs token : List Char} :
    trimChars cs = token ↔ Bare token ∧ ∃ front back,
      (∀ c ∈ front, isBlank c = true) ∧ (∀ c ∈ back, isBlank c = true) ∧
        cs = front ++ token ++ back := by
  constructor
  · rintro rfl
    obtain ⟨front, back, hfront, hback, -, heq⟩ := exists_eq_append_trimChars cs
    exact ⟨bare_trimChars cs, front, back, hfront, hback, heq⟩
  · rintro ⟨hbare, front, back, hfront, hback, rfl⟩
    rw [trimChars_between hfront hback, trimChars_of_bare hbare]

end GroupChat.Text
