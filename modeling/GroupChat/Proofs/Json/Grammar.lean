import Mathlib.Data.List.Forall2
import GroupChat.Proofs.Json.Takes

/-!
# The texts of values

Which texts stand for a value, whoever wrote them: blanks may stand between all parts, a character
of a text may be escaped in several ways, and a number is in the notation of the format. A number
stands for what it is read as, so one that is too large stands for nothing.

## Main definitions

- `Spells`: the characters of a text, as they may stand between quotation marks.
- `IsNumber`: the notation of numbers.
- `Writes`: the texts of a value, without blanks around them.
- `IsText`: the texts of a value, with blanks around them.
- `IsScalar`: values that are neither lists nor objects.
- `Within`: how deep lists and objects stand inside each other.
- `Parted`: what may follow a value.

## Main statements

- `Writes.starts`: how the text of a value begins.
- `parted_append`: what follows a value in a list or an object.
-/

namespace GroupChat.Json

/-! ### Texts -/

/-- Four hexadecimal digits and their number, digit by digit with `hexValue?`. -/
inductive HexQuad : List Char → Nat → Prop where
  /-- The digits in order. -/
  | mk {a b c d : Char} {w x y z : Nat} (first : hexValue? a = some w)
      (second : hexValue? b = some x) (third : hexValue? c = some y)
      (fourth : hexValue? d = some z) : HexQuad [a, b, c, d] (((w * 16 + x) * 16 + y) * 16 + z)

/-- The characters of a text, and what may stand for them between quotation marks: each one itself,
a letter behind a backslash, or a `HexQuad` or two. -/
inductive Spells : List Char → List Char → Prop where
  /-- Nothing stands for nothing. -/
  | nil : Spells [] []
  /-- A character stands for itself. -/
  | plain {c : Char} {s cs : List Char} (quote : c ≠ '"') (backslash : c ≠ '\\')
      (printable : ¬ c.toNat < 0x20) (rest : Spells s cs) : Spells (c :: s) (c :: cs)
  /-- A letter behind a backslash. -/
  | short {c e : Char} {s cs : List Char} (short : Reader.shortEscape? e = some c)
      (rest : Spells s cs) : Spells (c :: s) ('\\' :: e :: cs)
  /-- The number of a character. -/
  | code {n : Nat} {quad s cs : List Char} (code : HexQuad quad n)
      (high : isHighSurrogate n = false) (low : isLowSurrogate n = false) (rest : Spells s cs) :
      Spells (Char.ofNat n :: s) ('\\' :: 'u' :: (quad ++ cs))
  /-- The two halves of a surrogate pair. -/
  | pair {n m : Nat} {quad quad' s cs : List Char} (first : HexQuad quad n)
      (high : isHighSurrogate n = true) (second : HexQuad quad' m) (low : isLowSurrogate m = true)
      (rest : Spells s cs) :
      Spells (joinSurrogates n m :: s) ('\\' :: 'u' :: (quad ++ '\\' :: 'u' :: (quad' ++ cs)))

/-! ### Numbers -/

/-- `cs` are decimal digits, at least one. -/
structure IsDigits (cs : List Char) : Prop where
  /-- There is one. -/
  ne_nil : cs ≠ []
  /-- All are digits. -/
  digits : ∀ c ∈ cs, c.isDigit = true

/-- The whole part of a number, which starts with `0` only if it is zero. -/
inductive IsWhole : List Char → Prop where
  /-- Zero. -/
  | zero : IsWhole ['0']
  /-- Another number. -/
  | digits {c : Char} {cs : List Char} (nonzero : c ≠ '0') (digits : IsDigits (c :: cs)) :
      IsWhole (c :: cs)

/-- What stands behind the whole part: nothing, or digits behind a `.`. -/
inductive IsFraction : List Char → Prop where
  /-- Nothing. -/
  | none : IsFraction []
  /-- A point and digits. -/
  | point {cs : List Char} (digits : IsDigits cs) : IsFraction ('.' :: cs)

/-- The sign of an exponent: nothing, `+` or `-`. -/
inductive IsSign : List Char → Prop where
  /-- No sign. -/
  | none : IsSign []
  /-- Plus. -/
  | plus : IsSign ['+']
  /-- Minus. -/
  | minus : IsSign ['-']

/-- What stands at the end of a number: nothing, or an exponent behind `e` or `E`. -/
inductive IsExponent : List Char → Prop where
  /-- Nothing. -/
  | none : IsExponent []
  /-- An exponent. -/
  | letter {e : Char} {s ds : List Char} (letter : e = 'e' ∨ e = 'E') (sign : IsSign s)
      (digits : IsDigits ds) : IsExponent (e :: (s ++ ds))

/-- A number without its sign: `IsWhole`, `IsFraction` and `IsExponent` after each other. -/
inductive IsMagnitude : List Char → Prop where
  /-- The parts in order. -/
  | mk {w f e : List Char} (whole : IsWhole w) (fraction : IsFraction f)
      (exponent : IsExponent e) : IsMagnitude (w ++ (f ++ e))

/-- The notation of numbers: `IsMagnitude`, with or without `-` in front. -/
inductive IsNumber : List Char → Prop where
  /-- A number without a sign. -/
  | plain {cs : List Char} (magnitude : IsMagnitude cs) : IsNumber cs
  /-- A number with a minus sign. -/
  | minus {cs : List Char} (magnitude : IsMagnitude cs) : IsNumber ('-' :: cs)

/-! ### Lists and objects -/

/-- Further parts, with a `,` in front of each of them. -/
inductive Further : List (List Char) → List Char → Prop where
  /-- No part, and blanks. -/
  | nil {blanks : List Char} (blank : Blank blanks) : Further [] blanks
  /-- Another part. -/
  | cons {part cs b b' : List Char} {parts : List (List Char)} (before : Blank b)
      (behind : Blank b') (more : Further parts cs) :
      Further (part :: parts) (b ++ ',' :: (b' ++ (part ++ cs)))

/-- Parts with a `,` between them. -/
inductive Separated : List (List Char) → List Char → Prop where
  /-- No part, and blanks. -/
  | nil {blanks : List Char} (blank : Blank blanks) : Separated [] blanks
  /-- A part, and others behind it. -/
  | cons {part cs b : List Char} {parts : List (List Char)} (before : Blank b)
      (more : Further parts cs) : Separated (part :: parts) (b ++ (part ++ cs))

mutual

/-- The texts of a value, with blanks wherever the format allows them. -/
inductive Writes : Json → List Char → Prop where
  /-- The empty value. -/
  | null : Writes .null ['n', 'u', 'l', 'l']
  /-- The truth. -/
  | true : Writes (.bool true) ['t', 'r', 'u', 'e']
  /-- The falsehood. -/
  | false : Writes (.bool false) ['f', 'a', 'l', 's', 'e']
  /-- A whole number. -/
  | int {n : JsonInt} {cs : List Char} (form : IsNumber cs)
      (read : Reader.numeral.run (String.ofList cs) = .ok (.int n)) : Writes (.int n) cs
  /-- A floating-point number. -/
  | float {x : Float} {cs : List Char} (form : IsNumber cs)
      (read : Reader.numeral.run (String.ofList cs) = .ok (.float x)) : Writes (.float x) cs
  /-- A text. -/
  | text {s : String} {cs : List Char} (spells : Spells s.toList cs) :
      Writes (.text s) ('"' :: (cs ++ ['"']))
  /-- A list. -/
  | list {vs : List Json} {parts : List (List Char)} {cs : List Char}
      (items : List.Forall₂ Writes vs parts) (separated : Separated parts cs) :
      Writes (.list vs) ('[' :: (cs ++ [']']))
  /-- An object. -/
  | object {ms : List (String × Json)} {parts : List (List Char)} {cs : List Char}
      (members : List.Forall₂ WritesMember ms parts) (separated : Separated parts cs) :
      Writes (.object ms) ('\x7b' :: (cs ++ ['\x7d']))

/-- The texts of a member: its name, a `:`, and a text of its value (`Writes`). -/
inductive WritesMember : String × Json → List Char → Prop where
  /-- The name, a colon and the value. -/
  | mk {s : String} {v : Json} {name cs b b' : List Char} (spells : Spells s.toList name)
      (before : Blank b) (behind : Blank b') (value : Writes v cs) :
      WritesMember (s, v) ('"' :: (name ++ '"' :: (b ++ ':' :: (b' ++ cs))))

end

/-- The texts of the value `v`: what `Writes` it, with blanks around it. -/
inductive IsText (v : Json) : String → Prop where
  /-- With blanks around it. -/
  | mk {b b' cs : List Char} (before : Blank b) (behind : Blank b') (value : Writes v cs) :
      IsText v (String.ofList (b ++ (cs ++ b')))

/-- At most so many lists and objects stand inside each other, as in `[[]]`. -/
def Within : Nat → Json → Prop
  | 0, .list _ | 0, .object _ => False
  | n + 1, .list vs => ∀ v ∈ vs, Within n v
  | n + 1, .object ms => ∀ m ∈ ms, Within n m.2
  | _, _ => True

/-- A value is neither a `.list` nor an `.object`. -/
def IsScalar : Json → Prop
  | .list _ | .object _ => False
  | .null | .bool _ | .int _ | .float _ | .text _ => True

/-! ### What may follow -/

/-- The character `c` is no part of a number. -/
structure PartedChar (c : Char) : Prop where
  /-- It is no digit. -/
  digit : c.isDigit = false
  /-- It is no point. -/
  point : c ≠ '.'
  /-- It begins no exponent. -/
  exponent : c ≠ 'e' ∧ c ≠ 'E'

/-- The characters of `rest` do not go on with a number (`PartedChar`). -/
def Parted (rest : List Char) : Prop := ∀ c ∈ rest.head?, PartedChar c

theorem parted_nil : Parted [] := nofun

theorem parted_cons {c : Char} (h : PartedChar c) (rest : List Char) : Parted (c :: rest) := by
  intro d hd
  cases hd
  exact h

theorem PartedChar.of_isSpace {c : Char} (h : isSpace c = true) : PartedChar c := by
  unfold isSpace at h
  simp only [Bool.or_eq_true, beq_iff_eq] at h
  obtain ((rfl | rfl) | rfl) | rfl := h <;> exact ⟨by decide, by decide, by decide⟩

/-- `Parted` holds of blanks before a text of which it holds. -/
theorem parted_append {blanks rest : List Char} (hblanks : Blank blanks) (hrest : Parted rest) :
    Parted (blanks ++ rest) := by
  cases blanks with
  | nil => exact hrest
  | cons c blanks => exact parted_cons (.of_isSpace (hblanks c List.mem_cons_self)) _

/-- A value may end (`Parted`) where only blanks follow. -/
theorem Blank.parted {blanks : List Char} (h : Blank blanks) : Parted blanks := by
  have hparted : Parted (blanks ++ []) := parted_append h parted_nil
  rwa [List.append_nil] at hparted

/-- A value may end (`Parted`) where `Further` parts follow, as a comma comes first. -/
theorem Further.parted {parts : List (List Char)} {more rest : List Char} (h : Further parts more)
    (hrest : Parted rest) : Parted (more ++ rest) := by
  cases h with
  | nil blank => exact parted_append blank hrest
  | cons before behind more =>
    rw [List.append_assoc]
    exact parted_append before (parted_cons ⟨by decide, by decide, by decide⟩ _)

/-! ### How a value begins -/

/-- Something begins with a character that is neither blank (`isSpace`) nor a closing bracket. -/
inductive Starts : List Char → Prop where
  /-- With a character. -/
  | cons {c : Char} {cs : List Char} (blank : isSpace c = false) (list : c ≠ ']')
      (object : c ≠ '\x7d') : Starts (c :: cs)

theorem Starts.of_isDigit {c : Char} (h : c.isDigit = true) (cs : List Char) :
    Starts (c :: cs) := by
  have hspace : isSpace c = false := by
    cases hc : isSpace c with
    | false => rfl
    | true => cases h.symm.trans (PartedChar.of_isSpace hc).digit
  refine .cons hspace ?_ ?_
  · rintro rfl
    cases h
  · rintro rfl
    cases h

theorem IsMagnitude.starts {cs : List Char} (h : IsMagnitude cs) :
    ∃ c rest, cs = c :: rest ∧ c.isDigit = true := by
  cases h with
  | mk whole fraction exponent =>
    cases whole with
    | zero => exact ⟨_, _, rfl, rfl⟩
    | @digits c cs nonzero digits => exact ⟨c, _, rfl, digits.digits c List.mem_cons_self⟩

/-- `IsNumber` begins with a minus or with a digit. -/
theorem IsNumber.starts {cs : List Char} (h : IsNumber cs) :
    ∃ c rest, cs = c :: rest ∧ (c = '-' ∨ c.isDigit = true) := by
  cases h with
  | plain magnitude =>
    obtain ⟨c, rest, rfl, hc⟩ := magnitude.starts
    exact ⟨c, rest, rfl, Or.inr hc⟩
  | minus magnitude => exact ⟨'-', _, rfl, Or.inl rfl⟩

/-- A text that `Writes` a value begins neither with a blank nor with a closing bracket. -/
theorem Writes.starts {v : Json} {cs : List Char} (h : Writes v cs) : Starts cs := by
  have hnumber : ∀ {cs}, IsNumber cs → Starts cs := by
    intro cs form
    obtain ⟨c, rest, rfl, rfl | hc⟩ := form.starts
    · exact .cons rfl (by decide) (by decide)
    · exact .of_isDigit hc rest
  cases h with
  | null | true | false | text | list | object => exact .cons rfl (by decide) (by decide)
  | int form => exact hnumber form
  | float form => exact hnumber form

theorem WritesMember.starts {m : String × Json} {cs : List Char} (h : WritesMember m cs) :
    Starts cs := by
  cases h with
  | mk spells before behind value => exact .cons rfl (by decide) (by decide)

/-- `Further` parts are not more than the characters, so the length of a text is enough fuel for
them. -/
theorem Further.length_le {parts : List (List Char)} {cs : List Char} (h : Further parts cs) :
    parts.length ≤ cs.length := by
  induction h with
  | nil => exact Nat.zero_le _
  | cons _ _ _ ih =>
    simp only [List.length_cons, List.length_append]
    omega

/-- `Separated` parts are not more than the characters. -/
theorem Separated.length_le {parts : List (List Char)} {cs : List Char} (h : Separated parts cs)
    (hstarts : ∀ part ∈ parts, Starts part) : parts.length ≤ cs.length := by
  cases h with
  | nil => exact Nat.zero_le _
  | cons before more =>
    cases hstarts _ List.mem_cons_self with
    | cons =>
      have hmore := more.length_le
      simp only [List.length_cons, List.length_append]
      omega

end GroupChat.Json
