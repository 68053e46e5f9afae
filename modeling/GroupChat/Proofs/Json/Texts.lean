import GroupChat.Proofs.Json.Grammar

/-!
# Reading of texts

However the characters of a text are written between quotation marks, they are read as that text,
and passed over up to the closing mark. The printer writes them in one of these ways.

## Main statements

- `takes_quoted`, `takes_skipQuoted`: a text is read, or passed over.
- `spells_escape`: the printer writes the characters of a text.
-/

namespace GroupChat.Json

open Reader

variable {s cs quad rest ws : List Char} {n fuel : Nat}

/-! ### Words and escapes -/

/-- `word` takes the letters of its word. -/
theorem takes_word (ws rest : List Char) : Takes (word ws) (ws ++ rest) () rest := by
  induction ws with
  | nil => exact takes_pure () rest
  | cons w ws ih =>
    refine (takes_peek _).bind ?_
    dsimp only [List.cons_append, List.head?_cons]
    rw [if_pos rfl]
    exact (takes_skip w _).bind ih

/-- `hasBytes` finds as many bytes as there are characters at least. -/
theorem hasBytes_of_le (h : n ≤ cs.length) : hasBytes n cs = true := by
  induction cs generalizing n with
  | nil =>
    cases Nat.le_zero.1 h
    rfl
  | cons c cs ih =>
    cases n with
    | zero => rfl
    | succ n =>
      have hsize : 0 < c.utf8Size := c.utf8Size_pos
      rw [List.length_cons] at h
      exact ih (by omega)

/-- `hexQuad` takes four hexadecimal digits. -/
theorem takes_hexQuad (h : HexQuad quad n) (rest : List Char) :
    Takes hexQuad (quad ++ rest) n rest := by
  cases h with
  | mk first second third fourth =>
    intro p
    refine ⟨⟨p.line, p.column + 4⟩, ?_⟩
    simp only [hexQuad]
    rw [hasBytes_of_le (by simp)]
    simp only [List.cons_append, List.nil_append, first, second, third, fourth]
    rfl

theorem takes_pairSign (x : Char) (rest : List Char) : Takes (pairSign x) (x :: rest) () rest := by
  refine (takes_peek _).bind ?_
  dsimp only [List.head?_cons]
  rw [if_pos rfl]
  exact takes_skip x rest

theorem takes_unicodeEscape (h : HexQuad quad n) (high : isHighSurrogate n = false)
    (low : isLowSurrogate n = false) (rest : List Char) :
    Takes unicodeEscape (quad ++ rest) (Char.ofNat n) rest := by
  refine (takes_hexQuad h rest).bind ?_
  rw [if_neg (Bool.not_eq_true _ ▸ low), if_neg (Bool.not_eq_true _ ▸ high)]
  exact takes_pure _ rest

/-- `unicodeEscape` takes two surrogates for one character. -/
theorem takes_unicodeEscape_pair {m : Nat} {quad' : List Char} (first : HexQuad quad n)
    (high : isHighSurrogate n = true) (second : HexQuad quad' m) (low : isLowSurrogate m = true)
    (rest : List Char) : Takes unicodeEscape (quad ++ '\\' :: 'u' :: (quad' ++ rest))
      (joinSurrogates n m) rest := by
  have hlow : isLowSurrogate n = false := by
    simp only [isHighSurrogate, isLowSurrogate, Bool.and_eq_true, Bool.and_eq_false_iff,
      decide_eq_true_eq, decide_eq_false_iff_not] at high ⊢
    omega
  refine (takes_hexQuad first _).bind ?_
  rw [if_neg (Bool.not_eq_true _ ▸ hlow), if_pos high]
  refine (takes_pairSign '\\' _).bind ((takes_pairSign 'u' _).bind ?_)
  refine (takes_hexQuad second rest).bind ?_
  rw [if_pos low]
  exact takes_pure _ rest

/-! ### Texts -/

theorem Spells.length_le (h : Spells s cs) : s.length ≤ cs.length := by
  induction h with
  | nil => exact Nat.le_refl 0
  | plain _ _ _ _ ih => simpa using ih
  | short _ _ ih =>
    simp only [List.length_cons]
    omega
  | code _ _ _ _ ih | pair _ _ _ _ _ ih =>
    simp only [List.length_cons, List.length_append]
    omega

/-- `textChars` takes what `Spells` a text, up to the closing mark; by induction on the spelling,
with fuel for each character. -/
theorem takes_textChars (h : Spells s cs) (hfuel : s.length < fuel) (rest : List Char) :
    Takes (textChars fuel) (cs ++ '"' :: rest) s rest := by
  induction h generalizing fuel with
  | nil =>
    obtain ⟨fuel, rfl⟩ : ∃ k, fuel = k + 1 := ⟨fuel - 1, by omega⟩
    exact (takes_peek _).bind ((takes_skip '"' rest).bind (takes_pure [] rest))
  | @plain c s cs quote backslash printable _ ih =>
    obtain ⟨fuel, rfl⟩ : ∃ k, fuel = k + 1 := ⟨fuel - 1, by omega⟩
    refine (takes_peek _).bind ?_
    dsimp only [List.cons_append, List.head?_cons]
    -- a character that stands for itself
    rw [if_neg quote, if_neg backslash, if_neg printable]
    refine (takes_skip c _).bind ((ih ?_).bind (takes_pure _ rest))
    exact Nat.lt_of_succ_lt_succ hfuel
  | @short c e s cs short _ ih =>
    obtain ⟨fuel, rfl⟩ : ∃ k, fuel = k + 1 := ⟨fuel - 1, by omega⟩
    -- a backslash and one letter
    have hescaped : Takes escaped (e :: (cs ++ '"' :: rest)) c (cs ++ '"' :: rest) := by
      refine (takes_peek _).bind ?_
      dsimp only [List.head?_cons]
      rw [short]
      exact (takes_skip e _).bind (takes_pure c _)
    refine (takes_peek _).bind ((takes_skip '\\' _).bind (hescaped.bind ((ih ?_).bind ?_)))
    · exact Nat.lt_of_succ_lt_succ hfuel
    · exact takes_pure _ rest
  | @code n quad s cs code high low _ ih =>
    obtain ⟨fuel, rfl⟩ : ∃ k, fuel = k + 1 := ⟨fuel - 1, by omega⟩
    -- a backslash and the number of a character
    have hescaped : Takes escaped ('u' :: (quad ++ (cs ++ '"' :: rest))) (Char.ofNat n)
        (cs ++ '"' :: rest) :=
      (takes_peek _).bind ((takes_skip 'u' _).bind (takes_unicodeEscape code high low _))
    rw [List.cons_append, List.cons_append, List.append_assoc]
    refine (takes_peek _).bind ((takes_skip '\\' _).bind (hescaped.bind ((ih ?_).bind ?_)))
    · exact Nat.lt_of_succ_lt_succ hfuel
    · exact takes_pure _ rest
  | @pair n m quad quad' s cs first high second low _ ih =>
    obtain ⟨fuel, rfl⟩ : ∃ k, fuel = k + 1 := ⟨fuel - 1, by omega⟩
    -- two numbers that are the halves of one character
    have hescaped : Takes escaped ('u' :: (quad ++ '\\' :: 'u' :: (quad' ++ (cs ++ '"' :: rest))))
        (joinSurrogates n m) (cs ++ '"' :: rest) :=
      (takes_peek _).bind ((takes_skip 'u' _).bind
        (takes_unicodeEscape_pair first high second low _))
    simp only [List.cons_append, List.append_assoc]
    refine (takes_peek _).bind ((takes_skip '\\' _).bind (hescaped.bind ((ih ?_).bind ?_)))
    · exact Nat.lt_of_succ_lt_succ hfuel
    · exact takes_pure _ rest

/-- `quoted` takes a text between quotation marks. -/
theorem takes_quoted (h : Spells s cs) (rest : List Char) :
    Takes quoted ('"' :: (cs ++ '"' :: rest)) (String.ofList s) rest := by
  have hfuel : s.length < (cs ++ '"' :: rest).length + 1 := by
    have hlength := h.length_le
    rw [List.length_append]
    omega
  refine (takes_skip '"' _).bind ((takes_fuel _).bind ?_)
  exact (takes_textChars h hfuel rest).bind (takes_pure _ rest)

/-- `skipTextChars` takes what `Spells` a text, up to the closing mark. -/
theorem takes_skipTextChars (h : Spells s cs) (hfuel : cs.length < fuel) (rest : List Char) :
    Takes (skipTextChars fuel) (cs ++ '"' :: rest) () rest := by
  have escape : ∀ {quad n}, HexQuad quad n → ∀ rest,
      Takes skipEscaped ('u' :: (quad ++ rest)) () rest := fun hquad rest =>
    (takes_peek _).bind ((takes_skip 'u' _).bind ((takes_hexQuad hquad rest).bind
      (takes_pure () rest)))
  induction h generalizing fuel with
  | nil =>
    obtain ⟨fuel, rfl⟩ : ∃ k, fuel = k + 1 := ⟨fuel - 1, by omega⟩
    exact (takes_peek _).bind (takes_skip '"' rest)
  | @plain c s cs quote backslash printable _ ih =>
    obtain ⟨fuel, rfl⟩ : ∃ k, fuel = k + 1 := ⟨fuel - 1, by omega⟩
    refine (takes_peek _).bind ?_
    dsimp only [List.cons_append, List.head?_cons]
    rw [if_neg quote, if_neg backslash, if_neg printable]
    refine (takes_skip c _).bind (ih ?_)
    exact Nat.lt_of_succ_lt_succ hfuel
  | @short c e s cs short _ ih =>
    rw [List.length_cons, List.length_cons] at hfuel
    obtain ⟨fuel, rfl⟩ : ∃ k, fuel = k + 1 := ⟨fuel - 1, by omega⟩
    have hescaped : Takes skipEscaped (e :: (cs ++ '"' :: rest)) () (cs ++ '"' :: rest) := by
      refine (takes_peek _).bind ?_
      dsimp only [List.head?_cons]
      rw [short]
      exact takes_skip e _
    exact (takes_peek _).bind ((takes_skip '\\' _).bind (hescaped.bind (ih (by omega))))
  | @code n quad s cs code high low _ ih =>
    simp only [List.length_cons, List.length_append] at hfuel
    obtain ⟨fuel, rfl⟩ : ∃ k, fuel = k + 1 := ⟨fuel - 1, by omega⟩
    simp only [List.cons_append, List.append_assoc]
    exact (takes_peek _).bind ((takes_skip '\\' _).bind ((escape code _).bind (ih (by omega))))
  | @pair n m quad quad' s cs first high second low _ ih =>
    -- the two halves are passed over one after the other
    simp only [List.length_cons, List.length_append] at hfuel
    obtain ⟨fuel, rfl⟩ : ∃ k, fuel = k + 2 := ⟨fuel - 2, by omega⟩
    simp only [List.cons_append, List.append_assoc]
    refine (takes_peek _).bind ((takes_skip '\\' _).bind ((escape first _).bind ?_))
    exact (takes_peek _).bind ((takes_skip '\\' _).bind ((escape second _).bind (ih (by omega))))

/-- `skipQuoted` passes over a text, however its characters are spelled. -/
theorem takes_skipQuoted (h : Spells s cs) (rest : List Char) :
    Takes skipQuoted ('"' :: (cs ++ '"' :: rest)) () rest := by
  have hfuel : cs.length < (cs ++ '"' :: rest).length + 1 := by
    rw [List.length_append]
    omega
  exact (takes_skip '"' _).bind ((takes_fuel _).bind (takes_skipTextChars h hfuel rest))

/-! ### Printing -/

theorem hexValue?_hexDigit {n : Nat} (h : n < 16) : hexValue? (hexDigit n) = some n := by
  have hall : ∀ n : Fin 16, hexValue? (hexDigit n) = some n.val := by decide
  exact hall ⟨n, h⟩

/-- `HexQuad` of a control character, which is written by its number. -/
theorem hexQuad_of_lt {n : Nat} (h : n < 0x20) :
    HexQuad ['0', '0', hexDigit (n / 16), hexDigit (n % 16)] n := by
  have hquad : HexQuad ['0', '0', hexDigit (n / 16), hexDigit (n % 16)]
      (((0 * 16 + 0) * 16 + n / 16) * 16 + n % 16) :=
    .mk rfl rfl (hexValue?_hexDigit (by omega)) (hexValue?_hexDigit (by omega))
  rwa [show ((0 * 16 + 0) * 16 + n / 16) * 16 + n % 16 = n by omega] at hquad

/-- `escape` spells a character. -/
theorem spells_escape_cons (c : Char) (h : Spells s cs) : Spells (c :: s) (escape c ++ cs) := by
  unfold escape
  split_ifs with h1 h2 h3 h4 h5 h6 h7 h8
  · subst h1
    exact .short rfl h
  · subst h2
    exact .short rfl h
  · subst h3
    exact .short rfl h
  · subst h4
    exact .short rfl h
  · subst h5
    exact .short rfl h
  · subst h6
    exact .short rfl h
  · subst h7
    exact .short rfl h
  · -- a control character without a letter of its own is written by its number
    have hcode : Spells (Char.ofNat c.toNat :: s)
        ('\\' :: 'u' :: (['0', '0', hexDigit (c.toNat / 16), hexDigit (c.toNat % 16)] ++ cs)) := by
      refine .code (hexQuad_of_lt h8) ?_ ?_ h
      · simp only [isHighSurrogate, Bool.and_eq_false_iff, decide_eq_false_iff_not]
        omega
      · simp only [isLowSurrogate, Bool.and_eq_false_iff, decide_eq_false_iff_not]
        omega
    rwa [Char.ofNat_toNat] at hcode
  · exact .plain h1 h2 h8 h

/-- `escape` of each character `Spells` the text. -/
theorem spells_escape (s : List Char) : Spells s (s.flatMap escape) := by
  induction s with
  | nil => exact .nil
  | cons c s ih =>
    rw [List.flatMap_cons]
    exact spells_escape_cons c ih

end GroupChat.Json
