import GroupChat.Proofs.Json.Grammar

/-!
# Reading of numbers

What a number is read as does not depend on what follows it, as long as that is no part of a number.
So a number stands for the same inside of a list or an object as it does alone. Whole numbers are
read as what they were printed from.

## Main definitions

- `Reader.Gives`: what a reader gives somewhere.
- `Reader.Carries`: what a reader gives for a text, it gives whatever follows the text.

## Main statements

- `takes_numeral`: a number is read as what it stands for.
- `takes_skipNumeral`: a number is passed over.
- `writes_renderInt`: the printer writes whole numbers.
-/

namespace GroupChat.Json

namespace Reader

variable {α β : Type} {r : Reader α} {f : α → Reader β} {a : α} {b : β} {c : Char}
  {cs ds mid rest tail : List Char}

/-- Somewhere a reader gives `a` for a text. -/
def Gives (r : Reader α) (cs : List Char) (a : α) : Prop := ∃ p c, r ⟨cs, p⟩ = .ok (a, c)

/-- What a reader gives for `cs` alone, it gives when `rest` follows, and takes `cs` for it. -/
def Carries (r : Reader α) (cs rest : List Char) : Prop :=
  ∀ a, Gives r cs a → Takes r (cs ++ rest) a rest

/-- If the reader `r` takes nothing off one text, it takes nothing off any text, and gives the same.
-/
def Still (r : Reader α) : Prop := ∀ cs a, Gives r cs a → ∀ cs', Takes r cs' a cs'

theorem Gives.of_bind (h : Gives (r >>= f) cs b) (hr : Takes r cs a mid) : Gives (f a) mid b := by
  obtain ⟨p, c, hp⟩ := h
  obtain ⟨p', hp'⟩ := hr p
  refine ⟨p', c, ?_⟩
  have hbind : (r ⟨cs, p⟩ >>= fun x => f x.1 x.2) = .ok (b, c) := hp
  rw [hp'] at hbind
  exact hbind

/-- If `run` reads a whole text, the reader `Gives` it. -/
theorem gives_of_run (h : r.run (String.ofList cs) = .ok a) : Gives r cs a := by
  obtain ⟨c, hall⟩ := run_eq_ok_iff.1 h
  obtain ⟨a', c', hr, hend⟩ := bind_eq_ok hall
  obtain ⟨_, _, -, hpure⟩ := bind_eq_ok hend
  cases hpure
  exact ⟨_, c', hr⟩

/-! ### Single steps -/

theorem Carries.bind (hr : Takes r cs a mid) (hr' : Takes r (cs ++ rest) a (mid ++ rest))
    (hf : Carries (f a) mid rest) : Carries (r >>= f) cs rest :=
  fun _ h => hr'.bind (hf _ (h.of_bind hr))

theorem Carries.peek {f : Option Char → Reader β} (hf : Carries (f (some c)) (c :: cs) rest) :
    Carries (Reader.peek >>= f) (c :: cs) rest :=
  .bind (takes_peek _) (takes_peek _) hf

theorem Carries.skip {f : Unit → Reader β} (hf : Carries (f ()) cs rest) :
    Carries (Reader.skip >>= f) (c :: cs) rest :=
  .bind (takes_skip c cs) (takes_skip c _) hf

/-- `peek` at the end of a number `Carries` the rest, if the reader treats what follows like the
end. -/
theorem Carries.peek_nil {f : Option Char → Reader β} (hf : f rest.head? = f none)
    (hstill : Still (f none)) : Carries (Reader.peek >>= f) [] rest := by
  intro b h
  refine (takes_peek rest).bind ?_
  rw [hf]
  exact hstill [] b (h.of_bind (takes_peek [])) rest

theorem Still.carries (h : Still r) (rest : List Char) : Carries r [] rest :=
  fun a ha => h [] a ha rest

theorem still_pure (a : α) : Still (pure a : Reader α) := by
  rintro cs b ⟨p, c, h⟩ cs'
  cases h
  exact takes_pure a cs'

theorem still_scaled (negative : Bool) (significand : Nat) (exponent : Int) :
    Still (scaled negative significand exponent) := by
  intro cs a h
  unfold scaled at h ⊢
  split at h
  · exact still_pure _ cs a h
  · obtain ⟨p, c, h⟩ := h
    cases h

/-- `digits` takes all digits up to the first other character. -/
theorem takes_digits (hds : ∀ c ∈ ds, c.isDigit = true)
    (hrest : ∀ c ∈ rest.head?, c.isDigit = false) : Takes digits (ds ++ rest) ds rest := by
  have hnone : rest.takeWhile Char.isDigit = [] ∧ rest.dropWhile Char.isDigit = rest := by
    cases rest with
    | nil => exact ⟨rfl, rfl⟩
    | cons c rest =>
      have hc : ¬ c.isDigit = true := Bool.not_eq_true _ ▸ hrest c rfl
      exact ⟨List.takeWhile_cons_of_neg hc, List.dropWhile_cons_of_neg hc⟩
  intro p
  refine ⟨⟨p.line, p.column + ds.length⟩, ?_⟩
  simp only [digits, List.takeWhile_append_of_pos hds, List.dropWhile_append_of_pos hds, hnone,
    List.append_nil]

theorem Carries.digits {f : List Char → Reader β} (hds : ∀ c ∈ ds, c.isDigit = true)
    (htail : ∀ c ∈ (tail ++ rest).head?, c.isDigit = false) (hf : Carries (f ds) tail rest) :
    Carries (Reader.digits >>= f) (ds ++ tail) rest := by
  have htail' : ∀ c ∈ tail.head?, c.isDigit = false := by
    cases tail with
    | nil => exact nofun
    | cons c tail => exact htail
  refine .bind (takes_digits hds htail') ?_ hf
  rw [List.append_assoc]
  exact takes_digits hds htail

end Reader

open Reader

variable {cs ds f e rest s w : List Char} {negative : Bool} {significand : Nat} {exponent : Int}

/-! ### The parts of a number -/

theorem ne_sign_of_isDigit {c : Char} (h : c.isDigit = true) : c ≠ '+' ∧ c ≠ '-' := by
  refine ⟨?_, ?_⟩ <;> rintro rfl <;> cases h

/-- The reader of a sign of an exponent `Carries` whatever is done behind it. -/
theorem carries_sign {β : Type} {f : Bool → Reader β} {c : Char} (hs : IsSign s)
    (hc : c.isDigit = true) (hf : ∀ minus, Carries (f minus) (c :: cs) rest) :
    Carries (do
      match ← Reader.peek with
      | some '+' =>
        skip
        f (← pure false)
      | some '-' =>
        skip
        f (← pure true)
      | _ => f (← pure false)) (s ++ c :: cs) rest := by
  cases hs with
  | none =>
    obtain ⟨hplus, hminus⟩ := ne_sign_of_isDigit hc
    refine .peek ?_
    split
    · exact absurd (Option.some.inj ‹_›) hplus
    · exact absurd (Option.some.inj ‹_›) hminus
    · exact hf false
  | plus => exact .peek (.skip (hf false))
  | minus => exact .peek (.skip (hf true))

/-- `exponentTail` is read up to what is no digit. -/
theorem carries_exponentTail (hs : IsSign s) (hds : IsDigits ds)
    (hrest : ∀ c ∈ rest.head?, c.isDigit = false) :
    Carries (exponentTail negative significand exponent) (s ++ ds) rest := by
  obtain ⟨c, ds, rfl⟩ := List.exists_cons_of_ne_nil hds.ne_nil
  have hc : c.isDigit = true := hds.digits c List.mem_cons_self
  refine carries_sign hs hc fun minus => .peek ?_
  dsimp only
  rw [if_pos hc, ← List.append_nil (c :: ds)]
  refine .digits hds.digits hrest ?_
  -- all characters are taken by now, and what is left is to compute the number
  split
  · exact (still_scaled _ _ _).carries rest
  · split
    · rintro a ⟨p, x, h⟩
      cases h
    · exact (still_pure _).carries rest

theorem Parted.digit (h : Parted rest) : ∀ c ∈ rest.head?, c.isDigit = false :=
  fun c hc => (h c hc).digit

theorem IsExponent.digit (he : IsExponent e) (hrest : Parted rest) :
    ∀ c ∈ (e ++ rest).head?, c.isDigit = false := by
  cases he with
  | none => exact hrest.digit
  | letter letter =>
    rintro c hc
    cases hc
    obtain rfl | rfl := letter <;> rfl

theorem IsFraction.digit (hf : IsFraction f) (he : IsExponent e) (hrest : Parted rest) :
    ∀ c ∈ (f ++ (e ++ rest)).head?, c.isDigit = false := by
  cases hf with
  | none => exact he.digit hrest
  | point =>
    rintro c hc
    cases hc
    rfl

/-- `exponentPart` reads an exponent to its end. -/
theorem carries_exponentPart (he : IsExponent e) (hrest : Parted rest) :
    Carries (exponentPart negative significand exponent) e rest := by
  cases he with
  | none =>
    refine .peek_nil ?_ (still_scaled _ _ _)
    split
    · exact absurd rfl (hrest 'e' ‹_›).exponent.1
    · exact absurd rfl (hrest 'E' ‹_›).exponent.2
    · rfl
  | letter letter sign digits =>
    obtain rfl | rfl := letter <;>
      exact .peek (.skip (carries_exponentTail sign digits hrest.digit))

theorem carries_fractionTail (hds : IsDigits ds) (he : IsExponent e) (hrest : Parted rest) :
    Carries (fractionTail negative significand exponent) (ds ++ e) rest := by
  refine .digits hds.digits (he.digit hrest) ?_
  rw [if_neg fun h => hds.ne_nil (List.isEmpty_iff.1 h)]
  exact carries_exponentPart he hrest

/-- `numeralTail` reads fraction and exponent, each of which may be missing. -/
theorem carries_numeralTail (hf : IsFraction f) (he : IsExponent e) (hrest : Parted rest) :
    Carries (numeralTail negative ds) (f ++ e) rest := by
  cases hf with
  | none =>
    cases he with
    | none =>
      refine .peek_nil ?_ ?_
      · split
        · -- what follows is neither a point nor an exponent
          exact absurd rfl (hrest '.' ‹_›).point
        · exact absurd rfl (hrest 'e' ‹_›).exponent.1
        · exact absurd rfl (hrest 'E' ‹_›).exponent.2
        · rfl
      · dsimp only
        split
        · exact still_pure _
        · exact still_scaled _ _ _
    | letter letter sign digits =>
      obtain rfl | rfl := letter <;>
        exact .peek (.skip (carries_exponentTail sign digits hrest.digit))
  | point digits => exact .peek (.skip (carries_fractionTail digits he hrest))

/-- `wholePart` takes the digits ahead of the point, without a superfluous zero. -/
theorem takes_wholePart (hw : IsWhole w) (hrest : ∀ c ∈ rest.head?, c.isDigit = false) :
    Takes wholePart (w ++ rest) w rest := by
  cases hw with
  | zero =>
    refine (takes_peek _).bind ((takes_skip '0' rest).bind ((takes_peek rest).bind ?_))
    split
    · rename_i c hc
      -- no digit may follow a leading zero
      rw [if_neg (Bool.not_eq_true _ ▸ hrest c hc)]
      exact takes_pure _ rest
    · exact takes_pure _ rest
  | @digits c w nonzero digits =>
    refine (takes_peek _).bind ?_
    split
    · rename_i h
      cases h
    · rename_i h
      cases h
      exact absurd rfl nonzero
    · rename_i c' _ h
      cases h
      -- any other digit may be followed by more of them
      rw [if_pos (digits.digits c List.mem_cons_self)]
      exact takes_digits digits.digits hrest

/-- `wholePart` and `numeralTail` together: what is read of a number without its sign. -/
theorem carries_magnitude (h : IsMagnitude cs) (hrest : Parted rest) :
    Carries (do numeralTail negative (← wholePart)) cs rest := by
  cases h with
  | @mk w f e whole fraction exponent =>
    refine .bind (takes_wholePart whole ?_) ?_ (carries_numeralTail fraction exponent hrest)
    · have hnil := fraction.digit exponent parted_nil
      rwa [List.append_nil] at hnil
    · rw [List.append_assoc, List.append_assoc]
      exact takes_wholePart whole (fraction.digit exponent hrest)

/-- `numeral` reads a number to its end. -/
theorem carries_numeral (h : IsNumber cs) (hrest : Parted rest) : Carries numeral cs rest := by
  cases h with
  | plain magnitude =>
    obtain ⟨c, tail, rfl, hc⟩ := magnitude.starts
    refine .peek ?_
    split
    · exact absurd (Option.some.inj ‹_›) (ne_sign_of_isDigit hc).2
    · exact carries_magnitude magnitude hrest
  | minus magnitude => exact .peek (.skip (carries_magnitude magnitude hrest))

/-- `numeral` takes a text of which `run` makes a number, whatever `Parted` rest follows it. The
grammar says which texts these are, and `run` which number it is. -/
theorem takes_numeral {n : Numeral} (h : IsNumber cs)
    (hread : numeral.run (String.ofList cs) = .ok n) (hrest : Parted rest) :
    Takes numeral (cs ++ rest) n rest :=
  carries_numeral h hrest n (gives_of_run hread)

/-! ### Passing over numbers -/

theorem takes_skipSign {k : Reader β} (hs : IsSign s) (hc : c.isDigit = true)
    (hk : Takes k (c :: cs) b rest) :
    Takes (do
      match ← Reader.peek with
      | some '+' | some '-' => skip
      | _ => pure ()
      k) (s ++ c :: cs) b rest := by
  cases hs with
  | none =>
    obtain ⟨hplus, hminus⟩ := ne_sign_of_isDigit hc
    refine (takes_peek _).bind ?_
    split
    · exact absurd (Option.some.inj ‹_›) hplus
    · exact absurd (Option.some.inj ‹_›) hminus
    · exact hk
  | plus => exact (takes_peek _).bind ((takes_skip '+' _).bind hk)
  | minus => exact (takes_peek _).bind ((takes_skip '-' _).bind hk)

/-- `skipExponent` passes over an exponent. -/
theorem takes_skipExponent (he : IsExponent e) (hrest : Parted rest) :
    Takes skipExponent (e ++ rest) () rest := by
  cases he with
  | none =>
    refine (takes_peek rest).bind ?_
    split
    · exact absurd rfl (hrest 'e' ‹_›).exponent.1
    · exact absurd rfl (hrest 'E' ‹_›).exponent.2
    · exact takes_pure () rest
  | @letter e s ds letter sign digits =>
    -- behind the sign the reader asks for one digit at least
    obtain ⟨c, ds, rfl⟩ := List.exists_cons_of_ne_nil digits.ne_nil
    have hc : c.isDigit = true := digits.digits c List.mem_cons_self
    rw [List.cons_append, List.append_assoc]
    have hdigits := takes_digits digits.digits hrest.digit
    obtain rfl | rfl := letter
    all_goals
      refine (takes_peek _).bind ((takes_skip _ _).bind (takes_skipSign sign hc ?_))
      refine (takes_peek _).bind ?_
      dsimp only [List.head?_cons]
      rw [if_pos hc]
      exact hdigits.bind (takes_pure () rest)

/-- `skipNumeralTail` passes over fraction and exponent. -/
theorem takes_skipNumeralTail (hf : IsFraction f) (he : IsExponent e) (hrest : Parted rest) :
    Takes skipNumeralTail (f ++ (e ++ rest)) () rest := by
  cases hf with
  | none =>
    refine (takes_peek _).bind ?_
    split
    · rename_i h
      -- an exponent does not begin with a point
      cases he with
      | none => exact absurd rfl (hrest '.' h).point
      | letter letter =>
        cases h
        obtain h | h := letter <;> cases h
    · exact takes_skipExponent he hrest
  | @point ds digits =>
    refine (takes_peek _).bind ((takes_skip '.' _).bind ?_)
    refine (takes_digits digits.digits (he.digit hrest)).bind ?_
    rw [if_neg fun h => digits.ne_nil (List.isEmpty_iff.1 h)]
    exact takes_skipExponent he hrest

theorem takes_skipMagnitude (h : IsMagnitude cs) (hrest : Parted rest) :
    Takes (do
      match ← Reader.peek with
      | none => failHere .invalidNumber
      | some '0' =>
        skip
        match ← Reader.peek with
        | some c => if c.isDigit then failNext .invalidNumber
        | none => pure ()
        skipNumeralTail
      | some c =>
        if c.isDigit then
          let _ ← Reader.digits
          skipNumeralTail
        else failNext .invalidNumber) (cs ++ rest) () rest := by
  cases h with
  | @mk w f e whole fraction exponent =>
    -- what follows the whole part is a point, an exponent, or the rest
    have hdigit : ∀ c ∈ (f ++ (e ++ rest)).head?, c.isDigit = false :=
      fraction.digit exponent hrest
    rw [List.append_assoc, List.append_assoc]
    cases whole with
    | zero =>
      refine (takes_peek _).bind ((takes_skip '0' _).bind ((takes_peek _).bind ?_))
      split
      · rename_i c hc
        rw [if_neg (Bool.not_eq_true _ ▸ hdigit c hc)]
        exact takes_skipNumeralTail fraction exponent hrest
      · exact takes_skipNumeralTail fraction exponent hrest
    | @digits c w nonzero digits =>
      refine (takes_peek _).bind ?_
      split
      · rename_i h
        cases h
      · rename_i h
        cases h
        exact absurd rfl nonzero
      · rename_i c' _ h
        cases h
        rw [if_pos (digits.digits c List.mem_cons_self)]
        exact (takes_digits digits.digits hdigit).bind
          (takes_skipNumeralTail fraction exponent hrest)

/-- `skipNumeral` takes every text that `IsNumber`. -/
theorem takes_skipNumeral (h : IsNumber cs) (hrest : Parted rest) :
    Takes skipNumeral (cs ++ rest) () rest := by
  cases h with
  | plain magnitude =>
    have hmagnitude := takes_skipMagnitude magnitude hrest
    obtain ⟨c, tail, rfl, hc⟩ := magnitude.starts
    refine (takes_peek _).bind ?_
    split
    · exact absurd (Option.some.inj ‹_›) (ne_sign_of_isDigit hc).2
    · exact hmagnitude
  | minus magnitude =>
    exact (takes_peek _).bind ((takes_skip '-' _).bind (takes_skipMagnitude magnitude hrest))

/-! ### Printing whole numbers -/

theorem le_ofDigitChars (cs : List Char) (n : Nat) : n ≤ Nat.ofDigitChars 10 cs n := by
  induction cs generalizing n with
  | nil => exact Nat.le_refl n
  | cons c cs ih =>
    rw [Nat.ofDigitChars_cons]
    exact Nat.le_trans (by omega) (ih _)

/-- `takeDigits` uses all digits of a number that is not above its limit. -/
theorem takeDigits_of_le {limit n : Nat} (h : Nat.ofDigitChars 10 ds n ≤ limit) :
    takeDigits limit n ds = (Nat.ofDigitChars 10 ds n, []) := by
  induction ds generalizing n with
  | nil => rfl
  | cons c ds ih =>
    have hstep : Nat.ofDigitChars 10 (c :: ds) n =
        Nat.ofDigitChars 10 ds (n * 10 + digitValue c) := by
      rw [Nat.ofDigitChars_cons, Nat.mul_comm]
      rfl
    rw [hstep] at h ⊢
    have hle : n * 10 + digitValue c ≤ limit := Nat.le_trans (le_ofDigitChars ds _) h
    rw [takeDigits, if_pos hle, ih h]

/-- `Nat.toDigits` of a number that is not zero does not begin with zero. -/
theorem toDigits_eq_cons {n : Nat} (h : n ≠ 0) :
    ∃ c cs, Nat.toDigits 10 n = c :: cs ∧ c ≠ '0' := by
  induction n using Nat.strongRecOn with
  | ind n ih =>
    by_cases hn : n < 10
    · have hdigit : ∀ k : Fin 10, k.val ≠ 0 → Nat.digitChar k ≠ '0' := by decide
      exact ⟨_, [], Nat.toDigits_of_lt_base hn, hdigit ⟨n, hn⟩ h⟩
    · obtain ⟨c, cs, hcs, hc⟩ := ih (n / 10) (by omega) (by omega)
      refine ⟨c, cs ++ [(n % 10).digitChar], ?_, hc⟩
      rw [Nat.toDigits_of_base_le (by decide) (by omega), hcs, List.cons_append]

/-- `Nat.toDigits` is a text that `IsWhole`: only zero begins with a zero. -/
theorem isWhole_toDigits (n : Nat) : IsWhole (Nat.toDigits 10 n) := by
  by_cases hn : n = 0
  · rw [hn]
    exact .zero
  · have hdigits : IsDigits (Nat.toDigits 10 n) :=
      ⟨Nat.toDigits_ne_nil, fun c => Nat.isDigit_of_mem_toDigits (by decide) (by decide)⟩
    obtain ⟨c, cs, hcs, hc⟩ := toDigits_eq_cons hn
    rw [hcs] at hdigits ⊢
    exact .digits hc hdigits

theorem isMagnitude_toDigits (n : Nat) : IsMagnitude (Nat.toDigits 10 n) := by
  have hmagnitude : IsMagnitude (Nat.toDigits 10 n ++ ([] ++ [])) :=
    .mk (isWhole_toDigits n) .none .none
  rwa [List.append_nil, List.append_nil] at hmagnitude

/-- The reader makes the same number of `Nat.toDigits`, up to `maxSignificand`; above that it would
be a float. -/
theorem takes_numeralTail_toDigits {n : Nat} (h : n ≤ maxSignificand) :
    Takes (do numeralTail negative (← wholePart)) (Nat.toDigits 10 n)
      (wholeNumber negative n) [] := by
  have hwhole : Takes wholePart (Nat.toDigits 10 n ++ []) (Nat.toDigits 10 n) [] :=
    takes_wholePart (isWhole_toDigits n) nofun
  rw [List.append_nil] at hwhole
  refine hwhole.bind ((takes_peek []).bind ?_)
  have hdigits : takeDigits maxSignificand 0 (Nat.toDigits 10 n) = (n, []) := by
    rw [takeDigits_of_le] <;> rw [Nat.ofDigitChars_ten_toDigits]
    exact h
  simp only [hdigits]
  exact takes_pure _ []

/-- `renderInt` writes whole numbers. -/
theorem writes_renderInt (n : JsonInt) : Writes (.int n) (renderInt n.val) := by
  have hlower := n.lower
  have hupper := n.upper
  -- the text is read as an integer again, as it fits 64 bits
  have hmax : n.val.natAbs ≤ maxSignificand := by
    unfold maxSignificand
    omega
  have hmagnitude : IsMagnitude (Nat.toDigits 10 n.val.natAbs) := isMagnitude_toDigits _
  have hofInt : JsonInt.ofInt? n.val = some n := by
    rw [JsonInt.ofInt?, dif_pos ⟨hlower, hupper⟩]
  by_cases hneg : n.val < 0
  · have hrender : renderInt n.val = '-' :: Nat.toDigits 10 n.val.natAbs := by
      rw [renderInt, if_pos hneg]
      rfl
    have hnumber : wholeNumber true n.val.natAbs = .int n := by
      have hval : (-(n.val.natAbs : Int)) = n.val := by omega
      have hzero : ¬ ((true : Bool) = true ∧ n.val.natAbs = 0) := by omega
      rw [wholeNumber, if_pos rfl, if_neg hzero, hval, hofInt]
    rw [hrender]
    refine .int (.minus hmagnitude) (run_of_takes ?_ blank_nil)
    rw [← hnumber]
    exact (takes_peek _).bind ((takes_skip '-' _).bind (takes_numeralTail_toDigits hmax))
  · have hrender : renderInt n.val = Nat.toDigits 10 n.val.natAbs := by
      rw [renderInt, if_neg hneg]
      rfl
    have hnumber : wholeNumber false n.val.natAbs = .int n := by
      have hval : (n.val.natAbs : Int) = n.val := by omega
      rw [wholeNumber, if_neg Bool.false_ne_true, if_neg (by simp), hval, hofInt]
    rw [hrender]
    refine .int (.plain hmagnitude) (run_of_takes ?_ blank_nil)
    rw [← hnumber]
    -- without a sign, the first digit must not be taken for one
    have htail : Takes (do numeralTail false (← wholePart)) (Nat.toDigits 10 n.val.natAbs)
        (wholeNumber false n.val.natAbs) [] := takes_numeralTail_toDigits hmax
    obtain ⟨c, tail, hcs, hc⟩ := hmagnitude.starts
    rw [hcs] at htail ⊢
    refine (takes_peek _).bind ?_
    split
    · exact absurd (Option.some.inj ‹_›) (ne_sign_of_isDigit hc).2
    · exact htail

end GroupChat.Json
