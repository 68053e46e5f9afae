import GroupChat.Text.LowerCase
import Mathlib.Data.List.Basic

/-!
# Small letters in their surroundings

All letters but one have the same small letters wherever they stand. The exception is the capital
sigma, whose small letter depends on whether a word ends with it, and so on what stands around it. A
part of a text is therefore written in small letters as it is within the text, unless one of its
sigmas is at the end of a word in the part and not in the text, or the other way round.

## Main definitions

- `lowerBetween`: the small letters of a part, where it stands between two others.
- `Settled`: what is beside a sigma tells whether a word ends with it.
- `Firm`: a part each of whose sigmas is settled within the part.

## Main statements

- `settled_iff`: a sigma is settled exactly if it is the same in all surroundings.
- `lowerChars_infix_of_firm`: the small letters of a firm part are part of those of the whole.
- `firm_of_isInfix`: if that is so between two plain letters, the part is firm.
-/

namespace GroupChat.Text

variable {before after before' after' front back cs ds : List Char}

/-! ### Whether a word goes on -/

/-- There is a character in `cs` that tells whether a word goes on: one that is not `caseIgnorable`.
-/
def Counts (cs : List Char) : Prop := ∃ c ∈ cs, caseIgnorable.contains c = false

theorem casedFirst_cons (c : Char) (cs : List Char) :
    casedFirst (c :: cs) =
      if caseIgnorable.contains c = true then casedFirst cs else cased.contains c := by
  rw [casedFirst, List.dropWhile_cons]
  split_ifs
  · rfl
  · rfl

/-- `casedFirst` does not see what comes behind the first character that counts. -/
theorem casedFirst_append_of_counts (h : Counts cs) : casedFirst (cs ++ ds) = casedFirst cs := by
  induction cs with
  | nil =>
    obtain ⟨c, hc, -⟩ := h
    cases hc
  | cons c cs ih =>
    rw [List.cons_append, casedFirst_cons, casedFirst_cons]
    split_ifs with hc
    · -- a character that is skipped is not the one that counts
      obtain ⟨d, hd, hcounts⟩ := h
      refine ih ⟨d, (List.mem_cons.1 hd).resolve_left ?_, hcounts⟩
      rintro rfl
      rw [hc] at hcounts
      cases hcounts
    · rfl

/-- `casedFirst` skips a part in which nothing counts. -/
theorem casedFirst_append_of_not_counts (h : ¬ Counts cs) :
    casedFirst (cs ++ ds) = casedFirst ds := by
  induction cs with
  | nil => rfl
  | cons c cs ih =>
    have hc : caseIgnorable.contains c = true := by
      by_contra hc
      exact h ⟨c, List.mem_cons_self, Bool.not_eq_true _ ▸ hc⟩
    rw [List.cons_append, casedFirst_cons, if_pos hc]
    exact ih fun ⟨d, hd, hcounts⟩ => h ⟨d, List.mem_cons_of_mem c hd, hcounts⟩

theorem casedFirst_of_not_counts (h : ¬ Counts cs) : casedFirst cs = false := by
  have happend : casedFirst (cs ++ []) = casedFirst [] := casedFirst_append_of_not_counts h
  rwa [List.append_nil] at happend

/-! ### Settled sigmas -/

/-- What stands beside a sigma tells whether a word ends with it (`endsWord`): a letter with a case
comes next, or no such letter comes before it, or it is known what comes on either side. -/
def Settled (before after : List Char) : Prop :=
  casedFirst after = true ∨ Counts before ∧ (casedFirst before = false ∨ Counts after)

/-- If a plain letter at either end leaves `endsWord` as it is, the sigma is `Settled`. -/
theorem settled_of_endsWord (hbefore : endsWord (before ++ ['A']) after = endsWord before after)
    (hafter : endsWord before (after ++ ['A']) = endsWord before after) :
    Settled before after := by
  have hletter : casedFirst ['A'] = true := by decide +kernel
  by_contra h
  rw [Settled, not_or, not_and_or, Bool.not_eq_true] at h
  obtain ⟨hnext, hleft | hright⟩ := h
  · -- with a letter ahead of it, the sigma ends a word
    rw [endsWord, endsWord, casedFirst_append_of_not_counts hleft, hletter, hnext,
      casedFirst_of_not_counts hleft] at hbefore
    cases hbefore
  · -- with a letter behind it, it no longer ends one
    rw [not_or, Bool.not_eq_false] at hright
    rw [endsWord, endsWord, casedFirst_append_of_not_counts hright.2, hletter, hnext,
      hright.1] at hafter
    cases hafter

/-- What stands further away does not matter to a `Settled` sigma. -/
theorem Settled.endsWord_append (h : Settled before after) (front back : List Char) :
    endsWord (before ++ front) (after ++ back) = endsWord before after := by
  rw [endsWord, endsWord]
  have hnext : Counts after → casedFirst (after ++ back) = casedFirst after :=
    casedFirst_append_of_counts
  rcases h with h | ⟨hbefore, h | h⟩
  · -- a cased character follows, so something counts
    have hcounts : Counts after := by
      by_contra hnot
      rw [casedFirst_of_not_counts hnot] at h
      cases h
    rw [hnext hcounts, h, Bool.not_true, Bool.and_false, Bool.and_false]
  · rw [casedFirst_append_of_counts hbefore, h, Bool.false_and, Bool.false_and]
  · rw [casedFirst_append_of_counts hbefore, hnext h]

/-- A sigma is `Settled` exactly if `endsWord` is the same whatever stands further away from it. -/
theorem settled_iff :
    Settled before after ↔
      ∀ front back, endsWord (before ++ front) (after ++ back) = endsWord before after := by
  refine ⟨Settled.endsWord_append, fun h => settled_of_endsWord ?_ ?_⟩
  · simpa using h ['A'] []
  · simpa using h [] ['A']

/-- Every sigma of the `part` is `Settled` within the `part`. -/
def Firm (part : List Char) : Prop :=
  ∀ front back, part = front ++ 'Σ' :: back → Settled front.reverse back

/-! ### A character between two texts -/

/-- The small letters of a character, where `before` are the characters ahead of it, nearest first,
and `after` those behind it. -/
def lowerAt (before after : List Char) (c : Char) : List Char :=
  if c = 'Σ' then [if endsWord before after then 'ς' else 'σ'] else lowerChar c

theorem lowerAt_of_ne {c : Char} (h : c ≠ 'Σ') (before after : List Char) :
    lowerAt before after c = lowerChar c :=
  if_neg h

theorem lowerChars_cons (before : List Char) (c : Char) (cs : List Char) :
    lowerChars before (c :: cs) = lowerAt before cs c ++ lowerChars (c :: before) cs := by
  rw [lowerChars, lowerAt]
  by_cases hc : c = 'Σ'
  · rw [if_pos hc, if_pos hc, List.singleton_append]
  · rw [if_neg hc, if_neg hc]

/-- The small sigmas of the text `cs`, in order. -/
def sigmas (cs : List Char) : List Char := cs.filter fun c => c = 'σ' ∨ c = 'ς'

@[simp]
theorem sigmas_append (cs ds : List Char) : sigmas (cs ++ ds) = sigmas cs ++ sigmas ds :=
  List.filter_append ..

theorem sigmas_lowerAt_sigma (before after : List Char) :
    sigmas (lowerAt before after 'Σ') = [if endsWord before after then 'ς' else 'σ'] := by
  rw [lowerAt, if_pos rfl]
  cases endsWord before after <;> rfl

/-- `lowerAt` makes one small sigma of a capital one, whichever it is. -/
theorem length_sigmas_lowerAt (before after before' after' : List Char) (c : Char) :
    (sigmas (lowerAt before after c)).length = (sigmas (lowerAt before' after' c)).length := by
  by_cases hc : c = 'Σ'
  · rw [hc, sigmas_lowerAt_sigma, sigmas_lowerAt_sigma]
    rfl
  · rw [lowerAt_of_ne hc, lowerAt_of_ne hc]

theorem endsWord_eq_of_sigmas_eq
    (h : sigmas (lowerAt before after 'Σ') = sigmas (lowerAt before' after' 'Σ')) :
    endsWord before after = endsWord before' after' := by
  rw [sigmas_lowerAt_sigma, sigmas_lowerAt_sigma] at h
  cases hl : endsWord before after <;> cases hr : endsWord before' after' <;> simp [hl, hr] at h ⊢

/-! ### A part between two texts -/

/-- The characters `cs` in small letters, where `before` are the characters ahead of them, nearest
first, and `after` those behind them. -/
def lowerBetween (before after : List Char) : List Char → List Char
  | [] => []
  | c :: cs => lowerAt before (cs ++ after) c ++ lowerBetween (c :: before) after cs

theorem lowerChars_eq_lowerBetween (before cs : List Char) :
    lowerChars before cs = lowerBetween before [] cs := by
  induction cs generalizing before with
  | nil => rfl
  | cons c cs ih => rw [lowerChars_cons, lowerBetween, List.append_nil, ih]

/-- `lowerBetween` of two parts, each of which stands beside the other one. -/
theorem lowerBetween_append (before after cs ds : List Char) :
    lowerBetween before after (cs ++ ds) =
      lowerBetween before (ds ++ after) cs ++ lowerBetween (cs.reverse ++ before) after ds := by
  induction cs generalizing before with
  | nil => rfl
  | cons c cs ih =>
    rw [List.cons_append, lowerBetween, lowerBetween, ih, List.append_assoc, List.append_assoc,
      List.reverse_cons, List.append_assoc]
    rfl

/-- `lowerBetween` has as many small sigmas in one place as in another. -/
theorem length_sigmas_lowerBetween (before after before' after' cs : List Char) :
    (sigmas (lowerBetween before after cs)).length =
      (sigmas (lowerBetween before' after' cs)).length := by
  induction cs generalizing before before' with
  | nil => rfl
  | cons c cs ih =>
    rw [lowerBetween, lowerBetween, sigmas_append, sigmas_append, List.length_append,
      List.length_append, ih (c :: before) (c :: before'),
      length_sigmas_lowerAt before (cs ++ after) before' (cs ++ after')]

/-- The sigmas of `cs` are the same in two places, as `endsWord` says. -/
def Agree (before after before' after' cs : List Char) : Prop :=
  ∀ front back, cs = front ++ 'Σ' :: back →
    endsWord (front.reverse ++ before) (back ++ after) =
      endsWord (front.reverse ++ before') (back ++ after')

theorem agree_cons {c : Char} : Agree before after before' after' (c :: cs) ↔
    (c = 'Σ' → endsWord before (cs ++ after) = endsWord before' (cs ++ after')) ∧
      Agree (c :: before) after (c :: before') after' cs := by
  constructor
  · intro h
    refine ⟨?_, ?_⟩
    · rintro rfl
      exact h [] cs rfl
    · rintro front back rfl
      simpa using h (c :: front) back rfl
  · rintro ⟨hhead, htail⟩ front back heq
    cases front with
    -- the first character is the sigma itself, or the sigma stands further on
    | nil =>
      obtain ⟨rfl, rfl⟩ := List.cons.inj heq
      exact hhead rfl
    | cons d front =>
      obtain ⟨rfl, rfl⟩ := List.cons.inj heq
      simpa using htail front back rfl

/-- A part whose sigmas `Agree` in two places has the same small letters there. -/
theorem Agree.lowerBetween_eq (h : Agree before after before' after' cs) :
    lowerBetween before after cs = lowerBetween before' after' cs := by
  induction cs generalizing before before' with
  | nil => rfl
  | cons c cs ih =>
    obtain ⟨hhead, htail⟩ := agree_cons.1 h
    rw [lowerBetween, lowerBetween, ih htail]
    by_cases hc : c = 'Σ'
    · rw [lowerAt, lowerAt, hhead hc]
    · rw [lowerAt_of_ne hc, lowerAt_of_ne hc]

/-- If `lowerBetween` has the same small sigmas in two places, the sigmas `Agree` there. -/
theorem agree_of_sigmas_eq
    (h : sigmas (lowerBetween before after cs) = sigmas (lowerBetween before' after' cs)) :
    Agree before after before' after' cs := by
  induction cs generalizing before before' with
  | nil =>
    intro front back heq
    cases front <;> cases heq
  | cons c cs ih =>
    rw [lowerBetween, lowerBetween, sigmas_append, sigmas_append] at h
    obtain ⟨hhead, htail⟩ := List.append_inj h (length_sigmas_lowerAt ..)
    refine agree_cons.2 ⟨?_, ih htail⟩
    rintro rfl
    exact endsWord_eq_of_sigmas_eq hhead

/-- If a text has as many small sigmas as a part of it, they are those of the part. -/
theorem sigmas_eq_of_isInfix (h : cs <:+: ds) (hlength : (sigmas ds).length = (sigmas cs).length) :
    sigmas cs = sigmas ds := by
  obtain ⟨front, back, rfl⟩ := h
  rw [sigmas_append, sigmas_append, List.length_append, List.length_append] at hlength
  have hfront : sigmas front = [] := List.length_eq_zero_iff.1 (by omega)
  have hback : sigmas back = [] := List.length_eq_zero_iff.1 (by omega)
  rw [sigmas_append, sigmas_append, hfront, hback, List.nil_append, List.append_nil]

/-! ### Parts and wholes -/

/-- `lowerChars` of a `Firm` part stands in that of the whole. -/
theorem lowerChars_infix_of_firm {part whole : List Char} (hfirm : Firm part)
    (h : part <:+: whole) : lowerChars [] part <:+: lowerChars [] whole := by
  obtain ⟨front, back, rfl⟩ := h
  have hagree : Agree [] [] front.reverse back part := by
    rintro x y rfl
    rw [List.append_nil, List.append_nil]
    exact (settled_iff.1 (hfirm x y rfl) front.reverse back).symm
  rw [lowerChars_eq_lowerBetween, lowerChars_eq_lowerBetween, lowerBetween_append,
    lowerBetween_append, List.append_nil, List.append_nil, hagree.lowerBetween_eq]
  exact List.infix_append ..

/-- If `lowerChars` of a part stands in that of a whole that has no more sigmas, the sigmas of the
part `Agree`. -/
theorem agree_of_isInfix (front part back : List Char)
    (hfront : sigmas (lowerBetween [] (part ++ back) front) = [])
    (hback : sigmas (lowerBetween (part.reverse ++ front.reverse) [] back) = [])
    (h : lowerChars [] part <:+: lowerChars [] (front ++ part ++ back)) :
    Agree [] [] front.reverse back part := by
  rw [lowerChars_eq_lowerBetween, lowerChars_eq_lowerBetween, List.append_assoc,
    lowerBetween_append, lowerBetween_append, List.append_nil, List.append_nil,
    List.append_nil] at h
  -- all sigmas of the whole text are those of the part in the middle
  have hwhole : sigmas (lowerBetween [] (part ++ back) front ++
      (lowerBetween front.reverse back part ++
        lowerBetween (part.reverse ++ front.reverse) [] back)) =
      sigmas (lowerBetween front.reverse back part) := by
    rw [sigmas_append, sigmas_append, hfront, hback, List.nil_append, List.append_nil]
  refine agree_of_sigmas_eq ((sigmas_eq_of_isInfix h ?_).trans hwhole)
  rw [hwhole]
  exact length_sigmas_lowerBetween ..

/-- If `lowerChars` of a part stands in that of the part with a letter ahead of it, and with a
letter behind it, the part is `Firm`. -/
theorem firm_of_isInfix {part : List Char}
    (hfront : lowerChars [] part <:+: lowerChars [] ('A' :: part))
    (hback : lowerChars [] part <:+: lowerChars [] (part ++ ['A'])) : Firm part := by
  -- one more letter in front or behind brings no sigma
  have hletter : ∀ before after, sigmas (lowerBetween before after ['A']) = [] := by
    intro before after
    rw [lowerBetween, lowerAt_of_ne (by decide), lowerBetween, List.append_nil]
    decide
  have hahead : Agree [] [] ['A'] [] part :=
    agree_of_isInfix ['A'] part [] (hletter ..) rfl (by simpa using hfront)
  have hbehind : Agree [] [] [] ['A'] part :=
    agree_of_isInfix [] part ['A'] rfl (hletter ..) (by simpa using hback)
  rintro x y rfl
  refine settled_of_endsWord ?_ ?_
  · simpa using (hahead x y rfl).symm
  · simpa using (hbehind x y rfl).symm

end GroupChat.Text
