import GroupChat.Json.Reader
import GroupChat.Json.Skip
import GroupChat.Proofs.Json.Numbers
import GroupChat.Proofs.Json.Texts

/-!
# Reading of values

A text that stands for a value is read as that value, if lists and objects do not stand too deep
inside each other, and is passed over in any case. What the printer makes of a value is a text that
stands for it.

## Main definitions

- `Reader.Accepts`: a reader takes something wherever it stands.
- `Reader.StepsTo`, `Reader.Folds`: what is done with the members of an object, one after the other.
- `FloatFree`: values without floating-point numbers.

## Main statements

- `takes_items`, `takes_foldMembers`: the items of a list and the members of an object.
- `accepts_value`: a value is read.
- `accepts_skipValue`: a value is passed over.
- `writes_renderChars`: the printer writes a value.
-/

namespace GroupChat.Json

namespace Reader

variable {α σ : Type} {a : α} {as : List α} {s s' : σ} {n fuel : Nat} {first : Bool}
  {part cs b b' rest : List Char} {parts : List (List Char)} {v : Json} {vs : List Json}
  {ms : List (String × Json)} {name : List Char} {word : String}

/-- Wherever a part stands, with blanks in front of it, a reader takes it and gives `a`. -/
def Accepts (r : Reader α) (part : List Char) (a : α) : Prop :=
  ∀ b rest, Blank b → Parted rest → Takes r (b ++ (part ++ rest)) a rest

theorem Accepts.takes {r : Reader α} (h : Accepts r part a) (hrest : Parted rest) :
    Takes r (part ++ rest) a rest :=
  h [] rest blank_nil hrest

/-! ### Brackets -/

theorem takes_peekPastSpace_starts (hb : Blank b) (h : Starts part) (rest : List Char) :
    ∃ c, c ≠ ']' ∧ c ≠ '\x7d' ∧
      Takes peekPastSpace (b ++ (part ++ rest)) (some c) (part ++ rest) := by
  cases h with
  | @cons c cs blank list object => exact ⟨c, list, object, takes_peekPastSpace hb blank⟩

theorem takes_nextItem_end (hb : Blank b) (rest : List Char) :
    Takes (nextItem first) (b ++ ']' :: rest) false (']' :: rest) :=
  (takes_peekPastSpace hb rfl).bind (takes_pure false _)

/-- `nextItem` finds the first item without a comma. -/
theorem takes_nextItem_first (hb : Blank b) (h : Starts part) (rest : List Char) :
    Takes (nextItem true) (b ++ (part ++ rest)) true (part ++ rest) := by
  obtain ⟨c, hc, -, hpeek⟩ := takes_peekPastSpace_starts hb h rest
  refine hpeek.bind ?_
  split
  · contradiction
  · exact absurd (Option.some.inj ‹_›) hc
  · exact takes_pure true _

/-- `nextItem` finds any further item behind a comma. -/
theorem takes_nextItem_comma (hb : Blank b) (hb' : Blank b') (h : Starts part)
    (rest : List Char) :
    Takes (nextItem false) (b ++ ',' :: (b' ++ (part ++ rest))) true (part ++ rest) := by
  obtain ⟨c, hc, -, hpeek⟩ := takes_peekPastSpace_starts hb' h rest
  refine (takes_peekPastSpace hb rfl).bind ((takes_skip ',' _).bind (hpeek.bind ?_))
  split
  · contradiction
  · exact absurd (Option.some.inj ‹_›) hc
  · exact takes_pure true _

theorem takes_endList (hb : Blank b) (rest : List Char) :
    Takes endList (b ++ ']' :: rest) () rest :=
  (takes_peekPastSpace hb rfl).bind (takes_skip ']' rest)

theorem takes_endObject (rest : List Char) : Takes endObject ('\x7d' :: rest) () rest :=
  (takes_peekPastSpace blank_nil rfl).bind (takes_skip '\x7d' rest)

theorem takes_colon (hb : Blank b) (rest : List Char) : Takes colon (b ++ ':' :: rest) () rest :=
  (takes_peekPastSpace hb rfl).bind (takes_skip ':' rest)

theorem takes_listOf {body : Nat → Reader α} (hb : Blank b)
    (h : Takes (body n) (cs ++ ']' :: rest) a (b ++ ']' :: rest)) :
    Takes (listOf (n + 1) body) ('[' :: (cs ++ ']' :: rest)) a rest :=
  (takes_skip '[' _).bind ((h.placed ']').bind ((takes_endList hb rest).bind (takes_pure a rest)))

theorem takes_objectOf {body : Nat → Reader α}
    (h : Takes (body n) (cs ++ '\x7d' :: rest) a ('\x7d' :: rest)) :
    Takes (objectOf (n + 1) body) ('\x7b' :: (cs ++ '\x7d' :: rest)) a rest :=
  (takes_skip '\x7b' _).bind ((h.placed '\x7d').bind ((takes_endObject rest).bind
    (takes_pure a rest)))

/-! ### The items of a list -/

theorem parted_bracket {c : Char} (h : c = ']' ∨ c = '\x7d') (rest : List Char) :
    Parted (c :: rest) := by
  obtain rfl | rfl := h <;> exact parted_cons ⟨by decide, by decide, by decide⟩ rest

/-- `items` takes the items behind the first one, each behind a comma. There are fewer of them than
fuel. -/
theorem takes_items_further {item : Reader α} (h : List.Forall₂ (Accepts item) parts as)
    (hstarts : ∀ part ∈ parts, Starts part) (hcs : Further parts cs)
    (hfuel : parts.length < fuel) (rest : List Char) :
    Takes (items item fuel false) (cs ++ ']' :: rest) as (']' :: rest) := by
  -- induction on the items behind the first one, of which each comes with its comma
  induction hcs generalizing as fuel with
  | nil blank =>
    cases h
    obtain ⟨fuel, rfl⟩ : ∃ k, fuel = k + 1 := ⟨fuel - 1, by omega⟩
    exact (takes_nextItem_end blank rest).bind (takes_pure [] _)
  | @cons part cs b b' parts before behind more ih =>
    cases h with
    | @cons _ a _ as hpart hparts =>
      obtain ⟨fuel, rfl⟩ : ∃ k, fuel = k + 1 := ⟨fuel - 1, by omega⟩
      have hstart : Starts part := hstarts part List.mem_cons_self
      have hrest : Parted (cs ++ ']' :: rest) := more.parted (parted_bracket (Or.inl rfl) rest)
      have htail := ih hparts (fun p hp => hstarts p (List.mem_cons_of_mem part hp))
        (Nat.lt_of_succ_lt_succ hfuel)
      simp only [List.append_assoc, List.cons_append]
      refine (takes_nextItem_comma before behind hstart _).bind ?_
      exact (hpart.takes hrest).bind (htail.bind (takes_pure _ _))

/-- `items` takes `Separated` parts in order, where the reader of an item `Accepts` each of them.
The induction is on the parts, and the fuel falls with each of them. -/
theorem takes_items {item : Reader α} (h : List.Forall₂ (Accepts item) parts as)
    (hstarts : ∀ part ∈ parts, Starts part) (hcs : Separated parts cs)
    (hfuel : parts.length < fuel) (rest : List Char) :
    Takes (items item fuel true) (cs ++ ']' :: rest) as (']' :: rest) := by
  cases hcs with
  | nil blank =>
    cases h
    obtain ⟨fuel, rfl⟩ : ∃ k, fuel = k + 1 := ⟨fuel - 1, by omega⟩
    exact (takes_nextItem_end blank rest).bind (takes_pure [] _)
  | @cons part cs b parts before more =>
    cases h with
    | @cons _ a _ as hpart hparts =>
      obtain ⟨fuel, rfl⟩ : ∃ k, fuel = k + 1 := ⟨fuel - 1, by omega⟩
      have hstart : Starts part := hstarts part List.mem_cons_self
      have hrest : Parted (cs ++ ']' :: rest) := more.parted (parted_bracket (Or.inl rfl) rest)
      -- the others follow commas, which the first one does not
      have htail := takes_items_further hparts
        (fun p hp => hstarts p (List.mem_cons_of_mem part hp)) more
        (Nat.lt_of_succ_lt_succ hfuel) rest
      simp only [List.append_assoc]
      refine (takes_nextItem_first before hstart _).bind ?_
      exact (hpart.takes hrest).bind (htail.bind (takes_pure _ _))

/-! ### The members of an object -/

theorem takes_nextName_end (hb : Blank b) (rest : List Char) :
    Takes (nextName first) (b ++ '\x7d' :: rest) none ('\x7d' :: rest) :=
  (takes_peekPastSpace hb rfl).bind (takes_pure none _)

theorem takes_name (h : Spells word.toList name) (rest : List Char) :
    Takes (Reader.name (some '"')) ('"' :: (name ++ '"' :: rest)) word rest := by
  have hquoted := takes_quoted h rest
  rwa [String.ofList_toList] at hquoted

theorem takes_nextName_first (hb : Blank b) (h : Spells word.toList name) (rest : List Char) :
    Takes (nextName true) (b ++ '"' :: (name ++ '"' :: rest)) (some word) rest :=
  (takes_peekPastSpace hb rfl).bind ((takes_name h rest).bind (takes_pure _ rest))

theorem takes_nextName_comma (hb : Blank b) (hb' : Blank b') (h : Spells word.toList name)
    (rest : List Char) :
    Takes (nextName false) (b ++ ',' :: (b' ++ '"' :: (name ++ '"' :: rest))) (some word) rest :=
  (takes_peekPastSpace hb rfl).bind ((takes_skip ',' _).bind
    ((takes_peekPastSpace hb' rfl).bind ((takes_name h rest).bind (takes_pure _ rest))))

/-- Behind the name of the member `m`, the reader `member s` takes the colon and the value, and
gives `s'`. -/
def StepsTo (member : σ → String → Reader σ) (s : σ) (m : String × Json) (s' : σ) : Prop :=
  ∀ b b' cs rest, Blank b → Blank b' → Writes m.2 cs → Parted rest →
    Takes (member s m.1) (b ++ ':' :: (b' ++ (cs ++ rest))) s' rest

/-- What `member` does with members, one after the other (`StepsTo`). -/
inductive Folds (member : σ → String → Reader σ) :
    σ → List (String × Json) → σ → Prop where
  /-- No members. -/
  | nil (s : σ) : Folds member s [] s
  /-- A member and those behind it. -/
  | cons {s s' s'' : σ} {m : String × Json} {ms : List (String × Json)}
      (step : StepsTo member s m s') (rest : Folds member s' ms s'') :
      Folds member s (m :: ms) s''

theorem stepsTo_of_accepts {member : σ → String → Reader σ} {f : Unit → Reader σ}
    {m : String × Json} (hmember : member s m.1 = colon >>= f)
    (h : ∀ cs, Writes m.2 cs → Accepts (f ()) cs s') : StepsTo member s m s' := by
  intro b b' cs rest hb hb' hcs hrest
  rw [hmember]
  exact (takes_colon hb _).bind (h cs hcs b' rest hb' hrest)

/-- `foldMembers` goes through the members behind the first one, each behind a comma. -/
theorem takes_foldMembers_further {member : σ → String → Reader σ} (h : Folds member s ms s')
    (hms : List.Forall₂ WritesMember ms parts) (hcs : Further parts cs)
    (hfuel : parts.length < fuel) (rest : List Char) :
    Takes (foldMembers member fuel false s) (cs ++ '\x7d' :: rest) s' ('\x7d' :: rest) := by
  induction hcs generalizing s ms fuel with
  | nil blank =>
    cases hms
    cases h
    obtain ⟨fuel, rfl⟩ : ∃ k, fuel = k + 1 := ⟨fuel - 1, by omega⟩
    exact (takes_nextName_end blank rest).bind (takes_pure _ _)
  | @cons part cs b b' parts before behind more ih =>
    cases hms with
    | cons hm hms =>
      cases h with
      | cons step hfolds =>
        obtain ⟨fuel, rfl⟩ : ∃ k, fuel = k + 1 := ⟨fuel - 1, by omega⟩
        have hrest : Parted (cs ++ '\x7d' :: rest) := more.parted (parted_bracket (Or.inr rfl) rest)
        have htail := ih hfolds hms (Nat.lt_of_succ_lt_succ hfuel)
        cases hm with
        | mk spells inner outer value =>
          -- the step for the first member, in this spelling of it
          have hstep := step _ _ _ _ inner outer value hrest
          simp only [List.append_assoc, List.cons_append]
          exact (takes_nextName_comma before behind spells _).bind (hstep.bind htail)

/-- `foldMembers` takes the members of an object in order, with the steps of `Folds`. The induction
is on the members. -/
theorem takes_foldMembers {member : σ → String → Reader σ} (h : Folds member s ms s')
    (hms : List.Forall₂ WritesMember ms parts) (hcs : Separated parts cs)
    (hfuel : parts.length < fuel) (rest : List Char) :
    Takes (foldMembers member fuel true s) (cs ++ '\x7d' :: rest) s' ('\x7d' :: rest) := by
  cases hcs with
  | nil blank =>
    cases hms
    cases h
    obtain ⟨fuel, rfl⟩ : ∃ k, fuel = k + 1 := ⟨fuel - 1, by omega⟩
    exact (takes_nextName_end blank rest).bind (takes_pure _ _)
  | @cons part cs b parts before more =>
    cases hms with
    | cons hm hms =>
      cases h with
      | cons step hfolds =>
        obtain ⟨fuel, rfl⟩ : ∃ k, fuel = k + 1 := ⟨fuel - 1, by omega⟩
        have hrest : Parted (cs ++ '\x7d' :: rest) := more.parted (parted_bracket (Or.inr rfl) rest)
        -- the others follow commas, which the first one does not
        have htail := takes_foldMembers_further hfolds hms more (Nat.lt_of_succ_lt_succ hfuel) rest
        cases hm with
        | mk spells inner outer value =>
          have hstep := step _ _ _ _ inner outer value hrest
          simp only [List.append_assoc, List.cons_append]
          exact (takes_nextName_first before spells _).bind (hstep.bind htail)

/-! ### Any value -/

theorem isScalar_of_isNumber {c : Char} (h : c = '-' ∨ c.isDigit = true) :
    c ≠ 'n' ∧ c ≠ 't' ∧ c ≠ 'f' ∧ c ≠ '"' ∧ c ≠ '[' ∧ c ≠ '\x7b' := by
  obtain rfl | h := h
  · decide
  · refine ⟨?_, ?_, ?_, ?_, ?_, ?_⟩ <;> rintro rfl <;> cases h

theorem isSpace_of_isNumber {c : Char} (h : c = '-' ∨ c.isDigit = true) : isSpace c = false := by
  obtain rfl | h := h
  · rfl
  · cases Starts.of_isDigit h [] with
    | cons blank => exact blank

/-- `scalar` takes the number at which the reader stands. -/
theorem takes_scalar_number {c : Char} {x : Numeral} (h : IsNumber (c :: cs))
    (hread : numeral.run (String.ofList (c :: cs)) = .ok x) (hrest : Parted rest) :
    Takes (scalar c) (c :: (cs ++ rest)) x.toJson rest := by
  obtain ⟨c', cs', hcs, hc⟩ := h.starts
  cases hcs
  obtain ⟨hn, ht, hf, hquote, -, -⟩ := isScalar_of_isNumber hc
  rw [scalar, if_neg hn, if_neg ht, if_neg hf, if_neg hquote, if_pos hc]
  exact (takes_numeral h hread hrest).bind (takes_pure _ rest)

/-- `valueAround` accepts a scalar, whatever reads what is inside of lists and objects. -/
theorem accepts_valueAround_scalar (inner : Option (Reader Json)) (h : Writes v cs)
    (hv : IsScalar v) : Accepts (valueAround inner) cs v := by
  intro b rest hb hrest
  -- a scalar is told by its first character, which opens nothing
  have hscalar : ∀ {c cs}, isSpace c = false → c ≠ '[' ∧ c ≠ '\x7b' →
      Takes (scalar c) (c :: cs) v rest → Takes (valueAround inner) (b ++ c :: cs) v rest := by
    rintro c cs hspace ⟨hlist, hobject⟩ htakes
    refine (takes_peekPastSpace hb hspace).bind ?_
    dsimp only
    rw [if_neg fun h => h.elim hlist hobject]
    exact htakes
  -- `numeral` was run on the number alone, and is run again with the rest behind it
  have hnumber : ∀ {x : Numeral} {cs}, IsNumber cs →
      numeral.run (String.ofList cs) = .ok x → x.toJson = v →
        Takes (valueAround inner) (b ++ (cs ++ rest)) v rest := by
    intro x cs form read hx
    obtain ⟨c, cs, rfl, hc⟩ := form.starts
    obtain ⟨-, -, -, -, hlist, hobject⟩ := isScalar_of_isNumber hc
    refine hscalar (isSpace_of_isNumber hc) ⟨hlist, hobject⟩ ?_
    rw [← hx]
    exact takes_scalar_number form read hrest
  cases h with
  | null =>
    refine hscalar rfl (by decide) ?_
    rw [scalar, if_pos rfl]
    exact (takes_skip 'n' _).bind ((takes_word _ rest).bind (takes_pure _ rest))
  | true =>
    refine hscalar rfl (by decide) ?_
    rw [scalar, if_neg (by decide), if_pos rfl]
    exact (takes_skip 't' _).bind ((takes_word _ rest).bind (takes_pure _ rest))
  | false =>
    refine hscalar rfl (by decide) ?_
    rw [scalar, if_neg (by decide), if_neg (by decide), if_pos rfl]
    exact (takes_skip 'f' _).bind ((takes_word _ rest).bind (takes_pure _ rest))
  | int form read => exact hnumber form read rfl
  | float form read => exact hnumber form read rfl
  | @text s cs spells =>
    have hquoted := takes_name spells rest
    rw [List.cons_append, List.append_assoc]
    refine hscalar rfl (by decide) ?_
    rw [scalar, if_neg (by decide), if_neg (by decide), if_neg (by decide), if_pos rfl]
    exact hquoted.bind (takes_pure _ rest)
  | list | object => exact hv.elim

theorem starts_of_writes (h : List.Forall₂ Writes vs parts) :
    ∀ part ∈ parts, Starts part := by
  induction h with
  | nil => exact nofun
  | cons hv _ ih => exact List.forall_mem_cons.2 ⟨hv.starts, ih⟩

theorem starts_of_writesMember (h : List.Forall₂ WritesMember ms parts) :
    ∀ part ∈ parts, Starts part := by
  induction h with
  | nil => exact nofun
  | cons hm _ ih => exact List.forall_mem_cons.2 ⟨hm.starts, ih⟩

/-- A reader that accepts all texts of each item `Accepts` the parts. -/
theorem accepts_of_writes {r : Reader α} (h : List.Forall₂ Writes vs parts)
    (hr : List.Forall₂ (fun v a => ∀ cs, Writes v cs → Accepts r cs a) vs as) :
    List.Forall₂ (Accepts r) parts as := by
  induction h generalizing as with
  | nil =>
    cases hr
    exact .nil
  | cons hv _ ih =>
    cases hr with
    | cons ha has => exact .cons (ha _ hv) (ih has)

theorem length_lt_fuel (h : Separated parts cs) (hstarts : ∀ part ∈ parts, Starts part)
    (rest : List Char) : parts.length < (cs ++ rest).length + 1 := by
  have hlength := h.length_le hstarts
  rw [List.length_append]
  omega

/-- An object is taken by a reader that folds over the members and then checks the result. -/
theorem takes_object (member : Nat → σ → String → Reader σ) (check : σ → Except ShapeFault α)
    (h : Folds (member n) s ms s') (hcheck : check s' = .ok a) (hcs : Writes (.object ms) cs) :
    ∃ tail, cs = '\x7b' :: tail ∧ ∀ rest, Takes (objectOf (n + 1) fun n => do
      let found ← foldMembers (member n) (← Reader.fuel) true s
      ofExcept (check found)) ('\x7b' :: (tail ++ rest)) a rest := by
  cases hcs with
  | @object ms parts cs members separated =>
    refine ⟨cs ++ ['\x7d'], rfl, fun rest => ?_⟩
    have hfuel := length_lt_fuel separated (starts_of_writesMember members) ('\x7d' :: rest)
    have hmembers := takes_foldMembers h members separated hfuel rest
    rw [List.append_assoc]
    refine takes_objectOf ?_
    exact (takes_fuel _).bind (hmembers.bind (takes_ofExcept hcheck _))

/-- `member` puts the members of an object one behind the other. -/
theorem folds_member {inner : Reader Json} (acc : List (String × Json))
    (h : ∀ m ∈ ms, ∀ cs, Writes m.2 cs → Accepts inner cs m.2) :
    Folds (member inner) acc ms (acc ++ ms) := by
  induction ms generalizing acc with
  | nil =>
    rw [List.append_nil]
    exact .nil acc
  | cons m ms ih =>
    have hstep : StepsTo (member inner) acc m (acc ++ [m]) := by
      refine stepsTo_of_accepts rfl fun cs hcs b rest hb hrest => ?_
      exact (h m List.mem_cons_self cs hcs b rest hb hrest).bind (takes_pure _ rest)
    have hrest := ih (acc ++ [m]) fun m' hm' => h m' (List.mem_cons_of_mem m hm')
    rw [List.append_assoc] at hrest
    exact .cons hstep hrest

/-- `value n` accepts every value that is `Within n`. By induction on the depth: one level of lists
and objects costs one unit of fuel. -/
theorem accepts_value (hv : Within n v) (h : Writes v cs) : Accepts (value n) cs v := by
  -- induction on the depth, as what stands inside is read with one less
  induction n generalizing v cs with
  | zero =>
    refine accepts_valueAround_scalar none h ?_
    cases h with
    | null | true | false | int | float | text => exact trivial
    | list | object => exact hv
  | succ n ih =>
    have hscalar := accepts_valueAround_scalar (some (value n)) h
    intro b rest hb hrest
    cases h with
    | null | true | false | int | float | text => exact hscalar trivial b rest hb hrest
    | @list vs parts cs items separated =>
      have hall : List.Forall₂ (Accepts (value n)) parts vs :=
        accepts_of_writes items (List.forall₂_same.2 fun v hmem cs => ih (hv v hmem))
      have hfuel := length_lt_fuel separated (starts_of_writes items) (']' :: rest)
      have hitems := takes_items hall (starts_of_writes items) separated hfuel rest
      rw [List.cons_append, List.append_assoc]
      refine (takes_peekPastSpace hb rfl).bind ((takes_skip '[' _).bind ?_)
      refine (takes_fuel _).bind (hitems.bind ?_)
      exact (takes_endList blank_nil rest).bind (takes_pure _ rest)
    | @object ms parts cs members separated =>
      have hfolds : Folds (member (value n)) [] ms ms :=
        folds_member [] fun m hmem cs => ih (hv m hmem)
      have hfuel := length_lt_fuel separated (starts_of_writesMember members) ('\x7d' :: rest)
      have hmembers := takes_foldMembers hfolds members separated hfuel rest
      rw [List.cons_append, List.append_assoc]
      refine (takes_peekPastSpace hb rfl).bind ((takes_skip '\x7b' _).bind ?_)
      exact (takes_fuel _).bind (hmembers.bind ((takes_endObject rest).bind (takes_pure _ rest)))

/-! ### Passing over values -/

theorem takes_skipScalar_number {c : Char} (h : IsNumber (c :: cs)) (hrest : Parted rest) :
    Takes (skipScalar c) (c :: (cs ++ rest)) () rest := by
  obtain ⟨c', cs', hcs, hc⟩ := h.starts
  cases hcs
  obtain ⟨hn, ht, hf, hquote, -, -⟩ := isScalar_of_isNumber hc
  rw [skipScalar, if_neg hn, if_neg ht, if_neg hf, if_neg hquote, if_pos hc]
  exact takes_skipNumeral h hrest

/-- `skipValueFrom` accepts a scalar with any fuel. -/
theorem accepts_skipValueFrom_scalar (fuel : Nat) (h : Writes v cs) (hv : IsScalar v) :
    Accepts (skipValueFrom (fuel + 1)) cs () := by
  intro b rest hb hrest
  -- a scalar is told by its first character, which opens nothing
  have hscalar : ∀ {c cs}, isSpace c = false → c ≠ '[' ∧ c ≠ '\x7b' →
      Takes (skipScalar c) (c :: cs) () rest →
        Takes (skipValueFrom (fuel + 1)) (b ++ c :: cs) () rest := by
    rintro c cs hspace ⟨hlist, hobject⟩ htakes
    refine (takes_peekPastSpace hb hspace).bind ?_
    split
    · contradiction
    · exact absurd (Option.some.inj ‹_›) hlist
    · exact absurd (Option.some.inj ‹_›) hobject
    · rename_i h
      cases h
      exact htakes
  have hnumber : ∀ {cs}, IsNumber cs →
      Takes (skipValueFrom (fuel + 1)) (b ++ (cs ++ rest)) () rest := by
    intro cs form
    obtain ⟨c, cs, rfl, hc⟩ := form.starts
    obtain ⟨-, -, -, -, hlist, hobject⟩ := isScalar_of_isNumber hc
    exact hscalar (isSpace_of_isNumber hc) ⟨hlist, hobject⟩ (takes_skipScalar_number form hrest)
  cases h with
  | null =>
    refine hscalar rfl (by decide) ?_
    rw [skipScalar, if_pos rfl]
    exact (takes_skip 'n' _).bind (takes_word _ rest)
  | true =>
    refine hscalar rfl (by decide) ?_
    rw [skipScalar, if_neg (by decide), if_pos rfl]
    exact (takes_skip 't' _).bind (takes_word _ rest)
  | false =>
    refine hscalar rfl (by decide) ?_
    rw [skipScalar, if_neg (by decide), if_neg (by decide), if_pos rfl]
    exact (takes_skip 'f' _).bind (takes_word _ rest)
  | int form read => exact hnumber form
  | float form read => exact hnumber form
  | @text s cs spells =>
    have hquoted := takes_skipQuoted spells rest
    rw [List.cons_append, List.append_assoc]
    refine hscalar rfl (by decide) ?_
    rw [skipScalar, if_neg (by decide), if_neg (by decide), if_neg (by decide), if_pos rfl]
    exact hquoted
  | list | object => exact hv.elim

/-- `skipValueFrom` passes over every value, where each character needs `fuel` twice at most. -/
def SkipsValues (fuel : Nat) : Prop :=
  ∀ v cs, Writes v cs → 2 * cs.length ≤ fuel → Accepts (skipValueFrom fuel) cs ()

/-- `skipItems` passes over items up to the end of their list, with enough `fuel`. -/
def SkipsItems (fuel : Nat) : Prop :=
  ∀ v vs part parts cs b rest, Writes v part → List.Forall₂ Writes vs parts →
    Further parts cs → 2 * (part.length + cs.length) < fuel → Blank b →
      Takes (skipItems fuel) (b ++ (part ++ (cs ++ ']' :: rest))) () rest

/-- `skipMembers` passes over members up to the end of their object, with enough `fuel`. -/
def SkipsMembers (fuel : Nat) : Prop :=
  ∀ m ms part parts cs b rest, WritesMember m part → List.Forall₂ WritesMember ms parts →
    Further parts cs → 2 * (part.length + cs.length) < fuel → Blank b →
      Takes (skipMembers fuel) (b ++ (part ++ (cs ++ '\x7d' :: rest))) () rest

/-- `SkipsValues` with one unit of fuel more than for items and members. -/
theorem skipsValues_succ (hitems : SkipsItems fuel) (hmembers : SkipsMembers fuel) :
    SkipsValues (fuel + 1) := by
  intro v cs h hfuel b rest hb hrest
  have hscalar := accepts_skipValueFrom_scalar fuel h
  cases h with
  | null | true | false | int | float | text => exact hscalar trivial b rest hb hrest
  | @list vs parts cs items separated =>
    rw [List.cons_append, List.append_assoc]
    refine (takes_peekPastSpace hb rfl).bind ((takes_skip '[' _).bind ?_)
    cases separated with
    | nil blank => exact (takes_peekPastSpace blank rfl).bind (takes_skip ']' rest)
    | @cons part _ _ parts before more =>
      cases items with
      | @cons v _ vs _ hv hvs =>
        obtain ⟨c, hc, -, hpeek⟩ := takes_peekPastSpace_starts before hv.starts _
        -- the items are shorter than the list, so the fuel is enough
        simp only [List.length_cons, List.length_append, List.length_nil] at hfuel
        simp only [List.append_assoc]
        refine hpeek.bind ?_
        split
        · contradiction
        · exact absurd (Option.some.inj ‹_›) hc
        · exact hitems v vs part parts _ [] rest hv hvs more (by omega) blank_nil
  | @object ms parts cs members separated =>
    rw [List.cons_append, List.append_assoc]
    refine (takes_peekPastSpace hb rfl).bind ((takes_skip '\x7b' _).bind ?_)
    cases separated with
    | nil blank => exact (takes_peekPastSpace blank rfl).bind (takes_skip '\x7d' rest)
    | @cons part _ _ parts before more =>
      cases members with
      | @cons m _ ms _ hm hms =>
        obtain ⟨c, -, hc, hpeek⟩ := takes_peekPastSpace_starts before hm.starts _
        -- likewise the members of an object
        simp only [List.length_cons, List.length_append, List.length_nil] at hfuel
        simp only [List.append_assoc]
        refine hpeek.bind ?_
        split
        · contradiction
        · exact absurd (Option.some.inj ‹_›) hc
        · exact hmembers m ms part parts _ [] rest hm hms more (by omega) blank_nil

/-- `SkipsItems` with one unit of fuel more than for one item and those that follow. -/
theorem skipsItems_succ (hvalues : SkipsValues fuel) (hitems : SkipsItems fuel) :
    SkipsItems (fuel + 1) := by
  intro v vs part parts cs b rest hv hvs hcs hfuel hb
  have hrest : Parted (cs ++ ']' :: rest) := hcs.parted (parted_bracket (Or.inl rfl) rest)
  -- one item, and then the end of the list or a comma
  refine (hvalues v part hv (by omega) b _ hb hrest).bind ?_
  cases hcs with
  | nil blank => exact (takes_peekPastSpace blank rfl).bind (takes_skip ']' rest)
  | @cons part' cs b b' parts before behind more =>
    cases hvs with
    | cons hv' hvs =>
      simp only [List.length_append, List.length_cons] at hfuel
      simp only [List.append_assoc, List.cons_append]
      refine (takes_peekPastSpace before rfl).bind ((takes_skip ',' _).bind ?_)
      exact hitems _ _ part' parts cs b' rest hv' hvs more (by omega) behind

/-- `SkipsMembers` with one unit of fuel more than for one member and those that follow. -/
theorem skipsMembers_succ (hvalues : SkipsValues fuel) (hmembers : SkipsMembers fuel) :
    SkipsMembers (fuel + 1) := by
  intro m ms part parts cs b rest hm hms hcs hfuel hb
  have hrest : Parted (cs ++ '\x7d' :: rest) := hcs.parted (parted_bracket (Or.inr rfl) rest)
  cases hm with
  | @mk s v name value b₁ b₂ spells inner outer hvalue =>
    simp only [List.length_append, List.length_cons] at hfuel
    simp only [List.append_assoc, List.cons_append]
    refine (takes_peekPastSpace hb rfl).bind ((takes_skipQuoted spells _).bind ?_)
    refine (takes_colon inner _).bind ?_
    -- the value, and then the end of the object or a comma
    refine (hvalues v value hvalue (by omega) b₂ _ outer hrest).bind ?_
    cases hcs with
    | nil blank => exact (takes_peekPastSpace blank rfl).bind (takes_skip '\x7d' rest)
    | @cons part' cs b b' parts before behind more =>
      cases hms with
      | cons hm' hms =>
        simp only [List.length_append, List.length_cons] at hfuel
        simp only [List.append_assoc, List.cons_append]
        refine (takes_peekPastSpace before rfl).bind ((takes_skip ',' _).bind ?_)
        exact hmembers _ _ part' parts cs b' rest hm' hms more (by omega) behind

/-- The three mutual loops of skipping, by induction on the fuel that they share. -/
theorem skips (fuel : Nat) : SkipsValues fuel ∧ SkipsItems fuel ∧ SkipsMembers fuel := by
  -- the three readers call each other with one less, so they are followed together
  induction fuel with
  | zero =>
    refine ⟨fun v cs h hfuel => ?_, fun _ _ _ _ _ _ _ _ _ _ hfuel => ?_,
      fun _ _ _ _ _ _ _ _ _ _ hfuel => ?_⟩
    · cases h.starts with
      | cons => simp at hfuel
    · exact absurd hfuel (Nat.not_lt_zero _)
    · exact absurd hfuel (Nat.not_lt_zero _)
  | succ fuel ih =>
    obtain ⟨hvalues, hitems, hmembers⟩ := ih
    exact ⟨skipsValues_succ hitems hmembers, skipsItems_succ hvalues hitems,
      skipsMembers_succ hvalues hmembers⟩

/-- `skipValue` accepts every value, however deep it is. -/
theorem accepts_skipValue (h : Writes v cs) : Accepts skipValue cs () := by
  intro b rest hb hrest
  refine (takes_fuel _).bind ?_
  -- there is fuel for the whole text ahead, of which the value is only a part
  refine (skips _).1 v cs h ?_ b rest hb hrest
  simp only [List.length_append]
  omega

end Reader

/-! ### Printing -/

/-- No `.float` stands in a value. -/
inductive FloatFree : Json → Prop where
  /-- The empty value. -/
  | null : FloatFree .null
  /-- A truth value. -/
  | bool (b : Bool) : FloatFree (.bool b)
  /-- A whole number. -/
  | int (n : JsonInt) : FloatFree (.int n)
  /-- A text. -/
  | text (s : String) : FloatFree (.text s)
  /-- A list of such values. -/
  | list {vs : List Json} (items : ∀ v ∈ vs, FloatFree v) : FloatFree (.list vs)
  /-- An object of such values. -/
  | object {ms : List (String × Json)} (members : ∀ m ∈ ms, FloatFree m.2) :
      FloatFree (.object ms)

/-- `commaSeparated` puts commas between the parts, and nothing else. -/
theorem separated_commaSeparated (parts : List (List Char)) :
    Separated parts (commaSeparated parts) := by
  induction parts with
  | nil => exact .nil blank_nil
  | cons part parts ih =>
    cases parts with
    | nil =>
      have hone : Separated [part] ([] ++ (part ++ [])) := .cons blank_nil (.nil blank_nil)
      rwa [List.nil_append, List.append_nil] at hone
    | cons part' parts =>
      -- what is separated comes behind one part more and a comma
      have hmore : ∀ cs, Separated (part' :: parts) cs →
          Separated (part :: part' :: parts) ([] ++ (part ++ ([] ++ ',' :: cs))) := by
        intro cs h
        cases h with
        | cons before more => exact .cons blank_nil (.cons blank_nil before more)
      exact hmore _ ih

theorem writes_renderText (s : String) : Writes (.text s) (renderText s) :=
  .text (spells_escape s.toList)

/-- `renderChars` writes every value that is `FloatFree`. -/
theorem writes_renderChars {v : Json} (h : FloatFree v) : Writes v v.renderChars := by
  induction h with
  | null => exact .null
  | bool b =>
    cases b with
    | true => exact .true
    | false => exact .false
  | int n => exact writes_renderInt n
  | text s => exact writes_renderText s
  | @list vs items ih =>
    -- the induction on the value speaks of each item, and this one is on their list
    have hparts : List.Forall₂ Writes vs (renderItems vs) := by
      clear items
      induction vs with
      | nil => exact .nil
      | cons v vs ihvs =>
        exact .cons (ih v List.mem_cons_self) (ihvs fun w hw => ih w (List.mem_cons_of_mem v hw))
    exact .list hparts (separated_commaSeparated _)
  | @object ms members ih =>
    have hparts : List.Forall₂ WritesMember ms (renderMembers ms) := by
      clear members
      induction ms with
      | nil => exact .nil
      | cons m ms ihms =>
        obtain ⟨name, v⟩ := m
        have hmember : WritesMember (name, v) (renderText name ++ ':' :: v.renderChars) := by
          -- the printer puts no blanks around the colon
          have hwrites : WritesMember (name, v) ('"' :: (name.toList.flatMap escape ++
              '"' :: ([] ++ ':' :: ([] ++ v.renderChars)))) :=
            .mk (spells_escape name.toList) blank_nil blank_nil (ih (name, v) List.mem_cons_self)
          rw [renderText, List.cons_append, List.append_assoc]
          exact hwrites
        exact .cons hmember (ihms fun w hw => ih w (List.mem_cons_of_mem (name, v) hw))
    exact .object hparts (separated_commaSeparated _)

theorem isText_render {v : Json} (h : FloatFree v) : IsText v v.render := by
  have htext : IsText v (String.ofList ([] ++ (v.renderChars ++ []))) :=
    .mk blank_nil blank_nil (writes_renderChars h)
  rwa [List.nil_append, List.append_nil] at htext

end GroupChat.Json
