import GroupChat.Json.Tagged
import GroupChat.Proofs.Json.Canonical
import GroupChat.Proofs.Json.Numbers

/-!
# What readers yield

Whatever text is read, the value that comes of it has some properties: the lists and objects in it
do not stand deeper inside each other than allowed, the members of its objects are sorted where this
is promised, and an optional value that is there is not the empty one.

## Main definitions

- `Reader.Yields`: whatever a reader gives has a property.
- `Decoder.Yields`: whatever is read of a type has a property.
- `Traits`: a property for each field of a record.

## Main statements

- `yields_value`: values are within the limit.
- `yields_optional_any`: optional values are sorted and not the empty one.
- `Record.yields`, `Tagged.yields`: what holds of the parts holds of the value.
-/

namespace GroupChat.Json

namespace Reader

variable {α β σ : Type} {r : Reader α} {f : α → Reader β} {P : α → Prop} {Q : β → Prop}
  {I : σ → Prop} {n : Nat}

/-- Whatever the reader `r` gives has the property `P`. -/
def Yields (r : Reader α) (P : α → Prop) : Prop := ∀ c a c', r c = .ok (a, c') → P a

/-! ### Single steps -/

theorem Yields.bind (h : Yields r P) (hf : ∀ a, P a → Yields (f a) Q) : Yields (r >>= f) Q := by
  intro c b c' hc
  obtain ⟨a, c'', ha, hb⟩ := bind_eq_ok hc
  exact hf a (h c a c'' ha) c'' b c' hb

/-- A reader that never succeeds yields anything at all. -/
theorem Yields.stop (h : Yields r fun _ => False) : Yields (r >>= f) Q :=
  h.bind fun _ ha => ha.elim

theorem yields_bind (r : Reader α) (hf : ∀ a, Yields (f a) Q) : Yields (r >>= f) Q := by
  intro c b c' hc
  obtain ⟨a, c'', -, hb⟩ := bind_eq_ok hc
  exact hf a c'' b c' hb

theorem yields_pure {a : α} (h : P a) : Yields (pure a : Reader α) P := by
  intro c a' c' hc
  cases hc
  exact h

theorem Yields.mono {P' : α → Prop} (h : Yields r P) (hP : ∀ a, P a → P' a) : Yields r P' :=
  fun c a c' hc => hP a (h c a c' hc)

theorem Yields.map {g : α → β} (h : Yields r fun a => Q (g a)) : Yields (g <$> r) Q :=
  Yields.bind h fun _ ha => yields_pure ha

theorem yields_failHere (fault : FormFault) : Yields (failHere fault : Reader α) P := nofun

theorem yields_failNext (fault : FormFault) : Yields (failNext fault : Reader α) P := nofun

theorem yields_misfit (fault : ShapeFault) : Yields (misfit fault : Reader α) P := nofun

theorem yields_misfitHere (fault : ShapeFault) : Yields (misfitHere fault : Reader α) P := nofun

theorem Yields.of_run {text : String} {a : α} (h : Yields r P) (hrun : r.run text = .ok a) :
    P a := by
  rw [← String.ofList_toList (s := text)] at hrun
  obtain ⟨p, c, hgives⟩ := gives_of_run hrun
  exact h _ a c hgives

theorem yields_ofExcept {e : Except ShapeFault α} (h : ∀ a, e = .ok a → P a) :
    Yields (ofExcept e) P := by
  cases e with
  | ok a => exact yields_pure (h a rfl)
  | error fault => exact yields_misfit fault

theorem yields_ofExceptHere {e : Except ShapeFault α} (h : ∀ a, e = .ok a → P a) :
    Yields (ofExceptHere e) P := by
  cases e with
  | ok a => exact yields_pure (h a rfl)
  | error fault => exact yields_misfitHere fault

/-- `placed` adds a position to faults only. -/
theorem Yields.placed (h : Yields r P) (close : Char) : Yields (placed close r) P := by
  intro c a c' hc
  rw [Reader.placed] at hc
  cases hr : r c with
  | ok x =>
    rw [hr] at hc
    cases hc
    exact h c a c' hr
  | error e =>
    rw [hr] at hc
    obtain ⟨cause, place⟩ := e
    cases place <;> cases hc

/-! ### Lists and objects -/

/-- `items` yields what its parts yield. -/
theorem yields_items {item : Reader α} (h : Yields item P) (fuel : Nat) (first : Bool) :
    Yields (items item fuel first) fun as => ∀ a ∈ as, P a := by
  induction fuel generalizing first with
  | zero => exact yields_failNext _
  | succ fuel ih =>
    refine yields_bind _ fun more => ?_
    cases more with
    | true =>
      refine h.bind fun a ha => (ih false).bind fun as has => ?_
      exact yields_pure (List.forall_mem_cons.2 ⟨ha, has⟩)
    | false => exact yields_pure fun _ h => absurd h List.not_mem_nil

/-- `foldMembers` preserves what every member preserves. -/
theorem yields_foldMembers {member : σ → String → Reader σ} {s : σ} (hs : I s)
    (h : ∀ s name, I s → Yields (member s name) I) (fuel : Nat) (first : Bool) :
    Yields (foldMembers member fuel first s) I := by
  induction fuel generalizing first s with
  | zero => exact yields_failNext _
  | succ fuel ih =>
    refine yields_bind _ fun next => ?_
    cases next with
    | some name => exact (h s name hs).bind fun s' hs' => ih hs' false
    | none => exact yields_pure hs

theorem yields_listOf {body : Nat → Reader α} (h : ∀ k, n = k + 1 → Yields (body k) P) :
    Yields (listOf n body) P := by
  cases n with
  | zero => exact yields_failNext _
  | succ n =>
    refine yields_bind _ fun _ => ((h n rfl).placed ']').bind fun a ha => ?_
    exact yields_bind _ fun _ => yields_pure ha

theorem yields_objectOf {body : Nat → Reader α} (h : ∀ k, n = k + 1 → Yields (body k) P) :
    Yields (objectOf n body) P := by
  cases n with
  | zero => exact yields_failNext _
  | succ n =>
    refine yields_bind _ fun _ => ((h n rfl).placed '\x7d').bind fun a ha => ?_
    exact yields_bind _ fun _ => yields_pure ha

/-! ### Values -/

/-- `scalar` yields scalars, and `null` only for the letter that it begins with. -/
theorem yields_scalar (c : Char) :
    Yields (scalar c) fun v => IsScalar v ∧ (v = .null → c = 'n') := by
  unfold scalar
  split_ifs with hn
  · exact yields_bind _ fun _ => yields_bind _ fun _ => yields_pure ⟨trivial, fun _ => hn⟩
  · exact yields_bind _ fun _ => yields_bind _ fun _ => yields_pure ⟨trivial, nofun⟩
  · exact yields_bind _ fun _ => yields_bind _ fun _ => yields_pure ⟨trivial, nofun⟩
  · exact yields_bind _ fun _ => yields_pure ⟨trivial, nofun⟩
  · refine yields_bind _ fun x => yields_pure ?_
    cases x <;> exact ⟨trivial, nofun⟩
  · exact yields_failNext _

theorem yields_misplaced (expected : String) : Yields (misplaced expected : Reader α) P := by
  refine yields_bind _ fun c => ?_
  split
  · exact yields_failNext _
  · exact yields_misfitHere _
  · exact yields_misfitHere _
  · exact yields_bind _ fun _ => yields_misfitHere _

/-- `value n` yields values that are `Within n`. -/
theorem yields_value (n : Nat) : Yields (value n) (Within n) := by
  -- a value that is no list and no object is within any bound
  have hscalar : ∀ n c, Yields (scalar c) (Within n) := fun n c =>
    (yields_scalar c).mono fun v hv => within_of_isScalar hv.1
  induction n with
  | zero =>
    refine yields_bind _ fun c => ?_
    split
    · exact yields_failNext _
    · split_ifs
      · exact yields_failNext _
      · exact yields_failNext _
      · exact hscalar 0 _
  | succ n ih =>
    refine yields_bind _ fun c => ?_
    split
    · exact yields_failNext _
    · split_ifs
      · refine yields_bind _ fun _ => yields_bind _ fun fuel => ?_
        refine (yields_items ih fuel true).bind fun vs hvs => yields_bind _ fun _ => ?_
        exact yields_pure hvs
      · refine yields_bind _ fun _ => yields_bind _ fun fuel => ?_
        have hmember : ∀ (ms : List (String × Json)) name, (∀ m ∈ ms, Within n m.2) →
            Yields (member (value n) ms name) fun ms => ∀ m ∈ ms, Within n m.2 := by
          refine fun ms name hms => yields_bind _ fun _ => ih.bind fun v hv => yields_pure ?_
          intro m hm
          obtain hm | hm := List.mem_append.1 hm
          · exact hms m hm
          · cases List.mem_singleton.1 hm
            exact hv
        refine (yields_foldMembers (fun _ h => absurd h List.not_mem_nil) hmember fuel true).bind
          fun ms hms => yields_bind _ fun _ => ?_
        exact yields_pure hms
      · exact hscalar _ _

/-! ### The empty value -/

/-- `pastSpace` stops where it would not go on. -/
theorem pastSpace_pastSpace (p : Position) (cs : List Char) :
    Cursor.pastSpace (Cursor.pastSpace p cs).position (Cursor.pastSpace p cs).rest =
      Cursor.pastSpace p cs := by
  induction cs generalizing p with
  | nil => rfl
  | cons c cs ih =>
    rw [Cursor.pastSpace]
    split_ifs with hc
    · exact ih _
    · rw [Cursor.pastSpace, if_neg hc]

/-- `peekPastSpace` shows the same a second time. -/
theorem peekPastSpace_again {c c' : Cursor} {x : Option Char}
    (h : peekPastSpace c = .ok (x, c')) : peekPastSpace c' = .ok (x, c') := by
  have hpeek : ∀ c, peekPastSpace c = .ok ((Cursor.pastSpace c.position c.rest).rest.head?,
      Cursor.pastSpace c.position c.rest) := fun _ => rfl
  rw [hpeek] at h
  cases h
  rw [hpeek, pastSpace_pastSpace]

theorem yields_listTail (inner : Reader Json) : Yields (listTail inner) (· ≠ .null) :=
  yields_bind _ fun _ => yields_bind _ fun _ => yields_bind _ fun _ => yields_pure nofun

theorem yields_objectTail (inner : Reader Json) : Yields (objectTail inner) (· ≠ .null) :=
  yields_bind _ fun _ => yields_bind _ fun _ => yields_bind _ fun _ => yields_pure nofun

/-- `valueAround` gives `.null` only where an n is ahead. -/
theorem peek_of_valueAround_null {inner : Option (Reader Json)} {c c' : Cursor}
    (h : valueAround inner c = .ok (.null, c')) :
    ∃ c'', peekPastSpace c = .ok (some 'n', c'') := by
  obtain ⟨x, c'', hpeek, h⟩ := bind_eq_ok h
  split at h
  · cases h
  · split_ifs at h
    · split at h
      · cases h
      · obtain ⟨-, c₁, -, h⟩ := bind_eq_ok h
        -- a list is not the empty value
        exact absurd rfl (yields_listTail _ c₁ _ _ h)
    · split at h
      · cases h
      · obtain ⟨-, c₁, -, h⟩ := bind_eq_ok h
        -- neither is an object
        exact absurd rfl (yields_objectTail _ c₁ _ _ h)
    · cases (yields_scalar _ c'' .null c' h).2 rfl
      exact ⟨c'', hpeek⟩

theorem peek_of_value_null {c c' : Cursor} (h : value n c = .ok (.null, c')) :
    ∃ c'', peekPastSpace c = .ok (some 'n', c'') := by
  cases n with
  | zero => exact peek_of_valueAround_null h
  | succ n => exact peek_of_valueAround_null h

end Reader

open Reader

variable {α β γ : Type} {ts : List Type} {n : Nat} {P : α → Prop} {Q : β → Prop}

/-! ### Shapes -/

/-- Whatever `d` reads of a type, from a text or a value of depth `n`, has the property `P`. -/
structure Decoder.Yields (d : Decoder α) (n : Nat) (P : α → Prop) : Prop where
  /-- From a text. -/
  read : (d.read n).Yields P
  /-- From a value at hand. -/
  ofJson : ∀ origin v a, Within n v → d.ofJson origin v = .ok a → P a

theorem Decoder.yields_of_forall {d : Decoder α} (h : ∀ a, P a) (n : Nat) : d.Yields n P where
  read _ a _ _ := h a
  ofJson _ _ a _ _ := h a

/-- What `map` makes of what is read. -/
theorem Decoder.Yields.map {d : Decoder α} {f : α → β} (h : d.Yields n fun a => Q (f a)) :
    (d.map f).Yields n Q where
  read := h.read.map
  ofJson origin v b hv hb := by
    obtain ⟨a, ha, rfl⟩ := of_map_eq_ok hb
    exact h.ofJson origin v a hv ha

namespace Shape

/-- `optional any` yields no `.null`, and only values that are `Sound`. -/
theorem yields_optional_any (n : Nat) :
    (optional any).Yields n fun result => ∀ v, result = some v → Sound n v where
  read c result c' h := by
    obtain ⟨x, c'', hpeek, h⟩ := bind_eq_ok h
    split at h
    · -- the word for the empty value was read
      have hnone : Yields (do skip; word ['u', 'l', 'l']; pure none : Reader (Option Json))
          (· = none) :=
        yields_bind _ fun _ => yields_bind _ fun _ => yields_pure rfl
      rw [hnone c'' result c' h]
      exact nofun
    · rename_i hx
      obtain ⟨v, c₁, hv, h⟩ := bind_eq_ok h
      cases h
      obtain ⟨w, c₂, hw, h⟩ := bind_eq_ok hv
      cases h
      rintro _ ⟨⟩
      refine sound_canonical (yields_value n _ _ _ hw) ?_
      -- a value that begins otherwise is not empty
      rintro rfl
      obtain ⟨c₃, hc₃⟩ := peek_of_value_null hw
      cases (peekPastSpace_again hpeek).symm.trans hc₃
      exact hx rfl
  ofJson origin v result hv h := by
    cases v with
    | null =>
      cases h
      exact nofun
    | bool | int | float | text | list | object =>
      cases h
      rintro _ ⟨⟩
      exact sound_canonical hv nofun

end Shape

/-! ### Records -/

/-- A property for the values of each of the types `ts`. -/
def Traits : List Type → Type
  | [] => Unit
  | t :: ts => (t → Prop) × Traits ts

/-- All values of a `Row` have their properties. -/
def Row.All : {ts : List Type} → Traits ts → Row ts → Prop
  | [], _, _ => True
  | _ :: _, (P, traits), (a, row) => P a ∧ Row.All traits row

/-- All values in the `Slots` have their properties. -/
def Slots.All : {ts : List Type} → Traits ts → Slots ts → Prop
  | [], _, _ => True
  | _ :: _, (P, traits), (slot, slots) => (∀ a, slot = some a → P a) ∧ Slots.All traits slots

theorem Slots.all_empty (traits : Traits ts) : Slots.All traits (Slots.empty ts) := by
  induction ts with
  | nil => exact trivial
  | cons t ts ih => exact ⟨nofun, ih traits.2⟩

namespace Members

/-- Whatever is read of a field has its property (`Decoder.Yields`), and so has its fallback. -/
def Yield (n : Nat) : {ts : List Type} → Members ts → Traits ts → Prop
  | [], .nil, _ => True
  | _ :: _, .cons f rest, (P, traits) =>
    f.shape.Yields n P ∧ (∀ a, f.fallback = some a → P a) ∧ rest.Yield n traits

variable {fields : Members ts} {traits : Traits ts} {slots : Slots ts}

/-- `readInto?` puts into a slot only what its member yields. -/
theorem yields_readInto? {name : String} {r : Reader (Slots ts)} (h : fields.Yield n traits)
    (hslots : Slots.All traits slots) (hr : fields.readInto? n name slots = some r) :
    r.Yields (Slots.All traits) := by
  induction fields with
  | nil => cases hr
  | cons f rest ih =>
    obtain ⟨P, traits⟩ := traits
    obtain ⟨slot, slots⟩ := slots
    obtain ⟨hf, -, hrest⟩ := h
    rw [readInto?] at hr
    split_ifs at hr
    · cases hr
      -- a second member for a field is a fault
      exact (yields_misfit _).stop
    · cases hr
      refine yields_bind _ fun _ => ?_
      refine hf.read.bind fun a ha => yields_pure ?_
      refine ⟨?_, hslots.2⟩
      rintro _ ⟨⟩
      exact ha
    · obtain ⟨r', hr', rfl⟩ := Option.map_eq_some_iff.1 hr
      exact (ih hrest hslots.2 hr').bind fun slots' h => yields_pure ⟨hslots.1, h⟩

/-- `putInto` puts into a slot only what its member yields. -/
theorem all_of_putInto {origin : Origin} {name : String} {v : Json} {slots' : Slots ts}
    (h : fields.Yield n traits) (hslots : Slots.All traits slots) (hv : Within n v)
    (hput : fields.putInto origin name v slots = .ok slots') : Slots.All traits slots' := by
  induction fields with
  | nil => exact trivial
  | cons f rest ih =>
    obtain ⟨P, traits⟩ := traits
    obtain ⟨slot, slots⟩ := slots
    obtain ⟨hf, -, hrest⟩ := h
    by_cases hname : f.answersTo name = true
    · cases slot with
      | none =>
        rw [putInto, if_pos hname] at hput
        obtain ⟨a, ha, hput⟩ := of_bind_eq_ok hput
        cases hput
        refine ⟨?_, hslots.2⟩
        rintro _ ⟨⟩
        exact hf.ofJson origin v a hv ha
      | some a =>
        rw [putInto, if_pos hname] at hput
        cases hput
    · -- the member is for one of the other fields, whatever is in the first slot
      have hput' : (rest.putInto origin name v slots >>= fun slots => pure (slot, slots)) =
          .ok slots' := by
        cases slot with
        | none => rwa [putInto, if_neg hname] at hput
        | some a => rwa [putInto, if_neg hname] at hput
      obtain ⟨slots'', hrest', hput'⟩ := of_bind_eq_ok hput'
      cases hput'
      exact ⟨hslots.1, ih hrest hslots.2 hrest'⟩

/-- `complete` makes a row of the slots and of fallbacks, all of which have the traits. -/
theorem all_of_complete {row : Row ts} (h : fields.Yield n traits)
    (hslots : Slots.All traits slots) (hrow : fields.complete slots = .ok row) :
    Row.All traits row := by
  induction fields with
  | nil => exact trivial
  | cons f rest ih =>
    obtain ⟨P, traits⟩ := traits
    obtain ⟨slot, slots⟩ := slots
    obtain ⟨-, hfallback, hrest⟩ := h
    rw [complete] at hrow
    split at hrow
    · cases hrow
    · rename_i a ha
      obtain ⟨row', hrow', hrow⟩ := of_bind_eq_ok hrow
      cases hrow
      refine ⟨?_, ih hrest hslots.2 hrow'⟩
      cases slot with
      -- the value is the fallback, or what was put into the slot
      | none => exact hfallback a ha
      | some a' => exact hslots.1 a ha

/-- `readItems` reads a row whose parts have the traits. -/
theorem yields_readItems (h : fields.Yield n traits) (expected : String) (index : Nat)
    (first : Bool) : (fields.readItems n expected index first).Yields (Row.All traits) := by
  induction fields generalizing index first with
  | nil => exact yields_pure trivial
  | cons f rest ih =>
    obtain ⟨P, traits⟩ := traits
    obtain ⟨hf, hfallback, hrest⟩ := h
    refine yields_bind _ fun more => ?_
    cases more with
    | true =>
      exact hf.read.bind fun a ha => (ih hrest _ _).bind fun row hrow => yields_pure ⟨ha, hrow⟩
    -- the list has ended
    | false =>
      cases hnone : f.fallback with
      | none => exact yields_misfit _
      | some a =>
        exact (ih hrest _ _).bind fun row hrow => yields_pure ⟨hfallback a hnone, hrow⟩

/-- `ofItems` makes a row whose parts have the traits. -/
theorem all_of_ofItems {origin : Origin} {expected : String} {index : Nat} {vs left : List Json}
    {row : Row ts} (h : fields.Yield n traits) (hvs : ∀ v ∈ vs, Within n v)
    (hrow : fields.ofItems origin expected index vs = .ok (row, left)) : Row.All traits row := by
  induction fields generalizing vs index with
  | nil => exact trivial
  | cons f rest ih =>
    obtain ⟨P, traits⟩ := traits
    obtain ⟨hf, hfallback, hrest⟩ := h
    cases vs with
    | nil =>
      -- no item is left for the first field
      rw [ofItems] at hrow
      cases hnone : f.fallback with
      | none =>
        rw [hnone] at hrow
        cases hrow
      | some a =>
        rw [hnone] at hrow
        obtain ⟨⟨row', left'⟩, hrow', hrow⟩ := of_bind_eq_ok hrow
        cases hrow
        exact ⟨hfallback a hnone, ih hrest hvs hrow'⟩
    | cons v vs =>
      rw [ofItems] at hrow
      obtain ⟨hv, hvs⟩ := List.forall_mem_cons.1 hvs
      obtain ⟨a, ha, hrow⟩ := of_bind_eq_ok hrow
      obtain ⟨⟨row', left'⟩, hrow', hrow⟩ := of_bind_eq_ok hrow
      cases hrow
      exact ⟨hf.ofJson origin v a hv ha, ih hrest hvs hrow'⟩

end Members

namespace Record

variable {r : Record β} {traits : Traits r.types}

/-- `readMember` keeps the traits of the slots, whatever the name of the member. -/
theorem yields_readMember {slots : Slots r.types} (h : r.fields.Yield n traits)
    (hslots : Slots.All traits slots) (name : String) :
    (r.readMember n slots name).Yields (Slots.All traits) := by
  cases hread : r.fields.readInto? n name slots with
  | some read =>
    rw [readMember, hread]
    exact Members.yields_readInto? h hslots hread
  | none =>
    rw [readMember, hread]
    exact yields_bind _ fun _ => yields_bind _ fun _ => yields_pure hslots

theorem all_of_foldlM {origin : Origin} {ms : List (String × Json)} {slots slots' : Slots r.types}
    (h : r.fields.Yield n traits) (hslots : Slots.All traits slots) (hms : ∀ m ∈ ms, Within n m.2)
    (hfold : ms.foldlM (fun slots (name, v) => r.fields.putInto origin name v slots) slots =
      .ok slots') : Slots.All traits slots' := by
  induction ms generalizing slots with
  | nil =>
    cases hfold
    exact hslots
  | cons m ms ih =>
    obtain ⟨hm, hms⟩ := List.forall_mem_cons.1 hms
    rw [List.foldlM_cons] at hfold
    obtain ⟨next, hput, hfold⟩ := of_bind_eq_ok hfold
    exact ih (Members.all_of_putInto h hslots hm hput) hms hfold

/-- `Record.shape` yields what holds of all rows that its fields `Yield`. -/
theorem yields (h : r.fields.Yield n traits) (hQ : ∀ row, Row.All traits row → Q (r.build row)) :
    r.shape.Yields (n + 1) Q where
  read := by
    refine yields_bind _ fun c => ?_
    split
    · refine yields_objectOf fun k hk => ?_
      cases hk
      refine yields_bind _ fun fuel => ?_
      -- slots hold what may be read until all members are read
      have hmember : ∀ (slots : Slots r.types) name, Slots.All traits slots →
          (r.readMember n slots name).Yields (Slots.All traits) :=
        fun _ name hslots => yields_readMember h hslots name
      have hfold := yields_foldMembers (Slots.all_empty traits) hmember fuel true
      refine hfold.bind fun slots hslots => ?_
      refine yields_ofExcept fun b hb => ?_
      obtain ⟨row, hrow, rfl⟩ := of_map_eq_ok hb
      exact hQ row (Members.all_of_complete h hslots hrow)
    · split_ifs
      · refine yields_listOf fun k hk => ?_
        cases hk
        exact (Members.yields_readItems h _ _ _).bind fun row hrow => yields_pure (hQ row hrow)
      · exact yields_misplaced _
    · exact yields_misplaced _
  ofJson origin v b hv hb := by
    cases v with
    | null | bool | int | float | text => cases hb
    | list vs =>
      -- a record is only read from a list if it is positional
      have hlist : (if r.positional then r.ofList origin vs
          else .error (.invalidType .list r.label)) = .ok b := hb
      split_ifs at hlist
      obtain ⟨⟨row, left⟩, hrow, hlist⟩ := of_bind_eq_ok hlist
      have hall := hQ row (Members.all_of_ofItems h hv hrow)
      dsimp only at hlist
      split_ifs at hlist
      · cases hlist
        exact hall
      · cases origin <;> cases hlist
    | object ms =>
      obtain ⟨slots, hfold, hb⟩ := of_bind_eq_ok (show r.ofMembers origin ms = .ok b from hb)
      obtain ⟨row, hrow, rfl⟩ := of_map_eq_ok hb
      have hslots := all_of_foldlM h (Slots.all_empty traits) hv hfold
      exact hQ row (Members.all_of_complete h hslots hrow)

end Record

/-! ### Tagged values -/

theorem Shape.yields_ofVariant {variants : List (String × α)} {name : String}
    (h : ∀ m ∈ variants, P m.2) :
    ∀ a, variantOf variants name = .ok a → P a := by
  intro a ha
  rw [variantOf] at ha
  split at ha
  · rename_i a' hlookup
    cases ha
    obtain ⟨front, back, hvariants, -⟩ := List.lookup_eq_some_iff.1 hlookup
    exact h (name, a) (hvariants ▸ List.mem_append_right front List.mem_cons_self)
  · cases ha

theorem Shape.yields_readVariant {variants : List (String × α)}
    (h : ∀ m ∈ variants, P m.2) : (readVariant variants).Yields P := by
  refine yields_bind _ fun c => ?_
  split
  · exact yields_bind _ fun name => yields_ofExceptHere (yields_ofVariant h)
  · exact yields_misplaced _

theorem Shape.yields_readChoice {variants : List (String × α)}
    (h : ∀ m ∈ variants, P m.2) (n : Nat) :
    (readChoice variants n).Yields P := by
  refine yields_bind _ fun c => ?_
  split
  · exact yields_failNext _
  · exact yields_readVariant h
  · cases n with
    | zero => exact yields_failNext _
    | succ n =>
      -- a variant may also be written as an object with an empty content
      refine yields_bind _ fun _ => yields_bind _ fun c => ?_
      split
      · exact yields_failNext _
      · exact yields_failNext _
      · refine (yields_readVariant h).bind fun a ha => ?_
        refine yields_bind _ fun _ => yields_bind _ fun _ => yields_bind _ fun c => ?_
        split
        · exact (yields_failHere _).stop
        · exact yields_bind _ fun _ => yields_pure ha
        · exact (yields_failHere _).stop
      · exact yields_failNext _
  · exact yields_failNext _

namespace Tagged

variable {t : Tagged β}

/-- What was `Found` has the properties of its part. -/
def Found.All (n : Nat) (Q : β → Prop) : Found β → Prop
  | .nothing => True
  | .variant d => d.Yields n Q
  | .content v => Within n v
  | .both b => Q b

theorem yields_readMember (h : ∀ m ∈ t.variants, m.2.Yields n Q)
    {found : Found β} (hfound : found.All n Q) (name : String) :
    (t.readMember n found name).Yields (Found.All n Q) := by
  -- the tag is read in the same way wherever it stands
  have hchoice : (Shape.readChoice t.variants n).Yields fun d => d.Yields n Q :=
    Shape.yields_readChoice h n
  unfold readMember
  split_ifs
  · split
    · exact yields_bind _ fun _ => hchoice.bind fun d hd => yields_pure hd
    · refine yields_bind _ fun _ => hchoice.bind fun d hd => ?_
      refine (yields_ofExcept fun b hb => ?_).bind fun b hb => yields_pure hb
      exact hd.ofJson _ _ b hfound hb
    · exact yields_misfit _
  · split
    · exact yields_bind _ fun _ => (yields_value n).bind fun v hv => yields_pure hv
    · exact yields_bind _ fun _ => hfound.read.bind fun b hb => yields_pure hb
    · exact yields_misfit _
  · exact yields_bind _ fun _ => yields_bind _ fun _ => yields_pure hfound

/-- `Tagged.read` yields what holds of all contents that the variants yield. -/
theorem yields_read (h : ∀ m ∈ t.variants, m.2.Yields n Q) :
    (t.read (n + 1)).Yields Q := by
  refine yields_bind _ fun c => ?_
  split
  · refine yields_objectOf fun k hk => ?_
    cases hk
    have hnothing : (Found.nothing : Found β).All n Q := trivial
    have hmember : ∀ (found : Found β) name, found.All n Q →
        (t.readMember n found name).Yields (Found.All n Q) :=
      fun _ name hfound => yields_readMember h hfound name
    refine yields_bind _ fun fuel => ?_
    refine (yields_foldMembers hnothing hmember fuel true).bind fun found hfound => ?_
    refine yields_ofExcept fun b hb => ?_
    cases found with
    -- a tag or a content is missing
    | nothing | variant | content => cases hb
    | both =>
      cases hb
      exact hfound
  · refine yields_listOf fun k hk => ?_
    cases hk
    -- in a list the tag comes first
    have hcontent : (do
        let content ← Shape.readVariant t.variants
        if !(← nextItem false) then misfit (.invalidLength 1 t.label)
        content.read n : Reader β).Yields Q := by
      have hvariant : (Shape.readVariant t.variants).Yields fun d => d.Yields n Q :=
        Shape.yields_readVariant h
      refine hvariant.bind fun d hd => yields_bind _ fun more => ?_
      cases more with
      | true => exact hd.read
      | false => exact (yields_misfit _).stop
    refine yields_bind _ fun more => ?_
    cases more with
    | true => exact hcontent
    | false => exact (yields_misfit _).stop
  · exact yields_misplaced _

end Tagged

end GroupChat.Json
