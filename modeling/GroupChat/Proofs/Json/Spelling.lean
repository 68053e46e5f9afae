import GroupChat.Proofs.Json.Survival

/-!
# The spellings of a record

Someone who writes a record by hand has some freedom. The members of an object stand in any order
among others, under any of their names, and one that has its fallback may be left out. A list holds
the members in order, where those at the end that have their fallbacks may be left out. However a
record is spelled, it is read as the same, also from the value with sorted members.

## Main definitions

- `written`: the value that is written.
- `Record.Spells`: the spellings of a record.

## Main statements

- `Record.Spells.reads`: any spelling is read.
- `Record.Spells.canonical`: a spelling with sorted members is a spelling.
- `Record.spells_toJson`: what is written is a spelling.
-/

namespace GroupChat.Json

variable {α β : Type} {ts : List Type} {n depth : Nat} {v : Json} {vs : List Json}
  {ms : List (String × Json)}

/-- The `Standing` of the value that is written, `Shape.toJson`. -/
abbrev written : Standing := fun _ shape v a => v = shape.toJson a

/-! ### Objects -/

theorem Members.Plain.gather {fields : Members ts} (hplain : fields.Plain depth)
    (hnames : fields.names.Nodup) (row : Row ts) :
    fields.Gather written (fields.members row) row := by
  have hsurvive := hplain.survive (Nat.le_refl depth) row
  exact hsurvive.gather hnames hsurvive.refl fun _ h => h.symm

/-- The members of a field are the same after `sortMembers`, which keeps the last one of each name.
-/
theorem Member.among_sortMembers (f : Member α) (ms : List (String × Json)) :
    f.among (sortMembers (ms.map fun m => (m.1, m.2.canonical))) =
      sortMembers ((f.among ms).map fun m => (m.1, m.2.canonical)) := by
  rw [among, filter_sortMembers, List.filter_map]
  rfl

/-- Sorting members at all depths changes nothing of what a `Plain` record gathers. -/
theorem Members.Gather.canonical {fields : Members ts} {row : Row ts} (hplain : fields.Plain depth)
    (h : fields.Gather written ms row) :
    fields.Gather written (sortMembers (ms.map fun m => (m.1, m.2.canonical))) row := by
  induction fields with
  | nil => exact trivial
  | cons f rest ih =>
    obtain ⟨⟨hf, -⟩, hrest⟩ := hplain
    refine ⟨?_, ih hrest h.2⟩
    -- sorting drops all but the last member of a name, but for a field there is one at most
    have hamong := f.among_sortMembers ms
    cases h.1 with
    | given one value =>
      rw [one, List.map_singleton, value, hf.canonical] at hamong
      exact .given hamong rfl
    | missing none fallback =>
      rw [none] at hamong
      exact .missing hamong fallback

/-- `Gather` of what is written implies that of what is read, for fields that are `Plain`. -/
theorem Members.Gather.reading {fields : Members ts} {row : Row ts} (hplain : fields.Plain depth)
    (hn : depth ≤ n) (h : fields.Gather written ms row) : fields.Gather (reading n) ms row := by
  induction fields with
  | nil => exact trivial
  | cons f rest ih =>
    obtain ⟨⟨hf, -⟩, hrest⟩ := hplain
    refine ⟨?_, ih hrest h.2⟩
    cases h.1 with
    | given one value =>
      subst value
      exact .given one (hf.reads n row.1 hn)
    | missing none fallback => exact .missing none fallback

/-! ### Lists -/

/-- Sorting members at all depths changes nothing of what stands in line for a `Plain` record. -/
theorem Members.Line.canonical {fields : Members ts} {row : Row ts} (hplain : fields.Plain depth)
    (h : fields.Line written row vs) : fields.Line written row (vs.map Json.canonical) := by
  induction fields generalizing vs with
  | nil =>
    cases h
    rfl
  | cons f rest ih =>
    obtain ⟨⟨hf, -⟩, hrest⟩ := hplain
    obtain ⟨a, row⟩ := row
    cases vs with
    -- the fields that are left out are left out again
    | nil => exact ⟨h.1, ih hrest h.2⟩
    | cons v vs =>
      obtain ⟨rfl, hvs⟩ := h
      exact ⟨hf.canonical a, ih hrest hvs⟩

/-- `Line` of what is written implies that of what is read, for fields that are `Plain`. -/
theorem Members.Line.reading {fields : Members ts} {row : Row ts} (hplain : fields.Plain depth)
    (hn : depth ≤ n) (h : fields.Line written row vs) : fields.Line (reading n) row vs := by
  induction fields generalizing vs with
  | nil => exact h
  | cons f rest ih =>
    obtain ⟨⟨hf, -⟩, hrest⟩ := hplain
    obtain ⟨a, row⟩ := row
    cases vs with
    | nil => exact ⟨h.1, ih hrest h.2⟩
    | cons v vs =>
      obtain ⟨rfl, hvs⟩ := h
      exact ⟨hf.reads n a hn, ih hrest hvs⟩

/-! ### Records -/

namespace Record

variable {r : Record β} {b : β}

/-- The spellings of `b` as a record `r`: an object, or a list of the fields. -/
inductive Spells (r : Record β) (b : β) : Json → Prop where
  /-- As an object. -/
  | object {ms : List (String × Json)} (members : r.fields.Gather written ms (r.parts b)) :
      Spells r b (.object ms)
  /-- As a list. -/
  | list {vs : List Json} (items : r.fields.Line written (r.parts b) vs) : Spells r b (.list vs)

/-- A record `Reads` any of its spellings. -/
theorem Spells.reads (h : r.Spells b v) (hplain : r.Plain depth) (hpositional : r.positional = true)
    (hn : depth ≤ n) : r.shape.Reads (n + 1) v b := by
  rw [← hplain.build b]
  cases h with
  | object members => exact reads_object hplain.names (members.reading hplain.fields hn)
  | list items => exact reads_list hpositional (items.reading hplain.fields hn)

/-- `toJson` is a spelling. -/
theorem spells_toJson (hplain : r.Plain depth) (b : β) : r.Spells b (r.shape.toJson b) :=
  .object (hplain.fields.gather hplain.names (r.parts b))

/-- The `canonical` form of a spelling is a spelling. -/
theorem Spells.canonical (h : r.Spells b v) (hplain : r.Plain depth) : r.Spells b v.canonical := by
  cases h with
  | object members =>
    rw [canonical_object]
    exact .object (members.canonical hplain.fields)
  | list items =>
    rw [canonical_list]
    exact .list (items.canonical hplain.fields)

end Record

end GroupChat.Json
