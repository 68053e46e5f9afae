import GroupChat.Json.Record
import GroupChat.Proofs.Json.Shapes

/-!
# Reading of records

A record is read from an object whose members stand in any order among others, and from a list of
its members. What each field needs of the members of the object is said for the field alone; how the
slots are filled step by step is hidden here.

## Main definitions

- `Standing`: which values in JSON may stand for a value, and `reading` those that are read.
- `Member.Gets`, `Members.Gather`: what one field and what all find in the members of an object.
- `Members.Line`: what all fields find in the items of a list.

## Main statements

- `Members.Steps.of_await`: one member of an object is put into its slot or passed over.
- `Record.reads_object`, `Record.reads_list`: both forms of a record are read.
-/

namespace GroupChat.Json

open Reader

variable {α β : Type} {ts : List Type} {n : Nat} {m : String × Json} {ms : List (String × Json)}

/-! ### The names of fields -/

/-- The names of the member `f`: its own one and its `aliases`. -/
def Member.names (f : Member α) : List String := f.name :: f.aliases

theorem Member.answersTo_iff {f : Member α} {name : String} :
    f.answersTo name = true ↔ name ∈ f.names := by
  rw [answersTo, names, Bool.or_eq_true, beq_iff_eq, List.contains_iff_mem, List.mem_cons,
    eq_comm]

/-- Those of the members `ms` of an object that are for the field `f`. -/
def Member.among (f : Member α) (ms : List (String × Json)) : List (String × Json) :=
  ms.filter fun m => f.answersTo m.1

theorem Member.among_cons_of_mem {f : Member α} (h : m.1 ∈ f.names) :
    f.among (m :: ms) = m :: f.among ms :=
  List.filter_cons_of_pos (answersTo_iff.2 h)

theorem Member.among_cons_of_not_mem {f : Member α} (h : m.1 ∉ f.names) :
    f.among (m :: ms) = f.among ms :=
  List.filter_cons_of_neg (fun hm => h (answersTo_iff.1 hm))

namespace Members

/-- The names of all fields of `Members`. -/
def names : {ts : List Type} → Members ts → List String
  | [], .nil => []
  | _ :: _, .cons f rest => f.names ++ rest.names

end Members

/-! ### What the fields find -/

/-- For each `Shape`, which values in JSON may stand for a value of its type. -/
abbrev Standing : Type 1 := (α : Type) → Shape α → Json → α → Prop

/-- The `Standing` of the values that are read with `n` levels left. -/
abbrev reading (n : Nat) : Standing := fun _ shape v a => shape.Reads n v a

variable {P : Standing}

/-- Among the members of an object there is just one for a field, with a value that may stand for
`a`, or there is none and the field has a fallback. -/
inductive Member.Gets (f : Member α) (P : Standing) (ms : List (String × Json)) (a : α) :
    Prop where
  /-- There is one. -/
  | given {name : String} {v : Json} (one : f.among ms = [(name, v)]) (value : P α f.shape v a) :
      Gets f P ms a
  /-- There is none. -/
  | missing (none : f.among ms = []) (fallback : f.fallback = some a) : Gets f P ms a

/-- `ms` and `ms'` have the same members of the `names`, in any order. -/
def Agree (names : List String) (ms ms' : List (String × Json)) : Prop :=
  ∀ p : String → Bool, (∀ name, p name = true → name ∈ names) →
    (ms.filter fun m => p m.1).Perm (ms'.filter fun m => p m.1)

section Agree

variable {names names' : List String} {ms' ms'' : List (String × Json)}

theorem agree_of_perm (names : List String) (h : ms.Perm ms') : Agree names ms ms' :=
  fun _ _ => h.filter _

theorem Agree.trans (h : Agree names ms ms') (h' : Agree names ms' ms'') : Agree names ms ms'' :=
  fun p hp => (h p hp).trans (h' p hp)

theorem Agree.mono (h : Agree names ms ms') (hnames : names' ⊆ names) : Agree names' ms ms' :=
  fun p hp => h p fun name hname => hnames (hp name hname)

theorem filter_eq_nil_of_not_mem {p : String → Bool} (hp : ∀ name, p name = true → name ∈ names)
    (h : ∀ m ∈ ms, m.1 ∉ names) : (ms.filter fun m => p m.1) = [] :=
  List.filter_eq_nil_iff.2 fun m hm hpm => h m hm (hp m.1 hpm)

theorem agree_append_left (ms' : List (String × Json)) (h : ∀ m ∈ ms, m.1 ∉ names) :
    Agree names (ms ++ ms') ms' := by
  intro p hp
  rw [List.filter_append, filter_eq_nil_of_not_mem hp h, List.nil_append]

theorem agree_append_right (ms : List (String × Json)) (h : ∀ m ∈ ms', m.1 ∉ names) :
    Agree names (ms ++ ms') ms := by
  intro p hp
  rw [List.filter_append, filter_eq_nil_of_not_mem hp h, List.append_nil]

theorem agree_cons (h : m.1 ∉ names) (ms : List (String × Json)) : Agree names (m :: ms) ms :=
  agree_append_left ms (List.forall_mem_singleton.2 h)

end Agree

/-- `Gets` depends only on the members that have one of the names of the field. -/
theorem Member.Gets.congr {f : Member α} {ms' : List (String × Json)} {a : α} (h : f.Gets P ms a)
    (hms : Agree f.names ms' ms) : f.Gets P ms' a := by
  have hamong : (f.among ms').Perm (f.among ms) := hms f.answersTo fun _ => answersTo_iff.1
  cases h with
  | given one value => exact .given (List.perm_singleton.1 (one ▸ hamong)) value
  | missing none fallback => exact .missing (List.perm_nil.1 (none ▸ hamong)) fallback

/-- What the field `f` still needs of the members ahead, if its slot is filled or not. -/
inductive Member.Awaits (f : Member α) (n : Nat) (ms : List (String × Json)) :
    Option α → α → Prop where
  /-- The slot is empty. -/
  | empty {a : α} (gets : f.Gets (reading n) ms a) : Awaits f n ms none a
  /-- The slot is filled. -/
  | filled {a : α} (none : f.among ms = []) : Awaits f n ms (some a) a

/-- `Awaits` stays as it is while members of other names pass. -/
theorem Member.Awaits.pass {f : Member α} {slot : Option α} {a : α}
    (h : f.Awaits n (m :: ms) slot a) (hm : m.1 ∉ f.names) : f.Awaits n ms slot a := by
  have hamong : f.among (m :: ms) = f.among ms := among_cons_of_not_mem hm
  cases h with
  | empty gets =>
    cases gets with
    | given one reads => exact .empty (.given (hamong ▸ one) reads)
    | missing none fallback => exact .empty (.missing (hamong ▸ none) fallback)
  | filled none => exact .filled (hamong ▸ none)

/-- When a member of the field comes, the slot is empty, and `Awaits` goes on with no other of that
name behind it. -/
theorem Member.Awaits.take {f : Member α} {slot : Option α} {a : α}
    (h : f.Awaits n (m :: ms) slot a) (hm : m.1 ∈ f.names) :
    slot = none ∧ f.shape.Reads n m.2 a ∧ f.Awaits n ms (some a) a := by
  have hamong : f.among (m :: ms) = m :: f.among ms := among_cons_of_mem hm
  cases h with
  | empty gets =>
    cases gets with
    | given one reads =>
      obtain ⟨rfl, hnone⟩ := List.cons.inj (hamong.symm.trans one)
      exact ⟨rfl, reads, .filled hnone⟩
    | missing none => exact absurd (hamong.symm.trans none) (List.cons_ne_nil _ _)
  | filled none => exact absurd (hamong.symm.trans none) (List.cons_ne_nil _ _)

namespace Members

/-- The fields find values that may stand for a row, as `P` says, in the members `ms` of an object.
-/
def Gather (P : Standing) (ms : List (String × Json)) :
    {ts : List Type} → Members ts → Row ts → Prop
  | [], .nil, _ => True
  | _ :: _, .cons f rest, (a, row) => f.Gets P ms a ∧ rest.Gather P ms row

/-- `Gather` depends on the members with its own names only. -/
theorem Gather.congr {fields : Members ts} {row : Row ts} {ms' : List (String × Json)}
    (h : fields.Gather P ms row) (hms : Agree fields.names ms' ms) :
    fields.Gather P ms' row := by
  induction fields with
  | nil => exact trivial
  | cons f rest ih =>
    exact ⟨h.1.congr (hms.mono (List.subset_append_left _ _)),
      ih h.2 (hms.mono (List.subset_append_right _ _))⟩

/-- With some `Slots` filled, the fields find the values of a row in the members `ms` ahead
(`Member.Awaits`). -/
def Await (n : Nat) (ms : List (String × Json)) :
    {ts : List Type} → Members ts → Slots ts → Row ts → Prop
  | [], .nil, _, _ => True
  | _ :: _, .cons f rest, (slot, slots), (a, row) =>
    f.Awaits n ms slot a ∧ rest.Await n ms slots row

theorem await_empty {fields : Members ts} {row : Row ts} (h : fields.Gather (reading n) ms row) :
    fields.Await n ms (Slots.empty ts) row := by
  induction fields with
  | nil => exact trivial
  | cons f rest ih => exact ⟨.empty h.1, ih h.2⟩

theorem Await.pass {fields : Members ts} {slots : Slots ts} {row : Row ts}
    (h : fields.Await n (m :: ms) slots row) (hm : m.1 ∉ fields.names) :
    fields.Await n ms slots row := by
  induction fields with
  | nil => exact trivial
  | cons f rest ih =>
    rw [names, List.mem_append, not_or] at hm
    exact ⟨h.1.pass hm.1, ih h.2 hm.2⟩

/-- When `Await` has no members ahead, `complete` makes the row of slots and fallbacks. -/
theorem complete_of_await {fields : Members ts} {slots : Slots ts} {row : Row ts}
    (h : fields.Await n [] slots row) : fields.complete slots = .ok row := by
  induction fields with
  | nil => rfl
  | @cons α ts f rest ih =>
    obtain ⟨slot, slots⟩ := slots
    obtain ⟨a, row⟩ := row
    obtain ⟨hf, hrest⟩ := h
    -- an empty slot is one of a field that was not given
    have hslot : (slot.orElse fun _ => f.fallback) = some a := by
      cases hf with
      | empty gets =>
        cases gets with
        | given one => cases one
        | missing none fallback => exact fallback
      | filled => rfl
    rw [complete, hslot]
    dsimp only
    rw [ih hrest]
    rfl

/-! ### One member -/

/-- The member `m` of an object takes `slots` to `slots'`, at hand as well as in a text. -/
structure Steps (fields : Members ts) (n : Nat) (slots : Slots ts) (m : String × Json)
    (slots' : Slots ts) : Prop where
  /-- It is put into its slot. -/
  put : ∀ origin, fields.putInto origin m.1 m.2 slots = .ok slots'
  /-- It is read into its slot. -/
  read : ∀ r, fields.readInto? n m.1 slots = some r → StepsTo (fun _ _ => r) slots m slots'
  /-- It is passed over. -/
  pass : fields.readInto? n m.1 slots = none → slots' = slots

/-- `Steps` for a member of the first name: it fills the first slot. -/
theorem Steps.of_mem {f : Member α} {rest : Members ts} {slots : Slots ts} {a : α}
    (hm : m.1 ∈ f.names) (hreads : f.shape.Reads n m.2 a) :
    (Members.cons f rest).Steps n (none, slots) m (some a, slots) where
  put origin := by
    rw [putInto, if_pos (Member.answersTo_iff.2 hm), hreads.ofJson]
    rfl
  read r hr := by
    rw [readInto?, if_pos (Member.answersTo_iff.2 hm)] at hr
    cases hr
    refine stepsTo_of_accepts rfl fun cs hcs b rest hb hrest => ?_
    exact (hreads.read cs hcs b rest hb hrest).bind (takes_pure _ rest)
  pass hnone := by
    rw [readInto?, if_pos (Member.answersTo_iff.2 hm)] at hnone
    cases hnone

/-- `Steps` for a member of another name: the first slot stays as it is. -/
theorem Steps.of_not_mem {f : Member α} {rest : Members ts} {slot : Option α}
    {slots slots' : Slots ts} (hm : m.1 ∉ f.names) (h : rest.Steps n slots m slots') :
    (Members.cons f rest).Steps n (slot, slots) m (slot, slots') := by
  -- the first field does not answer to the name, and passes the member on
  have hanswers : ¬ f.answersTo m.1 = true := fun ha => hm (Member.answersTo_iff.1 ha)
  constructor
  · intro origin
    cases slot with
    | none =>
      rw [putInto, if_neg hanswers, h.put origin]
      rfl
    | some a =>
      rw [putInto, if_neg hanswers, h.put origin]
      rfl
  · intro r hr
    rw [readInto?, if_neg hanswers] at hr
    obtain ⟨r', hr', rfl⟩ := Option.map_eq_some_iff.1 hr
    intro b b' cs rest hb hb' hcs hrest
    exact (h.read r' hr' b b' cs rest hb hb' hcs hrest).bind (takes_pure _ rest)
  · intro hnone
    rw [readInto?, if_neg hanswers] at hnone
    rw [h.pass (Option.map_eq_none_iff.1 hnone)]

/-- One member that is awaited `Steps` into its slot, or is passed over; by induction on the fields.
-/
theorem Steps.of_await {fields : Members ts} {slots : Slots ts} {row : Row ts}
    (hnames : fields.names.Nodup) (h : fields.Await n (m :: ms) slots row) :
    ∃ slots', fields.Steps n slots m slots' ∧ fields.Await n ms slots' row := by
  induction fields with
  | nil =>
    refine ⟨slots, ⟨fun _ => rfl, fun _ hr => ?_, fun _ => rfl⟩, trivial⟩
    cases hr
  | cons f rest ih =>
    obtain ⟨slot, slots⟩ := slots
    obtain ⟨a, row⟩ := row
    obtain ⟨hf, hrest⟩ := h
    obtain ⟨-, hnodup, hdisjoint⟩ := List.nodup_append.1 hnames
    -- a member is for one field at most, since no name belongs to two of them
    by_cases hm : m.1 ∈ f.names
    · obtain ⟨rfl, hreads, hfilled⟩ := hf.take hm
      have hother : m.1 ∉ rest.names := fun hm' => hdisjoint _ hm _ hm' rfl
      exact ⟨(some a, slots), .of_mem hm hreads, hfilled, hrest.pass hother⟩
    · obtain ⟨slots', hsteps, hawait⟩ := ih hnodup hrest
      exact ⟨(slot, slots'), .of_not_mem hm hsteps, hf.pass hm, hawait⟩

end Members

/-! ### Records in objects -/

namespace Record

variable {r : Record β} {b : β}

/-- `readMember` fills the slots as `Steps` says. -/
theorem stepsTo_readMember {slots slots' : Slots r.types} (h : r.fields.Steps n slots m slots') :
    StepsTo (r.readMember n) slots m slots' := by
  cases hread : r.fields.readInto? n m.1 slots with
  | some read =>
    have hmember : r.readMember n slots m.1 = read := by rw [readMember, hread]
    intro b b' cs rest hb hb' hcs hrest
    rw [hmember]
    exact h.read read hread b b' cs rest hb hb' hcs hrest
  | none =>
    rw [h.pass hread]
    refine stepsTo_of_accepts (by rw [readMember, hread]) fun cs hcs b rest hb hrest => ?_
    exact (accepts_skipValue hcs b rest hb hrest).bind (takes_pure slots rest)

/-- `readMember` over all members of an object, and `putInto` over those of a value: the same slots.
-/
theorem folds_readMember {slots : Slots r.types} {row : Row r.types}
    (hnames : r.fields.names.Nodup) (h : r.fields.Await n ms slots row) :
    ∃ slots', Folds (r.readMember n) slots ms slots' ∧
      (∀ origin, ms.foldlM (fun slots (name, v) => r.fields.putInto origin name v slots) slots =
        .ok slots') ∧ r.fields.complete slots' = .ok row := by
  induction ms generalizing slots with
  | nil => exact ⟨slots, .nil slots, fun _ => rfl, Members.complete_of_await h⟩
  | cons m ms ih =>
    obtain ⟨next, hsteps, hawait⟩ := Members.Steps.of_await hnames h
    obtain ⟨slots', hfolds, hput, hcomplete⟩ := ih hawait
    refine ⟨slots', .cons (stepsTo_readMember hsteps) hfolds, fun origin => ?_, hcomplete⟩
    rw [List.foldlM_cons]
    show (r.fields.putInto origin m.1 m.2 slots >>= _) = _
    rw [hsteps.put origin]
    exact hput origin

/-- `ofMembers` makes the row that the members `Gather`, in whatever order they come. -/
theorem ofMembers_of_gather {row : Row r.types} (hnames : r.fields.names.Nodup)
    (h : r.fields.Gather (reading n) ms row) (origin : Origin) :
    r.ofMembers origin ms = .ok (r.build row) := by
  obtain ⟨slots, -, hput, hcomplete⟩ := folds_readMember hnames (Members.await_empty h)
  rw [ofMembers, hput origin]
  show r.build <$> r.fields.complete slots = _
  rw [hcomplete]
  rfl

/-- `Record.shape` reads an object in whose members its fields `Gather` their values. -/
theorem reads_object {row : Row r.types} (hnames : r.fields.names.Nodup)
    (h : r.fields.Gather (reading n) ms row) :
    r.shape.Reads (n + 1) (.object ms) (r.build row) where
  ofJson origin := ofMembers_of_gather hnames h origin
  read cs hcs b rest hb _ := by
    obtain ⟨slots, hfolds, -, hcomplete⟩ := folds_readMember hnames (Members.await_empty h)
    have hbuild : (r.fields.complete slots).map r.build = .ok (r.build row) := by
      rw [hcomplete]
      rfl
    obtain ⟨tail, rfl, htakes⟩ := takes_object r.readMember
      (fun slots => (r.fields.complete slots).map r.build) hfolds hbuild hcs
    exact (takes_peekPastSpace hb rfl).bind (htakes rest)

end Record

/-! ### Records in lists -/

namespace Members

/-- The fields find values that may stand for a row, as `P` says, in the items of a list, where
fields with a `fallback` may be missing at the end. -/
def Line (P : Standing) : {ts : List Type} → Members ts → Row ts → List Json → Prop
  | [], .nil, _, vs => vs = []
  | _ :: _, .cons f rest, (a, row), [] => f.fallback = some a ∧ rest.Line P row []
  | α :: _, .cons f rest, (a, row), v :: vs => P α f.shape v a ∧ rest.Line P row vs

variable {fields : Members ts} {row : Row ts} {vs : List Json} {parts : List (List Char)}
  {b cs : List Char} {expected : String}

/-- `ofItems` makes the row of a list in which all parts are in line. -/
theorem ofItems_of_line (h : fields.Line (reading n) row vs) (origin : Origin) (expected : String)
    (index : Nat) : fields.ofItems origin expected index vs = .ok (row, []) := by
  induction fields generalizing vs index with
  | nil =>
    cases h
    rfl
  | cons f rest ih =>
    obtain ⟨a, row⟩ := row
    cases vs with
    | nil =>
      obtain ⟨hf, hrest⟩ := h
      -- there are no more items, and the field has its fallback
      rw [ofItems, hf]
      dsimp only
      rw [ih hrest]
      rfl
    | cons v vs =>
      obtain ⟨hf, hrest⟩ := h
      rw [ofItems, hf.ofJson origin]
      show (rest.ofItems origin expected (index + 1) vs >>= _) = _
      rw [ih hrest]
      rfl

/-- `readItems` at the end of a list gives the fields their fallbacks. -/
theorem takes_readItems_nil (h : fields.Line (reading n) row []) (hb : Blank b) (index : Nat)
    (first : Bool) (rest : List Char) :
    ∃ b', Blank b' ∧ Takes (fields.readItems n expected index first) (b ++ ']' :: rest) row
      (b' ++ ']' :: rest) := by
  induction fields generalizing b index with
  | nil => exact ⟨b, hb, takes_pure () _⟩
  | cons f more ih =>
    obtain ⟨a, row⟩ := row
    obtain ⟨hf, hmore⟩ := h
    obtain ⟨b', hb', htakes⟩ := ih hmore blank_nil (index + 1)
    refine ⟨b', hb', (takes_nextItem_end hb rest).bind ?_⟩
    rw [hf]
    exact htakes.bind (takes_pure _ _)

/-- `readItems` takes the parts behind the first one. -/
theorem takes_readItems_further (h : fields.Line (reading n) row vs)
    (hvs : List.Forall₂ Writes vs parts) (hcs : Further parts cs) (index : Nat)
    (rest : List Char) :
    ∃ b', Blank b' ∧ Takes (fields.readItems n expected index false) (cs ++ ']' :: rest) row
      (b' ++ ']' :: rest) := by
  induction fields generalizing vs parts cs index with
  | nil =>
    cases h
    cases hvs
    cases hcs with
    | nil blank => exact ⟨cs, blank, takes_pure () _⟩
  | cons f more ih =>
    obtain ⟨a, row⟩ := row
    cases hvs with
    | nil =>
      cases hcs with
      -- the list ends before the fields do
      | nil blank => exact takes_readItems_nil h blank index false rest
    | @cons v part vs parts hv hvs =>
      cases hcs with
      | @cons _ cs b b' _ before behind further =>
        obtain ⟨hf, hmore⟩ := h
        obtain ⟨b'', hb'', htakes⟩ := ih hmore hvs further (index + 1)
        have hrest : Parted (cs ++ ']' :: rest) := further.parted (parted_bracket (Or.inl rfl) rest)
        refine ⟨b'', hb'', ?_⟩
        simp only [List.append_assoc, List.cons_append]
        -- the comma, the item for the first field, and then the others
        refine (takes_nextItem_comma before behind hv.starts _).bind ?_
        exact ((hf.read part hv).takes hrest).bind (htakes.bind (takes_pure _ _))

/-- `readItems` reads the fields from the items of a list in order. -/
theorem takes_readItems (h : fields.Line (reading n) row vs) (hvs : List.Forall₂ Writes vs parts)
    (hcs : Separated parts cs) (index : Nat) (rest : List Char) :
    ∃ b', Blank b' ∧ Takes (fields.readItems n expected index true) (cs ++ ']' :: rest) row
      (b' ++ ']' :: rest) := by
  cases hcs with
  | nil blank =>
    cases hvs
    exact takes_readItems_nil h blank index true rest
  | @cons part cs b parts before further =>
    cases hvs with
    | @cons v _ vs _ hv hvs =>
      cases fields with
      | nil => cases h
      | cons f more =>
        obtain ⟨a, row⟩ := row
        obtain ⟨hf, hmore⟩ := h
        obtain ⟨b', hb', htakes⟩ := takes_readItems_further hmore hvs further (index + 1) rest
        have hrest : Parted (cs ++ ']' :: rest) := further.parted (parted_bracket (Or.inl rfl) rest)
        refine ⟨b', hb', ?_⟩
        simp only [List.append_assoc]
        -- no comma before the first item
        refine (takes_nextItem_first before hv.starts _).bind ?_
        exact ((hf.read part hv).takes hrest).bind (htakes.bind (takes_pure _ _))

end Members

/-- `Record.shape` reads a list in whose items its fields find their values in order (`Line`), if
the record is positional. -/
theorem Record.reads_list {r : Record β} {row : Row r.types} {vs : List Json}
    (hpositional : r.positional = true) (h : r.fields.Line (reading n) row vs) :
    r.shape.Reads (n + 1) (.list vs) (r.build row) where
  ofJson origin := by
    show (if r.positional then r.ofList origin vs else _) = _
    rw [if_pos hpositional, ofList, Members.ofItems_of_line h]
    rfl
  read cs hcs b rest hb _ := by
    cases hcs with
    | @list vs parts cs items separated =>
      obtain ⟨b', hb', htakes⟩ := Members.takes_readItems h items separated 0 rest
      rw [List.cons_append, List.append_assoc]
      refine (takes_peekPastSpace hb rfl).bind ?_
      rw [if_pos hpositional]
      exact takes_listOf hb' (htakes.bind (takes_pure _ _))

end GroupChat.Json
