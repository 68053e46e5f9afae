/-!
# Tables

A finite map from keys to values that keeps the order in which its keys were first put in. Every
statement about a table goes through `Table.get?`.

## Main definitions

- `Table`: entries with distinct keys.
- `Table.insert`, `Table.erase`, `Table.get?`: the operations.
- `Table.ofList`: the table in which the last of several entries of one key stands.

## Main statements

- `Table.get?_insert`, `Table.get?_erase`: what a key is mapped to after a change.
- `Table.mem_entries_iff`: an entry is in the table exactly if its key is mapped to its value.
-/

namespace GroupChat

/-- A finite map as its `entries`. -/
structure Table (κ α : Type) where
  /-- The entries, in the order in which the keys were put in. -/
  entries : List (κ × α)
  /-- No key has two entries. -/
  nodup : (entries.map Prod.fst).Nodup

namespace Table

variable {κ α : Type} [DecidableEq κ]

instance [Repr κ] [Repr α] : Repr (Table κ α) := ⟨fun t p => reprPrec t.entries p⟩

omit [DecidableEq κ] in
@[ext]
theorem ext {s t : Table κ α} (h : s.entries = t.entries) : s = t := by
  cases s; cases t; cases h; rfl

instance [DecidableEq α] : DecidableEq (Table κ α) := fun s t =>
  if h : s.entries = t.entries then isTrue (ext h) else isFalse fun e => h (e ▸ rfl)

/-- The `Table` without entries. -/
def empty : Table κ α := ⟨[], by simp⟩

instance : EmptyCollection (Table κ α) := ⟨empty⟩

instance : Inhabited (Table κ α) := ⟨empty⟩

/-- The first value of the key `k` among entries. -/
def find? (k : κ) : List (κ × α) → Option α
  | [] => none
  | (k', a) :: rest => if k' = k then some a else find? k rest

/-- The value of the key `k`. -/
def get? (t : Table κ α) (k : κ) : Option α := find? k t.entries

/-- Whether the key `k` has a value. -/
def contains (t : Table κ α) (k : κ) : Bool := (t.get? k).isSome

/-- The keys of `t` in order. -/
def keys (t : Table κ α) : List κ := t.entries.map Prod.fst

/-- The values of `t` in the order of their keys. -/
def values (t : Table κ α) : List α := t.entries.map Prod.snd

/-- The number of keys of `t`. -/
def size (t : Table κ α) : Nat := t.entries.length

/-- Whether `t` has no keys. -/
def isEmpty (t : Table κ α) : Bool := t.entries.isEmpty

/-- The entries with the value of `k` replaced, or with a new entry at the end. -/
def put (k : κ) (a : α) : List (κ × α) → List (κ × α)
  | [] => [(k, a)]
  | (k', a') :: rest => if k' = k then (k, a) :: rest else (k', a') :: put k a rest

/-- `put` adds no key but the one that is put. -/
theorem mem_map_fst_put {k x : κ} {a : α} {es : List (κ × α)} :
    x ∈ (put k a es).map Prod.fst ↔ x = k ∨ x ∈ es.map Prod.fst := by
  induction es with
  | nil => simp [put]
  | cons e es ih =>
    obtain ⟨k', a'⟩ := e
    unfold put
    split
    · rename_i h
      subst h
      simp
    · simp only [List.map_cons, List.mem_cons, ih]
      constructor
      · rintro (h | h | h) <;> simp [h]
      · rintro (h | h | h) <;> simp [h]

/-- `put` keeps the keys different. -/
theorem nodup_put {k : κ} {a : α} {es : List (κ × α)} (h : (es.map Prod.fst).Nodup) :
    ((put k a es).map Prod.fst).Nodup := by
  induction es with
  | nil => simp [put]
  | cons e es ih =>
    obtain ⟨k', a'⟩ := e
    rw [List.map_cons, List.nodup_cons] at h
    unfold put
    split
    · rename_i hk
      subst hk
      simpa using h
    · rename_i hk
      rw [List.map_cons, List.nodup_cons]
      refine ⟨fun hm => ?_, ih h.2⟩
      rcases mem_map_fst_put.1 hm with hm | hm
      · exact hk hm
      · exact h.1 hm

/-- The table in which `k` has the value `a`. -/
def insert (t : Table κ α) (k : κ) (a : α) : Table κ α := ⟨put k a t.entries, nodup_put t.nodup⟩

/-- The table in which `k` has no value. -/
def erase (t : Table κ α) (k : κ) : Table κ α :=
  ⟨t.entries.filter fun e => e.1 ≠ k,
    t.nodup.sublist (List.Sublist.map Prod.fst List.filter_sublist)⟩

/-- The entries of `t` whose values pass the test `p`. -/
def filterValues (t : Table κ α) (p : α → Bool) : Table κ α :=
  ⟨t.entries.filter fun e => p e.2,
    t.nodup.sublist (List.Sublist.map Prod.fst List.filter_sublist)⟩

/-- The table of `es`, in which the last of several of one key stands. -/
def ofList (es : List (κ × α)) : Table κ α := es.foldl (fun t e => t.insert e.1 e.2) ∅

/-! ### What keys are mapped to -/

@[simp]
theorem get?_empty (k : κ) : (∅ : Table κ α).get? k = none := rfl

/-- `find?` finds what was `put` under a key, and anything else as before. -/
theorem find?_put (k x : κ) (a : α) (es : List (κ × α)) :
    find? x (put k a es) = if x = k then some a else find? x es := by
  induction es with
  | nil =>
    simp only [put, find?]
    grind
  | cons e es ih =>
    obtain ⟨k', a'⟩ := e
    grind [put, find?]

/-- `insert` changes the value under one key only. -/
theorem get?_insert (t : Table κ α) (k x : κ) (a : α) :
    (t.insert k a).get? x = if x = k then some a else t.get? x :=
  find?_put k x a t.entries

@[simp]
theorem get?_insert_self (t : Table κ α) (k : κ) (a : α) : (t.insert k a).get? k = some a := by
  simp [get?_insert]

theorem get?_insert_of_ne {t : Table κ α} {k x : κ} {a : α} (h : x ≠ k) :
    (t.insert k a).get? x = t.get? x := by
  simp [get?_insert, h]

/-- A key whose entries are filtered out is not found by `find?`, and any other one is as before. -/
theorem find?_filter_ne (k x : κ) (es : List (κ × α)) :
    find? x (es.filter fun e => e.1 ≠ k) = if x = k then none else find? x es := by
  induction es with
  | nil => simp [find?]
  | cons e es ih =>
    obtain ⟨k', a'⟩ := e
    rw [List.filter_cons]
    split
    · grind [find?]
    · grind [find?]

/-- `erase` forgets the value under one key only. -/
theorem get?_erase (t : Table κ α) (k x : κ) :
    (t.erase k).get? x = if x = k then none else t.get? x :=
  find?_filter_ne k x t.entries

@[simp]
theorem get?_erase_self (t : Table κ α) (k : κ) : (t.erase k).get? k = none := by
  simp [get?_erase]

theorem get?_erase_of_ne {t : Table κ α} {k x : κ} (h : x ≠ k) :
    (t.erase k).get? x = t.get? x := by
  simp [get?_erase, h]

/-- As keys are different, `find?` finds every entry. -/
theorem find?_eq_some_iff {k : κ} {a : α} {es : List (κ × α)} (h : (es.map Prod.fst).Nodup) :
    find? k es = some a ↔ (k, a) ∈ es := by
  induction es with
  | nil => simp [find?]
  | cons e es ih =>
    obtain ⟨k', a'⟩ := e
    rw [List.map_cons, List.nodup_cons] at h
    have hk : k' = k → (k, a) ∉ es := by
      rintro rfl hm
      exact h.1 (List.mem_map.2 ⟨(k', a), hm, rfl⟩)
    unfold find?
    split
    · rename_i hkk
      subst hkk
      simp [hk rfl, eq_comm]
    · rename_i hkk
      rw [ih h.2]
      simp [Ne.symm hkk]

/-- `entries` holds exactly what `get?` finds. -/
theorem mem_entries_iff {t : Table κ α} {k : κ} {a : α} :
    (k, a) ∈ t.entries ↔ t.get? k = some a :=
  (find?_eq_some_iff t.nodup).symm

theorem contains_iff {t : Table κ α} {k : κ} : t.contains k = true ↔ ∃ a, t.get? k = some a := by
  rw [contains, Option.isSome_iff_exists]

theorem mem_keys_iff {t : Table κ α} {k : κ} : k ∈ t.keys ↔ t.contains k = true := by
  rw [contains_iff, keys, List.mem_map]
  constructor
  · rintro ⟨⟨k', a⟩, hm, rfl⟩
    exact ⟨a, mem_entries_iff.1 hm⟩
  · rintro ⟨a, ha⟩
    exact ⟨(k, a), mem_entries_iff.2 ha, rfl⟩

/-- `values` holds exactly what `get?` finds under some key. -/
theorem mem_values_iff {t : Table κ α} {a : α} : a ∈ t.values ↔ ∃ k, t.get? k = some a := by
  rw [values, List.mem_map]
  constructor
  · rintro ⟨⟨k, a'⟩, hm, rfl⟩
    exact ⟨k, mem_entries_iff.1 hm⟩
  · rintro ⟨k, hk⟩
    exact ⟨(k, a), mem_entries_iff.2 hk, rfl⟩

end Table

end GroupChat
