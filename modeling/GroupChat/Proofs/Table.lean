import GroupChat.Table
import Mathlib.Data.List.Induction
import Mathlib.Data.List.Nodup

/-!
# More about tables

What a key is mapped to decides everything else that is asked of a table: whether it is empty, how
many keys it has, and which values a search may find.

## Main statements

- `Table.get?_filterValues`: what a key is mapped to after a selection.
- `Table.map_values`, `Table.nodup_values`: values that tell their keys.
- `Table.size_congr`: tables that map keys alike have equally many of them.
- `Table.find?_values_eq_some`, `Table.find?_values_eq_none_iff`: what a search among values finds.
- `Table.find?_values_beq_congr`: a search by what tells all values apart finds the same in any
  order.
- `Table.get?_ofList_eq_some_iff`: in a table of entries the last entry of a key counts.
-/

namespace GroupChat.Table

variable {κ α : Type} [DecidableEq κ]

theorem contains_eq_false_iff {t : Table κ α} {k : κ} : t.contains k = false ↔ t.get? k = none := by
  rw [contains, Option.isSome_eq_false_iff, Option.isNone_iff_eq_none]

/-- `insert` of what a key has already changes nothing. -/
theorem insert_of_get? {t : Table κ α} {k : κ} {a : α} (h : t.get? k = some a) :
    t.insert k a = t := by
  refine ext ?_
  show put k a t.entries = t.entries
  -- on the entries alone, by induction: the value is put where it was found
  have hput : ∀ es : List (κ × α), find? k es = some a → put k a es = es := by
    intro es
    induction es with
    | nil => nofun
    | cons e es ih =>
      obtain ⟨k', a'⟩ := e
      intro hfind
      rw [find?] at hfind
      rw [put]
      split_ifs at hfind ⊢ with hk
      · cases hfind
        rw [hk]
      · rw [ih hfind]
  exact hput t.entries h

/-- `erase` of what is not there changes nothing. -/
theorem erase_of_get? {t : Table κ α} {k : κ} (h : t.get? k = none) : t.erase k = t := by
  refine ext (List.filter_eq_self.2 fun e he => ?_)
  rw [decide_eq_true_eq]
  rintro rfl
  cases h.symm.trans (mem_entries_iff.1 he)

/-- `filterValues` keeps a value under its key exactly if it passes the test. -/
theorem get?_filterValues (t : Table κ α) (p : α → Bool) (k : κ) :
    (t.filterValues p).get? k = (t.get? k).filter p := by
  ext a
  rw [← mem_entries_iff, Option.filter_eq_some_iff, ← mem_entries_iff]
  show (k, a) ∈ t.entries.filter _ ↔ _
  rw [List.mem_filter]

/-! ### Values that tell their keys -/

section Keyed

variable {t : Table κ α} {f : α → κ} (h : ∀ k a, t.get? k = some a → f a = k)
include h

/-- Values that tell their own key, as `f` does, are listed by `values` in the order of `keys`. -/
theorem map_values : t.values.map f = t.keys := by
  rw [values, keys, List.map_map]
  exact List.map_congr_left fun e he => h e.1 e.2 (mem_entries_iff.1 he)

/-- `values` has no value twice. -/
theorem nodup_values : t.values.Nodup := by
  have hkeys : (t.values.map f).Nodup := map_values h ▸ t.nodup
  exact hkeys.of_map

end Keyed

/-! ### Emptiness and size -/

theorem isEmpty_iff {t : Table κ α} : t.isEmpty = true ↔ ∀ k, t.get? k = none := by
  rw [isEmpty, List.isEmpty_iff]
  constructor
  · intro h k
    rw [get?, h, find?]
  · intro h
    rw [List.eq_nil_iff_forall_not_mem]
    rintro ⟨k, a⟩ hm
    rw [mem_entries_iff, h] at hm
    cases hm

/-- `size` depends on what keys are mapped to only. -/
theorem size_congr {s t : Table κ α} (h : ∀ k, s.get? k = t.get? k) : s.size = t.size := by
  refine List.Perm.length_eq ?_
  rw [List.perm_ext_iff_of_nodup (List.Nodup.of_map _ s.nodup) (List.Nodup.of_map _ t.nodup)]
  rintro ⟨k, a⟩
  rw [mem_entries_iff, mem_entries_iff, h]

theorem get?_congr {s t : Table κ α} (h : s.entries.Perm t.entries) (k : κ) :
    s.get? k = t.get? k := by
  ext a
  rw [← mem_entries_iff, h.mem_iff, mem_entries_iff]

/-- A table that maps one key more has one entry more. -/
theorem perm_entries_cons {s t : Table κ α} {k : κ} {a : α} (hk : t.get? k = none)
    (h : ∀ x, s.get? x = if x = k then some a else t.get? x) :
    s.entries.Perm ((k, a) :: t.entries) := by
  have hnew : (k, a) ∉ t.entries := by
    rw [mem_entries_iff, hk]
    nofun
  rw [List.perm_ext_iff_of_nodup (List.Nodup.of_map _ s.nodup)
    (List.nodup_cons.2 ⟨hnew, List.Nodup.of_map _ t.nodup⟩)]
  rintro ⟨x, b⟩
  rw [mem_entries_iff, h, List.mem_cons, mem_entries_iff]
  split_ifs with hx
  · subst hx
    simp [hk, eq_comm]
  · simp [hx]

/-- `size` is the length of a list of exactly the keys, without repeats. -/
theorem size_eq_length {t : Table κ α} {ks : List κ} (hn : ks.Nodup)
    (h : ∀ k, (t.get? k).isSome = true ↔ k ∈ ks) : t.size = ks.length := by
  rw [size, ← List.length_map Prod.fst]
  refine List.Perm.length_eq ((List.perm_ext_iff_of_nodup t.nodup hn).2 fun k => ?_)
  rw [← h]
  exact mem_keys_iff

theorem size_eq_zero_iff {t : Table κ α} : t.size = 0 ↔ ∀ k, t.get? k = none := by
  rw [← isEmpty_iff, isEmpty, size, List.isEmpty_iff, List.length_eq_zero_iff]

/-! ### Searching the values -/

theorem find?_values_eq_some {t : Table κ α} {p : α → Bool} {a : α}
    (h : t.values.find? p = some a) : p a = true ∧ ∃ k, t.get? k = some a :=
  ⟨List.find?_some h, mem_values_iff.1 (List.mem_of_find?_eq_some h)⟩

/-- A search through `values` finds nothing exactly if no value passes the test. -/
theorem find?_values_eq_none_iff {t : Table κ α} {p : α → Bool} :
    t.values.find? p = none ↔ ∀ k a, t.get? k = some a → p a = false := by
  rw [List.find?_eq_none]
  constructor
  · intro h k a hk
    exact Bool.not_eq_true _ ▸ h a (mem_values_iff.2 ⟨k, hk⟩)
  · intro h a ha
    obtain ⟨k, hk⟩ := mem_values_iff.1 ha
    rw [h k a hk]
    exact Bool.false_ne_true

/-- `find?` among `values` does not depend on the order of the entries, if one value at most passes.
-/
theorem find?_values_congr {s t : Table κ α} {p : α → Bool} (h : ∀ k, s.get? k = t.get? k)
    (hone : ∀ k k' a a', s.get? k = some a → s.get? k' = some a' → p a = true → p a' = true →
      a = a') : s.values.find? p = t.values.find? p := by
  cases hs : s.values.find? p with
  | none =>
    symm
    rw [find?_values_eq_none_iff] at hs ⊢
    exact fun k a hk => hs k a ((h k).trans hk)
  | some a =>
    obtain ⟨ha, k, hk⟩ := find?_values_eq_some hs
    cases ht : t.values.find? p with
    | none =>
      -- what is a value of one table is a value of the other
      have hnot := find?_values_eq_none_iff.1 ht k a ((h k).symm.trans hk)
      rw [ha] at hnot
      cases hnot
    | some a' =>
      obtain ⟨ha', k', hk'⟩ := find?_values_eq_some ht
      rw [hone k k' a a' hk ((h k').trans hk') ha ha']

/-- `find?` among `values` by something in which all of them differ does not depend on the order. -/
theorem find?_values_beq_congr {β : Type} [BEq β] [LawfulBEq β] {s t : Table κ α} {f : α → β}
    (h : s.entries.Perm t.entries)
    (hdiffer : ∀ k k' a a', s.get? k = some a → s.get? k' = some a' → f a = f a' → k = k')
    (b : β) : t.values.find? (fun a => f a == b) = s.values.find? fun a => f a == b := by
  refine (find?_values_congr (get?_congr h) ?_).symm
  intro k k' a a' hk hk' hb hb'
  rw [beq_iff_eq] at hb hb'
  obtain rfl := hdiffer k k' a a' hk hk' (hb.trans hb'.symm)
  exact Option.some.inj (hk.symm.trans hk')

/-! ### Tables of entries -/

/-- `find?` finds the first entry under a key, even if others follow. -/
theorem find?_eq_some_iff_append {es : List (κ × α)} {k : κ} {a : α} :
    find? k es = some a ↔
      ∃ front back, es = front ++ (k, a) :: back ∧ ∀ e ∈ front, e.1 ≠ k := by
  induction es with
  | nil => simp [find?]
  | cons e es ih =>
    obtain ⟨k', a'⟩ := e
    rw [find?]
    split_ifs with hk
    · subst hk
      constructor
      · rintro ⟨⟩
        exact ⟨[], es, rfl, List.forall_mem_nil _⟩
      · rintro ⟨front, back, heq, hfront⟩
        -- the first entry has this key already, so nothing stands before it
        cases front with
        | nil =>
          cases heq
          rfl
        | cons e front =>
          cases heq
          exact absurd rfl (hfront _ List.mem_cons_self)
    · rw [ih]
      constructor
      · rintro ⟨front, back, rfl, hfront⟩
        exact ⟨(k', a') :: front, back, rfl, List.forall_mem_cons.2 ⟨hk, hfront⟩⟩
      · rintro ⟨front, back, heq, hfront⟩
        cases front with
        | nil =>
          cases heq
          exact absurd rfl hk
        | cons e front =>
          cases heq
          exact ⟨front, back, rfl, (List.forall_mem_cons.1 hfront).2⟩

theorem find?_eq_none_iff {es : List (κ × α)} {k : κ} :
    find? k es = none ↔ ∀ e ∈ es, e.1 ≠ k := by
  induction es with
  | nil => simp [find?]
  | cons e es ih =>
    rw [find?, List.forall_mem_cons]
    split_ifs with hk
    · exact iff_of_false not_false fun h => h.1 hk
    · rw [ih, and_iff_right hk]

/-- `ofList` keeps the last entry of each key, which comes first from behind. -/
theorem get?_ofList (es : List (κ × α)) (k : κ) : (ofList es).get? k = find? k es.reverse := by
  induction es using List.reverseRecOn with
  | nil => rfl
  | append_singleton es e ih =>
    rw [ofList, List.foldl_concat, ← ofList, get?_insert, List.reverse_concat, find?, ih]
    simp only [eq_comm]

/-- `ofList` maps a key to the value of its last entry. -/
theorem get?_ofList_eq_some_iff {es : List (κ × α)} {k : κ} {a : α} :
    (ofList es).get? k = some a ↔
      ∃ front back, es = front ++ (k, a) :: back ∧ ∀ e ∈ back, e.1 ≠ k := by
  rw [get?_ofList, find?_eq_some_iff_append]
  constructor
  · rintro ⟨front, back, heq, hfront⟩
    refine ⟨back.reverse, front.reverse, ?_, fun e he => hfront e (List.mem_reverse.1 he)⟩
    rw [← List.reverse_reverse es, heq]
    simp
  · rintro ⟨front, back, rfl, hback⟩
    refine ⟨back.reverse, front.reverse, ?_, fun e he => hback e (List.mem_reverse.1 he)⟩
    simp

theorem get?_ofList_eq_none_iff {es : List (κ × α)} {k : κ} :
    (ofList es).get? k = none ↔ ∀ e ∈ es, e.1 ≠ k := by
  rw [get?_ofList, find?_eq_none_iff]
  simp only [List.mem_reverse]

theorem mem_of_get?_ofList {es : List (κ × α)} {k : κ} {a : α}
    (h : (ofList es).get? k = some a) : (k, a) ∈ es := by
  obtain ⟨front, back, rfl, -⟩ := get?_ofList_eq_some_iff.1 h
  exact List.mem_append_right front List.mem_cons_self

theorem isSome_get?_ofList {es : List (κ × α)} {e : κ × α} (he : e ∈ es) :
    ((ofList es).get? e.1).isSome = true := by
  rw [← Option.ne_none_iff_isSome]
  exact fun hnone => get?_ofList_eq_none_iff.1 hnone e he rfl

end GroupChat.Table
