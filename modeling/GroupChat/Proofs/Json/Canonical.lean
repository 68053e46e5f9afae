import Mathlib.Data.String.Basic
import GroupChat.Proofs.Json.Grammar

/-!
# Values with sorted members

The members of an object are sorted by name, and no two of them have the same name then. A value
with sorted members is told by its members alone, in whatever order they are written.

## Main definitions

- `Sorted`: members in the order of their names.
- `Sound`: a value as it is kept.
- `Reordered`: a value whose objects have their members in another order.

## Main statements

- `sortMembers_of_perm`: sorting takes any order back.
- `filter_sortMembers`: the members of some names are sorted like all others.
- `canonical_canonical`: sorting twice changes nothing.
- `Reordered.canonical`: a value with sorted members comes back from any order.
-/

namespace GroupChat.Json

section

variable {α : Type} {name : String} {value : α} {m : String × α} {ms ms' : List (String × α)}

/-! ### Sorting members -/

/-- The members `ms` stand in the order of their names, which differ. -/
def Sorted (ms : List (String × α)) : Prop := ms.Pairwise fun m m' => m.1 < m'.1

theorem insertMember_cons (name : String) (value : α) (m : String × α) (ms : List (String × α)) :
    insertMember name value (m :: ms) =
      if name < m.1 then (name, value) :: m :: ms
      else if name = m.1 then (name, value) :: ms
      else m :: insertMember name value ms :=
  rfl

theorem mem_insertMember (h : m ∈ insertMember name value ms) : m = (name, value) ∨ m ∈ ms := by
  induction ms with
  | nil => exact Or.inl (List.mem_singleton.1 h)
  | cons m' ms ih =>
    rw [insertMember_cons] at h
    split_ifs at h
    · exact List.mem_cons.1 h
    · exact (List.mem_cons.1 h).imp_right (List.mem_cons_of_mem m')
    · obtain rfl | h := List.mem_cons.1 h
      · exact Or.inr List.mem_cons_self
      · exact (ih h).imp_right (List.mem_cons_of_mem m')

/-- `insertMember` keeps members sorted. -/
theorem sorted_insertMember (name : String) (value : α) (h : Sorted ms) :
    Sorted (insertMember name value ms) := by
  induction ms with
  | nil => exact List.pairwise_singleton _ _
  | cons m ms ih =>
    obtain ⟨hm, hms⟩ := List.pairwise_cons.1 h
    rw [insertMember_cons]
    -- before the first member, in its place, or further behind
    split_ifs with hlt heq
    · refine List.pairwise_cons.2 ⟨fun m' hm' => ?_, h⟩
      obtain rfl | hm' := List.mem_cons.1 hm'
      · exact hlt
      · exact lt_trans hlt (hm m' hm')
    · exact List.pairwise_cons.2 ⟨fun m' hm' => heq ▸ hm m' hm', hms⟩
    · refine List.pairwise_cons.2 ⟨fun m' hm' => ?_, ih hms⟩
      obtain rfl | hm' := mem_insertMember hm'
      · exact lt_of_le_of_ne (not_lt.1 hlt) (Ne.symm heq)
      · exact hm m' hm'

/-- `insertMember` of a new name puts the member somewhere among the others. -/
theorem perm_insertMember (value : α) (h : ∀ m ∈ ms, m.1 ≠ name) :
    (insertMember name value ms).Perm ((name, value) :: ms) := by
  induction ms with
  | nil => exact List.Perm.refl _
  | cons m ms ih =>
    have hm : m.1 ≠ name := h m List.mem_cons_self
    have hms : ∀ m' ∈ ms, m'.1 ≠ name := fun m' hm' => h m' (List.mem_cons_of_mem m hm')
    rw [insertMember_cons]
    split_ifs with hlt heq
    · exact List.Perm.refl _
    · exact absurd heq.symm hm
    · exact ((ih hms).cons m).trans (List.Perm.swap _ _ _)

theorem insertMember_of_lt (value : α) (h : ∀ m ∈ ms, name < m.1) :
    insertMember name value ms = (name, value) :: ms := by
  cases ms with
  | nil => rfl
  | cons m ms => rw [insertMember, if_pos (h m List.mem_cons_self)]

/-- `sortMembers` sorts by name, with no name twice. -/
theorem sorted_sortMembers (ms : List (String × α)) : Sorted (sortMembers ms) := by
  suffices h : ∀ acc : List (String × α), Sorted acc →
      Sorted (ms.foldl (fun sorted m => insertMember m.1 m.2 sorted) acc) from
    h [] .nil
  induction ms with
  | nil => exact fun _ h => h
  | cons m ms ih => exact fun acc h => ih _ (sorted_insertMember m.1 m.2 h)

/-- `sortMembers` adds no member. -/
theorem mem_sortMembers (h : m ∈ sortMembers ms) : m ∈ ms := by
  -- members are put in one by one, so the induction is about those that are in already
  suffices hall : ∀ acc : List (String × α),
      m ∈ ms.foldl (fun sorted m => insertMember m.1 m.2 sorted) acc →
        m ∈ acc ∨ m ∈ ms from
    (hall [] h).resolve_left List.not_mem_nil
  clear h
  induction ms with
  | nil => exact fun _ h => Or.inl h
  | cons m' ms ih =>
    intro acc h
    obtain h | h := ih _ h
    · obtain rfl | h := mem_insertMember h
      · exact Or.inr List.mem_cons_self
      · exact Or.inl h
    · exact Or.inr (List.mem_cons_of_mem m' h)

/-- `sortMembers` only puts members of different names in order. Of members of one name it keeps the
last one, so the hypothesis is needed. -/
theorem perm_sortMembers (h : (ms.map Prod.fst).Nodup) : (sortMembers ms).Perm ms := by
  -- members are put in one by one, so the induction is about those that are in already
  suffices hall : ∀ acc : List (String × α), ((acc ++ ms).map Prod.fst).Nodup →
      (ms.foldl (fun sorted m => insertMember m.1 m.2 sorted) acc).Perm
        (acc ++ ms) from
    hall [] h
  clear h
  induction ms with
  | nil =>
    intro acc _
    rw [List.append_nil]
    exact List.Perm.refl acc
  | cons m ms ih =>
    intro acc h
    have hmiddle : ((acc ++ m :: ms).map Prod.fst).Perm ((m :: acc ++ ms).map Prod.fst) :=
      List.perm_middle.map _
    -- the next name is a new one, so nothing is replaced
    have hnew : ∀ m' ∈ acc, m'.1 ≠ m.1 := by
      intro m' hm' heq
      refine (List.nodup_cons.1 (hmiddle.nodup_iff.1 h)).1 ?_
      exact List.mem_map.2 ⟨m', List.mem_append_left ms hm', heq⟩
    have hperm : (insertMember m.1 m.2 acc).Perm (m :: acc) := perm_insertMember m.2 hnew
    have hnodup : ((insertMember m.1 m.2 acc ++ ms).map Prod.fst).Nodup := by
      refine (List.Perm.nodup_iff ?_).1 (hmiddle.nodup_iff.1 h)
      exact ((hperm.symm.append_right ms).map Prod.fst)
    exact ((ih _ hnodup).trans (hperm.append_right ms)).trans List.perm_middle.symm

/-- `sortMembers` brings `Sorted` members back from any order. -/
theorem sortMembers_of_perm (h : Sorted ms) (hperm : ms'.Perm ms) : sortMembers ms' = ms := by
  have hnodup : (ms.map Prod.fst).Nodup :=
    List.pairwise_map.2 (h.imp fun hlt => hlt.ne)
  have hsorted : (sortMembers ms').Perm ms :=
    (perm_sortMembers ((hperm.map Prod.fst).nodup_iff.2 hnodup)).trans hperm
  exact hsorted.eq_of_pairwise (fun _ _ _ _ hlt hgt => absurd hgt hlt.asymm)
    (sorted_sortMembers ms') h

/-- `sortMembers` leaves sorted members as they are. -/
theorem sortMembers_of_sorted (h : Sorted ms) : sortMembers ms = ms :=
  sortMembers_of_perm h (List.Perm.refl ms)

/-- Picking members by their names and `insertMember` may change places. -/
theorem filter_insertMember (p : String → Bool) (name : String) (value : α) (h : Sorted ms) :
    (insertMember name value ms).filter (fun m => p m.1) =
      if p name then insertMember name value (ms.filter fun m => p m.1)
      else ms.filter fun m => p m.1 := by
  induction ms with
  | nil => cases hp : p name <;> simp [insertMember, hp]
  | cons m ms ih =>
    obtain ⟨hm, hms⟩ := List.pairwise_cons.1 h
    rw [insertMember_cons]
    -- the member goes in front, into the place of one of its name, or further behind, and each time
    -- it is either one of the wanted names or not
    split_ifs with hlt hp heq hp hp
    · have hfront : ∀ m' ∈ (m :: ms).filter (fun m => p m.1), name < m'.1 := by
        intro m' hm'
        obtain rfl | hm' := List.mem_cons.1 (List.mem_of_mem_filter hm')
        · exact hlt
        · exact lt_trans hlt (hm m' hm')
      rw [insertMember_of_lt value hfront, List.filter_cons, if_pos hp]
    · rw [List.filter_cons, if_neg hp]
    · subst heq
      rw [List.filter_cons, List.filter_cons, if_pos hp, if_pos hp, insertMember_cons,
        if_neg (lt_irrefl m.1), if_pos rfl]
    · subst heq
      rw [List.filter_cons, List.filter_cons, if_neg hp, if_neg hp]
    · rw [List.filter_cons, List.filter_cons, ih hms, if_pos hp]
      split_ifs
      · rw [insertMember_cons, if_neg hlt, if_neg heq]
      · rfl
    · rw [List.filter_cons, List.filter_cons, ih hms, if_neg hp]

/-- `sortMembers` commutes with a filter by names. -/
theorem filter_sortMembers (p : String → Bool) (ms : List (String × α)) :
    (sortMembers ms).filter (fun m => p m.1) = sortMembers (ms.filter fun m => p m.1) := by
  -- members are put in one by one, so the induction is about those that are in already
  suffices h : ∀ acc : List (String × α), Sorted acc →
      (ms.foldl (fun sorted m => insertMember m.1 m.2 sorted) acc).filter
          (fun m => p m.1) =
        (ms.filter fun m => p m.1).foldl
          (fun sorted m => insertMember m.1 m.2 sorted)
          (acc.filter fun m => p m.1) from
    h [] .nil
  induction ms with
  | nil => exact fun _ _ => rfl
  | cons m ms ih =>
    intro acc h
    rw [List.foldl_cons, ih _ (sorted_insertMember m.1 m.2 h), filter_insertMember p m.1 m.2 h,
      List.filter_cons]
    split_ifs <;> rfl

end

/-! ### Values with sorted members -/

variable {v w : Json} {vs : List Json} {ms : List (String × Json)} {n : Nat}

mutual

/-- Induction on `Json`: what holds of scalars, and of a list or an object if it holds of all that
stands in it, holds of every value. -/
@[elab_as_elim]
theorem of_parts {P : Json → Prop} (scalar : ∀ v, IsScalar v → P v)
    (list : ∀ vs, (∀ v ∈ vs, P v) → P (.list vs))
    (object : ∀ ms, (∀ m ∈ ms, P m.2) → P (.object ms)) : ∀ v, P v
  | .null => scalar _ trivial
  | .bool _ => scalar _ trivial
  | .int _ => scalar _ trivial
  | .float _ => scalar _ trivial
  | .text _ => scalar _ trivial
  | .list vs => list vs (of_items scalar list object vs)
  | .object ms => object ms (of_members scalar list object ms)

theorem of_items {P : Json → Prop} (scalar : ∀ v, IsScalar v → P v)
    (list : ∀ vs, (∀ v ∈ vs, P v) → P (.list vs))
    (object : ∀ ms, (∀ m ∈ ms, P m.2) → P (.object ms)) : ∀ vs : List Json, ∀ v ∈ vs, P v
  | [], _, h => nomatch h
  | v :: vs, _, h => (List.mem_cons.1 h).elim (fun h => h ▸ of_parts scalar list object v)
      (of_items scalar list object vs _)

theorem of_members {P : Json → Prop} (scalar : ∀ v, IsScalar v → P v)
    (list : ∀ vs, (∀ v ∈ vs, P v) → P (.list vs))
    (object : ∀ ms, (∀ m ∈ ms, P m.2) → P (.object ms)) :
    ∀ ms : List (String × Json), ∀ m ∈ ms, P m.2
  | [], _, h => nomatch h
  | (_, v) :: ms, _, h => (List.mem_cons.1 h).elim (fun h => h ▸ of_parts scalar list object v)
      (of_members scalar list object ms _)

end

theorem canonicalItems_eq_map (vs : List Json) : canonicalItems vs = vs.map canonical := by
  induction vs with
  | nil => rfl
  | cons v vs ih => rw [canonicalItems, ih, List.map_cons]

theorem canonicalMembers_eq_map (ms : List (String × Json)) :
    canonicalMembers ms = ms.map fun m => (m.1, m.2.canonical) := by
  induction ms with
  | nil => rfl
  | cons m ms ih => rw [canonicalMembers, ih, List.map_cons]

theorem canonical_list (vs : List Json) : canonical (.list vs) = .list (vs.map canonical) := by
  rw [canonical, canonicalItems_eq_map]

theorem canonical_object (ms : List (String × Json)) :
    canonical (.object ms) = .object (sortMembers (ms.map fun m => (m.1, m.2.canonical))) := by
  rw [canonical, canonicalMembers_eq_map]

theorem canonical_scalar (h : IsScalar v) : v.canonical = v := by
  cases v with
  | list | object => exact h.elim
  | null | bool | int | float | text => rfl

/-- `canonical` is idempotent. -/
theorem canonical_canonical (v : Json) : v.canonical.canonical = v.canonical := by
  induction v using of_parts with
  | scalar v h => rw [canonical_scalar h, canonical_scalar h]
  | list vs ih =>
    rw [canonical_list, canonical_list, List.map_map]
    exact congrArg list (List.map_congr_left ih)
  | object ms ih =>
    rw [canonical_object, canonical_object, List.map_congr_left (g := id), List.map_id,
      sortMembers_of_sorted (sorted_sortMembers _)]
    intro m hm
    obtain ⟨m', hm', rfl⟩ := List.mem_map.1 (mem_sortMembers hm)
    exact congrArg (Prod.mk m'.1) (ih m' hm')

/-- A value that is its own `canonical` form has `Sorted` members, and so have the values in it. -/
theorem sorted_of_canonical (h : (object ms).canonical = .object ms) :
    Sorted ms ∧ ∀ m ∈ ms, m.2.canonical = m.2 := by
  rw [canonical_object, object.injEq] at h
  refine ⟨h ▸ sorted_sortMembers _, fun m hm => ?_⟩
  rw [← h] at hm
  obtain ⟨m', -, rfl⟩ := List.mem_map.1 (mem_sortMembers hm)
  exact canonical_canonical m'.2

theorem within_of_isScalar (h : IsScalar v) : Within n v := by
  cases v with
  | list | object => exact h.elim
  | null | bool | int | float | text => cases n <;> exact trivial

/-- `Within` is monotone in the depth. -/
theorem Within.mono {k : Nat} (h : Within n v) (hk : n ≤ k) : Within k v := by
  induction k generalizing n v with
  | zero =>
    -- both depths are zero
    cases Nat.le_zero.1 hk
    exact h
  | succ k ih =>
    cases n with
    | zero =>
      cases v with
      | list | object => exact h.elim
      | null | bool | int | float | text => exact trivial
    | succ n =>
      cases v with
      | list vs => exact fun v hv => ih (h v hv) (Nat.le_of_succ_le_succ hk)
      | object ms => exact fun m hm => ih (h m hm) (Nat.le_of_succ_le_succ hk)
      | null | bool | int | float | text => exact trivial

/-- `canonical` lets nothing stand deeper. -/
theorem within_canonical (h : Within n v) : Within n v.canonical := by
  induction n generalizing v with
  | zero =>
    cases v with
    | list | object => exact h.elim
    | null | bool | int | float | text => exact h
  | succ n ih =>
    cases v with
    | list vs =>
      rw [canonical_list]
      intro v hv
      obtain ⟨v', hv', rfl⟩ := List.mem_map.1 hv
      exact ih (h v' hv')
    | object ms =>
      rw [canonical_object]
      intro m hm
      obtain ⟨m', hm', rfl⟩ := List.mem_map.1 (mem_sortMembers hm)
      exact ih (h m' hm')
    | null | bool | int | float | text => exact h

/-- The value `v` is as it is kept: sorted (`canonical`), at most `n` deep (`Within`), and not
`.null`. -/
structure Sound (n : Nat) (v : Json) : Prop where
  /-- The members of its objects are sorted. -/
  canonical : v.canonical = v
  /-- Nothing stands too deep in it. -/
  within : Within n v
  /-- It is not the empty value. -/
  ne_null : v ≠ .null

/-- `canonical` makes `null` of nothing else. -/
theorem ne_null_of_canonical (h : v ≠ .null) : v.canonical ≠ .null := by
  cases v with
  | null => exact absurd rfl h
  | list vs => rw [canonical_list]; nofun
  | object ms => rw [canonical_object]; nofun
  | bool | int | float | text => nofun

theorem sound_canonical (hv : Within n v) (hnull : v ≠ .null) : Sound n v.canonical :=
  ⟨canonical_canonical v, within_canonical hv, ne_null_of_canonical hnull⟩

/-! ### Other orders -/

mutual

/-- A value with the members of its objects in another order, anywhere inside of it; what is no
object or list is as it was. -/
inductive Reordered : Json → Json → Prop where
  /-- A value that is neither a list nor an object stays. -/
  | scalar {v : Json} (scalar : IsScalar v) : Reordered v v
  /-- The items of a list keep their order. -/
  | list {vs ws : List Json} (items : List.Forall₂ Reordered vs ws) :
      Reordered (.list vs) (.list ws)
  /-- The members of an object are put in another order. -/
  | object {ms ms' ms'' : List (String × Json)} (members : List.Forall₂ ReorderedMember ms ms')
      (order : ms''.Perm ms') : Reordered (.object ms) (.object ms'')

/-- A member with the same name and a `Reordered` value. -/
inductive ReorderedMember : String × Json → String × Json → Prop where
  /-- The name stays. -/
  | mk {name : String} {v w : Json} (value : Reordered v w) : ReorderedMember (name, v) (name, w)

end

theorem Reordered.refl (v : Json) : Reordered v v := by
  induction v using of_parts with
  | scalar v h => exact .scalar h
  | list vs ih => exact .list (List.forall₂_same.2 ih)
  | object ms ih =>
    exact .object (List.forall₂_same.2 fun m hm => .mk (ih m hm)) (List.Perm.refl ms)

/-- Items that are `Reordered` one by one have the same `canonical` form; the hypothesis is that of
an induction on values. -/
theorem map_canonical_of_reordered {ws : List Json} (items : List.Forall₂ Reordered vs ws)
    (h : ∀ v ∈ vs, ∀ w, Reordered v w → w.canonical = v) : ws.map canonical = vs := by
  induction items with
  | nil => rfl
  | @cons v w vs ws hitem _ ih =>
    rw [List.map_cons, h v List.mem_cons_self w hitem,
      ih fun v' hv' => h v' (List.mem_cons_of_mem v hv')]

theorem map_canonical_of_reorderedMember {ms' : List (String × Json)}
    (members : List.Forall₂ ReorderedMember ms ms')
    (h : ∀ m ∈ ms, ∀ w, Reordered m.2 w → w.canonical = m.2) :
    (ms'.map fun m => (m.1, m.2.canonical)) = ms := by
  induction members with
  | nil => rfl
  | @cons m m' ms ms' hmember _ ih =>
    cases hmember with
    | @mk name v w value =>
      rw [List.map_cons, h (name, v) List.mem_cons_self w value,
        ih fun m hm => h m (List.mem_cons_of_mem (name, v) hm)]

theorem Reordered.ne_null (h : Reordered v w) (hv : v ≠ .null) : w ≠ .null := by
  cases h with
  | scalar => exact hv
  | list | object => nofun

/-- `canonical` brings a value with sorted members back from any order. -/
theorem Reordered.canonical (h : Reordered v w) (hv : v.canonical = v) : w.canonical = v := by
  induction v using of_parts generalizing w with
  | scalar v =>
    cases h with
    | scalar => exact hv
    | list | object => contradiction
  | list vs ih =>
    cases h with
    | scalar scalar => exact scalar.elim
    | @list _ ws items =>
      rw [canonical_list, list.injEq] at hv ⊢
      have hvs : ∀ v ∈ vs, v.canonical = v :=
        List.map_inj_left.1 (hv.trans (List.map_id vs).symm)
      exact map_canonical_of_reordered items fun v hmem w hw => ih v hmem hw (hvs v hmem)
  | object ms ih =>
    cases h with
    | scalar scalar => exact scalar.elim
    | @object _ ms' ms'' members order =>
      obtain ⟨hsorted, hms⟩ := sorted_of_canonical hv
      have hmap : (ms'.map fun m => (m.1, m.2.canonical)) = ms :=
        map_canonical_of_reorderedMember members fun m hmem w hw => ih m hmem hw (hms m hmem)
      -- strictly sorted members are the only sorted ones among all of their orders
      rw [canonical_object, sortMembers_of_perm hsorted]
      exact hmap ▸ order.map _

/-- A property that each part passes on along `List.Forall₂` holds of all parts. -/
theorem forall_of_forall₂ {α β : Type} {R : α → β → Prop} {P : α → Prop} {Q : β → Prop}
    {as : List α} {bs : List β} (h : List.Forall₂ R as bs) (hP : ∀ a ∈ as, P a)
    (hQ : ∀ a b, R a b → P a → Q b) : ∀ b ∈ bs, Q b := by
  induction h with
  | nil => exact nofun
  | cons hab _ ih =>
    obtain ⟨ha, has⟩ := List.forall_mem_cons.1 hP
    exact List.forall_mem_cons.2 ⟨hQ _ _ hab ha, ih has⟩

/-- `Reordered` lets nothing stand deeper. -/
theorem Reordered.within (h : Reordered v w) (hv : Within n v) : Within n w := by
  induction n generalizing v w with
  | zero =>
    cases h with
    | scalar => exact hv
    | list | object => exact hv.elim
  | succ n ih =>
    cases h with
    | scalar => exact hv
    | list items => exact forall_of_forall₂ items hv fun _ _ hvw hv => ih hvw hv
    | @object ms ms' ms'' members order =>
      -- first each member, and then their order
      have hms' : ∀ m ∈ ms', Within n m.2 := by
        refine forall_of_forall₂ members hv fun m m' hm hv => ?_
        cases hm with
        | mk value => exact ih value hv
      exact fun m hm => hms' m (order.mem_iff.1 hm)

end GroupChat.Json
