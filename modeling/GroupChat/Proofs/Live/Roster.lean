import GroupChat.Live.Connection
import GroupChat.Proofs.Table

/-!
# The directory of connections

In a sound directory the two tables agree: an account is listed with the identifiers of exactly the
connections that it has. Adding and removing connections keeps a directory sound, as long as an
identifier never stands for two connections.

## Main statements

- `Roster.Sound`: the two tables agree.
- `Roster.mem_connectionsOf`, `Roster.hasAccount_iff`: what the account index is asked for.
- `Roster.Sound.add`, `Roster.Sound.remove`: what comes and goes keeps the tables in agreement.
- `Roster.Sound.removeId`, `Roster.Sound.removeAccount`: what a removal hands back, and who is left.
-/

namespace GroupChat.Roster

/-- The connection `c` is in the directory `r`, under its own identifier. -/
def Holds (r : Roster) (c : Connection) : Prop := r.get? c.id = some c

instance (r : Roster) (c : Connection) : Decidable (r.Holds c) :=
  inferInstanceAs (Decidable (r.get? c.id = some c))

/-- The tables `byId` and `byAccount` agree. -/
structure Sound (r : Roster) : Prop where
  /-- A connection stands under its own identifier. -/
  keyed : ∀ k c, r.get? k = some c → c.id = k
  /-- An account is listed with the identifiers of its connections. -/
  indexed : ∀ a k, k ∈ r.idsOf a ↔ ∃ c, r.get? k = some c ∧ c.account = a
  /-- An account without connections is not listed. -/
  listed : ∀ a, r.byAccount.get? a ≠ some []
  /-- An identifier is listed once. -/
  nodup : ∀ a, (r.idsOf a).Nodup

variable {r : Roster} {c d : Connection} {a : String}

/-- In a roster an identifier stands for one connection. -/
theorem Holds.eq_of_id_eq (hc : r.Holds c) (hd : r.Holds d) (h : c.id = d.id) : c = d :=
  Option.some.inj (hc.symm.trans ((congrArg r.get? h).trans hd))

theorem Sound.holds_of_get? (hr : r.Sound) {k : String} (h : r.get? k = some c) : r.Holds c := by
  rw [Holds, hr.keyed k c h, h]

theorem sound_empty : Sound {} where
  keyed _ _ h := by cases h
  indexed a k := by simp [idsOf, get?]
  listed a h := by cases h
  nodup a := List.nodup_nil

/-! ### The account index -/

/-- `idsOf` lists exactly the identifiers of the connections of the account. -/
theorem Sound.mem_idsOf (hr : r.Sound) {k : String} :
    k ∈ r.idsOf a ↔ ∃ c, r.Holds c ∧ c.id = k ∧ c.account = a := by
  rw [hr.indexed]
  constructor
  · rintro ⟨c, hk, ha⟩
    exact ⟨c, hr.holds_of_get? hk, hr.keyed k c hk, ha⟩
  · rintro ⟨c, hc, rfl, ha⟩
    exact ⟨c, hc, ha⟩

/-- `connectionsOf` lists exactly the connections of the account. -/
theorem Sound.mem_connectionsOf (hr : r.Sound) :
    c ∈ r.connectionsOf a ↔ r.Holds c ∧ c.account = a := by
  rw [connectionsOf, List.mem_filterMap]
  constructor
  · rintro ⟨k, hk, hc⟩
    obtain ⟨d, hd, ha⟩ := (hr.indexed a k).1 hk
    obtain rfl : d = c := Option.some.inj (hd.symm.trans hc)
    exact ⟨hr.holds_of_get? hc, ha⟩
  · rintro ⟨hc, ha⟩
    exact ⟨c.id, (hr.indexed a c.id).2 ⟨c, hc, ha⟩, hc⟩

theorem Sound.nodup_connectionsOf (hr : r.Sound) (a : String) : (r.connectionsOf a).Nodup := by
  refine (hr.nodup a).filterMap fun k k' c hk hk' => ?_
  rw [← hr.keyed k c hk, ← hr.keyed k' c hk']

theorem Sound.mem_othersOf (hr : r.Sound) (hc : r.Holds c) :
    d ∈ r.othersOf c ↔ d ≠ c ∧ r.Holds d ∧ d.account = c.account := by
  rw [othersOf, List.mem_filter, hr.mem_connectionsOf, bne_iff_ne, and_comm]
  refine and_congr_left fun ⟨hd, _⟩ => not_congr ⟨fun hid => ?_, congrArg Connection.id⟩
  exact hd.eq_of_id_eq hc hid

theorem Sound.nodup_othersOf (hr : r.Sound) (c : Connection) : (r.othersOf c).Nodup :=
  (hr.nodup_connectionsOf c.account).filter _

/-- `hasAccount` is true exactly if some connection is one of the account. -/
theorem Sound.hasAccount_iff (hr : r.Sound) :
    r.hasAccount a = true ↔ ∃ c, r.Holds c ∧ c.account = a := by
  rw [hasAccount, Table.contains_iff]
  constructor
  · rintro ⟨ids, hids⟩
    -- an account is listed only with connections
    obtain ⟨k, hk⟩ : ∃ k, k ∈ ids := by
      cases ids with
      | nil => exact absurd hids (hr.listed a)
      | cons k rest => exact ⟨k, List.mem_cons_self⟩
    have hk' : k ∈ r.idsOf a := by rw [idsOf, hids]; exact hk
    obtain ⟨c, hc, -, ha⟩ := hr.mem_idsOf.1 hk'
    exact ⟨c, hc, ha⟩
  · rintro ⟨c, hc, ha⟩
    have hk : c.id ∈ r.idsOf a := hr.mem_idsOf.2 ⟨c, hc, rfl, ha⟩
    rw [idsOf] at hk
    cases hids : r.byAccount.get? a with
    | none => rw [hids] at hk; cases hk
    | some ids => exact ⟨ids, rfl⟩

/-! ### Adding -/

theorem get?_add (r : Roster) (c : Connection) (k : String) :
    (r.add c).get? k = if k = c.id then some c else r.get? k :=
  Table.get?_insert ..

theorem idsOf_add (r : Roster) (c : Connection) (a : String) :
    (r.add c).idsOf a = if a = c.account then (r.idsOf a).insert c.id else r.idsOf a := by
  rw [idsOf, add, Table.get?_insert]
  split
  · rename_i h
    rw [h, Option.getD_some]
  · rfl

/-- `add` keeps `Sound` if the identifier stands for no other connection. -/
theorem Sound.add (hr : r.Sound) (hc : ∀ d, r.get? c.id = some d → d = c) : (r.add c).Sound where
  keyed k d h := by
    rw [get?_add] at h
    split at h
    · rename_i hk
      cases h
      exact hk.symm
    · exact hr.keyed k d h
  indexed a k := by
    rw [idsOf_add, get?_add]
    by_cases ha : a = c.account
    · rw [if_pos ha, List.mem_insert_iff, hr.indexed]
      -- a connection that is added again has the same account as before
      by_cases hk : k = c.id
      · simp [hk, ha]
      · simp [hk]
    · rw [if_neg ha, hr.indexed]
      by_cases hk : k = c.id
      · subst hk
        constructor
        · rintro ⟨d, hd, hda⟩
          exact absurd (hda.symm.trans (congrArg Connection.account (hc d hd))) ha
        · rintro ⟨d, hd, hda⟩
          rw [if_pos rfl] at hd
          cases hd
          exact absurd hda.symm ha
      · simp [hk]
  listed a h := by
    rw [Roster.add, Table.get?_insert] at h
    split at h
    · exact List.ne_nil_of_mem (List.mem_insert_self) (Option.some.inj h)
    · exact hr.listed a h
  nodup a := by
    rw [idsOf_add]
    split
    · exact (hr.nodup a).insert
    · exact hr.nodup a

/-- `add` registers one connection, if no other one has its identifier. -/
theorem holds_add (hc : ∀ d, r.get? c.id = some d → d = c) :
    (r.add c).Holds d ↔ d = c ∨ r.Holds d := by
  rw [Holds, get?_add]
  split
  · rename_i hid
    constructor
    · intro h
      exact Or.inl (Option.some.inj h).symm
    · rintro (rfl | h)
      · rfl
      · rw [hc d (hid ▸ h)]
  · rename_i hid
    exact ⟨Or.inr, fun h => h.resolve_left fun hd => hid (congrArg Connection.id hd)⟩

/-! ### Removing -/

/-- `remove` takes a connection out of both directories. -/
theorem remove_eq_some {d : Connection} {r' : Roster} {k : String}
    (h : r.remove k = (some d, r')) :
    r.get? k = some d ∧ r' = ⟨r.byId.erase k, r.forget d.account k⟩ := by
  unfold remove at h
  split at h
  · cases h
  · rename_i hk
    cases h
    exact ⟨hk, rfl⟩

theorem remove_of_holds (hc : r.Holds c) : r.remove c.id = (some c, (r.remove c.id).2) := by
  rw [remove, show r.byId.get? c.id = some c from hc]

/-- `remove` changes nothing if no connection has the identifier. -/
theorem remove_eq_none {r' : Roster} {k : String} (h : r.remove k = (none, r')) :
    r.get? k = none ∧ r' = r := by
  unfold remove at h
  split at h
  · rename_i hk
    cases h
    exact ⟨hk, rfl⟩
  · cases h

/-- `forget` takes one identifier from the list of one account. -/
theorem get?_forget (r : Roster) (b k a : String) :
    ((r.forget b k).get? a).getD [] = if a = b then (r.idsOf a).erase k else r.idsOf a := by
  unfold forget
  split
  · rename_i hb
    split
    · rename_i hab
      rw [idsOf, hab, hb]
      rfl
    · rfl
  · rename_i ids hb
    split
    · rename_i hnil
      rw [Table.get?_erase]
      split
      · rename_i hab
        rw [idsOf, hab, hb, Option.getD_some, hnil]
        rfl
      · rfl
    · rename_i rest _
      rw [Table.get?_insert]
      split
      · rename_i hab
        rw [idsOf, hab, hb]
        rfl
      · rfl

/-- `forget` leaves no empty list behind. -/
theorem listed_forget (hr : r.Sound) (b k a : String) : (r.forget b k).get? a ≠ some [] := by
  unfold forget
  split
  · exact hr.listed a
  · split
    · rw [Table.get?_erase]
      split
      · exact Option.some_ne_none _ ∘ Eq.symm
      · exact hr.listed a
    · rename_i hne
      rw [Table.get?_insert]
      split
      · exact fun h => hne (Option.some.inj h)
      · exact hr.listed a

/-- `remove` keeps the two directories in agreement. -/
theorem Sound.remove (hr : r.Sound) {d : Connection} {r' : Roster} {k : String}
    (h : r.remove k = (some d, r')) : r'.Sound := by
  obtain ⟨hd, rfl⟩ := remove_eq_some h
  have hget : ∀ x, get? ⟨r.byId.erase k, r.forget d.account k⟩ x = if x = k then none else r.get? x :=
    Table.get?_erase _ _
  -- the identifier is taken from the list of one account
  have hids : ∀ a, idsOf ⟨r.byId.erase k, r.forget d.account k⟩ a =
      if a = d.account then (r.idsOf a).erase k else r.idsOf a := get?_forget r d.account k
  constructor
  case keyed =>
    intro x e he
    rw [hget] at he
    split at he
    · cases he
    · exact hr.keyed x e he
  case indexed =>
    intro a x
    rw [hids, hget]
    by_cases ha : a = d.account
    · rw [if_pos ha, (hr.nodup a).mem_erase_iff, hr.indexed]
      by_cases hx : x = k <;> simp [hx]
    · rw [if_neg ha, hr.indexed]
      by_cases hx : x = k
      · subst hx
        rw [hd]
        simpa using fun h => ha h.symm
      · simp [hx]
  case listed => exact listed_forget hr d.account k
  case nodup =>
    intro a
    rw [hids]
    split
    · exact (hr.nodup a).erase k
    · exact hr.nodup a

/-- `remove` takes out one connection, and all others stay. -/
theorem holds_remove {d : Connection} {r' : Roster}
    (h : r.remove d.id = (some d, r')) : r'.Holds c ↔ r.Holds c ∧ c ≠ d := by
  obtain ⟨hd, rfl⟩ := remove_eq_some h
  show (r.byId.erase d.id).get? c.id = some c ↔ _
  rw [Table.get?_erase]
  split
  · rename_i hid
    constructor
    · intro h
      cases h
    · rintro ⟨hc, hne⟩
      exact absurd (Holds.eq_of_id_eq hc hd hid) hne
  · rename_i hid
    exact ⟨fun hc => ⟨hc, fun he => hid (congrArg Connection.id he)⟩, And.left⟩

/-- `remove` hands back the connection that has the identifier, if there is one, and leaves the
others. -/
theorem Sound.removeId (hr : r.Sound) (k : String) :
    (r.remove k).2.Sound ∧ (∀ c, (r.remove k).1 = some c ↔ r.Holds c ∧ c.id = k) ∧
      ∀ c, (r.remove k).2.Holds c ↔ r.Holds c ∧ c.id ≠ k := by
  rcases hk : r.remove k with ⟨_ | d, r'⟩
  · -- nobody has the identifier
    obtain ⟨hnone, rfl⟩ := remove_eq_none hk
    have hother : ∀ c, r'.Holds c → c.id ≠ k := by
      rintro c hc rfl
      rw [Holds, hnone] at hc
      cases hc
    refine ⟨hr, fun c => ?_, fun c => ?_⟩
    · exact iff_of_false (Option.some_ne_none c).symm fun h => hother c h.1 h.2
    · exact (and_iff_left_of_imp (hother c)).symm
  · have hd : r.get? k = some d := (remove_eq_some hk).1
    obtain rfl := hr.keyed k d hd
    refine ⟨hr.remove hk, fun c => ?_, fun c => ?_⟩
    · constructor
      · rintro ⟨⟩
        exact ⟨hd, rfl⟩
      · rintro ⟨hc, hid⟩
        exact congrArg some (Holds.eq_of_id_eq hd hc hid.symm)
    · rw [holds_remove hk]
      exact and_congr_right fun hc => not_congr ⟨congrArg Connection.id, Holds.eq_of_id_eq hc hd⟩

/-! ### Removing several at once -/

/-- `connections` lists exactly those that are registered. -/
theorem Sound.mem_connections (hr : r.Sound) : c ∈ r.connections ↔ r.Holds c := by
  rw [connections, Table.mem_values_iff]
  constructor
  · rintro ⟨k, hk⟩
    exact hr.holds_of_get? hk
  · exact fun hc => ⟨c.id, hc⟩

theorem Sound.nodup_connections (hr : r.Sound) : r.connections.Nodup :=
  Table.nodup_values hr.keyed

theorem removeIds_cons (r : Roster) (k : String) (ids : List String) :
    r.removeIds (k :: ids) = ((r.remove k).1.toList ++ ((r.remove k).2.removeIds ids).1,
      ((r.remove k).2.removeIds ids).2) := rfl

/-- `removeIds` hands back the connections that had the identifiers, each once, and leaves the
others. An identifier that has gone already does no harm. -/
theorem Sound.removeIds (hr : r.Sound) (ids : List String) :
    (r.removeIds ids).2.Sound ∧ (r.removeIds ids).1.Nodup ∧
      (∀ c, c ∈ (r.removeIds ids).1 ↔ r.Holds c ∧ c.id ∈ ids) ∧
      ∀ c, (r.removeIds ids).2.Holds c ↔ r.Holds c ∧ c.id ∉ ids := by
  induction ids generalizing r with
  | nil =>
    refine ⟨hr, List.nodup_nil, fun c => ?_, fun c => ?_⟩
    · exact iff_of_false List.not_mem_nil fun h => List.not_mem_nil h.2
    · exact (and_iff_left List.not_mem_nil).symm
  | cons k ids ih =>
    obtain ⟨hsound, hgone, hleft⟩ := hr.removeId k
    obtain ⟨hsound', hnodup', hgone', hleft'⟩ := ih hsound
    rw [removeIds_cons]
    refine ⟨hsound', ?_, fun c => ?_, fun c => ?_⟩
    · -- who has gone with the first identifier does not go again with another one
      refine (Option.toList_nodup _).append hnodup' fun c hc hc' => ?_
      exact ((hleft c).1 ((hgone' c).1 hc').1).2 ((hgone c).1 (Option.mem_toList.1 hc)).2
    · rw [List.mem_append, Option.mem_toList, hgone, hgone', hleft, List.mem_cons, and_assoc,
        ← and_or_left]
      exact and_congr_right fun _ => or_congr_right' fun hid => and_iff_right hid
    · rw [hleft', hleft, List.mem_cons, not_or, and_assoc]

/-- `removeAccount` removes all connections of the account, and no others. -/
theorem Sound.removeAccount (hr : r.Sound) (a : String) :
    (r.removeAccount a).2.Sound ∧ (r.removeAccount a).1.Nodup ∧
      (∀ c, c ∈ (r.removeAccount a).1 ↔ r.Holds c ∧ c.account = a) ∧
      ∀ c, (r.removeAccount a).2.Holds c ↔ r.Holds c ∧ c.account ≠ a := by
  obtain ⟨hsound, hnodup, hgone, hleft⟩ := hr.removeIds (r.idsOf a)
  have hids : ∀ c, r.Holds c → (c.id ∈ r.idsOf a ↔ c.account = a) := by
    intro c hc
    rw [hr.mem_idsOf]
    constructor
    · rintro ⟨d, hd, hid, ha⟩
      rwa [← Holds.eq_of_id_eq hd hc hid]
    · exact fun ha => ⟨c, hc, rfl, ha⟩
  refine ⟨hsound, hnodup, fun c => ?_, fun c => ?_⟩
  · exact (hgone c).trans (and_congr_right (hids c))
  · exact (hleft c).trans (and_congr_right fun hc => not_congr (hids c hc))

end GroupChat.Roster
