import GroupChat.Store.Accounts
import GroupChat.Store.History
import GroupChat.Store.Rooms
import GroupChat.Proofs.Table

/-!
# Rooms and members of the store

What is asked about rooms and members goes through `Store.rooms` and `Store.roleOf?`. A change of
several memberships is described by what it does to these two.

## Main statements

- `Store.Sound`: rooms stand under their identifiers, and members belong to rooms that exist.
- `Store.Agrees`, `Store.Alike`: two stores answer alike about rooms and members.
- `Store.Adds`, `Store.Removes`: one store has more or fewer members of a room than another.
- `Store.Accepts`: accounts can become members of a room.
- `Store.Opens`, `Store.Founds`, `Store.Drops`: one store has one room more or less than another.
- `Store.Notes`: one store has more notifications than another.
- `Store.Adds.removes`, `Store.Removes.adds`: a change of which a part is taken back.
- `Store.mem_roomsOf`, `Store.pairwise_roomsOf`: the rooms of an account, in order.
-/

namespace GroupChat.Store

/-- Rooms and accounts stand under their identifiers in `s`, and members belong to rooms that exist.
-/
structure Sound (s : Store) : Prop where
  /-- A room stands under its own identifier. -/
  keyed : ∀ k info, s.rooms.get? k = some info → info.id = k
  /-- A room with a member exists. -/
  housed : ∀ k a role, s.roleOf? k a = some role → ∃ info, s.rooms.get? k = some info
  /-- An account stands under its own identifier. -/
  accounts : ∀ k a, s.accounts.get? k = some a → a.id = k

/-- The stores `s` and `s'` agree about rooms, members and accounts. -/
structure Agrees (s s' : Store) : Prop where
  /-- They have the same rooms. -/
  rooms : ∀ k, s'.rooms.get? k = s.rooms.get? k
  /-- Accounts have the same roles. -/
  roles : ∀ k a, s'.roleOf? k a = s.roleOf? k a
  /-- They have the same accounts. -/
  accounts : s'.accounts = s.accounts

/-- The stores `s` and `s'` answer alike about rooms and members, and hold the same of everything
else. -/
structure Alike (s s' : Store) : Prop where
  /-- Nothing but rooms and members may be kept differently. -/
  rest : s' = { s with rooms := s'.rooms, members := s'.members }
  /-- They have the same rooms. -/
  rooms : ∀ k, s'.rooms.get? k = s.rooms.get? k
  /-- Accounts have the same roles. -/
  roles : ∀ k a, s'.roleOf? k a = s.roleOf? k a

/-- The store `s'` has `ms` as members of the `room` beside those of `s`. -/
structure Adds (room : String) (ms : List (String × Role)) (s s' : Store) : Prop where
  /-- Nothing but members is different. -/
  rest : s' = { s with members := s'.members }
  /-- The accounts are new in the room. -/
  fresh : ∀ p ∈ ms, s.roleOf? room p.1 = none
  /-- They have their roles, and all others keep theirs. -/
  roles : ∀ k a, s'.roleOf? k a =
    if k = room then (ms.lookup a).or (s.roleOf? k a) else s.roleOf? k a
  /-- The room exists. -/
  housed : ms ≠ [] → ∃ info, s.rooms.get? room = some info

/-- The accounts of `ms` can become members of the `room` one after the other. -/
structure Accepts (room : String) (ms : List (String × Role)) (s : Store) : Prop where
  /-- No account is listed twice. -/
  nodup : (ms.map Prod.fst).Nodup
  /-- The accounts are no members yet. -/
  fresh : ∀ p ∈ ms, s.roleOf? room p.1 = none
  /-- The room exists. -/
  housed : ∃ info, s.rooms.get? room = some info

/-- The store `s'` has no longer the accounts `as` as members of the `room`. -/
structure Removes (room : String) (as : List String) (s s' : Store) : Prop where
  /-- Nothing but members is different. -/
  rest : s' = { s with members := s'.members }
  /-- The accounts were members. -/
  members : ∀ a ∈ as, (s.roleOf? room a).isSome = true
  /-- They have no roles any more, and all others keep theirs. -/
  roles : ∀ k a, s'.roleOf? k a = if k = room ∧ a ∈ as then none else s.roleOf? k a

/-- The store `s'` has one more room, `info`, which has no members yet. -/
structure Opens (info : RoomInfo) (s s' : Store) : Prop where
  /-- Nothing but rooms is different. -/
  rest : s' = { s with rooms := s'.rooms }
  /-- There was no room of the identifier. -/
  fresh : s.rooms.get? info.id = none
  /-- The room is there, and all others are the same. -/
  rooms : ∀ k, s'.rooms.get? k = if k = info.id then some info else s.rooms.get? k

/-- The store `s'` has one more room, `info`, which has the members `ms`. -/
def Founds (info : RoomInfo) (ms : List (String × Role)) (s s' : Store) : Prop :=
  ∃ s₁, Opens info s s₁ ∧ Adds info.id ms s₁ s'

/-- The store `s'` lacks the `room` and its members. -/
structure Drops (room : String) (s s' : Store) : Prop where
  /-- Nothing but rooms and members is different. -/
  rest : s' = { s with rooms := s'.rooms, members := s'.members }
  /-- The room is gone, and all others are the same. -/
  rooms : ∀ k, s'.rooms.get? k = if k = room then none else s.rooms.get? k
  /-- So are its members. -/
  roles : ∀ k a, s'.roleOf? k a = if k = room then none else s.roleOf? k a

/-- The store `s'` may have more `notifications` than `s`, and is else the same. -/
def Notes (s s' : Store) : Prop := s' = { s with notifications := s'.notifications }

variable {s s' s'' : Store} {room a : String} {role : Role} {ms ms' : List (String × Role)}
  {as : List String}

/-! ### Stores that answer alike -/

theorem Alike.refl (s : Store) : s.Alike s := ⟨rfl, fun _ => rfl, fun _ _ => rfl⟩

theorem Notes.refl (s : Store) : s.Notes s := rfl

theorem Notes.trans (h : s.Notes s') (h' : s'.Notes s'') : s.Notes s'' := by
  rw [Notes, h', h]

/-- `addNotification` only notes something. -/
theorem notes_addNotification (s : Store) (n : Notification) : s.Notes (s.addNotification n) := rfl

theorem Notes.rooms (h : s.Notes s') : s'.rooms = s.rooms := by rw [h]

theorem Notes.accounts (h : s.Notes s') : s'.accounts = s.accounts := by rw [h]

theorem Notes.roleOf? (h : s.Notes s') (k a : String) : s'.roleOf? k a = s.roleOf? k a := by
  rw [h]
  rfl

theorem countMembers_congr {k : String} (h : ∀ a, s'.roleOf? k a = s.roleOf? k a) :
    s'.countMembers k = s.countMembers k :=
  Table.size_congr h

theorem countMembers_eq_length {as : List String} (hn : as.Nodup)
    (h : ∀ a, (s.roleOf? room a).isSome = true ↔ a ∈ as) : s.countMembers room = as.length :=
  Table.size_eq_length hn h

theorem countMembers_eq_zero_iff : s.countMembers room = 0 ↔ ∀ a, s.roleOf? room a = none :=
  Table.size_eq_zero_iff

theorem Agrees.refl (s : Store) : s.Agrees s := ⟨fun _ => rfl, fun _ _ => rfl, rfl⟩

theorem Agrees.trans (h : s.Agrees s') (h' : s'.Agrees s'') : s.Agrees s'' where
  rooms k := (h'.rooms k).trans (h.rooms k)
  roles k a := (h'.roles k a).trans (h.roles k a)
  accounts := h'.accounts.trans h.accounts

theorem Alike.agrees (h : s.Alike s') : s.Agrees s' where
  rooms := h.rooms
  roles := h.roles
  accounts := by rw [h.rest]

/-- A store that only `Notes` something agrees with the one before. -/
theorem Notes.agrees (h : s.Notes s') : s.Agrees s' where
  rooms _ := by rw [h.rooms]
  roles := h.roleOf?
  accounts := h.accounts

/-- A store that `Agrees` with a sound one is sound. -/
theorem Sound.of_agrees (hs : s.Sound) (h : s.Agrees s') : s'.Sound where
  keyed k info hk := hs.keyed k info (h.rooms k ▸ hk)
  housed k a role hk := by
    rw [h.roles] at hk
    rw [h.rooms]
    exact hs.housed k a role hk
  accounts := h.accounts ▸ hs.accounts

/-- In a `Sound` store a room that does not exist has no members. -/
theorem Sound.roleOf?_eq_none (hs : s.Sound) {k : String} (hk : s.rooms.get? k = none) :
    s.roleOf? k a = none := by
  cases hr : s.roleOf? k a with
  | none => rfl
  | some role =>
    obtain ⟨info, hinfo⟩ := hs.housed k a role hr
    rw [hk] at hinfo
    cases hinfo

/-- A fresh store is `Sound`. -/
theorem sound_ofAccounts (accounts : List Account) : (ofAccounts accounts).Sound where
  keyed _ _ h := by cases h
  housed _ _ _ h := by cases h
  accounts k a h := by
    obtain ⟨b, -, hb⟩ := List.mem_map.1 (Table.mem_of_get?_ofList h)
    cases hb
    rfl

theorem isSome_account?_ofAccounts {accounts : List Account} {a : String} :
    ((ofAccounts accounts).account? a).isSome = true ↔ a ∈ accounts.map Account.id := by
  constructor
  · intro h
    obtain ⟨b, hb⟩ := Option.isSome_iff_exists.1 h
    obtain ⟨b', hb', he⟩ := List.mem_map.1 (Table.mem_of_get?_ofList hb)
    exact List.mem_map.2 ⟨b', hb', congrArg Prod.fst he⟩
  · intro h
    obtain ⟨b, hb, rfl⟩ := List.mem_map.1 h
    exact Table.isSome_get?_ofList (List.mem_map_of_mem (f := fun a => (a.id, a)) hb)

/-- `markOffline` changes `presence` only. -/
theorem markOffline_eq (s : Store) (account : String) :
    s.markOffline account = { s with presence := (s.markOffline account).presence } := by
  rw [markOffline]
  split
  · rfl
  · split
    · rfl
    · rfl

/-! ### One change -/

/-- If the change `f` fails, it leaves the store as it was. -/
def Spares (f : Store → Except StoreError Unit × Store) : Prop :=
  ∀ ⦃s s' e⦄, f s = (.error e, s') → s' = s

theorem spares_ok (g : Store → Store) : Spares fun s => (.ok (), g s) := nofun

theorem roleOf?_insert (s : Store) (k room a : String) (t : Table String Role) :
    roleOf? { s with members := s.members.insert room t } k a =
      if k = room then t.get? a else s.roleOf? k a := by
  rw [roleOf?, membersOf, Table.get?_insert]
  split <;> rfl

/-- `createRoom` fails without a change. -/
theorem spares_createRoom (info : RoomInfo) : Spares (·.createRoom info) := by
  intro s s' e h
  dsimp only [createRoom] at h
  split at h
  · cases h
    rfl
  · cases h

/-- When `createRoom` succeeds, it `Opens` the room. -/
theorem opens_of_createRoom {info : RoomInfo} (h : s.createRoom info = (.ok (), s')) :
    Opens info s s' := by
  unfold createRoom at h
  split at h
  · cases h
  · rename_i hn
    cases h
    exact ⟨rfl, Table.contains_eq_false_iff.1 (Bool.not_eq_true _ ▸ hn),
      fun k => Table.get?_insert ..⟩

theorem createRoom_of_get? {info : RoomInfo} (h : s.rooms.get? info.id = none) :
    ∃ s', s.createRoom info = (.ok (), s') := by
  rw [createRoom, Table.contains_eq_false_iff.2 h]
  exact ⟨_, rfl⟩

theorem roleOf?_erase (s : Store) (k room a : String) :
    roleOf? { s with members := s.members.erase room } k a =
      if k = room then none else s.roleOf? k a := by
  rw [roleOf?, membersOf, Table.get?_erase]
  split <;> rfl

/-- After `deleteRoom` there is no such room, also where it fails because there was none. -/
theorem drops_deleteRoom (s : Store) (room : String) : Drops room s (s.deleteRoom room).2 := by
  dsimp only [deleteRoom]
  split
  · exact ⟨rfl, fun k => Table.get?_erase .., fun k a => roleOf?_erase s k room a⟩
  · rename_i hn
    have hnone : s.rooms.get? room = none :=
      Table.contains_eq_false_iff.1 (Bool.not_eq_true _ ▸ hn)
    refine ⟨rfl, fun k => ?_, fun k a => roleOf?_erase s k room a⟩
    split_ifs with hk
    · rw [hk]
      exact hnone
    · rfl

theorem contains_rooms_iff : s.rooms.contains room = true ↔ s.rooms.get? room ≠ none := by
  rw [Table.contains, Option.isSome_iff_ne_none]

theorem exists_deleteRoom (h : s.rooms.get? room ≠ none) :
    ∃ s', s.deleteRoom room = (.ok (), s') := by
  dsimp only [deleteRoom]
  rw [if_pos (contains_rooms_iff.2 h)]
  exact ⟨_, rfl⟩

/-- To put `membersOf` back where somebody is in it changes nothing. -/
theorem insert_membersOf (h : (s.membersOf room).contains a = true) :
    s.members.insert room (s.membersOf room) = s.members := by
  cases hk : s.members.get? room with
  | some t =>
    rw [membersOf, hk]
    exact Table.insert_of_get? hk
  | none =>
    rw [membersOf, hk] at h
    cases h

/-- `addMember` fails without a change. -/
theorem spares_addMember (room a : String) (role : Role) : Spares (·.addMember room a role) := by
  intro s s' e h
  dsimp only [addMember] at h
  split at h
  · split at h
    · rename_i hm
      cases h
      rw [insert_membersOf hm]
    · cases h
  · cases h
    rfl

/-- When `addMember` succeeds, it `Adds` the account with its role. -/
theorem adds_of_addMember (h : s.addMember room a role = (.ok (), s')) :
    Adds room [(a, role)] s s' := by
  dsimp only [addMember] at h
  split at h
  · rename_i hr
    split at h
    · cases h
    · rename_i hm
      cases h
      have hn : s.roleOf? room a = none :=
        Table.contains_eq_false_iff.1 (Bool.not_eq_true _ ▸ hm)
      refine ⟨rfl, by simpa using hn, fun k b => ?_, fun _ => Table.contains_iff.1 hr⟩
      -- the table of members is put in twice, and the second one counts
      rw [roleOf?_insert { s with members := s.members.insert room (s.membersOf room) },
        roleOf?_insert]
      split
      · rename_i hk
        subst hk
        rw [Table.get?_insert, List.lookup_cons, List.lookup_nil]
        by_cases hb : b = a
        · simp [hb]
        · rw [if_neg hb, beq_eq_false_iff_ne.2 hb]
          rfl
      · rfl
  · cases h

/-- `addMember` succeeds if the room is there and the account is no member. -/
theorem addMember_of_roleOf? {info : RoomInfo} (hr : s.rooms.get? room = some info)
    (hn : s.roleOf? room a = none) (role : Role) :
    ∃ s', s.addMember room a role = (.ok (), s') := by
  have hstranger : (s.membersOf room).contains a = false := Table.contains_eq_false_iff.2 hn
  dsimp only [addMember]
  rw [Table.contains_iff.2 ⟨info, hr⟩, hstranger]
  exact ⟨_, rfl⟩

/-- `removeMember` fails without a change. -/
theorem spares_removeMember (room a : String) : Spares (·.removeMember room a) := by
  intro s s' e h
  dsimp only [removeMember] at h
  split at h
  · cases h
  · cases h
    rfl

/-- When `removeMember` succeeds, it `Removes` the account. -/
theorem removes_of_removeMember (h : s.removeMember room a = (.ok (), s')) :
    Removes room [a] s s' := by
  unfold removeMember at h
  split at h
  · rename_i hm
    cases h
    refine ⟨rfl, fun b hb => ?_, fun k b => ?_⟩
    · obtain rfl := List.mem_singleton.1 hb
      exact hm
    rw [roleOf?_insert]
    by_cases hk : k = room
    · subst hk
      rw [if_pos rfl, Table.get?_erase]
      simp only [List.mem_singleton, true_and]
      rfl
    · rw [if_neg hk, if_neg fun h => hk h.1]
  · cases h

theorem removeMember_of_roleOf? (h : s.roleOf? room a = some role) :
    ∃ s', s.removeMember room a = (.ok (), s') := by
  rw [removeMember, Table.contains_iff.2 ⟨role, h⟩]
  exact ⟨_, rfl⟩

/-! ### Several changes -/

theorem Adds.refl (room : String) (s : Store) : Adds room [] s s :=
  ⟨rfl, by simp, fun k a => by simp, by simp⟩

theorem mem_of_lookup {b : Role} (h : ms.lookup a = some b) : (a, b) ∈ ms := by
  induction ms with
  | nil => cases h
  | cons p ms ih =>
    rw [List.lookup_cons] at h
    split at h
    · rename_i hp
      obtain rfl := beq_iff_eq.1 hp
      cases h
      exact List.mem_cons_self
    · exact List.mem_cons_of_mem _ (ih h)

theorem lookup_eq_none_of_forall (h : ∀ p ∈ ms, p.1 ≠ a) : ms.lookup a = none := by
  cases hl : ms.lookup a with
  | none => rfl
  | some b => exact absurd rfl (h (a, b) (mem_of_lookup hl))

theorem isSome_lookup_iff : (ms.lookup a).isSome = true ↔ ∃ p ∈ ms, p.1 = a := by
  constructor
  · intro h
    obtain ⟨b, hb⟩ := Option.isSome_iff_exists.1 h
    exact ⟨(a, b), mem_of_lookup hb, rfl⟩
  · rintro ⟨p, hp, ha⟩
    by_contra hn
    rw [Bool.not_eq_true, Option.isSome_eq_false_iff, Option.isNone_iff_eq_none,
      List.lookup_eq_none_iff] at hn
    simpa [ha] using hn p hp

/-- `lookup` among accounts that all have the same role. -/
theorem lookup_map_const (as : List String) (role : Role) (a : String) :
    (as.map fun a => (a, role)).lookup a = if a ∈ as then some role else none := by
  induction as with
  | nil => rfl
  | cons b as ih =>
    rw [List.map_cons, List.lookup_cons, ih]
    by_cases h : a = b
    · simp [h]
    · rw [beq_eq_false_iff_ne.2 h]
      simp [h]

theorem Adds.rooms (h : Adds room ms s s') : s'.rooms = s.rooms := by rw [h.rest]

/-- Accounts that are added one after the other are all added. No account is among them twice, since
`addMember` refuses a member. -/
theorem Adds.trans (h : Adds room ms s s') (h' : Adds room ms' s' s'') :
    Adds room (ms ++ ms') s s'' where
  rest := by rw [h'.rest, h.rest]
  fresh p hp := by
    rcases List.mem_append.1 hp with hp | hp
    · exact h.fresh p hp
    · have hn := h'.fresh p hp
      rw [h.roles, if_pos rfl, Option.or_eq_none_iff] at hn
      exact hn.2
  roles k a := by
    rw [h'.roles, h.roles]
    split
    · rename_i hk
      rw [List.lookup_append]
      -- an account that was added first is not added again
      cases hl : ms.lookup a with
      | none => rw [Option.none_or, Option.none_or]
      | some b =>
        have hn : ms'.lookup a = none := by
          refine lookup_eq_none_of_forall fun p hp ha => ?_
          have := h'.fresh p hp
          rw [ha, h.roles, if_pos rfl, hl] at this
          cases this
        rw [hn, Option.none_or]
        rfl
    · rfl
  housed hne := by
    by_cases hm : ms = []
    · have hm' : ms' ≠ [] := by rintro rfl; exact hne (by rw [hm]; rfl)
      rw [← h.rooms]
      exact h'.housed hm'
    · exact h.housed hm

/-- `Adds` of one more account adds a new one. -/
theorem Adds.nodup_concat (h : Adds room ms s s') (h' : Adds room [(a, role)] s' s'')
    (hn : (ms.map Prod.fst).Nodup) : (ms.map Prod.fst ++ [a]).Nodup := by
  rw [← List.concat_eq_append]
  refine hn.concat fun hm => ?_
  have hnone : s'.roleOf? room a = none := h'.fresh (a, role) (List.mem_singleton_self _)
  have hsome : (ms.lookup a).isSome = true := isSome_lookup_iff.2 (List.mem_map.1 hm)
  rw [h.roles, if_pos rfl, Option.or_eq_none_iff] at hnone
  rw [hnone.1] at hsome
  cases hsome

theorem Accepts.addMember (h : Accepts room ((a, role) :: ms) s) :
    ∃ s', s.addMember room a role = (.ok (), s') := by
  obtain ⟨info, hinfo⟩ := h.housed
  exact addMember_of_roleOf? hinfo (h.fresh (a, role) List.mem_cons_self) role

/-- After the first account was added, the store still `Accepts` the others. -/
theorem Accepts.tail (h : Accepts room ((a, role) :: ms) s) (h' : Adds room [(a, role)] s s') :
    Accepts room ms s' := by
  have hn := List.nodup_cons.1 h.nodup
  refine ⟨hn.2, fun p hp => ?_, by rw [h'.rooms]; exact h.housed⟩
  have hne : p.1 ≠ a := by
    rintro rfl
    exact hn.1 (List.mem_map.2 ⟨p, hp, rfl⟩)
  rw [h'.roles, if_pos rfl, List.lookup_cons, beq_eq_false_iff_ne.2 hne]
  exact h.fresh p (List.mem_cons_of_mem _ hp)

theorem Removes.refl (room : String) (s : Store) : Removes room [] s s :=
  ⟨rfl, by simp, fun k a => by simp⟩

theorem Removes.rooms (h : Removes room as s s') : s'.rooms = s.rooms := by rw [h.rest]

/-- `Removes`, and then `Removes` again, is that of all accounts. -/
theorem Removes.trans {as' : List String} (h : Removes room as s s') (h' : Removes room as' s' s'') :
    Removes room (as ++ as') s s'' where
  rest := by rw [h'.rest, h.rest]
  members a ha := by
    rcases List.mem_append.1 ha with ha | ha
    · exact h.members a ha
    · -- the second removal cannot undo the first
      have hm := h'.members a ha
      rw [h.roles] at hm
      split at hm
      · cases hm
      · exact hm
  roles k a := by
    rw [h'.roles, h.roles]
    by_cases hk : k = room <;> by_cases ha : a ∈ as <;> by_cases ha' : a ∈ as' <;>
      simp [hk, ha, ha']

/-- `Removes` of one more account removes one that was still there. -/
theorem Removes.nodup_concat (h : Removes room as s s') (h' : Removes room [a] s' s'')
    (hn : as.Nodup) : (as ++ [a]).Nodup := by
  rw [← List.concat_eq_append]
  refine hn.concat fun hm => ?_
  have hmember := h'.members a (List.mem_singleton_self a)
  rw [h.roles, if_pos ⟨rfl, hm⟩] at hmember
  cases hmember

/-- A store that `Adds` members to a room stays sound, as the room is there. -/
theorem Sound.of_adds (hs : s.Sound) (h : Adds room ms s s') : s'.Sound where
  keyed k info hk := hs.keyed k info (h.rooms ▸ hk)
  housed k a role hk := by
    rw [h.roles] at hk
    rw [h.rooms]
    split at hk
    · rename_i hkr
      subst hkr
      -- a member that was there before, or one of those who are added
      cases hl : ms.lookup a with
      | none =>
        rw [hl, Option.none_or] at hk
        exact hs.housed k a role hk
      | some b => exact h.housed (List.ne_nil_of_mem (mem_of_lookup hl))
    · exact hs.housed k a role hk
  accounts := by
    rw [h.rest]
    exact hs.accounts

/-- A store that `Removes` members stays sound. -/
theorem Sound.of_removes (hs : s.Sound) (h : Removes room as s s') : s'.Sound where
  keyed k info hk := hs.keyed k info (h.rooms ▸ hk)
  housed k a role hk := by
    rw [h.roles] at hk
    rw [h.rooms]
    split at hk
    · cases hk
    · exact hs.housed k a role hk
  accounts := by
    rw [h.rest]
    exact hs.accounts

/-- A store that `Opens` a room stays sound. -/
theorem Sound.of_opens {info : RoomInfo} (hs : s.Sound) (h : Opens info s s') : s'.Sound where
  keyed k i hk := by
    rw [h.rooms] at hk
    split at hk
    · rename_i hid
      cases hk
      exact hid.symm
    · exact hs.keyed k i hk
  housed k a role hk := by
    rw [h.rest] at hk
    obtain ⟨i, hi⟩ := hs.housed k a role hk
    rw [h.rooms]
    split
    · exact ⟨info, rfl⟩
    · exact ⟨i, hi⟩
  accounts := by
    rw [h.rest]
    exact hs.accounts

/-- A store that `Drops` a room stays sound, as its members go with it. -/
theorem Sound.of_drops (hs : s.Sound) (h : Drops room s s') : s'.Sound where
  keyed k i hk := by
    rw [h.rooms] at hk
    split at hk
    · cases hk
    · exact hs.keyed k i hk
  housed k a role hk := by
    rw [h.roles] at hk
    rw [h.rooms]
    split at hk
    · cases hk
    · rename_i hne
      rw [if_neg hne]
      exact hs.housed k a role hk
  accounts := by
    rw [h.rest]
    exact hs.accounts

theorem Sound.of_founds {info : RoomInfo} (hs : s.Sound) (h : Founds info ms s s') : s'.Sound := by
  obtain ⟨s₁, hopens, hadds⟩ := h
  exact (hs.of_opens hopens).of_adds hadds

/-- A store that `Opens` a room has no new roles. -/
theorem Opens.roleOf? {info : RoomInfo} (h : Opens info s s') (k a : String) :
    s'.roleOf? k a = s.roleOf? k a := by
  rw [h.rest]
  rfl

section Founds

variable {info : RoomInfo} (h : Founds info ms s s')
include h

theorem Founds.fresh : s.rooms.get? info.id = none := by
  obtain ⟨_, hopens, -⟩ := h
  exact hopens.fresh

/-- A store that `Founds` a room has this one more. -/
theorem Founds.rooms (k : String) :
    s'.rooms.get? k = if k = info.id then some info else s.rooms.get? k := by
  obtain ⟨_, hopens, hadds⟩ := h
  rw [hadds.rooms, hopens.rooms]

theorem Founds.rest : s' = { s with rooms := s'.rooms, members := s'.members } := by
  obtain ⟨_, hopens, hadds⟩ := h
  rw [hadds.rest, hopens.rest]

/-- A room that `Founds` makes has no members but those that it was made with. -/
theorem Founds.roles (hs : s.Sound) (k a : String) :
    s'.roleOf? k a = if k = info.id then ms.lookup a else s.roleOf? k a := by
  obtain ⟨_, hopens, hadds⟩ := h
  rw [hadds.roles, hopens.roleOf?]
  split
  · rename_i hk
    rw [hs.roleOf?_eq_none (hk ▸ hopens.fresh), Option.or_none]
  · rfl

end Founds

/-! ### Changes that are taken back -/

theorem lookup_filter (ms : List (String × Role)) (as : List String) (a : String) :
    (ms.filter fun p => p.1 ∉ as).lookup a = if a ∈ as then none else ms.lookup a := by
  induction ms with
  | nil => simp
  | cons p ms ih =>
    rw [List.filter_cons]
    by_cases hp : p.1 ∈ as
    · rw [if_neg (by simpa using hp), ih]
      by_cases ha : a ∈ as
      · rw [if_pos ha, if_pos ha]
      · -- the entry that was dropped is not the one of this account
        have hne : a ≠ p.1 := fun h => ha (h ▸ hp)
        rw [if_neg ha, if_neg ha, List.lookup_cons, beq_eq_false_iff_ne.2 hne]
    · rw [if_pos (by simpa using hp), List.lookup_cons, List.lookup_cons, ih]
      -- the entry stays: it is the one that is looked up, or a later one is
      by_cases ha : a = p.1
      · subst ha
        simp [hp]
      · rw [beq_eq_false_iff_ne.2 ha]

/-- `Adds`, and then `Removes` of some of those, is `Adds` of the others. -/
theorem Adds.removes (h : Adds room ms s s') (h' : Removes room as s' s'')
    (hsub : ∀ a ∈ as, ∃ p ∈ ms, p.1 = a) : Adds room (ms.filter fun p => p.1 ∉ as) s s'' where
  rest := by rw [h'.rest, h.rest]
  fresh p hp := h.fresh p (List.mem_filter.1 hp).1
  roles k a := by
    rw [h'.roles, h.roles, lookup_filter]
    by_cases hk : k = room
    · subst hk
      by_cases ha : a ∈ as
      · obtain ⟨p, hp, rfl⟩ := hsub a ha
        rw [if_pos ⟨rfl, ha⟩, if_pos rfl, if_pos ha, Option.none_or, h.fresh p hp]
      · rw [if_neg fun hx => ha hx.2, if_pos rfl, if_pos rfl, if_neg ha]
    · rw [if_neg fun hx => hk hx.1, if_neg hk, if_neg hk]
  housed hne := h.housed fun hm => hne (by rw [hm]; rfl)

/-- `Removes`, and then `Adds` of some of those with the roles that they had, is `Removes` of the
others. -/
theorem Removes.adds (h : Removes room as s s') (h' : Adds room ms s' s'')
    (hold : ∀ p ∈ ms, s.roleOf? room p.1 = some p.2) :
    Removes room (as.filter fun a => a ∉ ms.map Prod.fst) s s'' where
  rest := by rw [h'.rest, h.rest]
  members a ha := h.members a (List.mem_filter.1 ha).1
  roles k a := by
    rw [h'.roles, h.roles]
    by_cases hk : k = room
    · subst hk
      rw [if_pos rfl]
      cases hl : ms.lookup a with
      | some b =>
        -- it was given back the role that it had
        have hp := mem_of_lookup hl
        have hm : a ∉ as.filter fun a => a ∉ ms.map Prod.fst := fun hx =>
          (of_decide_eq_true (List.mem_filter.1 hx).2 : a ∉ _) (List.mem_map_of_mem hp)
        rw [Option.some_or, if_neg fun hx => hm hx.2, hold _ hp]
      | none =>
        have hm : a ∉ ms.map Prod.fst := fun hm => by
          have := isSome_lookup_iff.2 (List.mem_map.1 hm)
          rw [hl] at this
          cases this
        -- it was not given back, so it stays away if it was removed
        rw [Option.none_or]
        refine if_congr (and_congr_right fun _ => ?_) rfl rfl
        rw [List.mem_filter]
        exact ⟨fun ha => ⟨ha, decide_eq_true hm⟩, And.left⟩
    · rw [if_neg hk, if_neg fun hx => hk hx.1, if_neg fun hx => hk hx.1]

/-- A store that `Adds` nobody is `Alike`. -/
theorem Adds.alike (h : Adds room [] s s') : s.Alike s' where
  rest := by rw [h.rest]
  rooms k := by rw [h.rooms]
  roles k a := by
    rw [h.roles, List.lookup_nil, Option.none_or, ite_self]

/-- A store that `Removes` nobody is `Alike`. -/
theorem Removes.alike (h : Removes room [] s s') : s.Alike s' where
  rest := by rw [h.rest]
  rooms k := by rw [h.rooms]
  roles k a := by
    rw [h.roles, if_neg fun hx => List.not_mem_nil hx.2]

/-- `Founds`, and then `Drops`, leaves a store that answers `Alike`. -/
theorem Founds.alike_of_drops {info : RoomInfo} (hs : s.Sound) (h : Founds info ms s s')
    (h' : Drops info.id s' s'') : s.Alike s'' := by
  have hfresh := h.fresh
  obtain ⟨s₁, hopens, hadds⟩ := id h
  refine ⟨by rw [h'.rest, hadds.rest, hopens.rest], fun k => ?_, fun k a => ?_⟩
  · rw [h'.rooms, h.rooms]
    split
    · rename_i hk
      -- the room that was dropped was not there at the beginning
      rw [hk, hfresh]
    · rfl
  · rw [h'.roles, h.roles hs]
    split
    · rename_i hk
      rw [hs.roleOf?_eq_none (hk ▸ hfresh)]
    · rfl

/-! ### Looking rooms up -/

theorem roomByName?_eq_some {name : String} {info : RoomInfo} (h : s.roomByName? name = some info) :
    info.name = name ∧ ∃ k, s.rooms.get? k = some info := by
  obtain ⟨hn, hk⟩ := Table.find?_values_eq_some h
  exact ⟨beq_iff_eq.1 hn, hk⟩

theorem roomByName?_eq_none_iff {name : String} :
    s.roomByName? name = none ↔ ∀ k info, s.rooms.get? k = some info → info.name ≠ name := by
  rw [roomByName?, Table.find?_values_eq_none_iff]
  simp only [beq_eq_false_iff_ne]

theorem membership?_eq_some {k : String} {roles : Table String Role} {m : Membership} :
    s.membership? a k roles = some m ↔
      roles.get? a = some m.role ∧ s.rooms.get? k = some m.room := by
  unfold membership?
  cases roles.get? a with
  | none => simp
  | some role =>
    cases s.rooms.get? k with
    | none => simp
    | some info =>
      cases m
      simp [and_comm]

/-- `roomsOf` lists exactly the rooms in which the account has a role, with this role. -/
theorem mem_roomsOf (hs : s.Sound) {m : Membership} : m ∈ s.roomsOf a ↔
    s.rooms.get? m.room.id = some m.room ∧ s.roleOf? m.room.id a = some m.role := by
  rw [roomsOf, List.mem_mergeSort, List.mem_filterMap]
  constructor
  · rintro ⟨⟨k, roles⟩, hk, hm⟩
    obtain ⟨hrole, hroom⟩ := membership?_eq_some.1 hm
    -- a room is stored under its own identifier
    obtain rfl := hs.keyed k m.room hroom
    refine ⟨hroom, ?_⟩
    rw [roleOf?, membersOf, Table.mem_entries_iff.1 hk]
    exact hrole
  · rintro ⟨hroom, hrole⟩
    rw [roleOf?, membersOf] at hrole
    cases hk : s.members.get? m.room.id with
    | none =>
      rw [hk] at hrole
      cases hrole
    | some roles =>
      rw [hk] at hrole
      exact ⟨(m.room.id, roles), Table.mem_entries_iff.2 hk,
        membership?_eq_some.2 ⟨hrole, hroom⟩⟩

/-- `roomsOf` lists the rooms in which the account has a role. -/
theorem exists_mem_roomsOf_iff (hs : s.Sound) {k : String} :
    (∃ m ∈ s.roomsOf a, m.room.id = k) ↔ (s.roleOf? k a).isSome = true := by
  constructor
  · rintro ⟨m, hm, rfl⟩
    rw [((mem_roomsOf hs).1 hm).2]
    rfl
  · intro hsome
    obtain ⟨role, hrole⟩ := Option.isSome_iff_exists.1 hsome
    obtain ⟨info, hinfo⟩ := hs.housed k a role hrole
    have hid := hs.keyed k info hinfo
    refine ⟨⟨info, role⟩, (mem_roomsOf hs).2 ?_, hid⟩
    rw [hid]
    exact ⟨hinfo, hrole⟩

/-- `roomsOf` lists a room once. -/
theorem nodup_roomsOf (hs : s.Sound) (a : String) : ((s.roomsOf a).map (·.room.id)).Nodup := by
  rw [roomsOf, ((List.mergeSort_perm _ _).map _).nodup_iff]
  -- sorting keeps the identifiers, and no two entries have the same one
  suffices h : ∀ es : List (String × Table String Role), (es.map Prod.fst).Nodup →
      ((es.filterMap fun e => s.membership? a e.1 e.2).map (·.room.id)).Nodup from
    h _ s.members.nodup
  intro es
  induction es with
  | nil => exact fun _ => List.nodup_nil
  | cons e es ih =>
    obtain ⟨k, roles⟩ := e
    intro hn
    rw [List.map_cons, List.nodup_cons] at hn
    rw [List.filterMap_cons]
    split
    · exact ih hn.2
    · rename_i m hm
      rw [List.map_cons, List.nodup_cons]
      refine ⟨fun hmem => hn.1 ?_, ih hn.2⟩
      obtain ⟨m', hm', hid⟩ := List.mem_map.1 hmem
      obtain ⟨⟨k', roles'⟩, he, hm'⟩ := List.mem_filterMap.1 hm'
      have hk := hs.keyed k m.room (membership?_eq_some.1 hm).2
      have hk' := hs.keyed k' m'.room (membership?_eq_some.1 hm').2
      exact List.mem_map.2 ⟨(k', roles'), he, by rw [← hk', hid, hk]⟩

/-! ### The rooms of an account in order -/

theorem beforeByRoom_iff {m m' : Membership} :
    beforeByRoom m m' = true ↔ m.room.name ≤ m'.room.name := by
  rw [beforeByRoom, decide_eq_true_iff]

theorem beforeByRoom_total (m m' : Membership) :
    (beforeByRoom m m' || beforeByRoom m' m) = true := by
  rw [Bool.or_eq_true, beforeByRoom_iff, beforeByRoom_iff]
  exact String.le_total _ _

/-- `roomsOf` is in the order of names. -/
theorem pairwise_roomsOf (s : Store) (a : String) :
    (s.roomsOf a).Pairwise fun m m' => beforeByRoom m m' = true := by
  refine List.pairwise_mergeSort (fun m₁ m₂ m₃ h h' => ?_) beforeByRoom_total _
  rw [beforeByRoom_iff] at h h' ⊢
  exact String.le_trans h h'

end GroupChat.Store
