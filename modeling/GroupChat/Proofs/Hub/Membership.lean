import GroupChat.Hub.Membership
import GroupChat.Proofs.Hub.Answer
import GroupChat.Proofs.Hub.Lookup

/-!
# Joining, leaving, inviting and removing

What the requests that change the members of a room do to the hub. A change of several memberships
that breaks off is taken back. What could not be taken back is reported, so that without a report
nothing is left of it.

## Main definitions

- `Hub.Grows`: accounts became members of a room, and their connections came in.
- `Hub.Shrinks`: accounts stopped being members of a room, and their connections went out.
- `Hub.Governs`: an account is an admin of a public room.
- `Hub.CanJoin`, `Hub.CanLeave`, `Hub.CanInvite`, `Hub.CanKick`: what the requests need.
- `Store.outsiders`: those of some accounts that are no members of a room.
- `Turn.Undoes`: the store was changed, and what could not be taken back was reported.
- `Turn.Restores`: everything is as it was.

## Main statements

- `undoInvites_restores`, `undoKicks_restores`: what is left of a change that was taken back.
- `inviteRoom_after`, `kickRoom_after`: what the requests about several accounts come down to.
- `joinRoom_gives`, `leaveRoom_gives`, `inviteRoom_gives`, `kickRoom_gives`: the requests.
- `Grows.coherent`, `Shrinks.coherent`: connections, live rooms and store still fit together.
-/

namespace GroupChat

/-- Those of the `users` that are no members of the room `info`, each of them once. -/
def Store.outsiders (s : Store) (info : RoomInfo) (users : List String) : List String :=
  (Hub.distinct users).filter fun id => (s.roleOf? info.id id).isNone

namespace Hub

/-- The `accounts` as members with the role `.user`. -/
def asUsers (accounts : List String) : List (String × Role) := accounts.map fun a => (a, .user)

/-- The `accounts` became members of the room `info`, and their connections came in. -/
structure Grows (h h' : Hub) (info : RoomInfo) (accounts : List String) : Prop where
  /-- The connections stayed. -/
  roster : h'.roster = h.roster
  /-- The live room. -/
  rooms : h.rooms.Places h'.rooms ((h.rooms.roomOf info).enroll h.roster .user accounts)
  /-- The memberships. -/
  store : ∃ s, h.store.Adds info.id (asUsers accounts) s ∧
    s.Notes h'.store

/-- The `accounts` stopped being members of the room `info`, and their connections went out. A room
that lost its last member and that nobody is connected to may be deleted. -/
structure Shrinks (h h' : Hub) (info : RoomInfo) (accounts : List String) : Prop where
  /-- The connections stayed. -/
  roster : h'.roster = h.roster
  /-- The live room. -/
  rooms : h.rooms.Places h'.rooms ((h.rooms.roomOf info).dismiss accounts)
  /-- The memberships. -/
  store : ∃ s, h.store.Removes info.id accounts s ∧
    (s.Notes h'.store ∨
      ((h.rooms.roomOf info).dismiss accounts).isEmpty = true ∧ s.countMembers info.id = 0 ∧
        ∃ s', s.Notes s' ∧ s'.Drops info.id h'.store)

/-- `info` is the public room of the `reference`, in which `account` is an `.admin` as far as it is
connected. -/
structure Governs (h : Hub) (account reference : String) (info : RoomInfo) : Prop where
  /-- The room of the reference. -/
  resolved : h.resolved? reference = some info
  /-- The room is public. -/
  isPublic : info.isPrivate = false
  /-- The role of the account. -/
  role : h.rooms.roleOf? info.id account = some .admin

/-- The `account` can join the room `info`, which is public. -/
structure CanJoin (h : Hub) (account : String) (info : RoomInfo) : Prop where
  /-- The room is open to all. -/
  isOpen : info.inviteOnly = false
  /-- The account is not connected to it. -/
  away : h.rooms.roleOf? info.id account = none
  /-- The account is no member. -/
  outside : h.store.roleOf? info.id account = none

/-- The `account` can leave the room `info`, which is public. -/
structure CanLeave (h : Hub) (account : String) (info : RoomInfo) : Prop where
  /-- The account is connected to it. -/
  present : (h.rooms.roleOf? info.id account).isSome = true
  /-- The account is a member. -/
  member : (h.store.roleOf? info.id account).isSome = true

/-- The `users` can be invited to the room `info`, as they exist and some of them are no members. -/
structure CanInvite (h : Hub) (info : RoomInfo) (users : List String) : Prop where
  /-- There are some. -/
  listed : users ≠ []
  /-- All of them exist. -/
  known : ∀ id ∈ users, (h.store.account? id).isSome = true
  /-- Some of them are no members. -/
  outside : ∃ id ∈ users, h.store.roleOf? info.id id = none

/-- The `users` can be removed from the room `info` by `account`, which is another one. -/
structure CanKick (h : Hub) (account : String) (info : RoomInfo) (users : List String) : Prop where
  /-- There are some. -/
  listed : users ≠ []
  /-- They are others. -/
  others : account ∉ users
  /-- All of them are members. -/
  members : ∀ id ∈ users, (h.store.roleOf? info.id id).isSome = true

/-- Between `t` and `u` the store was changed, and what of it could not be taken back is in the
`reports`. -/
def Turn.Undoes (t u : Turn) (reports : List Effect) : Prop :=
  t.Becomes u t.hub.rooms u.hub.store reports ∧ ∀ e ∈ reports, e.IsUndoFailure

/-- In `u` everything is as in `t` (`Store.Alike`), apart from new identifiers and outages. -/
def Turn.Restores (t u : Turn) : Prop := t.Undoes u [] ∧ t.hub.store.Alike u.hub.store

/-- What is left in `u` of the request `r` to invite that fails: nothing, or some of the accounts as
members, which is reported. In a `Calm` hub it fails only where the accounts cannot be invited
(`CanInvite`). -/
def Turn.FailsToInvite (t u : Turn) (c : Connection) (r : MembersRequest) : Prop :=
  (t.Asks u ∨ ∃ info kept reports, t.hub.Governs c.account r.room info ∧ t.Undoes u reports ∧
    t.hub.store.Adds info.id (asUsers kept) u.hub.store ∧ (∀ a ∈ kept, a ∈ r.users) ∧
    (reports = [] → kept = []) ∧ (t.hub.Calm → reports = [])) ∧
  (t.hub.Calm → ∀ info, t.hub.Governs c.account r.room info → ¬ t.hub.CanInvite info r.users)

/-- What is left in `u` of the request `r` to remove accounts that fails: nothing, or some of them
are no members any more, which is reported. In a `Calm` hub it fails only where the accounts cannot
be removed (`CanKick`). -/
def Turn.FailsToKick (t u : Turn) (c : Connection) (r : MembersRequest) : Prop :=
  (t.Asks u ∨ ∃ info lost reports, t.hub.Governs c.account r.room info ∧ t.Undoes u reports ∧
    t.hub.store.Removes info.id lost u.hub.store ∧ (∀ a ∈ lost, a ∈ r.users ∧ a ≠ c.account) ∧
    (reports = [] → lost = []) ∧ (t.hub.Calm → reports = [])) ∧
  (t.hub.Calm → ∀ info, t.hub.Governs c.account r.room info →
    ¬ t.hub.CanKick c.account info r.users)

/-- The `accounts` that `r` invites have become members in the store, and nobody was told yet. -/
structure Turn.Invites (t u : Turn) (c : Connection) (r : MembersRequest) (info : RoomInfo)
    (accounts : List Account) : Prop where
  /-- The account that asks is an admin of the room. -/
  governs : t.hub.Governs c.account r.room info
  /-- The accounts can be invited. -/
  can : t.hub.CanInvite info r.users
  /-- Those who were no members are invited. -/
  ids : accounts.map Account.id = t.hub.store.outsiders info r.users
  /-- They are the accounts that the store knows. -/
  known : ∀ a ∈ accounts, t.hub.store.account? a.id = some a
  /-- Nobody was told. -/
  becomes : t.Becomes u t.hub.rooms u.hub.store []
  /-- The memberships. -/
  adds : t.hub.store.Adds info.id (asUsers (t.hub.store.outsiders info r.users)) u.hub.store

/-- The accounts that `r` removes have stopped being members in the store, and nobody was told yet.
-/
structure Turn.Kicks (t u : Turn) (c : Connection) (r : MembersRequest) (info : RoomInfo) :
    Prop where
  /-- The account that asks is an admin of the room. -/
  governs : t.hub.Governs c.account r.room info
  /-- The accounts can be removed. -/
  can : t.hub.CanKick c.account info r.users
  /-- Nobody was told. -/
  becomes : t.Becomes u t.hub.rooms u.hub.store []
  /-- The memberships. -/
  removes : t.hub.store.Removes info.id (distinct r.users) u.hub.store

variable {h h' : Hub} {info : RoomInfo} {accounts : List String} {t u : Turn}

/-! ### Rooms and roles -/

theorem Grows.stored (hg : h.Grows h' info accounts) : h'.store.rooms = h.store.rooms := by
  obtain ⟨s, hadds, hnotes⟩ := hg.store
  rw [hnotes.rooms, hadds.rooms]

/-- `roleOf?` after `Adds` of accounts as `.user`. -/
theorem roles_of_adds {s s' : Store} {room : String} {accounts : List String}
    (hadds : s.Adds room (asUsers accounts) s') (k a : String) : s'.roleOf? k a =
      if k = room ∧ a ∈ accounts then some .user else s.roleOf? k a := by
  rw [hadds.roles, asUsers, Store.lookup_map_const]
  by_cases hk : k = room <;> by_cases ha : a ∈ accounts <;> simp [hk, ha]

/-- A hub that `Grows` has the new members as users, and all other roles as before. -/
theorem Grows.roles (hg : h.Grows h' info accounts) (k a : String) : h'.store.roleOf? k a =
    if k = info.id ∧ a ∈ accounts then some .user else h.store.roleOf? k a := by
  obtain ⟨s, hadds, hnotes⟩ := hg.store
  rw [hnotes.roleOf?, roles_of_adds hadds]

theorem Grows.fresh (hg : h.Grows h' info accounts) {a : String} (ha : a ∈ accounts) :
    h.store.roleOf? info.id a = none := by
  obtain ⟨s, hadds, -⟩ := hg.store
  exact hadds.fresh (a, .user) (List.mem_map_of_mem ha)

theorem Grows.known (hg : h.Grows h' info accounts) : h'.store.accounts = h.store.accounts := by
  obtain ⟨s, hadds, hnotes⟩ := hg.store
  rw [hnotes.accounts, hadds.rest]

theorem Shrinks.known (hg : h.Shrinks h' info accounts) :
    h'.store.accounts = h.store.accounts := by
  obtain ⟨s, hremoves, hnotes | ⟨-, -, s', hnotes, hdrops⟩⟩ := hg.store
  · rw [hnotes.accounts, hremoves.rest]
  · rw [hdrops.rest, hnotes.accounts, hremoves.rest]

/-- After `Shrinks` a stored room is as it was, unless it is `info` and was deleted. -/
theorem Shrinks.stored (hg : h.Shrinks h' info accounts) (k : String) :
    h'.store.rooms.get? k = h.store.rooms.get? k ∨
      k = info.id ∧ h'.store.rooms.get? k = none := by
  obtain ⟨s, hremoves, hnotes | ⟨-, -, s', hnotes, hdrops⟩⟩ := hg.store
  · left
    rw [hnotes.rooms, hremoves.rooms]
  · rw [hdrops.rooms, hnotes.rooms, hremoves.rooms]
    by_cases hk : k = info.id
    · exact Or.inr ⟨hk, if_pos hk⟩
    · exact Or.inl (if_neg hk)

/-- A room that is stored after `Shrinks` was stored before. -/
theorem Shrinks.stored_of_eq_some (hg : h.Shrinks h' info accounts) {k : String} {i : RoomInfo}
    (hk : h'.store.rooms.get? k = some i) : h.store.rooms.get? k = some i := by
  rcases hg.stored k with hsame | ⟨-, hnone⟩
  · rw [← hsame, hk]
  · rw [hnone] at hk
    cases hk

/-- `roleOf?` after `Shrinks`: only the accounts lose their roles. That holds of a deleted room too,
as it is deleted only when nobody has a role in it. -/
theorem Shrinks.roles (hg : h.Shrinks h' info accounts) (k a : String) : h'.store.roleOf? k a =
    if k = info.id ∧ a ∈ accounts then none else h.store.roleOf? k a := by
  obtain ⟨s, hremoves, hnotes | ⟨-, hzero, s', hnotes, hdrops⟩⟩ := hg.store
  · rw [hnotes.roleOf?, hremoves.roles]
  · rw [hdrops.roles, hnotes.roleOf?, ← hremoves.roles]
    split
    · rename_i hk
      rw [hk, Store.countMembers_eq_zero_iff.1 hzero]
    · rfl

/-- The accounts of `Grows` are exactly those who have become members. -/
theorem Grows.mem_iff (hg : h.Grows h' info accounts) (a : String) : a ∈ accounts ↔
    h.store.roleOf? info.id a = none ∧ (h'.store.roleOf? info.id a).isSome = true := by
  rw [hg.roles]
  constructor
  · intro ha
    rw [if_pos ⟨rfl, ha⟩]
    exact ⟨hg.fresh ha, rfl⟩
  · rintro ⟨hnone, hsome⟩
    by_contra ha
    rw [if_neg fun hx => ha hx.2, hnone] at hsome
    cases hsome

/-- The accounts of `Shrinks` are exactly those who are no members any more, if all of them were
members. -/
theorem Shrinks.mem_iff (hg : h.Shrinks h' info accounts)
    (hm : ∀ a ∈ accounts, (h.store.roleOf? info.id a).isSome = true) (a : String) :
    a ∈ accounts ↔
      (h.store.roleOf? info.id a).isSome = true ∧ h'.store.roleOf? info.id a = none := by
  rw [hg.roles]
  constructor
  · intro ha
    exact ⟨hm a ha, if_pos ⟨rfl, ha⟩⟩
  · rintro ⟨hsome, hnone⟩
    by_contra ha
    rw [if_neg fun hx => ha hx.2] at hnone
    rw [hnone] at hsome
    cases hsome

/-! ### The live room of a stored one -/

section Stored

variable (hc : h.Coherent)
include hc

/-- In a coherent hub, `enroll` leads to a sound room, be the room live or made just now. -/
theorem Coherent.sound_enroll (info : RoomInfo) (accounts : List String) :
    ((h.rooms.roomOf info).enroll h.roster .user accounts).Sound :=
  LiveRoom.sound_enroll hc.roster (hc.rooms.sound_roomOf info) (hc.rooms.within_roomOf info) _ _

/-- In a coherent hub, `dismiss` leads to a sound room, be the room live or made just now. -/
theorem Coherent.sound_dismiss (info : RoomInfo) (accounts : List String) :
    ((h.rooms.roomOf info).dismiss accounts).Sound :=
  LiveRoom.sound_dismiss (hc.rooms.sound_roomOf info) _

variable (hs : h.store.rooms.get? info.id = some info)
include hs

theorem Coherent.info_enroll (accounts : List String) :
    ((h.rooms.roomOf info).enroll h.roster .user accounts).info = info := by
  rw [LiveRoom.info_enroll, hc.info_roomOf hs]

theorem Coherent.id_enroll (accounts : List String) :
    ((h.rooms.roomOf info).enroll h.roster .user accounts).id = info.id := by
  rw [LiveRoom.id, hc.info_enroll hs]

theorem Coherent.info_dismiss (accounts : List String) :
    ((h.rooms.roomOf info).dismiss accounts).info = info := by
  rw [LiveRoom.info_dismiss, hc.info_roomOf hs]

theorem Coherent.id_dismiss (accounts : List String) :
    ((h.rooms.roomOf info).dismiss accounts).id = info.id := by
  rw [LiveRoom.id, hc.info_dismiss hs]

end Stored

/-! ### Hubs that fit together -/

/-- A hub that `Grows` stays coherent, as only registered connections come into the room. -/
theorem Grows.coherent (hg : h.Grows h' info accounts) (hc : h.Coherent)
    (hs : h.store.rooms.get? info.id = some info) : h'.Coherent := by
  obtain ⟨s, hadds, hnotes⟩ := hg.store
  have hrooms : h'.store.rooms = h.store.rooms := by rw [hnotes.rooms, hadds.rooms]
  refine hc.place hg.roster hg.rooms (hc.sound_enroll info accounts) ?_ ?_ ?_ ?_
  · exact LiveRoom.within_enroll hc.roster (hc.rooms.within_roomOf info) _ _
  · exact (hc.store.of_adds hadds).of_agrees hnotes.agrees
  · intro k _
    rw [hrooms]
  · intro _
    rw [hrooms, hc.id_enroll hs, hc.info_enroll hs, hs]

/-- A hub that `Shrinks` stays coherent. If the room was deleted, nobody had a role in it any more.
-/
theorem Shrinks.coherent (hg : h.Shrinks h' info accounts) (hc : h.Coherent)
    (hs : h.store.rooms.get? info.id = some info) : h'.Coherent := by
  obtain ⟨s, hremoves, hstore⟩ := hg.store
  have hid := hc.id_dismiss hs accounts
  have hsound : s.Sound := hc.store.of_removes hremoves
  have hr := hc.sound_dismiss info accounts
  have hw : ((h.rooms.roomOf info).dismiss accounts).Within h.roster := fun c hd =>
    hc.rooms.within_roomOf info c ((LiveRoom.holds_dismiss _ _).1 hd).1
  rcases hstore with hnotes | ⟨hempty, -, s', hnotes, hdrops⟩
  · -- the room stays stored, as only members went
    have hrooms : h'.store.rooms = h.store.rooms := by rw [hnotes.rooms, hremoves.rooms]
    refine hc.place hg.roster hg.rooms hr hw (hsound.of_agrees hnotes.agrees) ?_ ?_
    · intro k _
      rw [hrooms]
    · intro _
      rw [hrooms, hid, hc.info_dismiss hs, hs]
  · -- the room was deleted, and it is not live as nobody is connected to it
    refine hc.place hg.roster hg.rooms hr hw ((hsound.of_agrees hnotes.agrees).of_drops hdrops) ?_ ?_
    · intro k hk
      rw [hdrops.rooms, if_neg (hid ▸ hk), hnotes.rooms, hremoves.rooms]
    · intro he
      rw [hempty] at he
      cases he

/-! ### Connections and their roles -/

section Live

variable (hc : h.Coherent) (hs : h.store.rooms.get? info.id = some info)
include hc hs

/-- `Grows` lets the registered connections of the new members into the live room. -/
theorem Grows.holds (hg : h.Grows h' info accounts) {k : String} {d : Connection} :
    h'.rooms.Holds k d ↔
      h.rooms.Holds k d ∨ k = info.id ∧ h.roster.Holds d ∧ d.account ∈ accounts := by
  rw [hg.rooms.holds (hc.sound_enroll info accounts), hc.id_enroll hs]
  by_cases hk : k = info.id
  · rw [if_pos hk, LiveRoom.holds_enroll hc.roster (hc.rooms.within_roomOf info), LiveRooms.holds_roomOf, hk]
    exact or_congr_right (and_iff_right rfl).symm
  · rw [if_neg hk]
    exact (or_iff_left fun hx => hk hx.1).symm

/-- In the live room new members with a connection are `.user`, unless they had a role there. -/
theorem Grows.roleOf?_rooms (hg : h.Grows h' info accounts) (k a : String) :
    h'.rooms.roleOf? k a = (h.rooms.roleOf? k a).or
      (if k = info.id ∧ h.roster.hasAccount a = true ∧ a ∈ accounts then some .user else none) := by
  rw [hg.rooms.roleOf? (hc.sound_enroll info accounts), hc.id_enroll hs]
  by_cases hk : k = info.id
  · rw [if_pos hk, LiveRoom.roleOf?_enroll hc.roster, LiveRooms.roleOf?_roomOf, hk]
    simp only [true_and]
  · rw [if_neg hk, if_neg fun hx => hk hx.1, Option.or_none]

/-- `Shrinks` takes the connections of the former members out of the live room. -/
theorem Shrinks.holds (hg : h.Shrinks h' info accounts) {k : String} {d : Connection} :
    h'.rooms.Holds k d ↔ h.rooms.Holds k d ∧ ¬ (k = info.id ∧ d.account ∈ accounts) := by
  rw [hg.rooms.holds (hc.sound_dismiss info accounts), hc.id_dismiss hs]
  by_cases hk : k = info.id
  · rw [if_pos hk, LiveRoom.holds_dismiss, LiveRooms.holds_roomOf, hk]
    exact and_congr_right fun _ => not_congr (and_iff_right rfl).symm
  · rw [if_neg hk]
    exact (and_iff_left fun hx => hk hx.1).symm

/-- In the live room the accounts of `Shrinks` have no role any more. -/
theorem Shrinks.roleOf?_rooms (hg : h.Shrinks h' info accounts) (k a : String) :
    h'.rooms.roleOf? k a =
      if k = info.id ∧ a ∈ accounts then none else h.rooms.roleOf? k a := by
  rw [hg.rooms.roleOf? (hc.sound_dismiss info accounts), hc.id_dismiss hs]
  by_cases hk : k = info.id
  · rw [if_pos hk, LiveRoom.roleOf?_dismiss, LiveRooms.roleOf?_roomOf, hk]
    simp only [true_and]
  · rw [if_neg hk, if_neg fun hx => hk hx.1]

end Live

/-! ### Members -/

theorem map_fst_asUsers (accounts : List String) : (asUsers accounts).map Prod.fst = accounts := by
  rw [asUsers, List.map_map]
  exact List.map_id accounts

theorem mem_outsiders {s : Store} {users : List String} {a : String} :
    a ∈ s.outsiders info users ↔ a ∈ users ∧ s.roleOf? info.id a = none := by
  rw [Store.outsiders, List.mem_filter, mem_distinct, Option.isNone_iff_eq_none]

theorem nodup_outsiders {s : Store} {users : List String} : (s.outsiders info users).Nodup :=
  (nodup_distinct users).sublist List.filter_sublist

theorem outsiders_eq_nil_iff {s : Store} {users : List String} :
    s.outsiders info users = [] ↔ ¬ ∃ id ∈ users, s.roleOf? info.id id = none := by
  simp only [List.eq_nil_iff_forall_not_mem, mem_outsiders, not_exists]

/-- `addMember` would accept all of `outsiders`, as `.user`. -/
theorem accepts_outsiders {s : Store} (hs : s.rooms.get? info.id = some info)
    (users : List String) : s.Accepts info.id (asUsers (s.outsiders info users)) where
  nodup := by
    rw [map_fst_asUsers]
    exact nodup_outsiders
  fresh p hp := by
    obtain ⟨a, ha, rfl⟩ := List.mem_map.1 hp
    exact (mem_outsiders.1 ha).2
  housed := ⟨info, hs⟩

/-- `isMember` tells whether an account is in the live room or has a stored role in the room. -/
theorem isMember_gives (room : LiveRoom) (account : String) (t : Turn) :
    Request.Gives (isMember room account) t (fun e u => t.Asks u ∧ t.hub.Fails e)
      (fun b u => t.Asks u ∧
        b = (room.hasAccount account || (t.hub.store.roleOf? room.id account).isSome)) := by
  unfold isMember
  split
  · rename_i hm
    exact Request.gives_pure ⟨Turn.Asks.refl t, by rw [hm, Bool.true_or]⟩
  · rename_i hm
    rw [Bool.not_eq_true] at hm
    refine (orFail_ask_gives _ _ t).bind (fun _ _ h => h) ?_
    rintro role s ⟨ha, rfl⟩
    exact Request.gives_pure ⟨ha, by rw [hm, Bool.false_or]⟩

/-- Under calm, `.roomNotFound` means that `resolved?` is `none`. -/
theorem not_resolved_of_fails {e : ChatError} {reference : String}
    (hf : h.Fails e ∨ e = .roomNotFound ∧ h.resolved? reference = none) (hcalm : h.Calm)
    (info : RoomInfo) : h.resolved? reference ≠ some info := by
  rcases hf with ⟨hstorm, -⟩ | ⟨-, hnone⟩
  · exact absurd hcalm hstorm
  · rw [hnone]
    exact nofun

/-- `publicRoom`, with which `joinRoom` and `leaveRoom` begin: the reference is resolved, and
private rooms are refused. -/
theorem publicRoom_gives {α : Type} (hc : t.hub.Coherent) (reference : String)
    {k : LiveRoom → Request α} {F : ChatError → Turn → Prop} {D : α → Turn → Prop}
    (hF : ∀ e u, t.Asks u → (t.hub.Calm → ∀ info, t.hub.resolved? reference = some info →
      info.isPrivate ≠ false) → F e u)
    (hk : ∀ info s, t.Asks s → t.hub.resolved? reference = some info → info.isPrivate = false →
      Request.Gives (k (t.hub.rooms.roomOf info)) s F D) :
    Request.Gives (do
      let room ← resolve reference
      if room.info.isPrivate then throw .roomPrivate
      k room) t F D := by
  refine (resolve_gives hc reference).bind ?_ ?_
  · rintro e u ⟨hu, hf⟩
    exact hF e u hu fun hcalm info hi => absurd hi (not_resolved_of_fails hf hcalm info)
  rintro room s ⟨hs, info, hi, rfl⟩
  have hinfo : (t.hub.rooms.roomOf info).info = info := hc.info_roomOf (stored_of_resolved? hc hi).1
  refine Request.Gives.refuse (fun hp => hF _ s hs fun _ info' hi' => ?_) fun hp => ?_
  · rw [hinfo] at hp
    rw [Option.some.inj (hi'.symm.trans hi), hp]
    exact nofun
  · rw [hinfo, Bool.not_eq_true] at hp
    exact hk info s hs hi hp

/-- What does not hold of the room that `resolved?` finds holds of no room that it finds, as there
is one at most. -/
theorem refused_of_resolved? {P : RoomInfo → Prop} {reference : String}
    (hi : h.resolved? reference = some info) (hP : ¬ P info) :
    ∀ info', h.resolved? reference = some info' → info'.isPrivate = false → ¬ P info' := by
  intro info' hi' _
  rwa [Option.some.inj (hi'.symm.trans hi)]

/-- What does not hold of a room that an account `Governs` under a reference holds of no such room.
-/
theorem Governs.refused {P : RoomInfo → Prop} {account reference : String}
    (hg : h.Governs account reference info) (hP : ¬ P info) :
    ∀ info', h.Governs account reference info' → ¬ P info' :=
  fun info' hg' => refused_of_resolved? hg.resolved hP info' hg'.resolved hg'.isPublic

/-- `adminRoom`, with which `inviteRoom` and `kickRoom` begin: the room of a reference that the
account `Governs`. -/
theorem adminRoom_gives (hc : t.hub.Coherent) (c : Connection) (reference : String) :
    Request.Gives (adminRoom c reference) t
      (fun _ u => t.Asks u ∧ (t.hub.Calm → ∀ info, ¬ t.hub.Governs c.account reference info))
      (fun room u => t.Asks u ∧ ∃ info, t.hub.Governs c.account reference info ∧
        room = t.hub.rooms.roomOf info) := by
  unfold adminRoom
  refine publicRoom_gives hc reference ?_ fun info s hs hi hp => ?_
  · exact fun e u hu hf => ⟨hu, fun hcalm info hg => hf hcalm info hg.resolved hg.isPublic⟩
  rw [LiveRooms.roleOf?_roomOf]
  refine Request.Gives.refuse (fun hr => ⟨hs, fun _ info' hg => ?_⟩) fun hr => ?_
  · obtain rfl : info' = info := Option.some.inj (hg.resolved.symm.trans hi)
    exact hr hg.role
  · exact Request.gives_pure ⟨hs, info, ⟨hi, hp, not_not.1 hr⟩, rfl⟩

/-- `invitees` drops the accounts that are members already, and fails under calm only for an account
that the store does not have. -/
theorem invitees_gives (hs : t.hub.store.Sound) (room : String) (ids : List String) :
    Request.Gives (invitees room ids) t
      (fun _ u => t.Asks u ∧ (t.hub.Calm → ∃ id ∈ ids, t.hub.store.account? id = none))
      fun accounts u => t.Asks u ∧ (∀ id ∈ ids, (t.hub.store.account? id).isSome = true) ∧
        (∀ a ∈ accounts, t.hub.store.account? a.id = some a) ∧
        accounts.map Account.id = ids.filter fun id => (t.hub.store.roleOf? room id).isNone := by
  induction ids generalizing t with
  | nil => exact Request.gives_pure ⟨Turn.Asks.refl t, by simp, by simp, rfl⟩
  | cons id ids ih =>
    rw [invitees]
    refine (knownAccount_gives id t).bind ?_ ?_
    · rintro e u ⟨hu, hf⟩
      -- the first account is not known
      refine ⟨hu, fun hcalm => ⟨id, List.mem_cons_self, ?_⟩⟩
      exact (hf.resolve_left fun hf => hf.1 hcalm).2
    rintro account s ⟨ha, haccount⟩
    refine (orFail_ask_gives _ _ s).bind ?_ ?_
    · rintro e u ⟨hu, hf⟩
      exact ⟨ha.trans hu, fun hcalm => absurd (ha.calm hcalm) hf.1⟩
    rintro role v ⟨hv, rfl⟩
    have hv := ha.trans hv
    refine (ih (hv.store ▸ hs)).bind ?_ ?_
    · rintro e u ⟨hu, hf⟩
      -- one of the others is not known
      refine ⟨hv.trans hu, fun hcalm => ?_⟩
      obtain ⟨x, hx, hnone⟩ := hf (hv.calm hcalm)
      exact ⟨x, List.mem_cons_of_mem _ hx, hv.store ▸ hnone⟩
    rintro accounts w ⟨hw, hknown, hfound, hids⟩
    rw [hv.store] at hknown hfound hids
    -- `filter` is over the identifiers asked for, which are those of the accounts
    have hid : account.id = id := hs.accounts id account haccount
    have hrest := hv.trans hw
    refine Request.gives_pure ⟨hrest, fun x hx => ?_, ?_⟩
    · rcases List.mem_cons.1 hx with rfl | hx
      · rw [haccount]
        rfl
      · exact hknown x hx
    rw [List.filter_cons, ha.store]
    cases t.hub.store.roleOf? room id with
    | some role => exact ⟨hfound, hids⟩
    | none =>
      refine ⟨fun a hm => ?_, ?_⟩
      · rcases List.mem_cons.1 hm with rfl | hm
        · rw [hid, haccount]
        · exact hfound a hm
      · show account.id :: accounts.map Account.id = _
        rw [hid, hids]
        rfl

/-- `targets` looks the roles of all accounts up, and fails under calm only for one that is no
member. -/
theorem targets_gives (room : String) (ids : List String) (t : Turn) :
    Request.Gives (targets room ids) t
      (fun _ u => t.Asks u ∧ (t.hub.Calm → ∃ id ∈ ids, t.hub.store.roleOf? room id = none))
      fun ms u => t.Asks u ∧
        ms.map Prod.fst = ids ∧ ∀ p ∈ ms, t.hub.store.roleOf? room p.1 = some p.2 := by
  induction ids generalizing t with
  | nil => exact Request.gives_pure ⟨Turn.Asks.refl t, rfl, by simp⟩
  | cons id ids ih =>
    rw [targets]
    refine (orFail_ask_gives _ _ t).bind ?_ ?_
    · exact fun e u hu => ⟨hu.1, fun hcalm => absurd hcalm hu.2.1⟩
    rintro role s ⟨ha, hrole⟩
    split
    · -- the first account is no member
      exact Request.gives_throw ⟨ha, fun _ => ⟨id, List.mem_cons_self, hrole.symm⟩⟩
    · rename_i role
      refine (ih s).bind ?_ ?_
      · rintro e u ⟨hu, hf⟩
        -- one of the others is no member
        refine ⟨ha.trans hu, fun hcalm => ?_⟩
        obtain ⟨x, hx, hnone⟩ := hf (ha.calm hcalm)
        exact ⟨x, List.mem_cons_of_mem _ hx, ha.store ▸ hnone⟩
      rintro ms u ⟨hu, hids, hms⟩
      refine Request.gives_pure ⟨ha.trans hu, by rw [List.map_cons, hids], fun p hp => ?_⟩
      rcases List.mem_cons.1 hp with rfl | hp
      · exact hrole.symm
      · rw [← ha.store]
        exact hms p hp

/-! ### Telling about members -/

/-- `welcome` lets in the accounts one after the other, which is what `enroll` does, and tells of
each of them. -/
theorem welcome_gives (accounts : List Account) (room : LiveRoom) (t : Turn) :
    Step.Gives (welcome accounts room) t fun room' u =>
      t.Tells u ∧ room' = room.enroll t.hub.roster .user (accounts.map Account.id) := by
  induction accounts generalizing room t with
  | nil => exact Step.gives_pure ⟨Turn.Tells.refl t, rfl⟩
  | cons account accounts ih =>
    rw [welcome]
    refine (look_gives _ t).bind ?_
    rintro cs s ⟨rfl, rfl⟩
    refine Step.Gives.bind (sendAll_speaks _ ?_ s) fun _ v hv => ?_
    · exact fun _ => trivial
    have hv := hv.tells
    refine (notify_tells _ _ _ _ v).bind fun _ w hw => ?_
    -- invitation and notification leave the roster as it is, by which `enroll` goes on
    have hroster : w.hub.roster = s.hub.roster := (hv.trans hw.1).roster
    refine (ih _ w).mono ?_
    rintro room' u ⟨hu, rfl⟩
    exact ⟨(hv.trans hw.1).trans hu, by rw [hroster, List.map_cons, LiveRoom.enroll_cons]⟩

/-- `nameOf` only asks the store, whatever the answer is. -/
theorem nameOf_gives (account : String) (t : Turn) :
    Step.Gives (nameOf account) t fun _ u => t.Asks u := by
  unfold nameOf
  refine (ask_gives _ _ t).bind fun a s hs => ?_
  split
  · exact Step.gives_pure hs.1
  · exact Step.gives_pure hs.1

/-- `sendOff` lets out the accounts one after the other, which is what `dismiss` does, and tells of
each of them. -/
theorem sendOff_gives (accounts : List String) (room : LiveRoom) (t : Turn) :
    Step.Gives (sendOff accounts room) t fun room' u =>
      t.Tells u ∧ room' = room.dismiss accounts := by
  induction accounts generalizing room t with
  | nil => exact Step.gives_pure ⟨Turn.Tells.refl t, rfl⟩
  | cons account accounts ih =>
    rw [sendOff]
    refine (nameOf_gives account t).bind fun name s hs => ?_
    refine (notify_tells _ _ _ _ s).bind ?_
    rintro event v ⟨hv, view, rfl⟩
    refine Step.Gives.bind (sendAll_speaks _ ?_ v) fun _ w hw => ?_
    · exact fun _ => trivial
    have hw := hw.tells
    refine (ih _ w).mono ?_
    rintro room' u ⟨hu, rfl⟩
    exact ⟨((hs.tells.trans hv).trans hw).trans hu, rfl⟩

/-- `dropIfEmpty` drops a live room that nobody is connected to, and deletes it from the store if
`countMembers` is zero. A failing call becomes a report, so the room may stay stored. -/
theorem dropIfEmpty_gives (room : LiveRoom) (t : Turn) :
    Step.Gives (dropIfEmpty room) t fun _ u => ∃ news, (∀ e ∈ news, e.IsNews) ∧
      t.Becomes u (if room.isEmpty then t.hub.rooms.remove room.id else t.hub.rooms)
        u.hub.store news ∧
      (u.hub.store = t.hub.store ∨ room.isEmpty = true ∧
        t.hub.store.countMembers room.id = 0 ∧ t.hub.store.Drops room.id u.hub.store) ∧
      (t.hub.Calm → room.isEmpty = true → t.hub.store.countMembers room.id = 0 →
        u.hub.store.rooms.get? room.id = none) := by
  unfold dropIfEmpty
  split
  swap
  · rename_i he
    -- somebody is connected, and nothing happens
    exact Step.gives_pure ⟨[], by simp, Turn.Asks.refl t, Or.inl rfl, fun _ hempty =>
      absurd hempty he⟩
  rename_i he
  refine (dropRoom_gives room.id t).bind fun _ s hs => ?_
  refine (ask_gives _ _ s).bind fun r v hv => ?_
  have hb : t.Becomes v (t.hub.rooms.remove room.id) t.hub.store [] := hs.asks hv.1
  split
  · -- the room has no members
    rename_i hz
    refine (orReport_deleteRoom_gives room.id _ v).mono fun _ u hu => ?_
    rw [hb.rooms, hb.store] at hu
    rcases hu with ⟨store, news, hd, hu, hnews, -⟩ | ⟨e, hu, hstorm⟩
    · have hdrops : t.hub.store.Drops room.id u.hub.store := hu.store ▸ hd
      refine ⟨news, fun x hx => ?_, (hb.trans hu).again, Or.inr ⟨he, ?_, hdrops⟩, fun _ _ _ => ?_⟩
      · obtain ⟨e, rfl⟩ := hnews x hx
        simp [Effect.IsNews, Effect.IsUndoFailure]
      · rw [← hs.store]
        rcases hv.2 with hr | ⟨e, hr, -⟩
        · exact (Except.ok.inj hr).symm
        · cases hr
      · rw [hdrops.rooms, if_pos rfl]
    · exact ⟨_, by simp [Effect.IsNews, Effect.IsUndoFailure], (hb.trans hu).again,
        Or.inl hu.store, fun hcalm => absurd (hb.calm hcalm) hstorm⟩
  · -- the room has members
    rename_i n hn
    refine Step.gives_pure ⟨[], by simp, hb.again, Or.inl hb.store, fun _ _ hzero => ?_⟩
    rcases hv.2 with hr | ⟨e, hr, -⟩
    · rw [hs.store, hzero] at hr
      exact absurd (Except.ok.inj hr) hn
    · cases hr
  · refine (act_gives _ v).mono fun _ u hu => ?_
    rw [hb.rooms, hb.store] at hu
    refine ⟨_, by simp [Effect.IsNews, Effect.IsUndoFailure], (hb.trans hu).again,
      Or.inl hu.store, fun hcalm _ _ => ?_⟩
    rcases hv.2 with hr | ⟨e, -, hstorm⟩
    · cases hr
    · exact absurd (hs.calm hcalm) hstorm

/-! ### Changes that are taken back -/

theorem Turn.Undoes.refl (t : Turn) : t.Undoes t [] := ⟨Turn.Asks.refl t, by simp⟩

/-- Two rounds of `Undoes` report one after the other. -/
theorem Turn.Undoes.trans {v : Turn} {rs rs' : List Effect} (h : t.Undoes u rs)
    (h' : u.Undoes v rs') : t.Undoes v (rs ++ rs') := by
  obtain ⟨hb, hrs⟩ := h
  obtain ⟨hb', hrs'⟩ := h'
  rw [hb.rooms] at hb'
  refine ⟨hb.trans hb', fun e he => ?_⟩
  rcases List.mem_append.1 he with he | he
  · exact hrs e he
  · exact hrs' e he

theorem Turn.Asks.undoes (h : t.Asks u) : t.Undoes u [] := ⟨h.again, by simp⟩

theorem Turn.Undoes.effects {reports : List Effect} (h : t.Undoes u reports)
    (hnil : reports = []) : u.effects = t.effects := by
  rw [h.1.effects, hnil, List.append_nil]

/-- Under calm `FailsToInvite` has no effects, since the reports stem from calls that fail. -/
theorem Turn.FailsToInvite.effects {c : Connection} {r : MembersRequest}
    (h : t.FailsToInvite u c r) (hcalm : t.hub.Calm) : u.effects = t.effects := by
  rcases h.1 with hasks | ⟨-, -, reports, -, hundo, -, -, -, hnone⟩
  · exact hasks.undoes.effects rfl
  · exact hundo.effects (hnone hcalm)

theorem Turn.FailsToKick.effects {c : Connection} {r : MembersRequest}
    (h : t.FailsToKick u c r) (hcalm : t.hub.Calm) : u.effects = t.effects := by
  rcases h.1 with hasks | ⟨-, -, reports, -, hundo, -, -, -, hnone⟩
  · exact hasks.undoes.effects rfl
  · exact hundo.effects (hnone hcalm)

theorem Turn.Asks.restores (h : t.Asks u) : t.Restores u :=
  ⟨h.undoes, by rw [h.store]; exact Store.Alike.refl _⟩

theorem Turn.Asks.restores_trans {v : Turn} (h : t.Asks u) (h' : u.Restores v) : t.Restores v :=
  ⟨h.undoes.trans h'.1, h.store ▸ h'.2⟩

/-- `undoInvites` takes memberships back one by one. Those that it cannot take back are reported,
and without reports all of them are gone. While the store is in reach, none is left over. -/
theorem undoInvites_gives (room : String) (as : List String) (t : Turn) :
    Step.Gives (undoInvites room as) t fun _ u => ∃ gone reports, t.Undoes u reports ∧
      t.hub.store.Removes room gone u.hub.store ∧ (∀ a ∈ gone, a ∈ as) ∧
      (reports = [] → gone = as) ∧
      (t.hub.Calm → as.Nodup → (∀ a ∈ as, (t.hub.store.roleOf? room a).isSome = true) →
        reports = []) := by
  induction as generalizing t with
  | nil =>
    exact Step.gives_pure ⟨[], [], Turn.Undoes.refl t, Store.Removes.refl _ _, by simp, by simp,
      by simp⟩
  | cons a as ih =>
    rw [undoInvites]
    refine (orReport_gives _ (Store.spares_removeMember room a) _ t).bind fun _ s hs => ?_
    refine (ih s).mono ?_
    rintro - u ⟨gone, reports, hu, hremoves, hgone, hall, hcalm⟩
    rcases hs with ⟨store, hr, hb⟩ | ⟨e, hb, hfail⟩
    · -- the membership was taken back
      have hone : t.hub.store.Removes room [a] s.hub.store := by
        rw [hb.store]
        exact Store.removes_of_removeMember hr
      -- without reports every membership was taken back
      refine ⟨a :: gone, reports, Turn.Undoes.trans ⟨hb.again, by simp⟩ hu, hone.trans hremoves,
        ?_, fun hn => by rw [hall hn], ?_⟩
      · intro b hb
        rcases List.mem_cons.1 hb with rfl | hb
        · exact List.mem_cons_self
        · exact List.mem_cons_of_mem _ (hgone b hb)
      · intro hc hn hm
        rw [List.nodup_cons] at hn
        refine hcalm (hb.calm hc) hn.2 fun b hb => ?_
        have hne : b ∉ [a] := fun hba => hn.1 (List.mem_singleton.1 hba ▸ hb)
        rw [hone.roles, if_neg fun h => hne h.2]
        exact hm b (List.mem_cons_of_mem _ hb)
    · -- the membership stays, which is reported
      refine ⟨gone, .report (.inviteNotUndone room a e) :: reports, ?_, hb.store ▸ hremoves, ?_,
        by simp, ?_⟩
      · exact Turn.Undoes.trans ⟨hb.again, by simp [Effect.IsUndoFailure]⟩ hu
      · exact fun b hb => List.mem_cons_of_mem _ (hgone b hb)
      · intro hc _ hm
        obtain ⟨role, hrole⟩ := Option.isSome_iff_exists.1 (hm a List.mem_cons_self)
        obtain ⟨s', hs'⟩ := Store.removeMember_of_roleOf? hrole
        rw [hfail hc] at hs'
        cases hs'

/-- `undoKicks` gives memberships back one by one. Those that it cannot give back are reported, and
without reports all of them are back. While the store accepts them, none is missing. -/
theorem undoKicks_gives (room : String) (ms : List (String × Role)) (t : Turn) :
    Step.Gives (undoKicks room ms) t fun _ u => ∃ back reports, t.Undoes u reports ∧
      t.hub.store.Adds room back u.hub.store ∧ (∀ p ∈ back, p ∈ ms) ∧
      (reports = [] → back = ms) ∧
      (t.hub.Calm → t.hub.store.Accepts room ms → reports = []) := by
  induction ms generalizing t with
  | nil =>
    exact Step.gives_pure ⟨[], [], Turn.Undoes.refl t, Store.Adds.refl _ _, by simp, by simp,
      by simp⟩
  | cons p ms ih =>
    obtain ⟨a, role⟩ := p
    rw [undoKicks]
    refine (orReport_gives _ (Store.spares_addMember room a role) _ t).bind fun _ s hs => ?_
    refine (ih s).mono ?_
    rintro - u ⟨back, reports, hu, hadds, hback, hall, hcalm⟩
    rcases hs with ⟨store, hr, hb⟩ | ⟨e, hb, hfail⟩
    · -- the membership was given back
      have hone : t.hub.store.Adds room [(a, role)] s.hub.store := by
        rw [hb.store]
        exact Store.adds_of_addMember hr
      refine ⟨(a, role) :: back, reports, Turn.Undoes.trans ⟨hb.again, by simp⟩ hu,
        hone.trans hadds, ?_, fun hn => by rw [hall hn], ?_⟩
      · intro q hq
        rcases List.mem_cons.1 hq with rfl | hq
        · exact List.mem_cons_self
        · exact List.mem_cons_of_mem _ (hback q hq)
      · exact fun hc haccepts => hcalm (hb.calm hc) (haccepts.tail hone)
    · -- the membership is lost, which is reported
      refine ⟨back, .report (.kickNotUndone room a e) :: reports, ?_, hb.store ▸ hadds, ?_,
        by simp, ?_⟩
      · exact Turn.Undoes.trans ⟨hb.again, by simp [Effect.IsUndoFailure]⟩ hu
      · exact fun q hq => List.mem_cons_of_mem _ (hback q hq)
      · intro hc haccepts
        obtain ⟨s', hs'⟩ := haccepts.addMember
        rw [hfail hc] at hs'
        cases hs'

theorem asUsers_append (as bs : List String) : asUsers (as ++ bs) = asUsers as ++ asUsers bs :=
  List.map_append

/-- Members that were added are removed again, where `s₀` is the store before the first one. -/
theorem undoInvites_restores (room : String) (added : List String) {s₀ : Store}
    (h : s₀.Adds room (asUsers added) t.hub.store) (hn : added.Nodup) :
    Step.Gives (undoInvites room added) t fun _ u => ∃ kept reports, t.Undoes u reports ∧
      s₀.Adds room (asUsers kept) u.hub.store ∧ (∀ a ∈ kept, a ∈ added) ∧
      (reports = [] → kept = []) ∧ (t.hub.Calm → reports = []) := by
  refine (undoInvites_gives room added t).mono ?_
  rintro - u ⟨gone, reports, hu, hremoves, hgone, hall, hcalm⟩
  refine ⟨added.filter fun a => a ∉ gone, reports, hu, ?_, fun a ha => (List.mem_filter.1 ha).1,
    fun hnil => ?_, fun hc => hcalm hc hn fun a ha => ?_⟩
  · have hsub : ∀ a ∈ gone, ∃ p ∈ asUsers added, p.1 = a := fun a ha =>
      ⟨(a, .user), List.mem_map_of_mem (hgone a ha), rfl⟩
    have hkept := h.removes hremoves hsub
    rw [asUsers, List.filter_map] at hkept
    exact hkept
  · rw [hall hnil, List.filter_eq_nil_iff]
    simp
  · rw [roles_of_adds h, if_pos ⟨rfl, ha⟩]
    rfl

/-- Members are added until one fails, where `s₀` is the store before the first one. -/
theorem addInvitees_gives (room : String) (added : List String) (accounts : List Account)
    {s₀ : Store} (h : s₀.Adds room (asUsers added) t.hub.store) (hn : added.Nodup) :
    Request.Gives (addInvitees room added accounts) t
      (fun _ u => ∃ kept reports, t.Undoes u reports ∧ s₀.Adds room (asUsers kept) u.hub.store ∧
        (∀ a ∈ kept, a ∈ added ++ accounts.map Account.id) ∧ (reports = [] → kept = []) ∧
        (t.hub.Calm → reports = [] ∧
          ¬ t.hub.store.Accepts room (asUsers (accounts.map Account.id))))
      (fun _ u => t.Undoes u [] ∧
        s₀.Adds room (asUsers (added ++ accounts.map Account.id)) u.hub.store) := by
  -- along the accounts, the store is `s₀` with those in `added` as members
  induction accounts generalizing added t with
  | nil =>
    rw [List.map_nil, List.append_nil]
    exact Request.gives_pure ⟨Turn.Undoes.refl t, h⟩
  | cons account accounts ih =>
    rw [addInvitees]
    refine Request.Gives.lift_bind (tell_gives _ (Store.spares_addMember room account.id .user) t) ?_
    rintro r s (⟨store, rfl, hs, hb⟩ | ⟨e, rfl, ha, hfail⟩)
    · -- the account joins those that were added
      have hone : t.hub.store.Adds room [(account.id, .user)] s.hub.store := by
        rw [hb.store]
        exact Store.adds_of_addMember hs
      have hs₀ : s₀.Adds room (asUsers (added ++ [account.id])) s.hub.store := by
        rw [asUsers_append]
        exact h.trans hone
      have hn' : (added ++ [account.id]).Nodup := by
        have hnew := h.nodup_concat hone
        rw [map_fst_asUsers] at hnew
        exact hnew hn
      have hts : t.Undoes s [] := ⟨hb.again, by simp⟩
      have happ : (added ++ [account.id]) ++ accounts.map Account.id =
          added ++ (account :: accounts).map Account.id := by simp
      refine (ih _ hs₀ hn').mono ?_ ?_
      · rintro e u ⟨kept, reports, hu, hadds, hkept, hnone, hcalm⟩
        rw [happ] at hkept
        refine ⟨kept, reports, hts.trans hu, hadds, hkept, hnone, fun hc => ?_⟩
        obtain ⟨hreports, hnot⟩ := hcalm (hb.calm hc)
        exact ⟨hreports, fun haccepts => hnot (haccepts.tail hone)⟩
      · rintro - u ⟨hu, hadds⟩
        rw [happ] at hadds
        exact ⟨hts.trans hu, hadds⟩
    · -- the account could not be added, and those before it are removed again
      rw [← ha.store] at h
      refine Request.Gives.lift_bind (undoInvites_restores room added h hn) ?_
      rintro - u ⟨kept, reports, hu, hadds, hkept, hnone, hcalm⟩
      refine Request.gives_throw ⟨kept, reports, ha.undoes.trans hu, hadds,
        fun a hm => List.mem_append_left _ (hkept a hm), hnone,
        fun hc => ⟨hcalm (ha.calm hc), fun haccepts => ?_⟩⟩
      obtain ⟨s', hs'⟩ := haccepts.addMember
      rw [hfail hc] at hs'
      cases hs'

/-- Members that were removed are added again with their roles, where `s₀` is the store before the
first one. -/
theorem undoKicks_restores (room : String) (removed : List (String × Role)) {s₀ : Store}
    (h : s₀.Removes room (removed.map Prod.fst) t.hub.store) (hn : (removed.map Prod.fst).Nodup)
    (hroom : ∃ info, s₀.rooms.get? room = some info)
    (hold : ∀ p ∈ removed, s₀.roleOf? room p.1 = some p.2) :
    Step.Gives (undoKicks room removed) t fun _ u => ∃ lost reports, t.Undoes u reports ∧
      s₀.Removes room lost u.hub.store ∧ (∀ a ∈ lost, a ∈ removed.map Prod.fst) ∧
      (reports = [] → lost = []) ∧ (t.hub.Calm → reports = []) := by
  refine (undoKicks_gives room removed t).mono ?_
  rintro - u ⟨back, reports, hu, hadds, hback, hall, hcalm⟩
  refine ⟨_, reports, hu, h.adds hadds fun p hp => hold p (hback p hp),
    fun a ha => (List.mem_filter.1 ha).1, fun hnil => ?_, fun hc => hcalm hc ⟨hn, ?_, ?_⟩⟩
  · rw [hall hnil, List.filter_eq_nil_iff]
    simp
  · -- nobody has taken the places of those that were removed
    intro p hp
    rw [h.roles, if_pos ⟨rfl, List.mem_map_of_mem hp⟩]
  · rw [h.rooms]
    exact hroom

/-- Members are removed until one fails, where `s₀` is the store before the first one. -/
theorem removeTargets_gives (room : String) (removed ms : List (String × Role)) {s₀ : Store}
    (h : s₀.Removes room (removed.map Prod.fst) t.hub.store)
    (hn : (removed.map Prod.fst).Nodup) (hroom : ∃ info, s₀.rooms.get? room = some info)
    (hold : ∀ p ∈ removed ++ ms, s₀.roleOf? room p.1 = some p.2) :
    Request.Gives (removeTargets room removed ms) t
      (fun _ u => ∃ lost reports, t.Undoes u reports ∧ s₀.Removes room lost u.hub.store ∧
        (∀ a ∈ lost, a ∈ (removed ++ ms).map Prod.fst) ∧ (reports = [] → lost = []) ∧
        (t.hub.Calm → reports = [] ∧ ¬ ((removed ++ ms).map Prod.fst).Nodup))
      (fun _ u => t.Undoes u [] ∧
        s₀.Removes room ((removed ++ ms).map Prod.fst) u.hub.store) := by
  -- along the accounts, the store is `s₀` without those in `removed`
  induction ms generalizing removed t with
  | nil =>
    rw [List.append_nil]
    exact Request.gives_pure ⟨Turn.Undoes.refl t, h⟩
  | cons p ms ih =>
    obtain ⟨a, role⟩ := p
    have happ : (removed ++ [(a, role)]) ++ ms = removed ++ (a, role) :: ms := by simp
    rw [removeTargets]
    refine Request.Gives.lift_bind (tell_gives _ (Store.spares_removeMember room a) t) ?_
    rintro r s (⟨store, rfl, hs, hb⟩ | ⟨e, rfl, ha, hfail⟩)
    · -- the account joins those that were removed
      have hone : t.hub.store.Removes room [a] s.hub.store := by
        rw [hb.store]
        exact Store.removes_of_removeMember hs
      have hs₀ : s₀.Removes room ((removed ++ [(a, role)]).map Prod.fst) s.hub.store := by
        rw [List.map_append]
        exact h.trans hone
      have hn' : ((removed ++ [(a, role)]).map Prod.fst).Nodup := by
        rw [List.map_append]
        exact h.nodup_concat hone hn
      have hts : t.Undoes s [] := ⟨hb.again, by simp⟩
      rw [← happ] at hold ⊢
      refine (ih _ hs₀ hn' hold).mono ?_ ?_
      · rintro e u ⟨lost, reports, hu, hremoves, hlost, hnone, hcalm⟩
        exact ⟨lost, reports, hts.trans hu, hremoves, hlost, hnone, hcalm ∘ hb.calm⟩
      · rintro - u ⟨hu, hremoves⟩
        exact ⟨hts.trans hu, hremoves⟩
    · -- the account could not be removed, and those before it are added again
      rw [← ha.store] at h
      have hback : ∀ p ∈ removed, s₀.roleOf? room p.1 = some p.2 :=
        fun p hp => hold p (List.mem_append_left _ hp)
      refine Request.Gives.lift_bind (undoKicks_restores room removed h hn hroom hback) ?_
      rintro - u ⟨lost, reports, hu, hremoves, hlost, hnone, hcalm⟩
      rw [List.map_append, List.map_cons]
      refine Request.gives_throw ⟨lost, reports, ha.undoes.trans hu, hremoves,
        fun x hx => List.mem_append_left _ (hlost x hx), hnone,
        fun hc => ⟨hcalm (ha.calm hc), fun hnodup => ?_⟩⟩
      -- the account has not been removed yet, and so it is still a member
      have hnew : a ∉ removed.map Prod.fst := fun hm =>
        (List.nodup_append.1 hnodup).2.2 a hm a List.mem_cons_self rfl
      have hrole : s.hub.store.roleOf? room a = some role := by
        rw [h.roles, if_neg fun hx => hnew hx.2]
        exact hold (a, role) (List.mem_append_right _ List.mem_cons_self)
      obtain ⟨s', hs'⟩ := Store.removeMember_of_roleOf? hrole
      rw [ha.store, hfail hc] at hs'
      cases hs'

/-! ### The requests -/

/-- `keep` after `enroll` puts the room in its place, whether it was live or not. -/
theorem Coherent.places_keep_enroll (hc : h.Coherent)
    (hs : h.store.rooms.get? info.id = some info) (accounts : List String) :
    h.rooms.Places (h.rooms.keep ((h.rooms.roomOf info).enroll h.roster .user accounts))
      ((h.rooms.roomOf info).enroll h.roster .user accounts) := by
  apply LiveRooms.places_keep
  intro hlive
  by_contra he
  rw [Bool.not_eq_false, (hc.sound_enroll info accounts).isEmpty_iff] at he
  rw [hc.id_enroll hs, ne_eq, hc.rooms.get?_eq_none_iff] at hlive
  push Not at hlive
  -- a connection that was in the room has stayed
  obtain ⟨d, hd⟩ := hlive
  apply he d
  rw [LiveRoom.holds_enroll hc.roster (hc.rooms.within_roomOf info)]
  exact Or.inl ((h.rooms.holds_roomOf info).2 hd)

/-- `joinRoom` that fails changes nothing, and under calm it fails only where the account `CanJoin`
no such room. One that is carried out `Grows` by the account. -/
theorem joinRoom_gives (hc : t.hub.Coherent) (c : Connection) (r : RoomRequest) :
    Request.Gives (joinRoom c r) t
      (fun _ u => t.Asks u ∧ (t.hub.Calm → ∀ info, t.hub.resolved? r.room = some info →
        info.isPrivate = false → ¬ t.hub.CanJoin c.account info))
      fun _ u => ∃ info, t.hub.resolved? r.room = some info ∧ info.isPrivate = false ∧
        t.hub.CanJoin c.account info ∧ t.hub.Grows u.hub info [c.account] ∧
        t.Answers u c "join-room" (infoResult info) := by
  unfold joinRoom
  refine publicRoom_gives hc r.room ?_ fun info s hs hi hp => ?_
  · exact fun e u hu hf => ⟨hu, fun hcalm info hi hp _ => hf hcalm info hi hp⟩
  have hstored := (stored_of_resolved? hc hi).1
  have hinfo := hc.info_roomOf hstored
  have hid : (t.hub.rooms.roomOf info).id = info.id := hc.id_roomOf hstored
  rw [hinfo]
  refine Request.Gives.refuse (fun ho => ⟨hs, fun _ => refused_of_resolved? hi fun hcan => ?_⟩)
    fun ho => ?_
  · rw [hcan.isOpen] at ho
    cases ho
  rw [Bool.not_eq_true] at ho
  refine (isMember_gives _ _ s).bind ?_ ?_
  · rintro e u ⟨hu, hf⟩
    exact ⟨hs.trans hu, fun hcalm => absurd (hs.calm hcalm) hf.1⟩
  rintro b v ⟨hv, hb⟩
  have hv := hs.trans hv
  -- who is neither connected to the room nor in the store is no member
  rw [LiveRooms.hasAccount_roomOf, hid, hs.store] at hb
  refine Request.Gives.refuse (fun hmember => ⟨hv, fun _ => refused_of_resolved? hi fun hcan => ?_⟩)
    fun hmember => ?_
  · rw [hb, hcan.away, hcan.outside] at hmember
    cases hmember
  rw [hb, Bool.or_eq_true, not_or, Option.not_isSome_iff_eq_none,
    Option.not_isSome_iff_eq_none] at hmember
  -- from the first change on, nothing fails any more
  refine (orFail_tell_gives _ (Store.spares_addMember _ c.account .user) v).bind ?_ ?_
  · rintro e u ⟨hu, cause, -, hfail⟩
    refine ⟨hv.trans hu, fun hcalm _ _ _ _ => ?_⟩
    obtain ⟨s', hs'⟩ := Store.addMember_of_roleOf? hstored hmember.2 .user
    have hfailed := hfail (hv.calm hcalm)
    rw [hid, hv.store, hs'] at hfailed
    cases hfailed
  rintro - w ⟨store, hadd, hw⟩
  have hw := hv.becomes hw
  rw [hv.rooms] at hw
  rw [hid, hv.store] at hadd
  refine (see_gives _ w).bind (fun _ _ h => h.elim) ?_
  rintro own x ⟨rfl, rfl⟩
  refine Request.Gives.lift_bind (keepRoom_gives _ x) fun _ y hy => ?_
  refine Request.Gives.lift_bind (notify_tells _ _ _ _ y) fun _ z hz => ?_
  have hkeep := hw.trans hy
  rw [hw.rooms, hw.store, hw.roster] at hkeep
  have htold : t.Informs z := (hkeep.informs (by simp)).trans hz.1.informs
  rw [LiveRoom.info_joinAll, hinfo]
  refine Request.Gives.lift ((htold.answers c _ _).mono ?_)
  rintro - u ⟨hu, hrooms, hstore⟩
  refine ⟨info, hi, hp, ⟨ho, hmember.1, hmember.2⟩,
    ⟨?_, ?_, store, Store.adds_of_addMember hadd, ?_⟩, hu⟩
  · exact hu.roster
  · rw [hrooms, hz.1.rooms, hkeep.rooms]
    exact hc.places_keep_enroll hstored [c.account]
  · rw [hstore, ← hkeep.store]
    exact hz.1.notes

/-- `Shrinks`, from what `removeMember` did to the store and `dropIfEmpty` to the live room. -/
theorem shrinks_of_drop (hc : h.Coherent) (hs : h.store.rooms.get? info.id = some info)
    {s s' : Store} {room : LiveRoom} (hroom : (h.rooms.roomOf info).dismiss accounts = room)
    (hroster : h'.roster = h.roster)
    (hrooms : h'.rooms =
      if room.isEmpty then (h.rooms.keep room).remove room.id else h.rooms.keep room)
    (hremoves : h.store.Removes info.id accounts s) (hnotes : s.Notes s')
    (hdrop : h'.store = s' ∨
      room.isEmpty = true ∧ s'.countMembers room.id = 0 ∧ s'.Drops room.id h'.store) :
    h.Shrinks h' info accounts := by
  have hid : room.id = info.id := by
    rw [← hroom]
    exact hc.id_dismiss hs accounts
  refine ⟨hroster, ?_, s, hremoves, ?_⟩
  · rw [hrooms, hroom]
    exact LiveRooms.places_keep_remove
  · rcases hdrop with hsame | ⟨hempty, hzero, hdrops⟩
    · left
      rw [hsame]
      exact hnotes
    · right
      rw [hid] at hzero hdrops
      -- notifications do not change who is a member
      have hcount : s'.countMembers info.id = s.countMembers info.id :=
        Store.countMembers_congr fun a => hnotes.roleOf? info.id a
      exact ⟨by rw [hroom, hempty], hcount ▸ hzero, s', hnotes, hdrops⟩

/-- `leaveRoom` that fails changes nothing, and under calm it fails only where the account
`CanLeave` no such room. One that is carried out `Shrinks` by the account, and under calm the room
is deleted if nobody is left. -/
theorem leaveRoom_gives (hc : t.hub.Coherent) (c : Connection) (r : RoomRequest) :
    Request.Gives (leaveRoom c r) t
      (fun _ u => t.Asks u ∧ (t.hub.Calm → ∀ info, t.hub.resolved? r.room = some info →
        info.isPrivate = false → ¬ t.hub.CanLeave c.account info))
      fun _ u => ∃ info, t.hub.resolved? r.room = some info ∧ info.isPrivate = false ∧
        t.hub.CanLeave c.account info ∧ t.hub.Shrinks u.hub info [c.account] ∧
        (t.hub.Calm → ((t.hub.rooms.roomOf info).dismiss [c.account]).isEmpty = true →
          (∀ a, u.hub.store.roleOf? info.id a = none) → u.hub.store.rooms.get? info.id = none) ∧
        t.Answers u c "leave-room" (roomResult info.id) := by
  unfold leaveRoom
  refine publicRoom_gives hc r.room ?_ fun info s hs hi hp => ?_
  · exact fun e u hu hf => ⟨hu, fun hcalm info hi hp _ => hf hcalm info hi hp⟩
  have hstored := (stored_of_resolved? hc hi).1
  have hinfo := hc.info_roomOf hstored
  have hid : (t.hub.rooms.roomOf info).id = info.id := hc.id_roomOf hstored
  rw [LiveRooms.hasAccount_roomOf]
  refine Request.Gives.refuse (fun ha => ⟨hs, fun _ => refused_of_resolved? hi fun hcan => ?_⟩)
    fun ha => ?_
  · rw [hcan.present] at ha
    cases ha
  rw [Bool.not_eq_true', Bool.not_eq_false] at ha
  -- from the first change on, nothing fails any more
  refine (orFail_tell_gives _ (Store.spares_removeMember _ c.account) s).bind ?_ ?_
  · rintro e u ⟨hu, cause, -, hfail⟩
    refine ⟨hs.trans hu, fun hcalm => refused_of_resolved? hi fun hcan => ?_⟩
    obtain ⟨role, hrole⟩ := Option.isSome_iff_exists.1 hcan.member
    obtain ⟨s', hs'⟩ := Store.removeMember_of_roleOf? hrole
    have hfailed := hfail (hs.calm hcalm)
    rw [hid, hs.store, hs'] at hfailed
    cases hfailed
  rintro - v ⟨store, hremove, hv⟩
  have hv := hs.becomes hv
  rw [hs.rooms] at hv
  rw [hid, hs.store] at hremove
  have hremoves := Store.removes_of_removeMember hremove
  refine Request.Gives.lift_bind (keepRoom_gives _ v) fun _ w hw => ?_
  refine Request.Gives.lift_bind (notify_tells _ _ _ _ w) fun _ x hx => ?_
  refine Request.Gives.lift_bind (dropIfEmpty_gives _ x) ?_
  rintro - y ⟨news, hnews, hy, hdrop, hdeletes⟩
  have hkeep := hv.trans hw
  rw [hv.rooms, hv.store] at hkeep
  have hleft : t.Informs y :=
    ((hkeep.informs (by simp)).trans hx.1.informs).trans (hy.informs hnews)
  have hroom : (t.hub.rooms.roomOf info).dismiss [c.account] =
      ((t.hub.rooms.roomOf info).removeAccount c.account).2 := rfl
  rw [← hroom] at hdrop hdeletes hy ⊢
  rw [hc.id_dismiss hstored] at hdeletes ⊢
  refine Request.Gives.lift ((hleft.answers c _ _).mono ?_)
  rintro - u ⟨hu, hrooms, hstore⟩
  have hnotes : store.Notes x.hub.store := by
    rw [← hkeep.store]
    exact hx.1.notes
  have hshrinks : t.hub.Shrinks u.hub info [c.account] := by
    apply shrinks_of_drop hc hstored hroom hu.roster
    · rw [hrooms, hy.rooms, hx.1.rooms, hkeep.rooms]
      rfl
    · exact hremoves
    · exact hnotes
    · rw [hstore]
      exact hdrop
  refine ⟨info, hi, hp, ⟨ha, hremoves.members _ (List.mem_singleton_self _)⟩, hshrinks, ?_, hu⟩
  intro hcalm hempty hnobody
  rw [hstore] at hnobody ⊢
  rcases hdrop with hsame | ⟨-, -, hdrops⟩
  · rw [hsame, ← Store.countMembers_eq_zero_iff] at hnobody
    exact hdeletes (hx.1.informs.calm (hkeep.calm hcalm)) hempty hnobody
  · rw [hdrops.rooms, hc.id_dismiss hstored, if_pos rfl]

theorem distinct_eq_nil_iff {ids : List String} : distinct ids = [] ↔ ids = [] := by
  simp only [List.eq_nil_iff_forall_not_mem, mem_distinct]

/-- `inviteRoom` up to its loop: it `FailsToInvite`, or the accounts are members (`Invites`) and
what remains is `welcome` and the answer, which cannot fail. -/
theorem inviteRoom_after (hc : t.hub.Coherent) (c : Connection) (r : MembersRequest)
    {F : ChatError → Turn → Prop} {D : Unit → Turn → Prop}
    (hF : ∀ e u, t.FailsToInvite u c r → F e u)
    (hk : ∀ info accounts u, t.Invites u c r info accounts → Request.Gives (do
      let room ← welcome accounts (t.hub.rooms.roomOf info)
      keepRoom room
      replyAndForward c "invite-room" (membersResult room.id (accounts.map Account.id))) u F D) :
    Request.Gives (inviteRoom c r) t F D := by
  unfold inviteRoom
  refine (adminRoom_gives hc c r.room).bind ?_ ?_
  · exact fun e u hu => hF e u ⟨Or.inl hu.1, fun hcalm info hg _ => hu.2 hcalm info hg⟩
  -- the request governs a room; what follows may refuse, but changes nothing yet
  rintro room s ⟨hs, info, hgov, rfl⟩
  have hstored := (stored_of_resolved? hc hgov.resolved).1
  have hid : (t.hub.rooms.roomOf info).id = info.id := hc.id_roomOf hstored
  refine Request.Gives.refuse (fun hnobody => hF _ s ⟨Or.inl hs, fun _ _ _ hcan => ?_⟩)
    fun hsome => ?_
  · exact hcan.listed (distinct_eq_nil_iff.1 (List.isEmpty_iff.1 hnobody))
  rw [List.isEmpty_iff, distinct_eq_nil_iff] at hsome
  rw [hid]
  refine (invitees_gives (hs.store ▸ hc.store) _ _).bind ?_ ?_
  · rintro e u ⟨hu, hf⟩
    refine hF e u ⟨Or.inl (hs.trans hu), fun hcalm _ _ hcan => ?_⟩
    obtain ⟨x, hx, hnone⟩ := hf (hs.calm hcalm)
    have hknown := hcan.known x (mem_distinct.1 hx)
    rw [← hs.store, hnone] at hknown
    cases hknown
  rintro accounts v ⟨hv, hknown, hfound, hids⟩
  have hv := hs.trans hv
  rw [hs.store] at hknown hfound hids
  have hids : accounts.map Account.id = t.hub.store.outsiders info r.users := hids
  -- `invitees` has dropped the members, so nobody is left if all are members
  have hnobody : accounts.isEmpty = true ↔
      ¬ ∃ id ∈ r.users, t.hub.store.roleOf? info.id id = none := by
    rw [List.isEmpty_iff, ← outsiders_eq_nil_iff, ← hids, List.map_eq_nil_iff]
  refine Request.Gives.refuse
    (fun hall => hF _ v ⟨Or.inl hv, fun _ => hgov.refused fun hcan => ?_⟩) fun hout => ?_
  · exact hnobody.1 hall hcan.outside
  have hcan : t.hub.CanInvite info r.users :=
    ⟨hsome, fun x hx => hknown x (mem_distinct.2 hx), by rwa [hnobody, not_not] at hout⟩
  -- from here on members are added, one by one
  have hbase : t.hub.store.Adds info.id (asUsers []) v.hub.store := by
    rw [hv.store]
    exact Store.Adds.refl _ _
  refine (addInvitees_gives info.id [] accounts hbase List.nodup_nil).bind ?_ ?_
  · rintro e u ⟨kept, reports, hu, hadds, hkept, hnone, hcalm⟩
    have hu := hv.undoes.trans hu
    rw [hids] at hkept hcalm
    rw [hv.store] at hcalm
    refine hF e u ⟨Or.inr ⟨info, kept, reports, hgov, hu, hadds,
      fun a ha => (mem_outsiders.1 (hkept a ha)).1, hnone, fun hc => (hcalm (hv.calm hc)).1⟩,
      fun hstill _ _ _ => ?_⟩
    exact (hcalm (hv.calm hstill)).2 (accepts_outsiders hstored r.users)
  rintro - w ⟨hw, hadds⟩
  rw [List.nil_append, hids] at hadds
  exact hk info accounts w ⟨hgov, hcan, hids, hfound, (hv.undoes.trans hw).1, hadds⟩

/-- `inviteRoom` that is carried out `Grows` by those of the users that were no members. -/
theorem inviteRoom_gives (hc : t.hub.Coherent) (c : Connection) (r : MembersRequest) :
    Request.Gives (inviteRoom c r) t (fun _ u => t.FailsToInvite u c r)
      fun _ u => ∃ info, t.hub.Governs c.account r.room info ∧ t.hub.CanInvite info r.users ∧
        t.hub.Grows u.hub info (t.hub.store.outsiders info r.users) ∧
        t.Answers u c "invite-room" (membersResult info.id (t.hub.store.outsiders info r.users)) := by
  refine inviteRoom_after hc c r (fun _ _ hu => hu) fun info accounts w hw => ?_
  have hstored := (stored_of_resolved? hc hw.governs.resolved).1
  have hb := hw.becomes
  refine Request.Gives.lift_bind (welcome_gives _ _ w) ?_
  rintro room x ⟨hx, rfl⟩
  refine Request.Gives.lift_bind (keepRoom_gives _ x) fun _ y hy => ?_
  have hy' : t.Informs y :=
    ((hb.informs (by simp)).trans hx.informs).trans (hy.informs (by simp))
  rw [hw.ids] at hy ⊢
  rw [hb.roster, hc.id_enroll hstored]
  refine Request.Gives.lift ((hy'.answers c _ _).mono ?_)
  rintro - u ⟨hu, hrooms, hstore⟩
  refine ⟨info, hw.governs, hw.can, ⟨hu.roster, ?_, w.hub.store, hw.adds, ?_⟩, hu⟩
  · -- the live room is the one that `welcome` has filled
    rw [hrooms, hy.rooms, hx.rooms, hb.rooms, hb.roster]
    exact hc.places_keep_enroll hstored _
  · rw [hstore, hy.store]
    exact hx.notes

/-- `kickRoom` up to its loop: it `FailsToKick`, or the accounts are no members any more (`Kicks`)
and what remains is `sendOff`, `dropIfEmpty` and the answer, which cannot fail. -/
theorem kickRoom_after (hc : t.hub.Coherent) (c : Connection) (r : MembersRequest)
    {F : ChatError → Turn → Prop} {D : Unit → Turn → Prop}
    (hF : ∀ e u, t.FailsToKick u c r → F e u)
    (hk : ∀ info u, t.Kicks u c r info → Request.Gives (do
      let room ← sendOff (distinct r.users) (t.hub.rooms.roomOf info)
      keepRoom room
      dropIfEmpty room
      replyAndForward c "kick-room" (membersResult room.id (distinct r.users))) u F D) :
    Request.Gives (kickRoom c r) t F D := by
  unfold kickRoom
  refine (adminRoom_gives hc c r.room).bind ?_ ?_
  · exact fun e u hu => hF e u ⟨Or.inl hu.1, fun hcalm info hg _ => hu.2 hcalm info hg⟩
  -- the request governs a room; what follows may refuse, but changes nothing yet
  rintro room s ⟨hs, info, hgov, rfl⟩
  have hstored := (stored_of_resolved? hc hgov.resolved).1
  have hid : (t.hub.rooms.roomOf info).id = info.id := hc.id_roomOf hstored
  refine Request.Gives.refuse (fun hnobody => hF _ s ⟨Or.inl hs, fun _ _ _ hcan => ?_⟩)
    fun hsome => ?_
  · exact hcan.listed (distinct_eq_nil_iff.1 (List.isEmpty_iff.1 hnobody))
  rw [List.isEmpty_iff, distinct_eq_nil_iff] at hsome
  refine Request.Gives.refuse (fun hself => hF _ s ⟨Or.inl hs, fun _ _ _ hcan => ?_⟩)
    fun hself => ?_
  · exact hcan.others (mem_distinct.1 (List.contains_iff_mem.1 hself))
  rw [List.contains_iff_mem, mem_distinct] at hself
  have husers : ∀ a ∈ distinct r.users, a ∈ r.users ∧ a ≠ c.account :=
    fun a ha => ⟨mem_distinct.1 ha, fun h => hself (h ▸ mem_distinct.1 ha)⟩
  rw [hid]
  refine (targets_gives _ _ s).bind ?_ ?_
  · rintro e u ⟨hu, hf⟩
    refine hF e u ⟨Or.inl (hs.trans hu), fun hcalm => hgov.refused fun hcan => ?_⟩
    obtain ⟨x, hx, hnone⟩ := hf (hs.calm hcalm)
    have hmember := hcan.members x (mem_distinct.1 hx)
    rw [← hs.store, hnone] at hmember
    cases hmember
  rintro ms v ⟨hv, hids, hold⟩
  have hv := hs.trans hv
  -- from here on members are removed, one by one
  have hbase : t.hub.store.Removes info.id (([] : List (String × Role)).map Prod.fst)
      v.hub.store := by
    rw [hv.store]
    exact Store.Removes.refl _ _
  refine (removeTargets_gives info.id [] ms hbase List.nodup_nil ⟨info, hstored⟩
    (hs.store ▸ hold)).bind ?_ ?_
  · rintro e u ⟨lost, reports, hu, hremoves, hlost, hnone, hcalm⟩
    have hu := hv.undoes.trans hu
    rw [List.nil_append, hids] at hlost hcalm
    exact hF e u ⟨Or.inr ⟨info, lost, reports, hgov, hu, hremoves,
      fun a ha => husers a (hlost a ha), hnone, fun hc => (hcalm (hv.calm hc)).1⟩,
      fun hc _ _ _ => (hcalm (hv.calm hc)).2 (nodup_distinct r.users)⟩
  rintro - w ⟨hw, hremoves⟩
  rw [List.nil_append, hids] at hremoves
  -- all were members, as each of them could be removed
  have hcan : t.hub.CanKick c.account info r.users :=
    ⟨hsome, hself, fun x hx => hremoves.members x (mem_distinct.2 hx)⟩
  exact hk info w ⟨hgov, hcan, (hv.undoes.trans hw).1, hremoves⟩

/-- `kickRoom` that is carried out `Shrinks` by all of the users. -/
theorem kickRoom_gives (hc : t.hub.Coherent) (c : Connection) (r : MembersRequest) :
    Request.Gives (kickRoom c r) t (fun _ u => t.FailsToKick u c r)
      fun _ u => ∃ info, t.hub.Governs c.account r.room info ∧
        t.hub.CanKick c.account info r.users ∧ t.hub.Shrinks u.hub info (distinct r.users) ∧
        t.Answers u c "kick-room" (membersResult info.id (distinct r.users)) := by
  refine kickRoom_after hc c r (fun _ _ hu => hu) fun info w hw => ?_
  have hstored := (stored_of_resolved? hc hw.governs.resolved).1
  have hb := hw.becomes
  refine Request.Gives.lift_bind (sendOff_gives _ _ w) ?_
  rintro room x ⟨hx, hroom⟩
  refine Request.Gives.lift_bind (keepRoom_gives _ x) fun _ y hy => ?_
  refine Request.Gives.lift_bind (dropIfEmpty_gives _ y) ?_
  rintro - z ⟨news, hnews, hz, hdrop, -⟩
  have hz' : t.Informs z := (((hb.informs (by simp)).trans hx.informs).trans
    (hy.informs (by simp))).trans (hz.informs hnews)
  have hroomid : room.id = info.id := by
    rw [hroom]
    exact hc.id_dismiss hstored _
  rw [show membersResult room.id (distinct r.users) =
    membersResult info.id (distinct r.users) by rw [hroomid]]
  refine Request.Gives.lift ((hz'.answers c _ _).mono ?_)
  rintro - u ⟨hu, hrooms, hstore⟩
  refine ⟨info, hw.governs, hw.can, ?_, hu⟩
  -- the store after `removeMember`, and the live room after `dropIfEmpty`
  apply shrinks_of_drop hc hstored hroom.symm hu.roster
  · rw [hrooms, hz.rooms, hy.rooms, hx.rooms, hb.rooms]
  · exact hw.removes
  · exact hx.notes
  · rw [hstore, ← hy.store]
    exact hdrop

end Hub

end GroupChat
