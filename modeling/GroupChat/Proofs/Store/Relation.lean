import GroupChat.Proofs.Store.Rooms
import Mathlib.Data.Set.Card

/-!
# Rooms as a map and members as a relation

The store keeps the members of each room in a table of their own, which is made when the first one
is added and goes with the room. None of this can be seen from outside: whatever is asked and
changed, and in whichever order, the store answers like a finite map from identifiers to rooms
beside a finite relation of rooms and accounts.

`Store.deleteRoom` takes the table of a room away before it looks whether there is such a room. That
it changes nothing when it fails is due to an invariant: there are tables for existing rooms only.

## Main definitions

- `RoomBook`: a map of rooms and a relation of members, without any tables.
- `RoomCall`, `RoomAnswer`: what a store is asked about rooms and members, and what it answers.
- `RoomBook.after`, `RoomBook.Allows`: what a call changes in a book, and the answers that fit it.
- `Store.answer`: the answer of a store, and the store after it.
- `Store.Sheltered`: tables of members are there for existing rooms only.
- `Store.book`: the book that a store keeps.

## Main statements

- `Store.Sheltered.answer`: no call leaves a table of members behind.
- `Store.Keeps.serves`: a call is answered as the book allows, and changes both alike.
- `Store.Keeps.afterCalls`: this goes on along every sequence of calls.
- `Store.answers_like_book`: a store without rooms answers like a map and a relation.
-/

namespace GroupChat

/-- Rooms and their members: a finite map `rooms` from identifiers to rooms, and a finite relation
`roles` that gives a role to some pairs of a room and an account. -/
@[ext]
structure RoomBook where
  /-- The room of an identifier. -/
  rooms : String → Option RoomInfo
  /-- The role of an account in a room, if it is a member. -/
  roles : String → String → Option Role
  /-- There are finitely many rooms. -/
  finite_rooms : {k | rooms k ≠ none}.Finite
  /-- A room has finitely many members. -/
  finite_members (k : String) : {a | roles k a ≠ none}.Finite
  /-- A room stands under its own identifier. -/
  keyed {k : String} {info : RoomInfo} (stored : rooms k = some info) : info.id = k
  /-- Members belong to rooms that exist. -/
  housed {k a : String} (member : roles k a ≠ none) : rooms k ≠ none

/-- What a `Store` is asked about rooms and members. -/
inductive RoomCall where
  /-- To add a room. -/
  | create (info : RoomInfo)
  /-- To delete a room. -/
  | delete (room : String)
  /-- To make an account a member of a room. -/
  | addMember (room account : String) (role : Role)
  /-- To end the membership of an account in a room. -/
  | removeMember (room account : String)
  /-- Which room has an identifier. -/
  | byId (room : String)
  /-- Which room has a name. -/
  | byName (name : String)
  /-- In which rooms an account is. -/
  | roomsOf (account : String)
  /-- Which role an account has in a room. -/
  | roleOf (room account : String)
  /-- How many members a room has. -/
  | countMembers (room : String)
  deriving DecidableEq, Repr

/-- What a `Store` answers to a `RoomCall`. -/
inductive RoomAnswer where
  /-- It is done. -/
  | done
  /-- It cannot be done. -/
  | failed (e : StoreError)
  /-- A room, if there is one. -/
  | room (found : Option RoomInfo)
  /-- Rooms with roles in them. -/
  | memberships (ms : List Membership)
  /-- A role, if there is one. -/
  | role (found : Option Role)
  /-- A number. -/
  | count (n : Nat)
  deriving DecidableEq, Repr

namespace RoomBook

/-- The `RoomBook` of no rooms. -/
def empty : RoomBook where
  rooms _ := none
  roles _ _ := none
  finite_rooms := by simp
  finite_members _ := by simp
  keyed stored := by cases stored
  housed member := absurd rfl member

/-- The book `b` with the room `info` as well, in which nobody is yet. -/
def create (b : RoomBook) (info : RoomInfo) : RoomBook where
  rooms k := if k = info.id then some info else b.rooms k
  roles := b.roles
  finite_rooms := by
    refine (b.finite_rooms.insert info.id).subset fun k hk => ?_
    by_cases hid : k = info.id
    · exact Or.inl hid
    · refine Or.inr fun hnone => hk ?_
      rw [if_neg hid, hnone]
  finite_members := b.finite_members
  keyed {k i} stored := by
    split_ifs at stored with hid
    · cases stored
      exact hid.symm
    · exact b.keyed stored
  housed {k a} member := by
    split_ifs
    · exact Option.some_ne_none info
    · exact b.housed member

/-- The book `b` without the `room` and its members. -/
def delete (b : RoomBook) (room : String) : RoomBook where
  rooms k := if k = room then none else b.rooms k
  roles k a := if k = room then none else b.roles k a
  finite_rooms := b.finite_rooms.subset fun k hk hnone => hk (by rw [hnone, ite_self])
  finite_members k := (b.finite_members k).subset fun a ha hnone => ha (by rw [hnone, ite_self])
  keyed {k i} stored := by
    split_ifs at stored
    exact b.keyed stored
  housed {k a} member := by
    split_ifs at member with hk
    · exact absurd rfl member
    · rw [if_neg hk]
      exact b.housed member

/-- The book `b` in which `account` has a `role` in a `room` that exists. -/
def addMember (b : RoomBook) (room account : String) (role : Role) (stored : b.rooms room ≠ none) :
    RoomBook where
  rooms := b.rooms
  roles k a := if k = room ∧ a = account then some role else b.roles k a
  finite_rooms := b.finite_rooms
  finite_members k := by
    refine ((b.finite_members k).insert account).subset fun a ha => ?_
    by_cases hnew : k = room ∧ a = account
    · exact Or.inl hnew.2
    · refine Or.inr fun hnone => ha ?_
      rw [if_neg hnew, hnone]
  keyed := b.keyed
  housed {k a} member := by
    by_cases hnew : k = room ∧ a = account
    · exact hnew.1 ▸ stored
    · rw [if_neg hnew] at member
      exact b.housed member

/-- The book `b` in which `account` has no role in the `room`. -/
def removeMember (b : RoomBook) (room account : String) : RoomBook where
  rooms := b.rooms
  roles k a := if k = room ∧ a = account then none else b.roles k a
  finite_rooms := b.finite_rooms
  finite_members k := (b.finite_members k).subset fun a ha hnone => ha (by rw [hnone, ite_self])
  keyed := b.keyed
  housed {k a} member := by
    split_ifs at member
    · exact absurd rfl member
    · exact b.housed member

/-- The book `b` after a call. A call that cannot be carried out changes nothing. -/
def after (b : RoomBook) : RoomCall → RoomBook
  | .create info => if b.rooms info.id = none then b.create info else b
  | .delete room => if b.rooms room = none then b else b.delete room
  | .addMember room account role =>
    if stored : b.rooms room ≠ none then
      if b.roles room account = none then b.addMember room account role stored else b
    else b
  | .removeMember room account =>
    if b.roles room account = none then b else b.removeMember room account
  | .byId _ | .byName _ | .roomsOf _ | .roleOf _ _ | .countMembers _ => b

/-- The book `b` after several `calls`, by `after`. -/
def run (b : RoomBook) (calls : List RoomCall) : RoomBook := calls.foldl after b

/-- The answers to a call that fit the book `b`. There is one such answer, but that rooms of one
name may be listed in any order, and any one of them may be found by the name. -/
inductive Allows (b : RoomBook) : RoomCall → RoomAnswer → Prop where
  /-- A room whose identifier is new is added. -/
  | created {info : RoomInfo} (new : b.rooms info.id = none) : Allows b (.create info) .done
  /-- No room is added under an identifier that is taken. -/
  | taken {info : RoomInfo} (stored : b.rooms info.id ≠ none) :
      Allows b (.create info) (.failed .conflict)
  /-- A room that exists is deleted. -/
  | deleted {room : String} (stored : b.rooms room ≠ none) : Allows b (.delete room) .done
  /-- There is nothing to delete. -/
  | undeletable {room : String} (unknown : b.rooms room = none) :
      Allows b (.delete room) (.failed .notFound)
  /-- A new member is added to a room that exists. -/
  | added {room account : String} {role : Role} (stored : b.rooms room ≠ none)
      (new : b.roles room account = none) : Allows b (.addMember room account role) .done
  /-- There is no room to add to. -/
  | homeless {room account : String} {role : Role} (unknown : b.rooms room = none) :
      Allows b (.addMember room account role) (.failed .notFound)
  /-- A member is not added again. -/
  | again {room account : String} {role : Role} (member : b.roles room account ≠ none) :
      Allows b (.addMember room account role) (.failed .conflict)
  /-- A member is removed. -/
  | removed {room account : String} (member : b.roles room account ≠ none) :
      Allows b (.removeMember room account) .done
  /-- There is nobody to remove. -/
  | unremovable {room account : String} (stranger : b.roles room account = none) :
      Allows b (.removeMember room account) (.failed .notFound)
  /-- The room of an identifier. -/
  | byId {room : String} : Allows b (.byId room) (.room (b.rooms room))
  /-- A room of a name. -/
  | named {k name : String} {info : RoomInfo} (stored : b.rooms k = some info)
      (name_eq : info.name = name) : Allows b (.byName name) (.room (some info))
  /-- There is no room of a name. -/
  | unnamed {name : String} (none_named : ∀ k info, b.rooms k = some info → info.name ≠ name) :
      Allows b (.byName name) (.room none)
  /-- The rooms in which an account has a role, each of them once, by name. -/
  | roomsOf {account : String} {ms : List Membership}
      (listed : ∀ m, m ∈ ms ↔
        b.rooms m.room.id = some m.room ∧ b.roles m.room.id account = some m.role)
      (once : (ms.map (·.room.id)).Nodup)
      (sorted : ms.Pairwise fun m m' => m.room.name ≤ m'.room.name) :
      Allows b (.roomsOf account) (.memberships ms)
  /-- The role of an account in a room. -/
  | roleOf {room account : String} :
      Allows b (.roleOf room account) (.role (b.roles room account))
  /-- The number of accounts that have a role in a room. -/
  | countMembers {room : String} :
      Allows b (.countMembers room) (.count {a | b.roles room a ≠ none}.ncard)

end RoomBook

namespace Store

/-- The answer for a change, `.done` or `.failed`, with the store that it left. -/
def settled : Except StoreError Unit × Store → RoomAnswer × Store
  | (.ok (), s) => (.done, s)
  | (.error e, s) => (.failed e, s)

/-- The `RoomAnswer` of the store `s` to a call, and the store after it. -/
def answer (s : Store) : RoomCall → RoomAnswer × Store
  | .create info => settled (s.createRoom info)
  | .delete room => settled (s.deleteRoom room)
  | .addMember room account role => settled (s.addMember room account role)
  | .removeMember room account => settled (s.removeMember room account)
  | .byId room => (.room (s.roomById? room), s)
  | .byName name => (.room (s.roomByName? name), s)
  | .roomsOf account => (.memberships (s.roomsOf account), s)
  | .roleOf room account => (.role (s.roleOf? room account), s)
  | .countMembers room => (.count (s.countMembers room), s)

/-- The store `s` after several `calls`, by `answer`. -/
def afterCalls (s : Store) (calls : List RoomCall) : Store :=
  calls.foldl (fun s call => (s.answer call).2) s

variable {s s' : Store} {room a : String} {role : Role} {ms : List (String × Role)}

/-! ### Tables of members -/

/-- A table of `members` is there for an existing room only. -/
def Sheltered (s : Store) : Prop :=
  ∀ k t, s.members.get? k = some t → ∃ info, s.rooms.get? k = some info

/-- A fresh store is `Sheltered`, as it has no memberships. -/
theorem sheltered_ofAccounts (accounts : List Account) : (ofAccounts accounts).Sheltered := nofun

/-- `Sheltered` stays if the table of an existing room is replaced, or made. -/
theorem Sheltered.insert {info : RoomInfo} (h : s.Sheltered) (hroom : s.rooms.get? room = some info)
    (t : Table String Role) : Sheltered { s with members := s.members.insert room t } := by
  intro k t' hk
  rw [Table.get?_insert] at hk
  split_ifs at hk with hkr
  · exact ⟨info, hkr ▸ hroom⟩
  · exact h k t' hk

/-- `createRoom` gives every new room a place for its members. -/
theorem Sheltered.createRoom (h : s.Sheltered) (info : RoomInfo) :
    (s.createRoom info).2.Sheltered := by
  rw [Store.createRoom]
  split
  · exact h
  · intro k t hk
    show ∃ info', (s.rooms.insert info.id info).get? k = some info'
    rw [Table.get?_insert]
    split_ifs
    · exact ⟨info, rfl⟩
    · exact h k t hk

/-- `deleteRoom` keeps `Sheltered`: the table goes with the room. -/
theorem Sheltered.deleteRoom (h : s.Sheltered) (room : String) :
    (s.deleteRoom room).2.Sheltered := by
  intro k t hk
  have hmembers : (s.deleteRoom room).2.members = s.members.erase room := by
    dsimp only [Store.deleteRoom]
    split <;> rfl
  rw [hmembers, Table.get?_erase] at hk
  split_ifs at hk with hkr
  rw [(drops_deleteRoom s room).rooms, if_neg hkr]
  exact h k t hk

/-- `addMember` adds a membership only where there is a room. -/
theorem Sheltered.addMember (h : s.Sheltered) (room a : String) (role : Role) :
    (s.addMember room a role).2.Sheltered := by
  dsimp only [Store.addMember]
  split
  · rename_i hr
    obtain ⟨info, hinfo⟩ := Table.contains_iff.1 hr
    have hmade := h.insert hinfo (s.membersOf room)
    split
    · exact hmade
    · exact hmade.insert hinfo _
  · exact h

/-- `removeMember` leaves the place for the members of a room, even of an empty one. -/
theorem Sheltered.removeMember (h : s.Sheltered) (room a : String) :
    (s.removeMember room a).2.Sheltered := by
  rw [Store.removeMember]
  split
  · rename_i hm
    -- there is somebody in the table of the room, so the table is there
    cases ht : s.members.get? room with
    | none =>
      rw [membersOf, ht] at hm
      cases hm
    | some t =>
      obtain ⟨info, hinfo⟩ := h room t ht
      exact h.insert hinfo _
  · exact h

theorem snd_settled (r : Except StoreError Unit × Store) : (settled r).2 = r.2 := by
  rcases r with ⟨_ | ⟨⟩, s⟩ <;> rfl

/-- No call of `answer` leaves a table of members without its room. -/
theorem Sheltered.answer (h : s.Sheltered) (call : RoomCall) : (s.answer call).2.Sheltered := by
  cases call with
  | create info => exact snd_settled (s.createRoom info) ▸ h.createRoom info
  | delete room => exact snd_settled (s.deleteRoom room) ▸ h.deleteRoom room
  | addMember room a role => exact snd_settled (s.addMember room a role) ▸ h.addMember room a role
  | removeMember room a => exact snd_settled (s.removeMember room a) ▸ h.removeMember room a
  | byId | byName | roomsOf | roleOf | countMembers => exact h

/-! ### Tables are finite maps -/

/-- The `keys` of a table, as a set, are those that `get?` finds something under. -/
theorem coe_toFinset_keys {α : Type} (t : Table String α) :
    (t.keys.toFinset : Set String) = {k | t.get? k ≠ none} := by
  ext k
  rw [List.coe_toFinset, Set.mem_ofPred_eq, Set.mem_ofPred_eq, Table.mem_keys_iff, Table.contains,
    Option.isSome_iff_ne_none]

theorem finite_keys {α : Type} (t : Table String α) : {k | t.get? k ≠ none}.Finite := by
  rw [← coe_toFinset_keys]
  exact Finset.finite_toSet _

theorem ncard_keys {α : Type} (t : Table String α) : {k | t.get? k ≠ none}.ncard = t.size := by
  have hkeys : t.keys.Nodup := t.nodup
  rw [← coe_toFinset_keys, Set.ncard_coe_finset, List.toFinset_card_of_nodup hkeys]
  exact List.length_map Prod.fst

/-! ### The book of a store -/

/-- The `RoomBook` that the store `s` keeps. -/
def book (s : Store) (hs : s.Sound) : RoomBook where
  rooms := s.rooms.get?
  roles := s.roleOf?
  finite_rooms := finite_keys s.rooms
  finite_members k := finite_keys (s.membersOf k)
  keyed stored := hs.keyed _ _ stored
  housed {k a} member := by
    obtain ⟨role, hrole⟩ := Option.ne_none_iff_exists'.1 member
    obtain ⟨info, hinfo⟩ := hs.housed k a role hrole
    rw [hinfo]
    exact Option.some_ne_none info

theorem createRoom_of_stored {info : RoomInfo} (h : s.rooms.get? info.id ≠ none) :
    s.createRoom info = (.error .conflict, s) := by
  rw [createRoom, if_pos (contains_rooms_iff.2 h)]

/-- A room that does not exist has no table of members that `Store.deleteRoom` could take away. -/
theorem Sheltered.deleteRoom_of_unknown (hs : s.Sheltered) (h : s.rooms.get? room = none) :
    s.deleteRoom room = (.error .notFound, s) := by
  have hnone : s.members.get? room = none := by
    cases ht : s.members.get? room with
    | none => rfl
    | some t =>
      obtain ⟨info, hinfo⟩ := hs room t ht
      cases h.symm.trans hinfo
  dsimp only [Store.deleteRoom]
  rw [Table.contains_eq_false_iff.2 h, Table.erase_of_get? hnone]
  rfl

theorem addMember_of_unknown (h : s.rooms.get? room = none) (role : Role) :
    s.addMember room a role = (.error .notFound, s) := by
  rw [addMember, Table.contains_eq_false_iff.2 h]
  rfl

/-- `addMember` refuses whoever is a member already, and the old role stays. -/
theorem addMember_of_member (hs : s.Sound) (h : s.roleOf? room a ≠ none) (role : Role) :
    s.addMember room a role = (.error .conflict, s) := by
  have hstored : s.rooms.get? room ≠ none := (s.book hs).housed h
  have hmember : (s.membersOf room).contains a = true := Option.isSome_iff_ne_none.2 h
  dsimp only [addMember]
  rw [if_pos (contains_rooms_iff.2 hstored), if_pos hmember, insert_membersOf hmember]

theorem removeMember_of_stranger (h : s.roleOf? room a = none) :
    s.removeMember room a = (.error .notFound, s) := by
  have hstranger : (s.membersOf room).contains a = false := Table.contains_eq_false_iff.2 h
  rw [removeMember, hstranger]
  rfl

/-! ### What a change does to the book -/

theorem Opens.book_eq {info : RoomInfo} (h : Opens info s s') (hs : s.Sound) :
    s'.book (hs.of_opens h) = (s.book hs).create info :=
  RoomBook.ext (funext h.rooms) (funext fun k => funext (h.roleOf? k))

/-- A store that `Drops` a room has the book with this room deleted, and so without its members. -/
theorem Drops.book_eq (h : Drops room s s') (hs : s.Sound) :
    s'.book (hs.of_drops h) = (s.book hs).delete room :=
  RoomBook.ext (funext h.rooms) (funext fun k => funext (h.roles k))

/-- A store that `Adds` one account has the book with this membership added. -/
theorem Adds.book_eq (h : Adds room [(a, role)] s s') (hs : s.Sound)
    (stored : (s.book hs).rooms room ≠ none) :
    s'.book (hs.of_adds h) = (s.book hs).addMember room a role stored := by
  refine RoomBook.ext (funext fun k => ?_) (funext fun k => funext fun b => ?_)
  · show s'.rooms.get? k = s.rooms.get? k
    rw [h.rooms]
  · show s'.roleOf? k b = if k = room ∧ b = a then some role else s.roleOf? k b
    rw [h.roles, List.lookup_cons, List.lookup_nil]
    by_cases hk : k = room
    · by_cases hb : b = a
      · simp [hk, hb]
      · simp [hk, hb, beq_eq_false_iff_ne.2 hb]
    · simp [hk]

/-- A store that `Removes` one account has the book without this membership. -/
theorem Removes.book_eq (h : Removes room [a] s s') (hs : s.Sound) :
    s'.book (hs.of_removes h) = (s.book hs).removeMember room a := by
  refine RoomBook.ext (funext fun k => ?_) (funext fun k => funext fun b => ?_)
  · show s'.rooms.get? k = s.rooms.get? k
    rw [h.rooms]
  · show s'.roleOf? k b = if k = room ∧ b = a then none else s.roleOf? k b
    rw [h.roles]
    simp only [List.mem_singleton]

/-! ### One call -/

/-- The store `s` keeps the book `b`, and no tables of members beside it (`Sheltered`). -/
def Keeps (s : Store) (b : RoomBook) : Prop := s.Sheltered ∧ ∃ hs : s.Sound, s.book hs = b

/-- The `call` is answered as the book `b` allows (`Allows`), and changes the store as it changes
the book. -/
def Serves (s : Store) (b : RoomBook) (call : RoomCall) : Prop :=
  (∃ hs : (s.answer call).2.Sound, (s.answer call).2.book hs = b.after call) ∧
    b.Allows call (s.answer call).1

/-- `createRoom` answers as the book allows, and keeps the book. -/
theorem serves_create (hs : s.Sound) (info : RoomInfo) : s.Serves (s.book hs) (.create info) := by
  rw [Serves, answer, RoomBook.after]
  by_cases hnew : (s.book hs).rooms info.id = none
  · obtain ⟨s', hs'⟩ := createRoom_of_get? hnew
    have hopens : Opens info s s' := opens_of_createRoom hs'
    rw [hs', if_pos hnew]
    exact ⟨⟨hs.of_opens hopens, hopens.book_eq hs⟩, .created hnew⟩
  · rw [createRoom_of_stored hnew, if_neg hnew]
    exact ⟨⟨hs, rfl⟩, .taken hnew⟩

/-- `deleteRoom` answers as the book allows, and keeps the book. That it changes nothing when it
fails holds because a room that is not there has no memberships. -/
theorem serves_delete (hs : s.Sound) (hsheltered : s.Sheltered) (room : String) :
    s.Serves (s.book hs) (.delete room) := by
  rw [Serves, answer, RoomBook.after]
  by_cases hunknown : (s.book hs).rooms room = none
  · rw [hsheltered.deleteRoom_of_unknown hunknown, if_pos hunknown]
    exact ⟨⟨hs, rfl⟩, .undeletable hunknown⟩
  · obtain ⟨s', hs'⟩ := exists_deleteRoom hunknown
    have hdrops := drops_deleteRoom s room
    rw [hs'] at hdrops
    rw [hs', if_neg hunknown]
    exact ⟨⟨hs.of_drops hdrops, hdrops.book_eq hs⟩, .deleted hunknown⟩

/-- `addMember` answers as the book allows, and keeps the book. -/
theorem serves_addMember (hs : s.Sound) (room a : String) (role : Role) :
    s.Serves (s.book hs) (.addMember room a role) := by
  rw [Serves, answer, RoomBook.after]
  by_cases hstored : (s.book hs).rooms room ≠ none
  · rw [dif_pos hstored]
    -- the room exists; a second role is never given
    by_cases hnew : (s.book hs).roles room a = none
    · obtain ⟨info, hinfo⟩ := Option.ne_none_iff_exists'.1 hstored
      obtain ⟨s', hs'⟩ := addMember_of_roleOf? hinfo hnew role
      have hadds : Adds room [(a, role)] s s' := adds_of_addMember hs'
      rw [hs', if_pos hnew]
      exact ⟨⟨hs.of_adds hadds, hadds.book_eq hs hstored⟩, .added hstored hnew⟩
    · rw [addMember_of_member hs hnew, if_neg hnew]
      exact ⟨⟨hs, rfl⟩, .again hnew⟩
  · have hunknown : s.rooms.get? room = none := not_ne_iff.1 hstored
    rw [dif_neg hstored, addMember_of_unknown hunknown]
    exact ⟨⟨hs, rfl⟩, .homeless hunknown⟩

/-- `removeMember` answers as the book allows, and keeps the book. -/
theorem serves_removeMember (hs : s.Sound) (room a : String) :
    s.Serves (s.book hs) (.removeMember room a) := by
  rw [Serves, answer, RoomBook.after]
  by_cases hstranger : (s.book hs).roles room a = none
  · rw [removeMember_of_stranger hstranger, if_pos hstranger]
    exact ⟨⟨hs, rfl⟩, .unremovable hstranger⟩
  · obtain ⟨role, hrole⟩ := Option.ne_none_iff_exists'.1 hstranger
    obtain ⟨s', hs'⟩ := removeMember_of_roleOf? hrole
    have hremoves : Removes room [a] s s' := removes_of_removeMember hs'
    rw [hs', if_neg hstranger]
    exact ⟨⟨hs.of_removes hremoves, hremoves.book_eq hs⟩, .removed hstranger⟩

/-- `roomByName?` finds some room of the name, if there is one. -/
theorem allows_byName (hs : s.Sound) (name : String) :
    (s.book hs).Allows (.byName name) (.room (s.roomByName? name)) := by
  cases hfound : s.roomByName? name with
  | none => exact .unnamed (roomByName?_eq_none_iff.1 hfound)
  | some info =>
    obtain ⟨hname, k, hk⟩ := roomByName?_eq_some hfound
    exact .named hk hname

theorem allows_roomsOf (hs : s.Sound) (a : String) :
    (s.book hs).Allows (.roomsOf a) (.memberships (s.roomsOf a)) := by
  have hsorted : (s.roomsOf a).Pairwise fun m m' => m.room.name ≤ m'.room.name :=
    (pairwise_roomsOf s a).imp beforeByRoom_iff.1
  exact .roomsOf (fun m => mem_roomsOf hs) (nodup_roomsOf hs a) hsorted

/-- `countMembers` counts the accounts with a role. -/
theorem allows_countMembers (hs : s.Sound) (room : String) :
    (s.book hs).Allows (.countMembers room) (.count (s.countMembers room)) := by
  have hcount : {a | (s.book hs).roles room a ≠ none}.ncard = s.countMembers room :=
    ncard_keys (s.membersOf room)
  rw [← hcount]
  exact .countMembers

/-- A store that `Keeps` a book `Serves` every call as the book allows, and changes as the book
does. -/
theorem Keeps.serves {b : RoomBook} (h : s.Keeps b) (call : RoomCall) : s.Serves b call := by
  obtain ⟨hsheltered, hs, rfl⟩ := h
  cases call with
  | create info => exact serves_create hs info
  | delete room => exact serves_delete hs hsheltered room
  | addMember room account role => exact serves_addMember hs room account role
  | removeMember room account => exact serves_removeMember hs room account
  | byId room => exact ⟨⟨hs, rfl⟩, .byId⟩
  | byName name => exact ⟨⟨hs, rfl⟩, allows_byName hs name⟩
  | roomsOf account => exact ⟨⟨hs, rfl⟩, allows_roomsOf hs account⟩
  | roleOf room account => exact ⟨⟨hs, rfl⟩, .roleOf⟩
  | countMembers room => exact ⟨⟨hs, rfl⟩, allows_countMembers hs room⟩

/-- A call that fails changes nothing. For `deleteRoom`, which takes the members away first, this
needs `Sheltered`. -/
theorem Sheltered.answer_snd_of_failed (hs : s.Sheltered) {call : RoomCall} {e : StoreError}
    (h : (s.answer call).1 = .failed e) : (s.answer call).2 = s := by
  have hspares {f : Store → Except StoreError Unit × Store} (hf : Spares f)
      (hfailed : (settled (f s)).1 = .failed e) : (settled (f s)).2 = s := by
    rcases hr : f s with ⟨e' | ⟨⟩, s'⟩ <;> rw [hr] at hfailed
    · exact hf hr
    · cases hfailed
  cases call with
  | create info => exact hspares (spares_createRoom info) h
  | addMember room a role => exact hspares (spares_addMember room a role) h
  | removeMember room a => exact hspares (spares_removeMember room a) h
  | delete room =>
    -- a room that is not there has no members to be lost
    by_cases hunknown : s.rooms.get? room = none
    · rw [Store.answer, hs.deleteRoom_of_unknown hunknown]
      rfl
    · obtain ⟨s', hs'⟩ := exists_deleteRoom hunknown
      rw [Store.answer, hs'] at h
      cases h
  | byId | byName | roomsOf | roleOf | countMembers => rfl

/-! ### Sequences of calls -/

/-- A store `Keeps` its book along `afterCalls`; by induction on the calls. -/
theorem Keeps.afterCalls {b : RoomBook} (h : s.Keeps b) (calls : List RoomCall) :
    (s.afterCalls calls).Keeps (b.run calls) := by
  induction calls generalizing s b with
  | nil => exact h
  | cons call calls ih => exact ih ⟨h.1.answer call, (h.serves call).1⟩

theorem keeps_ofAccounts (accounts : List Account) : (ofAccounts accounts).Keeps .empty :=
  ⟨sheltered_ofAccounts accounts, sound_ofAccounts accounts, rfl⟩

/-- **Rooms and members are a map and a relation.** After any sequence of calls on a store that had
no rooms, every further call is answered as the book allows that the same calls have led to, and a
call that fails changes nothing. -/
theorem answers_like_book (accounts : List Account) (calls : List RoomCall) (call : RoomCall) :
    (RoomBook.empty.run calls).Allows call
        (((ofAccounts accounts).afterCalls calls).answer call).1 ∧
      ∀ e, (((ofAccounts accounts).afterCalls calls).answer call).1 = .failed e →
        (((ofAccounts accounts).afterCalls calls).answer call).2 =
          (ofAccounts accounts).afterCalls calls := by
  have hkeeps : ((ofAccounts accounts).afterCalls calls).Keeps (RoomBook.empty.run calls) :=
    (keeps_ofAccounts accounts).afterCalls calls
  exact ⟨(hkeeps.serves call).2, fun e failed => hkeeps.1.answer_snd_of_failed failed⟩

/-- The room `den` is deleted and made anew under the same identifier, and its only member is added
again. -/
def rebuilding : List RoomCall :=
  [.create ⟨"1", "den", "", false, false⟩, .addMember "1" "ann" .admin, .delete "1",
    .create ⟨"1", "pub", "", true, false⟩, .addMember "1" "ann" .user]

/-- After `rebuilding`, the member has the role that it was given last, and keeps it when it is
added once more. -/
theorem answers_like_book_of_rebuilding :
    (((ofAccounts []).afterCalls rebuilding).answer (.addMember "1" "ann" .admin)).1 =
        .failed .conflict ∧
      (RoomBook.empty.run rebuilding).Allows (.addMember "1" "ann" .admin) (.failed .conflict) ∧
      (((ofAccounts []).afterCalls rebuilding).answer (.addMember "1" "ann" .admin)).2 =
        (ofAccounts []).afterCalls rebuilding ∧
      (RoomBook.empty.run rebuilding).roles "1" "ann" = some .user := by
  have hfailed : (((ofAccounts []).afterCalls rebuilding).answer
      (.addMember "1" "ann" .admin)).1 = .failed .conflict := by decide
  obtain ⟨hallows, hsame⟩ := answers_like_book [] rebuilding (.addMember "1" "ann" .admin)
  rw [hfailed] at hallows
  exact ⟨hfailed, hallows, hsame _ hfailed, by decide⟩

end Store

end GroupChat
