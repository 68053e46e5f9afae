import GroupChat.Store.Basic

/-!
# Rooms in the store

Rooms are made and deleted, and accounts become members and stop being members. A change answers
whether it was made, and gives the store as it is after it, which is another one if a change fails
when a part of it was made already.

## Main definitions

- `Store.createRoom`, `Store.deleteRoom`, `Store.addMember`, `Store.removeMember`: the changes.
- `Store.roomById?`, `Store.roomByName?`, `Store.roomsOf`, `Store.countMembers`: the questions.
-/

namespace GroupChat.Store

/-- Adds the `room`, whose identifier must be new. -/
def createRoom (s : Store) (room : RoomInfo) : Except StoreError Unit × Store :=
  if s.rooms.contains room.id then (.error .conflict, s)
  else (.ok (), { s with rooms := s.rooms.insert room.id room })

/-- Deletes the `room` and all memberships in it. The memberships go first, whether there is such a
room or not. -/
def deleteRoom (s : Store) (room : String) : Except StoreError Unit × Store :=
  let s := { s with members := s.members.erase room }
  if s.rooms.contains room then (.ok (), { s with rooms := s.rooms.erase room })
  else (.error .notFound, s)

/-- Makes `account` a member of the `room`. The table of its members is made first if there is none.
-/
def addMember (s : Store) (room account : String) (role : Role) : Except StoreError Unit × Store :=
  if s.rooms.contains room then
    let members := s.membersOf room
    let s := { s with members := s.members.insert room members }
    if members.contains account then (.error .conflict, s)
    else (.ok (), { s with members := s.members.insert room (members.insert account role) })
  else (.error .notFound, s)

/-- Ends the membership of `account` in the `room`. -/
def removeMember (s : Store) (room account : String) : Except StoreError Unit × Store :=
  if (s.membersOf room).contains account then
    (.ok (), { s with members := s.members.insert room ((s.membersOf room).erase account) })
  else (.error .notFound, s)

/-- The room of the identifier `room`. -/
def roomById? (s : Store) (room : String) : Option RoomInfo := s.rooms.get? room

/-- A room of the `name`. -/
def roomByName? (s : Store) (name : String) : Option RoomInfo :=
  s.rooms.values.find? fun room => room.name == name

/-- Whether the membership `a` comes before `b` by the name of its room. -/
def beforeByRoom (a b : Membership) : Bool := a.room.name ≤ b.room.name

/-- The membership of `account` in one room. -/
def membership? (s : Store) (account room : String) (roles : Table String Role) :
    Option Membership := do
  let role ← roles.get? account
  let info ← s.rooms.get? room
  pure ⟨info, role⟩

/-- The rooms of `account` with its roles in them, by name. -/
def roomsOf (s : Store) (account : String) : List Membership :=
  (s.members.entries.filterMap fun (room, roles) => s.membership? account room roles).mergeSort
    beforeByRoom

/-- The number of members of the `room`. -/
def countMembers (s : Store) (room : String) : Nat := (s.membersOf room).size

end GroupChat.Store
