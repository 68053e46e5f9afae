import GroupChat.Error
import GroupChat.History
import GroupChat.Room

/-!
# The store

What outlasts a connection: the accounts, the rooms and who belongs to them, what happened in the
rooms, and how often each account is connected. The members of a room are kept in a table of their
own, which is made when the first one is added.

## Main definitions

- `Store`: the records.
- `Store.roleOf?`, `Store.membersOf`: the membership as a relation.
-/

namespace GroupChat

/-- The records of a `Hub`. -/
structure Store where
  /-- The accounts by identifier. -/
  accounts : Table String Account := ∅
  /-- The rooms by identifier. -/
  rooms : Table String RoomInfo := ∅
  /-- For each room that ever had a member, the roles of its members by account. -/
  members : Table String (Table String Role) := ∅
  /-- The messages in the order in which they were written. -/
  messages : List ChatMessage := []
  /-- The notifications in the order in which they were given. -/
  notifications : List Notification := []
  /-- How often an account is connected, if it is. -/
  presence : Table String UInt32 := ∅
  deriving DecidableEq, Repr, Inhabited

namespace Store

/-- A store that holds `accounts` only. -/
def ofAccounts (accounts : List Account) : Store :=
  { accounts := Table.ofList (accounts.map fun a => (a.id, a)) }

/-- The members of the `room`. -/
def membersOf (s : Store) (room : String) : Table String Role := (s.members.get? room).getD ∅

/-- The role of `account` in the `room`, if it is a member. -/
def roleOf? (s : Store) (room account : String) : Option Role := (s.membersOf room).get? account

end Store

end GroupChat
