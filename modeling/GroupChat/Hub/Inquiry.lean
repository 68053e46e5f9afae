import GroupChat.Hub.Answer
import GroupChat.Hub.Lookup

/-!
# Questions

Requests that change nothing: which accounts there are and who of them is online, what happened in a
room, and the rooms of an account.

## Main definitions

- `Hub.getUsers`, `Hub.getChats`, `Hub.getNotifications`, `Hub.userRooms`: the requests.
-/

namespace GroupChat.Hub

open Json Wire

/-- The account `a` as it is shown to others. -/
def userResult (a : Account) (online : Bool) : Json :=
  .object [("id", .text a.id), ("name", .text a.name), ("role", .text a.role.name),
    ("online", .bool online)]

/-- Accounts as they are shown to others, by `userResult`. -/
def userResults : List Account → Request (List Json)
  | [] => pure []
  | a :: rest => do
    let count ← orFail (ask .onlineCount (·.onlineCount a.id))
    return userResult a (0 < count) :: (← userResults rest)

/-- The request `r` for the accounts whose names have a part. -/
def getUsers (c : Connection) (r : SearchRequest) : Request Unit := do
  let accounts ← orFail (ask .accountsNamed (·.accountsNamed r.name))
  let users ← userResults accounts
  reply c "get-users" (.object [("users", .list users)])

/-- The request `r` for the messages in a room. -/
def getChats (c : Connection) (r : RangeRequest) : Request Unit := do
  let room ← memberRoom c r.room
  let messages ← orFail (ask .messagesIn (·.messagesIn room.id r.since r.upTo))
  reply c "get-chats"
    (.object [("room_id", .text room.id),
      ("messages", .list (messages.map messageRecord.shape.toJson))])

/-- The request `r` for the notifications in a room. -/
def getNotifications (c : Connection) (r : RangeRequest) : Request Unit := do
  let room ← memberRoom c r.room
  let notifications ← orFail (ask .notificationsIn (·.notificationsIn room.id r.since r.upTo))
  reply c "get-notifs"
    (.object [("room_id", .text room.id),
      ("notifications", .list (notifications.map notificationRecord.shape.toJson))])

/-- The request of `c` for the rooms of its account. -/
def userRooms (c : Connection) : Request Unit := do
  let memberships ← orFail (ask .roomsOf (·.roomsOf c.account))
  reply c "user-rooms" (.object [("rooms", .list (memberships.map membershipRecord.shape.toJson))])

end GroupChat.Hub
