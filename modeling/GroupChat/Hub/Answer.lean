import GroupChat.Hub.Basic

/-!
# Answers and notifications

How the origin of a frame is answered, how its other devices learn of the answer, and how the people
in a room are notified.

## Main definitions

- `Hub.reply`, `Hub.replyAndForward`: the answer to a frame.
- `Hub.signal`: a notification that is not kept.
- `Hub.notify`: a notification that is kept, and told to everyone in the room.
-/

namespace GroupChat.Hub

open Json Wire

/-- The answer that a frame with this `event` was carried out, with its `result`. -/
def replyWith (event : String) (result : Json) : Reply := ⟨event, some result.canonical⟩

/-- Answers a frame of `origin` with a `.success`. -/
def reply (origin : Connection) (event : String) (result : Json) : Step Unit :=
  discard (send origin (.success (replyWith event result)))

/-- Tells the other devices of the account of `origin` of an answer, with a `.forward`. -/
def forward (origin : Connection) (event : String) (result : Json) : Step Unit := do
  let others ← look fun h => h.roster.othersOf origin
  sendAll others (.forward (replyWith event result))

/-- Answers a frame (`reply`) and tells the other devices of the account (`forward`). -/
def replyAndForward (origin : Connection) (event : String) (result : Json) : Step Unit := do
  reply origin event result
  forward origin event result

/-- A notification about the account of the connection `c` that is not kept. -/
def signal (kind : NotificationKind) (c : Connection) (room : String) : Step ServerEvent := do
  let stamp ← newSignalStamp
  pure (.notification ⟨⟨stamp.id, kind, c.account, room, stamp.time⟩, c.name⟩)

/-- Notifies everyone in the `room`, and keeps the notification if the store is in reach. -/
def notify (room : LiveRoom) (kind : NotificationKind) (account name : String) :
    Step ServerEvent := do
  let stamp ← newNoticeStamp
  let notification : Notification := ⟨stamp.id, kind, account, room.id, stamp.time⟩
  orReport (tell .addNotification fun s => (.ok (), s.addNotification notification))
    (.noticeLost room.id)
  let event := ServerEvent.notification ⟨notification, name⟩
  let _ ← broadcast room event []
  pure event

/-- The result that names the `room`. -/
def roomResult (room : String) : Json := .object [("room_id", .text room)]

/-- The result that names the `room` and `accounts`. -/
def membersResult (room : String) (accounts : List String) : Json :=
  .object [("room_id", .text room), ("user_ids", .list (accounts.map .text))]

/-- The result that shows the room `info`. -/
def infoResult (info : RoomInfo) : Json := roomRecord.shape.toJson info

end GroupChat.Hub
