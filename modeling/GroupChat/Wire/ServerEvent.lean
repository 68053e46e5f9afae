import GroupChat.Error
import GroupChat.Json.Tagged
import GroupChat.Wire.Record

/-!
# What clients are told

The events that a client receives: the answer to a frame, a copy of the answer for the other
devices of the same account, and what others did.

## Main definitions

- `Reply`: the answer to a frame.
- `ChatView`, `NotificationView`: something that happened, with the name of its sender.
- `ServerEvent`: the six kinds of events.
- `ServerEvent.encode`: the text of an event.
-/

namespace GroupChat

open Json Wire

/-- The answer to a frame that was carried out, in a `ServerEvent`. -/
structure Reply where
  /-- The kind of the event in the frame. -/
  event : String
  /-- What came of it. -/
  result : Option Json
  deriving Repr, Inhabited

/-- A `ChatMessage` with the name of its sender. -/
structure ChatView where
  /-- The message. -/
  message : ChatMessage
  /-- The name of the sender. -/
  sender : String
  deriving DecidableEq, Repr, Inhabited

/-- A `Notification` with the name of its sender. -/
structure NotificationView where
  /-- The notification. -/
  notification : Notification
  /-- The name of the sender. -/
  sender : String
  deriving DecidableEq, Repr, Inhabited

/-- A `ChatError` as it is told to a client. -/
structure ErrorView where
  /-- The code. -/
  code : UInt16
  /-- The text. -/
  message : String
  deriving DecidableEq, Repr, Inhabited

/-- What a client is told, by `ServerEvent.encode`. -/
inductive ServerEvent where
  /-- A frame was refused or failed. -/
  | error (e : ErrorView)
  /-- A frame was carried out. -/
  | success (r : Reply)
  /-- A frame of another device was carried out. -/
  | forward (r : Reply)
  /-- Somebody wrote a message. -/
  | chat (v : ChatView)
  /-- Somebody came, went or types. -/
  | notification (v : NotificationView)
  /-- The account is in a room now. -/
  | invited (room : RoomInfo)
  deriving Repr, Inhabited

/-- The event that tells of the error `e`. -/
def ServerEvent.ofError (e : ChatError) : ServerEvent := .error ⟨e.code, e.message⟩

namespace Wire

/-- The `Record` of a `Reply`. -/
def replyRecord : Record Reply where
  label := "struct Reply"
  types := [String, Option Json]
  fields :=
    .cons (required "event" .text) <|
    .cons { defaulted "result" (.optional .any) none with shown := Option.isSome } .nil
  build := fun (event, result, ()) => ⟨event, result⟩
  parts r := (r.event, r.result, ())

/-- The `Flat` record of a `ChatView`. -/
def chatView : Flat ChatMessage String ChatView where
  label := "struct ChatView"
  inner := messageRecord
  own := required "sender" .text
  build := ChatView.mk
  parts v := (v.message, v.sender)

/-- The `Flat` record of a `NotificationView`. -/
def notificationView : Flat Notification String NotificationView where
  label := "struct NotificationView"
  inner := notificationRecord
  own := required "sender" .text
  build := NotificationView.mk
  parts v := (v.notification, v.sender)

/-- The `Record` of an `ErrorView`, which is read from an object only. -/
def errorRecord : Record ErrorView where
  label := "struct variant ServerMessage::Error"
  types := [UInt16, String]
  fields := .cons (required "code" .uint16) <| .cons (required "message" .text) .nil
  build := fun (code, message, ()) => ⟨code, message⟩
  parts e := (e.code, e.message, ())
  positional := false

/-- The `Tagged` variants of a `ServerEvent`. -/
def serverEvent : Tagged ServerEvent where
  label := "adjacently tagged enum ServerMessage"
  tag := "type"
  content := "data"
  variants :=
    [("error", errorRecord.shape.map .error),
      ("success", replyRecord.shape.map .success),
      ("forward", replyRecord.shape.map .forward),
      ("chat", chatView.shape.map .chat),
      ("notification", notificationView.shape.map .notification),
      ("invited", roomRecord.shape.map .invited)]
  write
    | .error e => ("error", errorRecord.shape.toJson e)
    | .success r => ("success", replyRecord.shape.toJson r)
    | .forward r => ("forward", replyRecord.shape.toJson r)
    | .chat v => ("chat", chatView.shape.toJson v)
    | .notification v => ("notification", notificationView.shape.toJson v)
    | .invited room => ("invited", roomRecord.shape.toJson room)

end Wire

/-- The text of the event `e`. -/
def ServerEvent.encode (e : ServerEvent) : String := serverEvent.shape.encode e

end GroupChat
