import GroupChat.Error
import GroupChat.Wire.Record

/-!
# What clients ask for

A client sends frames. A frame holds an envelope, which names a kind of event and holds its data as
any value; the data is looked at when the kind is known.

## Main definitions

- `Envelope`, `Envelope.parse`: the envelope of a frame.
- `ClientEvent`: the eleven kinds of events.
- `ClientEvent.decode`: the event in an envelope.
- `Address`: a room or an account to which something is sent.
-/

namespace GroupChat

open Json Wire

/-- The envelope of a `Frame`: the `kind` of an event and its data. -/
structure Envelope where
  /-- The kind of event. -/
  kind : String
  /-- The data of the event. -/
  data : Json
  deriving Repr, Inhabited

/-- Where something is sent, a room or an account, as `Address.of?` finds out. -/
inductive Address where
  /-- To a room, by identifier or name. -/
  | room (reference : String)
  /-- To an account. -/
  | user (account : String)
  deriving DecidableEq, Repr

/-- The `Address` that a room and an account give, of which exactly one must be there. -/
def Address.of? : Option String → Option String → Except ChatError Address
  | some reference, none => .ok (.room reference)
  | none, some account => .ok (.user account)
  | _, _ => .error ChatError.noSingleTarget

/-- To tell others that one is typing, the data of `typing`. -/
structure TypingRequest where
  /-- The room. -/
  room : Option String
  /-- The account. -/
  user : Option String
  deriving DecidableEq, Repr

/-- To write a message, the data of `chat`. -/
structure ChatRequest where
  /-- The room. -/
  room : Option String
  /-- The account. -/
  user : Option String
  /-- The text. -/
  message : String
  deriving DecidableEq, Repr

/-- To create a room, the data of `createRoom`. -/
structure CreateRequest where
  /-- The name, which a private room does not need. -/
  name : Option String
  /-- What the room is about. -/
  description : String
  /-- Whether it belongs to two accounts. -/
  isPrivate : Bool
  /-- Whether accounts join by invitation only. -/
  inviteOnly : Bool
  /-- The members apart from the creator. -/
  members : List String
  deriving DecidableEq, Repr

/-- To join or to leave a room, the data of `joinRoom` and `leaveRoom`. -/
structure RoomRequest where
  /-- The room, by identifier or name. -/
  room : String
  deriving DecidableEq, Repr

/-- To invite accounts to a room or to remove them from it, the data of `inviteRoom` and `kickRoom`.
-/
structure MembersRequest where
  /-- The room, by identifier or name. -/
  room : String
  /-- The accounts. -/
  users : List String
  deriving DecidableEq, Repr

/-- To look for accounts, the data of `getUsers`. -/
structure SearchRequest where
  /-- A part of the name. -/
  name : String
  deriving DecidableEq, Repr

/-- To read the history of a room, the data of `getChats` and its like. -/
structure RangeRequest where
  /-- The room, by identifier or name. -/
  room : String
  /-- The earliest time. -/
  since : Int64
  /-- The latest time, or none. -/
  upTo : Option Int64
  deriving DecidableEq, Repr

namespace Wire

/-- Members `room_id` and `user_id` that may be missing. -/
def optionalText (name : String) : Member (Option String) := defaulted name (.optional .text) none

/-- The `Record` of a `TypingRequest`. -/
def typingRecord : Record TypingRequest where
  label := "struct TypingInput"
  types := [Option String, Option String]
  fields := .cons (optionalText "room_id") <| .cons (optionalText "user_id") .nil
  build := fun (room, user, ()) => ⟨room, user⟩
  parts r := (r.room, r.user, ())

/-- The `Record` of a `ChatRequest`. -/
def chatRecord : Record ChatRequest where
  label := "struct ChatInput"
  types := [Option String, Option String, String]
  fields :=
    .cons (optionalText "room_id") <| .cons (optionalText "user_id") <|
    .cons (required "message" .text) .nil
  build := fun (room, user, message, ()) => ⟨room, user, message⟩
  parts r := (r.room, r.user, r.message, ())

/-- The `Record` of a `CreateRequest`. -/
def createRecord : Record CreateRequest where
  label := "struct CreateRoomInput"
  types := [Option String, String, Bool, Bool, List String]
  fields :=
    .cons (optionalText "name") <|
    .cons { defaulted "description" .text "" with aliases := ["desc"] } <|
    .cons (defaulted "private" .flag false) <|
    .cons (defaulted "invite_only" .flag false) <|
    .cons (defaulted "members" (.list .text) []) .nil
  build := fun (name, description, isPrivate, inviteOnly, members, ()) =>
    ⟨name, description, isPrivate, inviteOnly, members⟩
  parts r := (r.name, r.description, r.isPrivate, r.inviteOnly, r.members, ())

/-- The `Record` of a `RoomRequest`. -/
def roomRequestRecord : Record RoomRequest where
  label := "struct RoomRef"
  types := [String]
  fields := .cons (required "room_id" .text) .nil
  build := fun (room, ()) => ⟨room⟩
  parts r := (r.room, ())

/-- The `Record` of a `MembersRequest`. -/
def membersRecord : Record MembersRequest where
  label := "struct RoomUsersInput"
  types := [String, List String]
  fields := .cons (required "room_id" .text) <| .cons (required "user_ids" (.list .text)) .nil
  build := fun (room, users, ()) => ⟨room, users⟩
  parts r := (r.room, r.users, ())

/-- The `Record` of a `SearchRequest`. -/
def searchRecord : Record SearchRequest where
  label := "struct GetUsersInput"
  types := [String]
  fields := .cons (defaulted "name" .text "") .nil
  build := fun (name, ()) => ⟨name⟩
  parts r := (r.name, ())

/-- The `Record` of a `RangeRequest`. -/
def rangeRecord : Record RangeRequest where
  label := "struct RangeInput"
  types := [String, Int64, Option Int64]
  fields :=
    .cons (required "room_id" .text) <| .cons (defaulted "from_ts" .int64 0) <|
    .cons (defaulted "to_ts" (.optional .int64) none) .nil
  build := fun (room, since, upTo, ()) => ⟨room, since, upTo⟩
  parts r := (r.room, r.since, r.upTo, ())

/-- The `Record` of an `Envelope`. -/
def envelopeRecord : Record Envelope where
  label := "struct Envelope"
  types := [String, Json]
  fields := .cons (required "type" .text) <| .cons (defaulted "data" .any .null) .nil
  build := fun (kind, data, ()) => ⟨kind, data⟩
  parts e := (e.kind, e.data, ())

end Wire

/-- The error about a malformed text or value, for which `fault` is the reason. -/
def ChatError.ofFault (fault : Fault) : ChatError := .badPayload fault.message

/-- The envelope in the `text` of a frame. -/
def Envelope.parse (text : String) : Except ChatError Envelope :=
  (envelopeRecord.shape.decode text).mapError ChatError.ofFault

/-- What a client asks for, in an `Envelope`. -/
inductive ClientEvent where
  /-- To tell others that one is typing. -/
  | typing (r : TypingRequest)
  /-- To write a message. -/
  | chat (r : ChatRequest)
  /-- To create a room. -/
  | createRoom (r : CreateRequest)
  /-- To join a room. -/
  | joinRoom (r : RoomRequest)
  /-- To leave a room. -/
  | leaveRoom (r : RoomRequest)
  /-- To invite accounts to a room. -/
  | inviteRoom (r : MembersRequest)
  /-- To remove accounts from a room. -/
  | kickRoom (r : MembersRequest)
  /-- To look for accounts. -/
  | getUsers (r : SearchRequest)
  /-- To read messages. -/
  | getChats (r : RangeRequest)
  /-- To read notifications. -/
  | getNotifications (r : RangeRequest)
  /-- To list one's rooms. -/
  | userRooms
  deriving DecidableEq, Repr

namespace ClientEvent

/-- The name of the kind of a `ClientEvent`, as it stands in an `Envelope`. -/
def kind : ClientEvent → String
  | typing _ => "typing"
  | chat _ => "chat"
  | createRoom _ => "create-room"
  | joinRoom _ => "join-room"
  | leaveRoom _ => "leave-room"
  | inviteRoom _ => "invite-room"
  | kickRoom _ => "kick-room"
  | getUsers _ => "get-users"
  | getChats _ => "get-chats"
  | getNotifications _ => "get-notifs"
  | userRooms => "user-rooms"

/-- The data of a `ClientEvent`, with all its members. -/
def data : ClientEvent → Json
  | typing r => typingRecord.shape.toJson r
  | chat r => chatRecord.shape.toJson r
  | createRoom r => createRecord.shape.toJson r
  | joinRoom r | leaveRoom r => roomRequestRecord.shape.toJson r
  | inviteRoom r | kickRoom r => membersRecord.shape.toJson r
  | getUsers r => searchRecord.shape.toJson r
  | getChats r | getNotifications r => rangeRecord.shape.toJson r
  | userRooms => .object []

/-- The request in the data of the envelope `e`. -/
def request {α : Type} (record : Record α) (e : Envelope) : Except ChatError α :=
  (record.shape.ofValue e.data).mapError ChatError.ofFault

/-- The event in the envelope `e`. -/
def decode (e : Envelope) : Except ChatError ClientEvent :=
  match e.kind with
  | "typing" => .typing <$> request typingRecord e
  | "chat" => .chat <$> request chatRecord e
  | "create-room" => .createRoom <$> request createRecord e
  | "join-room" => .joinRoom <$> request roomRequestRecord e
  | "leave-room" => .leaveRoom <$> request roomRequestRecord e
  | "invite-room" => .inviteRoom <$> request membersRecord e
  | "kick-room" => .kickRoom <$> request membersRecord e
  | "get-users" => .getUsers <$> request searchRecord e
  | "get-chats" => .getChats <$> request rangeRecord e
  | "get-notifs" => .getNotifications <$> request rangeRecord e
  | "user-rooms" => .ok .userRooms
  | kind => .error (.unknownEvent kind)

end ClientEvent

end GroupChat
