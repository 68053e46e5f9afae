import GroupChat.History
import GroupChat.Room
import GroupChat.Json.Flat

/-!
# Records on the wire

The members that the stored things have in JSON, in the order in which they are written.

## Main definitions

- `roleShape`, `notificationKindShape`: the enumerations.
- `accountRecord`, `claimsRecord`, `roomRecord`, `membershipRecord`, `messageRecord`,
  `notificationRecord`: the records.
- `accountEntry`: an account with the digest of its token.
-/

namespace GroupChat.Wire

open Json

/-- The `Shape` of roles, by their names. -/
def roleShape : Shape Role := Shape.choice Role.all Role.name

/-- The `Shape` of kinds of notifications, by their names. -/
def notificationKindShape : Shape NotificationKind :=
  Shape.choice NotificationKind.all NotificationKind.name

/-- The member `name`, which must be there. -/
def required {α : Type} (name : String) (shape : Shape α) : Member α := { name, shape }

/-- The member `name`, which may be missing, for which `fallback` stands then. -/
def defaulted {α : Type} (name : String) (shape : Shape α) (fallback : α) : Member α :=
  { name, shape, fallback := some fallback }

/-- The `Record` of an `Account`. -/
def accountRecord : Record Account where
  label := "struct Account"
  types := [String, String, Role]
  fields :=
    .cons (required "id" .text) <| .cons (required "name" .text) <|
    .cons (defaulted "role" roleShape .user) .nil
  build := fun (id, name, role, ()) => ⟨id, name, role⟩
  parts a := (a.id, a.name, a.role, ())

/-- The `Record` of `Claims`. -/
def claimsRecord : Record Claims where
  label := "struct Claims"
  types := [String, String, Role]
  fields :=
    .cons (required "account_id" .text) <| .cons (required "name" .text) <|
    .cons (required "role" roleShape) .nil
  build := fun (account, name, role, ()) => ⟨account, name, role⟩
  parts c := (c.account, c.name, c.role, ())

/-- The `Record` of a `RoomInfo`. -/
def roomRecord : Record RoomInfo where
  label := "struct RoomInfo"
  types := [String, String, String, Bool, Bool]
  fields :=
    .cons (required "id" .text) <| .cons (required "name" .text) <|
    .cons (required "description" .text) <| .cons (required "invite_only" .flag) <|
    .cons (required "private" .flag) .nil
  build := fun (id, name, description, inviteOnly, isPrivate, ()) =>
    ⟨id, name, description, inviteOnly, isPrivate⟩
  parts r := (r.id, r.name, r.description, r.inviteOnly, r.isPrivate, ())

/-- The `Record` of a `Membership`. -/
def membershipRecord : Record Membership where
  label := "struct Membership"
  types := [RoomInfo, Role]
  fields := .cons (required "room" roomRecord.shape) <| .cons (required "role" roleShape) .nil
  build := fun (room, role, ()) => ⟨room, role⟩
  parts m := (m.room, m.role, ())

/-- The `Record` of a `ChatMessage`. -/
def messageRecord : Record ChatMessage where
  label := "struct ChatMessage"
  types := [String, String, String, String, Int64]
  fields :=
    .cons (required "id" .text) <| .cons (required "sender_id" .text) <|
    .cons (required "room_id" .text) <| .cons (required "message" .text) <|
    .cons (required "ts" .int64) .nil
  build := fun (id, sender, room, message, time, ()) => ⟨id, sender, room, message, time⟩
  parts m := (m.id, m.sender, m.room, m.message, m.time, ())

/-- The `Record` of a `Notification`. -/
def notificationRecord : Record Notification where
  label := "struct Notification"
  types := [String, NotificationKind, String, String, Int64]
  fields :=
    .cons (required "id" .text) <| .cons (required "kind" notificationKindShape) <|
    .cons (required "sender_id" .text) <| .cons (required "room_id" .text) <|
    .cons (required "ts" .int64) .nil
  build := fun (id, kind, sender, room, time, ()) => ⟨id, kind, sender, room, time⟩
  parts n := (n.id, n.kind, n.sender, n.room, n.time, ())

/-- The `Flat` record of an `AccountEntry`: an account with the digest of its token. -/
def accountEntry : Flat Account String AccountEntry where
  label := "struct AccountEntry"
  inner := accountRecord
  own := required "token_sha256" .text
  build := AccountEntry.mk
  parts e := (e.account, e.digest)

end GroupChat.Wire
