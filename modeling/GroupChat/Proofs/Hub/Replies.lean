import GroupChat.Hub.Inquiry
import GroupChat.Proofs.Json.Canonical

/-!
# What is in an answer

The results of answers are put together from records, and `replyWith` sorts the members of their
objects. Here they are written out, member by member, as clients read them.

## Main definitions

- `RoomInfo.shown`, `ChatView.shown`, `Account.shown`: a room, a message and an account as they are
  shown to clients.

## Main statements

- `replyWith_roomResult`, `replyWith_membersResult`, `replyWith_infoResult`: answers about rooms.
- `replyWith_chatView`: the answer with a message.
- `replyWith_users`: the answer with accounts.
-/

namespace GroupChat

open Json Wire

/-- The room `info` as it is shown to clients. -/
def RoomInfo.shown (info : RoomInfo) : Json :=
  .object [("description", .text info.description), ("id", .text info.id),
    ("invite_only", .bool info.inviteOnly), ("name", .text info.name),
    ("private", .bool info.isPrivate)]

/-- The message of `v` with the name of its sender, as it is shown to clients. -/
def ChatView.shown (v : ChatView) : Json :=
  .object [("id", .text v.message.id), ("message", .text v.message.message),
    ("room_id", .text v.message.room), ("sender", .text v.sender),
    ("sender_id", .text v.message.sender), ("ts", .int (.ofInt64 v.message.time))]

/-- The account `a` as it is shown to clients, with whether it is `online`. -/
def Account.shown (a : Account) (online : Bool) : Json :=
  .object [("id", .text a.id), ("name", .text a.name), ("online", .bool online),
    ("role", .text a.role.name)]

namespace Hub

/-- `roomResult` names the room. -/
theorem replyWith_roomResult (kind room : String) :
    replyWith kind (roomResult room) = ⟨kind, some (.object [("room_id", .text room)])⟩ := rfl

/-- `membersResult` names the room and the accounts, in their order. -/
theorem replyWith_membersResult (kind room : String) (accounts : List String) :
    replyWith kind (membersResult room accounts) = ⟨kind, some (.object
      [("room_id", .text room), ("user_ids", .list (accounts.map .text))])⟩ := by
  have hids : canonical (.list (accounts.map .text)) = .list (accounts.map .text) := by
    rw [canonical_list, List.map_map]
    rfl
  rw [← hids]
  rfl

/-- `infoResult` shows the room. -/
theorem replyWith_infoResult (kind : String) (info : RoomInfo) :
    replyWith kind (infoResult info) = ⟨kind, some info.shown⟩ := rfl

theorem replyWith_chatView (kind : String) (v : ChatView) :
    replyWith kind (chatView.shape.toJson v) = ⟨kind, some v.shown⟩ := rfl

/-- The accounts are shown in their order, each of them by `userResult`. -/
theorem replyWith_users (kind : String) (accounts : List Account) (online : Account → Bool) :
    replyWith kind (.object [("users", .list (accounts.map fun a => userResult a (online a)))]) =
      ⟨kind, some (.object [("users", .list (accounts.map fun a => a.shown (online a)))])⟩ := by
  have husers : canonical (.list (accounts.map fun a => userResult a (online a))) =
      .list (accounts.map fun a => a.shown (online a)) := by
    rw [canonical_list, List.map_map]
    rfl
  rw [← husers]
  rfl

end Hub

end GroupChat
