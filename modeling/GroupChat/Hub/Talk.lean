import GroupChat.Hub.NewRoom

/-!
# Writing messages

A message goes to a room or directly to an account. Two accounts that write to each other directly
have a private room, which is made with the first message. To tell that one types does not make a
room.

## Main definitions

- `Hub.directRoom?`: the private room of two accounts.
- `Hub.typing`, `Hub.chat`: the requests.
-/

namespace GroupChat.Hub

open Wire

/-- The private room that the account of the connection `c` has with `receiver`. If it is in the
store only, it becomes live with the devices of both. -/
def directRoom? (c : Connection) (receiver : String) : Request (Option LiveRoom) := do
  if receiver = c.account then throw ChatError.selfAddressed
  let name := privateName c.account receiver
  match ← see (·.rooms.named? name) with
  | some room => pure (some room)
  | none =>
    match ← orFail (ask .roomByName (·.roomByName? name)) with
    | none => pure none
    | some info =>
      let own ← see (·.roster.connectionsOf c.account)
      let others ← see (·.roster.connectionsOf receiver)
      let room := ((LiveRoom.ofInfo info).joinAll own .user).joinAll others .user
      enlistRoom room
      pure (some room)

/-- The private room that the account of the connection `c` has with `receiver`, which is made if
there is none. -/
def directRoom (c : Connection) (receiver : String) : Request LiveRoom := do
  match ← directRoom? c receiver with
  | some room => pure room
  | none =>
    let _ ← knownAccount receiver
    let id ← newRoomId
    let info : RoomInfo := ⟨id, privateName c.account receiver, "", false, true⟩
    let f : Founding := ⟨info, c.account, .user, [receiver]⟩
    persist f
    openRoom f

/-- The request `r` to tell others that one types. -/
def typing (c : Connection) (r : TypingRequest) : Request Unit := do
  let room ←
    match ← Address.of? r.room r.user with
    | .room reference => memberRoom c reference
    | .user receiver =>
      match ← directRoom? c receiver with
      | some room => pure room
      | none => throw .roomNotFound
  let event ← signal .typing c room.id
  let _ ← broadcastExcept room event c.account
  forward c "typing" (roomResult room.id)

/-- The request `r` to write a message. -/
def chat (c : Connection) (r : ChatRequest) : Request Unit := do
  if r.message = "" then throw ChatError.messageEmpty
  let room ←
    match ← Address.of? r.room r.user with
    | .room reference => memberRoom c reference
    | .user receiver => directRoom c receiver
  let stamp ← newMessageStamp
  let message : ChatMessage := ⟨stamp.id, c.account, room.id, r.message, stamp.time⟩
  orFail (tell .addMessage fun s => (.ok (), s.addMessage message))
  let view : ChatView := ⟨message, c.name⟩
  let _ ← broadcastExcept room (.chat view) c.account
  replyAndForward c "chat" (chatView.shape.toJson view)

end GroupChat.Hub
