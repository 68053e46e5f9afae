import GroupChat.Hub.Answer
import GroupChat.Hub.Lookup
import GroupChat.Text.Blank

/-!
# New rooms

A room is put into the store with its first members, and deleted again if a membership fails. Then
it becomes live: the devices of its members are let in, and the members other than the creator are
told.

## Main definitions

- `Hub.persist`: puts a room into the store.
- `Hub.openRoom`: makes it live.
- `Hub.createRoom`: the request for a new room.
-/

namespace GroupChat.Hub

/-- Who asks for a new room, the `creator`, and who else is in it. -/
structure Founding where
  /-- The room. -/
  info : RoomInfo
  /-- The account that asks. -/
  creator : String
  /-- Its role in the room. -/
  role : Role
  /-- The other members. -/
  members : List String
  deriving DecidableEq, Repr

/-- All members that `f` lists, with their roles. -/
def Founding.initial (f : Founding) : List (String × Role) :=
  (f.creator, f.role) :: f.members.map fun m => (m, .user)

/-- Adds memberships in the `room` until one fails. -/
def addMembers (room : String) : List (String × Role) → Step (Except StoreError Unit)
  | [] => pure (.ok ())
  | (account, role) :: rest => do
    match ← tell .addMember (·.addMember room account role) with
    | .ok () => addMembers room rest
    | .error e => pure (.error e)

/-- Puts the room that `f` founds and its memberships into the store, or neither. -/
def persist (f : Founding) : Request Unit := do
  orFail (tell .createRoom (·.createRoom f.info))
  match ← addMembers f.info.id f.initial with
  | .ok () => pure ()
  | .error e =>
    orReport (tell .deleteRoom (·.deleteRoom f.info.id)) (.roomNotUndone f.info.id)
    throw (.store e)

/-- Lets the devices of members into a `LiveRoom`, and tells them the event `invited`. -/
def inviteDevices (invited : ServerEvent) : List String → LiveRoom → Step LiveRoom
  | [], room => pure room
  | member :: rest, room => do
    let devices ← look (·.roster.connectionsOf member)
    sendAll devices invited
    inviteDevices invited rest (room.joinAll devices .user)

/-- Makes the room that `f` founds live, after it was put into the store. -/
def openRoom (f : Founding) : Step LiveRoom := do
  let own ← look (·.roster.connectionsOf f.creator)
  let room := (LiveRoom.ofInfo f.info).joinAll own f.role
  let room ← inviteDevices (.invited f.info) f.members room
  enlistRoom room
  pure room

/-- The `name` of a new public room, which is not blank and not like that of a private one. -/
def publicName (name : Option String) : Except ChatError String :=
  match name.filter fun name => Text.trimChars name.toList != [] with
  | none => .error ChatError.nameRequired
  | some name =>
    if privateMark.toList.isPrefixOf name.toList then .error ChatError.nameReserved else .ok name

/-- The name of the new room that `creator` asks for with `r`. -/
def newName (creator : String) (r : CreateRequest) (members : List String) :
    Except ChatError String :=
  match r.isPrivate, members with
  | true, member :: _ => .ok (privateName creator member)
  | _, _ => publicName r.name

/-- Refuses `members` that a new room cannot have. -/
def checkMembers (creator : String) (isPrivate : Bool) (members : List String) :
    Except ChatError Unit :=
  if members.contains creator then .error ChatError.creatorListed
  else if isPrivate && members.length != 1 then .error ChatError.notAPair
  else .ok ()

/-- The request `r` for a new room. -/
def createRoom (c : Connection) (r : CreateRequest) : Request Unit := do
  let members := distinct r.members
  checkMembers c.account r.isPrivate members
  knownAccounts members
  let name ← newName c.account r members
  if (← orFail (ask .roomByName (·.roomByName? name))).isSome then throw .roomNameTaken
  let id ← newRoomId
  let info : RoomInfo := ⟨id, name, r.description, r.inviteOnly, r.isPrivate⟩
  let f : Founding := ⟨info, c.account, if r.isPrivate then .user else .admin, members⟩
  persist f
  let _ ← openRoom f
  replyAndForward c "create-room" (infoResult info)

end GroupChat.Hub
