import GroupChat.Hub.Answer
import GroupChat.Hub.Lookup

/-!
# Joining, leaving, inviting and removing

An account joins or leaves a public room itself; an admin of the room invites others and removes
them. The store is changed first, and changes that were made are taken back when a later one fails.
Then the devices of the accounts are let in or out, and everyone in the room is notified.

## Main definitions

- `Hub.joinRoom`, `Hub.leaveRoom`, `Hub.inviteRoom`, `Hub.kickRoom`: the requests.
- `Hub.dropIfEmpty`: drops a room that nobody is connected to, and deletes it if it has no members.
-/

namespace GroupChat.Hub

/-! ### Joining and leaving -/

/-- Whether `account` is a member of the `room`, live or in the store. -/
def isMember (room : LiveRoom) (account : String) : Request Bool := do
  if room.hasAccount account then
    pure true
  else
    return (← orFail (ask .roleOf (·.roleOf? room.id account))).isSome

/-- The request `r` to join a room. -/
def joinRoom (c : Connection) (r : RoomRequest) : Request Unit := do
  let room ← resolve r.room
  if room.info.isPrivate then throw .roomPrivate
  if room.info.inviteOnly then throw .roomInviteOnly
  if ← isMember room c.account then throw .alreadyMember
  orFail (tell .addMember (·.addMember room.id c.account .user))
  let own ← see (·.roster.connectionsOf c.account)
  let room := room.joinAll own .user
  keepRoom room
  let _ ← notify room .join c.account c.name
  replyAndForward c "join-room" (infoResult room.info)

/-- Drops the `room` if nobody is connected to it, and deletes it if it has no members. -/
def dropIfEmpty (room : LiveRoom) : Step Unit := do
  if room.isEmpty then
    dropRoom room.id
    match ← ask .countMembers (·.countMembers room.id) with
    | .ok 0 => orReport (tell .deleteRoom (·.deleteRoom room.id)) (.emptyRoomKept room.id)
    | .ok _ => pure ()
    | .error e => report (.membersUnknown room.id e)

/-- The request `r` to leave a room. -/
def leaveRoom (c : Connection) (r : RoomRequest) : Request Unit := do
  let room ← resolve r.room
  if room.info.isPrivate then throw .roomPrivate
  if !room.hasAccount c.account then throw .notMember
  orFail (tell .removeMember (·.removeMember room.id c.account))
  let room := (room.removeAccount c.account).2
  keepRoom room
  let _ ← notify room .leave c.account c.name
  dropIfEmpty room
  replyAndForward c "leave-room" (roomResult room.id)

/-! ### Inviting -/

/-- The room of `reference` in which the account of the connection `c` is an admin. -/
def adminRoom (c : Connection) (reference : String) : Request LiveRoom := do
  let room ← resolve reference
  if room.info.isPrivate then throw .roomPrivate
  if room.roleOf? c.account ≠ some .admin then throw .notAdmin
  pure room

/-- The accounts that are not members of the `room` yet. All must exist. -/
def invitees (room : String) : List String → Request (List Account)
  | [] => pure []
  | id :: rest => do
    let account ← knownAccount id
    let role ← orFail (ask .roleOf (·.roleOf? room id))
    let others ← invitees room rest
    pure (if role.isSome then others else account :: others)

/-- Takes memberships in the `room` back. -/
def undoInvites (room : String) : List String → Step Unit
  | [] => pure ()
  | account :: rest => do
    orReport (tell .removeMember (·.removeMember room account)) (.inviteNotUndone room account)
    undoInvites room rest

/-- Makes accounts members, where `added` were made members already. All are taken back when one
fails. -/
def addInvitees (room : String) : List String → List Account → Request Unit
  | _, [] => pure ()
  | added, account :: rest => do
    match ← tell .addMember (·.addMember room account.id .user) with
    | .ok () => addInvitees room (added ++ [account.id]) rest
    | .error e =>
      undoInvites room added
      throw (.store e)

/-- Lets the devices of new members into a `LiveRoom`, one account after the other, and notifies
everyone. -/
def welcome : List Account → LiveRoom → Step LiveRoom
  | [], room => pure room
  | account :: rest, room => do
    let devices ← look (·.roster.connectionsOf account.id)
    let room := room.joinAll devices .user
    sendAll devices (.invited room.info)
    let _ ← notify room .join account.id account.name
    welcome rest room

/-- The request `r` to invite accounts to a room. -/
def inviteRoom (c : Connection) (r : MembersRequest) : Request Unit := do
  let room ← adminRoom c r.room
  let users := distinct r.users
  if users.isEmpty then throw ChatError.nobodyListed
  let accounts ← invitees room.id users
  if accounts.isEmpty then throw .alreadyMember
  addInvitees room.id [] accounts
  let room ← welcome accounts room
  keepRoom room
  replyAndForward c "invite-room" (membersResult room.id (accounts.map Account.id))

/-! ### Removing -/

/-- The accounts with their roles in the `room`. All must be members. -/
def targets (room : String) : List String → Request (List (String × Role))
  | [] => pure []
  | id :: rest => do
    match ← orFail (ask .roleOf (·.roleOf? room id)) with
    | none => throw .notMember
    | some role => return (id, role) :: (← targets room rest)

/-- Gives memberships in the `room` back. -/
def undoKicks (room : String) : List (String × Role) → Step Unit
  | [] => pure ()
  | (account, role) :: rest => do
    orReport (tell .addMember (·.addMember room account role)) (.kickNotUndone room account)
    undoKicks room rest

/-- Ends memberships, where `removed` were ended already. All are given back when one fails. -/
def removeTargets (room : String) : List (String × Role) → List (String × Role) → Request Unit
  | _, [] => pure ()
  | removed, (account, role) :: rest => do
    match ← tell .removeMember (·.removeMember room account) with
    | .ok () => removeTargets room (removed ++ [(account, role)]) rest
    | .error e =>
      undoKicks room removed
      throw (.store e)

/-- The name of `account`, or its identifier if there is none. -/
def nameOf (account : String) : Step String := do
  match ← ask .account (·.account? account) with
  | .ok (some a) => pure a.name
  | _ => pure account

/-- Lets the devices of removed members out of a `LiveRoom`, one account after the other, and
notifies everyone, those devices included. -/
def sendOff : List String → LiveRoom → Step LiveRoom
  | [], room => pure room
  | account :: rest, room => do
    let (devices, room) := room.removeAccount account
    let name ← nameOf account
    let event ← notify room .leave account name
    sendAll devices event
    sendOff rest room

/-- The request `r` to remove accounts from a room. -/
def kickRoom (c : Connection) (r : MembersRequest) : Request Unit := do
  let room ← adminRoom c r.room
  let users := distinct r.users
  if users.isEmpty then throw ChatError.nobodyListed
  if users.contains c.account then throw ChatError.selfRemoved
  let accounts ← targets room.id users
  removeTargets room.id [] accounts
  let room ← sendOff users room
  keepRoom room
  dropIfEmpty room
  replyAndForward c "kick-room" (membersResult room.id users)

end GroupChat.Hub
