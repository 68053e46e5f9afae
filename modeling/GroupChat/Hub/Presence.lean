import GroupChat.Hub.Answer

/-!
# Coming and going

A client that comes is let into the live rooms of its account; rooms that are not live yet become
live. The others in these rooms are told when it is the first device of its account. A client that
goes leaves its rooms; a room that nobody is connected to any more is dropped, and the others are
told when it was the last device.

## Main definitions

- `Hub.register`, `Hub.unregister`: a client comes and goes.
-/

namespace GroupChat.Hub

/-- The live room of the stored `info`, which is made if there is none. -/
def liveRoom (info : RoomInfo) : Step LiveRoom :=
  look fun h => (h.rooms.get? info.id).getD (.ofInfo info)

/-- Lets the connection `c` into the rooms of its account. -/
def enterRooms (c : Connection) (first : Bool) : List Membership → Step Unit
  | [] => pure ()
  | m :: rest => do
    let room ← liveRoom m.room
    let room := room.join c m.role
    addRoom room
    if first then
      let event ← signal .online c room.id
      discard (broadcastExcept room event c.account)
    enterRooms c first rest

/-- The rooms of `account`, or none if the store is out of reach. -/
def storedRooms (account : String) : Step (List Membership) := do
  match ← ask .roomsOf (·.roomsOf account) with
  | .ok memberships => pure memberships
  | .error e =>
    report (.roomsUnknown account e)
    pure []

/-- The client `c` comes. -/
def register (c : Connection) : Step Unit := do
  let connected ← look (·.roster.hasAccount c.account)
  change fun h => { h with roster := h.roster.add c }
  orReport (tell .markOnline fun s => (.ok (), s.markOnline c.account))
    (.notMarkedOnline c.account)
  let memberships ← storedRooms c.account
  enterRooms c (!connected) memberships

/-- Lets the connection `c` out of rooms. -/
def leaveRooms (c : Connection) (last : Bool) : List LiveRoom → Step Unit
  | [] => pure ()
  | room :: rest => do
    match room.leave c.id with
    | (none, _) => pure ()
    | (some _, room) =>
      if room.isEmpty then
        dropRoom room.id
      else
        addRoom room
        if last then
          let event ← signal .offline c room.id
          discard (broadcast room event [])
    leaveRooms c last rest

/-- The client `c` goes. -/
def unregister (c : Connection) : Step Unit := do
  match ← look (·.roster.remove c.id) with
  | (none, _) => pure ()
  | (some _, roster) =>
    change fun h => { h with roster }
    act (.close c)
    let connected ← look (·.roster.hasAccount c.account)
    let rooms ← look (·.rooms.rooms)
    leaveRooms c (!connected) rooms
    orReport (tell .markOffline fun s => (.ok (), s.markOffline c.account))
      (.notMarkedOffline c.account)

end GroupChat.Hub
