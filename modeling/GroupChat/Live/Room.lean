import GroupChat.Live.Connection
import GroupChat.Room

/-!
# Live rooms

A room that somebody is connected to: the connections that are in it, and the role of each account
that has one of them. The role of an account is the one with which its first connection came in,
and goes with its last one.

## Main definitions

- `LiveRoom`: a room with its connections.
- `LiveRoom.join`, `LiveRoom.leave`, `LiveRoom.removeAccount`: who comes and goes.
- `LiveRoom.audience`: the connections of all accounts but one.
- `LiveRooms`: the directory of live rooms.
-/

namespace GroupChat

/-- A room that somebody is connected to, with its `RoomInfo`. -/
structure LiveRoom where
  /-- The room. -/
  info : RoomInfo
  /-- The connections by identifier. -/
  connections : Table String Connection := ∅
  /-- The roles of the accounts that are connected. -/
  roles : Table String Role := ∅
  deriving DecidableEq, Repr, Inhabited

namespace LiveRoom

/-- The identifier of the room `r`. -/
def id (r : LiveRoom) : String := r.info.id

/-- The room `info`, to which nobody is connected. -/
def ofInfo (info : RoomInfo) : LiveRoom := { info }

/-- Whether `connection` is in the room `r`. -/
def hasConnection (r : LiveRoom) (connection : String) : Bool := r.connections.contains connection

/-- Whether `account` is connected to the room `r`. -/
def hasAccount (r : LiveRoom) (account : String) : Bool := r.roles.contains account

/-- The role of `account`, if it is connected to the room `r`. -/
def roleOf? (r : LiveRoom) (account : String) : Option Role := r.roles.get? account

/-- The number of connections in the room `r`. -/
def size (r : LiveRoom) : Nat := r.connections.size

/-- Whether nobody is connected to the room `r`. -/
def isEmpty (r : LiveRoom) : Bool := r.connections.isEmpty

/-- Lets the connection `c` in. An account that has a role keeps it. -/
def join (r : LiveRoom) (c : Connection) (role : Role) : LiveRoom :=
  { r with
    roles := if r.roles.contains c.account then r.roles else r.roles.insert c.account role
    connections := r.connections.insert c.id c }

/-- Lets several connections `cs` in, by `join`. -/
def joinAll (r : LiveRoom) (cs : List Connection) (role : Role) : LiveRoom :=
  cs.foldl (fun r c => r.join c role) r

/-- The connections of `account`. -/
def connectionsOf (r : LiveRoom) (account : String) : List Connection :=
  r.connections.values.filter fun c => c.account == account

/-- Lets `connection` out. -/
def leave (r : LiveRoom) (connection : String) : Option Connection × LiveRoom :=
  match r.connections.get? connection with
  | none => (none, r)
  | some c =>
    let out := { r with connections := r.connections.erase connection }
    if (out.connectionsOf c.account).isEmpty then
      (some c, { out with roles := out.roles.erase c.account })
    else (some c, out)

/-- Lets all connections of `account` out of the room `r`. -/
def removeAccount (r : LiveRoom) (account : String) : List Connection × LiveRoom :=
  (r.connectionsOf account,
    { r with
      roles := r.roles.erase account
      connections := r.connections.filterValues fun c => c.account != account })

/-- All connections of `r`. -/
def everyone (r : LiveRoom) : List Connection := r.connections.values

/-- All connections of `r` but those of the identifiers in `except`. -/
def recipients (r : LiveRoom) (except : List String) : List Connection :=
  r.everyone.filter fun c => !except.contains c.id

/-- The connections of all accounts but `except`, whose connections are left out by their
identifiers. -/
def audience (r : LiveRoom) (except : String) : List Connection :=
  r.recipients ((r.connectionsOf except).map Connection.id)

end LiveRoom

/-- The directory of live rooms, `byId`. -/
structure LiveRooms where
  /-- The rooms by identifier. -/
  byId : Table String LiveRoom := ∅
  deriving DecidableEq, Repr, Inhabited

namespace LiveRooms

/-- Adds the room `r`, in the place of one with the same identifier. -/
def add (rs : LiveRooms) (r : LiveRoom) : LiveRooms := ⟨rs.byId.insert r.id r⟩

/-- The room of the identifier `id`. -/
def get? (rs : LiveRooms) (id : String) : Option LiveRoom := rs.byId.get? id

/-- A room of the `name`. -/
def named? (rs : LiveRooms) (name : String) : Option LiveRoom :=
  rs.byId.values.find? fun r => r.info.name == name

/-- Removes the room `id`. -/
def remove (rs : LiveRooms) (id : String) : LiveRooms := ⟨rs.byId.erase id⟩

/-- All rooms in `rs`. -/
def rooms (rs : LiveRooms) : List LiveRoom := rs.byId.values

/-- Keeps the room `r` if it is in the directory, or if somebody is connected to it. -/
def keep (rs : LiveRooms) (r : LiveRoom) : LiveRooms :=
  if rs.byId.contains r.id || !r.isEmpty then rs.add r else rs

/-- Adds the room `r` if somebody is connected to it, unless one with the same identifier is there.
-/
def enlist (rs : LiveRooms) (r : LiveRoom) : LiveRooms :=
  if rs.byId.contains r.id || r.isEmpty then rs else rs.add r

/-- The number of rooms in `rs`. -/
def size (rs : LiveRooms) : Nat := rs.byId.size

end LiveRooms

end GroupChat
