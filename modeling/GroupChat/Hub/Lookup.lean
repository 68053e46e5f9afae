import GroupChat.Hub.Basic

/-!
# Finding rooms and accounts

A reference names a room by identifier or by name. Live rooms are looked at first, then the store. A
room that is found in the store only has nobody connected to it.

## Main definitions

- `Hub.resolve`: the room of a reference.
- `Hub.memberRoom`: the room of a reference that an account is connected to.
- `Hub.knownAccount`: an account that must exist.
-/

namespace GroupChat.Hub

/-- The stored room of `reference`. -/
def storedRoom (reference : String) : Request (Option RoomInfo) := do
  match ← orFail (ask .roomById (·.roomById? reference)) with
  | some info => pure (some info)
  | none => orFail (ask .roomByName (·.roomByName? reference))

/-- The live room of `reference`. -/
def liveByReference? (h : Hub) (reference : String) : Option LiveRoom :=
  match h.rooms.get? reference with
  | some room => some room
  | none => h.rooms.named? reference

/-- The room of `reference`. -/
def resolve (reference : String) : Request LiveRoom := do
  match ← see (·.liveByReference? reference) with
  | some room => pure room
  | none =>
    match ← storedRoom reference with
    | none => throw .roomNotFound
    | some info => see fun h => (h.rooms.get? info.id).getD (.ofInfo info)

/-- The room of `reference` that the account of the connection `c` is connected to. -/
def memberRoom (c : Connection) (reference : String) : Request LiveRoom := do
  let room ← resolve reference
  if room.hasAccount c.account then pure room else throw .notMember

/-- The account of the identifier `id`, which must exist. -/
def knownAccount (id : String) : Request Account := do
  match ← orFail (ask .account (·.account? id)) with
  | some account => pure account
  | none => throw (.userNotFound id)

/-- All accounts of identifiers, which must exist as for `knownAccount`. -/
def knownAccounts : List String → Request Unit
  | [] => pure ()
  | id :: rest => do
    let _ ← knownAccount id
    knownAccounts rest

/-- The elements of `ids` without those that occurred before. -/
def distinct (ids : List String) : List String :=
  ids.foldl (fun seen id => if seen.contains id then seen else seen ++ [id]) []

end GroupChat.Hub
