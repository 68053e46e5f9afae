import GroupChat.Account

/-!
# Connections

A client that is connected, and the directory of all of them. The directory keeps the connections by
identifier, and for each account the identifiers of its connections, so that all devices of an
account can be reached.

## Main definitions

- `Connection`: a connected client.
- `Roster`: the directory of connections.
- `Roster.add`, `Roster.remove`, `Roster.removeAccount`, `Roster.removeAll`: who comes and goes.
- `Roster.connectionsOf`, `Roster.othersOf`: the devices of an account.
-/

namespace GroupChat

/-- A connected client, with the data of its `Claims`. -/
structure Connection where
  /-- The identifier. -/
  id : String
  /-- The account that connected. -/
  account : String
  /-- The name that others see. -/
  name : String
  /-- The role of the account in the hub. -/
  role : Role
  deriving DecidableEq, Repr, Inhabited

/-- The connection of the holder of `claims`. -/
def Connection.ofClaims (id : String) (claims : Claims) : Connection :=
  ⟨id, claims.account, claims.name, claims.role⟩

/-- The directory of connections, `byId` and `byAccount`. -/
structure Roster where
  /-- The connections by identifier. -/
  byId : Table String Connection := ∅
  /-- The identifiers of the connections of each account that has any. -/
  byAccount : Table String (List String) := ∅
  deriving DecidableEq, Repr, Inhabited

namespace Roster

/-- The identifiers of the connections of `account`. -/
def idsOf (r : Roster) (account : String) : List String := (r.byAccount.get? account).getD []

/-- Adds the connection `c`. -/
def add (r : Roster) (c : Connection) : Roster where
  byId := r.byId.insert c.id c
  byAccount := r.byAccount.insert c.account ((r.idsOf c.account).insert c.id)

/-- The connection of the identifier `id`. -/
def get? (r : Roster) (id : String) : Option Connection := r.byId.get? id

/-- Takes the identifier `id` off those of `account`, which is dropped with its last connection. -/
def forget (r : Roster) (account id : String) : Table String (List String) :=
  match r.byAccount.get? account with
  | none => r.byAccount
  | some ids =>
    match ids.erase id with
    | [] => r.byAccount.erase account
    | rest => r.byAccount.insert account rest

/-- Removes the connection `id`. -/
def remove (r : Roster) (id : String) : Option Connection × Roster :=
  match r.byId.get? id with
  | none => (none, r)
  | some c => (some c, ⟨r.byId.erase id, r.forget c.account id⟩)

/-- Removes connections by their identifiers, with `remove`. -/
def removeIds (r : Roster) : List String → List Connection × Roster
  | [] => ([], r)
  | id :: ids =>
    let (c, r) := r.remove id
    let (cs, r) := r.removeIds ids
    (c.toList ++ cs, r)

/-- Removes all connections of `account`. -/
def removeAccount (r : Roster) (account : String) : List Connection × Roster :=
  r.removeIds (r.idsOf account)

/-- The connections of `account`. -/
def connectionsOf (r : Roster) (account : String) : List Connection :=
  (r.idsOf account).filterMap r.get?

/-- The connections of the account of `c` other than `c`. -/
def othersOf (r : Roster) (c : Connection) : List Connection :=
  (r.connectionsOf c.account).filter fun other => other.id != c.id

/-- Whether `account` is connected. -/
def hasAccount (r : Roster) (account : String) : Bool := r.byAccount.contains account

/-- All connections in `r`. -/
def connections (r : Roster) : List Connection := r.byId.values

/-- The number of connections in `r`. -/
def size (r : Roster) : Nat := r.byId.size

/-- Removes all connections from `r`. -/
def removeAll (r : Roster) : List Connection × Roster := (r.connections, {})

end Roster

end GroupChat
