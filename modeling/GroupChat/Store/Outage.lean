import GroupChat.Error

/-!
# Outages of the store

The store of a hub may be out of reach. An outage concerns one kind of call: it lets a number of
calls pass, makes a number of calls fail, and is over then. A call that fails changes nothing.

## Main definitions

- `StoreCall`: the kinds of calls.
- `Outage`: a number of failing calls.
- `Outage.meet`: whether a call fails, and the outages that are left.
-/

namespace GroupChat

/-- The kinds of calls to the `Store`. -/
inductive StoreCall where
  /-- Adds a message. -/
  | addMessage
  /-- Adds a notification. -/
  | addNotification
  /-- Reads messages. -/
  | messagesIn
  /-- Reads notifications. -/
  | notificationsIn
  /-- Counts one more connection of an account. -/
  | markOnline
  /-- Counts one connection of an account less. -/
  | markOffline
  /-- Forgets all counts. -/
  | resetPresence
  /-- Asks how often an account is connected. -/
  | onlineCount
  /-- Adds a room. -/
  | createRoom
  /-- Looks for a room by identifier. -/
  | roomById
  /-- Looks for a room by name. -/
  | roomByName
  /-- Lists the rooms of an account. -/
  | roomsOf
  /-- Deletes a room. -/
  | deleteRoom
  /-- Adds a membership. -/
  | addMember
  /-- Ends a membership. -/
  | removeMember
  /-- Asks for the role of an account in a room. -/
  | roleOf
  /-- Counts the members of a room. -/
  | countMembers
  /-- Looks for an account by identifier. -/
  | account
  /-- Looks for accounts by a part of their names. -/
  | accountsNamed
  deriving DecidableEq, Repr, Inhabited

/-- A number of calls of one `StoreCall` that fail. -/
structure Outage where
  /-- The kind of the calls. -/
  call : StoreCall
  /-- How many calls still pass. -/
  skip : Nat
  /-- How many calls fail then. -/
  times : Nat
  /-- How they fail. -/
  error : StoreError
  deriving DecidableEq, Repr, Inhabited

namespace Outage

/-- Whether a call fails, where `fired` tells that an earlier outage made it fail already, and the
outages that are left. Only the first outage that can make a call fail is used up by it. -/
def meetFrom (call : StoreCall) : Option StoreError → List Outage → Option StoreError × List Outage
  | fired, [] => (fired, [])
  | fired, o :: rest =>
    if o.call = call then
      if o.skip = 0 then
        if o.times = 0 ∨ fired.isSome then
          let (e, rest) := meetFrom call fired rest
          (e, o :: rest)
        else
          let (e, rest) := meetFrom call (some o.error) rest
          (e, { o with times := o.times - 1 } :: rest)
      else
        let (e, rest) := meetFrom call fired rest
        (e, { o with skip := o.skip - 1 } :: rest)
    else
      let (e, rest) := meetFrom call fired rest
      (e, o :: rest)

/-- Whether a `call` fails, and the `outages` that are left. -/
def meet (call : StoreCall) (outages : List Outage) : Option StoreError × List Outage :=
  meetFrom call none outages

@[simp]
theorem meet_nil (call : StoreCall) : meet call [] = (none, []) := rfl

end Outage

end GroupChat
