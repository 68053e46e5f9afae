import GroupChat.Live.Outbox
import GroupChat.Live.Room
import GroupChat.Wire.ServerEvent

/-!
# Broadcasts

An event for a room is sent to one of its connections after the other. Whoever has no room for it
misses it, and nobody waits for that one. How an event is sent is left open here: `broadcastBy` is
the same whether it is only offered to the outboxes or sent by the hub.

## Main definitions

- `countAccepting`: sends to connections and counts those that accept.
- `LiveRoom.broadcastBy`: sends to all connections in a room but some.
- `LiveRoom.broadcastExceptBy`: sends to all connections in a room but those of an account.
- `LiveRoom.broadcast`, `LiveRoom.broadcastExcept`: the same, where the outboxes are all there is.
-/

namespace GroupChat

/-- Sends to connections one after the other, and counts those that accept. `send` tells whether a
connection accepts. -/
def countAccepting {m : Type → Type} [Monad m] (send : Connection → m Bool) :
    List Connection → m Nat
  | [] => pure 0
  | c :: cs => do
    let accepted ← send c
    let count ← countAccepting send cs
    pure (if accepted then count + 1 else count)

/-- Offers the `text` to the outbox of `connection`, and tells whether it is accepted. -/
def Lines.post (connection text : String) : StateM Lines Bool :=
  fun l => (l.accepts connection, l.offer connection text)

namespace LiveRoom

/-- Sends to all connections of `r` but those of the identifiers in `except`, and counts those that
accept. -/
def broadcastBy {m : Type → Type} [Monad m] (r : LiveRoom) (except : List String)
    (send : Connection → m Bool) : m Nat :=
  countAccepting send (r.recipients except)

/-- Sends to all connections of `r` but those of `account`, and counts those that accept. The
account is left out by the identifiers of its connections. -/
def broadcastExceptBy {m : Type → Type} [Monad m] (r : LiveRoom) (account : String)
    (send : Connection → m Bool) : m Nat :=
  r.broadcastBy ((r.connectionsOf account).map Connection.id) send

/-- Offers the `event` to all connections of `r` but those of the identifiers in `except`, and
counts those that accept it. -/
def broadcast (r : LiveRoom) (event : ServerEvent) (except : List String) : StateM Lines Nat :=
  r.broadcastBy except fun c => Lines.post c.id event.encode

/-- Offers the `event` to all connections of `r` but those of `account`, and counts those that
accept it. -/
def broadcastExcept (r : LiveRoom) (event : ServerEvent) (account : String) : StateM Lines Nat :=
  r.broadcastExceptBy account fun c => Lines.post c.id event.encode

end LiveRoom

end GroupChat
