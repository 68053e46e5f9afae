import GroupChat.Error
import GroupChat.Live.Broadcast

/-!
# Delivery

What the hub does reaches the outboxes of the clients. An event is written as text once for each
client and offered to its outbox, which may drop it; the hub is told whether it did. Clients go on
while the hub is at work: before any of its effects they may take out what waits for them, or stop
listening.

## Main definitions

- `Effect`: what the hub does.
- `Incident`: a failure of the store that no client is told of.
- `Lines.deliver`: the outboxes after effects.
- `Post`: the outboxes, and what clients will do with them while the hub is at work.
- `Post.accepts`, `Post.reach`: whether an event is accepted, and what an effect does.
-/

namespace GroupChat

/-- A failure of the store that no client is told of, with the `StoreError`. -/
inductive Incident where
  /-- A connection was not counted. -/
  | notMarkedOnline (account : String) (e : StoreError)
  /-- The end of a connection was not counted. -/
  | notMarkedOffline (account : String) (e : StoreError)
  /-- The rooms of an account are not known. -/
  | roomsUnknown (account : String) (e : StoreError)
  /-- A notification was not kept. -/
  | noticeLost (room : String) (e : StoreError)
  /-- It is not known whether a room has members. -/
  | membersUnknown (room : String) (e : StoreError)
  /-- A room without members was not deleted. -/
  | emptyRoomKept (room : String) (e : StoreError)
  /-- A room that could not be filled was not deleted. -/
  | roomNotUndone (room : String) (e : StoreError)
  /-- A membership was not taken back. -/
  | inviteNotUndone (room account : String) (e : StoreError)
  /-- A membership was not given back. -/
  | kickNotUndone (room account : String) (e : StoreError)
  deriving DecidableEq, Repr

/-- What the hub does: it sends a `ServerEvent`, closes a connection, or reports an `Incident`. -/
inductive Effect where
  /-- Tells a client something. -/
  | send (client : Connection) (event : ServerEvent)
  /-- Closes a connection. -/
  | close (c : Connection)
  /-- Reports a failure to whoever runs the hub. -/
  | report (i : Incident)
  deriving Repr

namespace Lines

/-- The outboxes `l` after one `Effect`. -/
def deliverOne (l : Lines) : Effect → Lines
  | .send c event => l.offer c.id event.encode
  | .close c => l.close c.id
  | .report _ => l

/-- The outboxes after `effects`. -/
def deliver (l : Lines) (effects : List Effect) : Lines := effects.foldl deliverOne l

@[simp]
theorem deliver_nil (l : Lines) : l.deliver [] = l := rfl

@[simp]
theorem deliver_cons (l : Lines) (e : Effect) (es : List Effect) :
    l.deliver (e :: es) = (l.deliverOne e).deliver es := rfl

end Lines

/-- A `ServerEvent` that was offered to the outbox of a client. -/
structure Offer where
  /-- The client. -/
  client : Connection
  /-- The event. -/
  event : ServerEvent
  /-- Whether the outbox accepted it. -/
  accepted : Bool
  deriving Repr

/-- What is offered to one of the outboxes `l` by an `Effect`. -/
def Effect.offer? (l : Lines) : Effect → Option Offer
  | .send c event => some ⟨c, event, l.accepts c.id⟩
  | .close _ | .report _ => none

/-- The outboxes while the hub is at work, the `lines`. -/
structure Post where
  /-- The outboxes. -/
  lines : Lines := {}
  /-- All that was offered to the outboxes so far. -/
  offers : List Offer := []
  /-- What clients do with their outboxes before each of the effects that follow. -/
  ahead : Nat → List Lines.Move := fun _ => []
  deriving Inhabited

namespace Post

/-- The outboxes that the next effect meets, after what clients do before it (`Lines.move`). -/
def next (p : Post) : Lines := (p.ahead 0).foldl Lines.move p.lines

/-- Whether an event that is sent next to the client `c` is accepted. -/
def accepts (p : Post) (c : Connection) : Bool := p.next.accepts c.id

/-- The effect `e` reaches its client. -/
def reach (p : Post) (e : Effect) : Post where
  lines := p.next.deliverOne e
  offers := p.offers ++ (e.offer? p.next).toList
  ahead n := p.ahead (n + 1)

/-- The effects `es` reach their clients, one after the other. -/
def reachAll (p : Post) (es : List Effect) : Post := es.foldl reach p

end Post

end GroupChat
