import GroupChat.Hub.Inquiry
import GroupChat.Hub.Membership
import GroupChat.Hub.Presence
import GroupChat.Hub.Talk

/-!
# Handling items

The hub handles one item at a time. What a client sends counts only while the client is registered,
and a request that fails is answered with its error.

What the hub does reaches the outboxes of the clients at once. Nothing that it does depends on what
they accept, which is proved elsewhere, so `Hub.handle` leaves the outboxes out.

## Main definitions

- `Hub.dispatch`: carries out an event.
- `Hub.handleOver`: handles an item over some outboxes.
- `Hub.handle`: the hub after an item, and what it did.
- `Hub.run`: the hub after several items.
-/

namespace GroupChat.Hub

/-- Carries out a `ClientEvent` of the client `c`. -/
def dispatch (c : Connection) : ClientEvent → Request Unit
  | .typing r => typing c r
  | .chat r => chat c r
  | .createRoom r => createRoom c r
  | .joinRoom r => joinRoom c r
  | .leaveRoom r => leaveRoom c r
  | .inviteRoom r => inviteRoom c r
  | .kickRoom r => kickRoom c r
  | .getUsers r => getUsers c r
  | .getChats r => getChats c r
  | .getNotifications r => getNotifications c r
  | .userRooms => userRooms c

/-- Carries out the event in the envelope `e`. -/
def serve (c : Connection) (e : Envelope) : Request Unit := do
  dispatch c (← ClientEvent.decode e)

/-- Answers a `request` of the client `c` that fails with its error. -/
def answering (c : Connection) (request : Request Unit) : Step Unit := do
  match ← request.run with
  | .ok () => pure ()
  | .error e => discard (send c (.ofError e))

/-- Handles something that the client `c` sent, if the client is registered. -/
def fromClient (c : Connection) (request : Request Unit) : Step Unit := do
  if (← look (·.roster.get? c.id)).isSome then answering c request

/-- Handles an `Inbound` item. -/
def take : Inbound → Step Unit
  | .register c => register c
  | .unregister c => unregister c
  | .malformed c e => fromClient c (throw e)
  | .event c e => fromClient c (serve c e)

/-- Handles the `item` over some outboxes. -/
def handleOver (h : Hub) (p : Post) (item : Inbound) : Turn :=
  ((take item).run { hub := h, post := p }).2

/-- The hub `h` after the `item`, and what it did. There are no outboxes, so nothing is accepted. -/
def handle (h : Hub) (item : Inbound) : Hub × List Effect :=
  let t := h.handleOver {} item
  (t.hub, t.effects)

/-- The hub `h` after several items, and what it did. -/
def run (h : Hub) : List Inbound → Hub × List Effect
  | [] => (h, [])
  | item :: rest =>
    let (h, effects) := h.handle item
    let (h, more) := h.run rest
    (h, effects ++ more)

end GroupChat.Hub
