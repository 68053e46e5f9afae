import GroupChat.Hub.Delivery
import GroupChat.Store.Accounts
import GroupChat.Store.History
import GroupChat.Store.Outage
import GroupChat.Store.Rooms
import GroupChat.Wire.ClientEvent
import GroupChat.Wire.ServerEvent

/-!
# The state of the hub

The hub takes one item after the other: a client comes or goes, or sends a frame. What it does to
clients is a list of effects. Whether a client accepts what it is sent is known at once, and what
the hub does next could depend on that.

## Main definitions

- `Hub`: who is connected, which rooms are live, and the store.
- `Inbound`: what the hub is given.
- `Hub.Turn`: the hub in the middle of an item, with what it did so far and what became of that.
- `Hub.send`, `Hub.broadcast`, `Hub.broadcastExcept`: tell clients something, and whether it was
  accepted.
- `Step`, `Request`: computations on the hub, without and with an error that is told to the client.
-/

namespace GroupChat

/-- Where new identifiers and times come from: the `n`-th one of each kind. -/
structure Mint where
  /-- The identifiers of rooms. -/
  room : Nat → String
  /-- Identifiers and times of messages. -/
  message : Nat → Stamp
  /-- Identifiers and times of notifications that are kept. -/
  notice : Nat → Stamp
  /-- Identifiers and times of notifications that are not kept. -/
  signal : Nat → Stamp

instance : Inhabited Mint := ⟨⟨fun _ => "", fun _ => default, fun _ => default, fun _ => default⟩⟩

/-- How many new identifiers of each kind were used of a `Mint`. -/
structure Drawn where
  /-- For rooms. -/
  rooms : Nat := 0
  /-- For messages. -/
  messages : Nat := 0
  /-- For notifications that are kept. -/
  notices : Nat := 0
  /-- For notifications that are not kept. -/
  signals : Nat := 0
  deriving DecidableEq, Repr, Inhabited

/-- The state of the hub: connections (`roster`), live rooms (`rooms`) and the `store`. -/
structure Hub where
  /-- The connections. -/
  roster : Roster := {}
  /-- The live rooms. -/
  rooms : LiveRooms := {}
  /-- The store. -/
  store : Store := {}
  /-- The outages of the store that are ahead. -/
  outages : List Outage := []
  /-- Where new identifiers come from. -/
  mint : Mint := default
  /-- How many of them were used. -/
  drawn : Drawn := {}
  deriving Inhabited

/-- What the hub is given, in the queue of the `Server`. -/
inductive Inbound where
  /-- A client comes. -/
  | register (c : Connection)
  /-- A client sent the envelope of an event. -/
  | event (c : Connection) (e : Envelope)
  /-- A client sent something else. -/
  | malformed (c : Connection) (e : ChatError)
  /-- A client goes. -/
  | unregister (c : Connection)
  deriving Repr

namespace Hub

/-- The `hub` in the middle of an item, with the `effects` of what it did so far. -/
structure Turn where
  /-- The state. -/
  hub : Hub
  /-- What the hub did. -/
  effects : List Effect := []
  /-- The outboxes, as far as it has reached them. -/
  post : Post := {}
  deriving Inhabited

/-- The turn `t` after one more effect, which reaches its client at once (`Post.reach`). -/
def Turn.doing (t : Turn) (e : Effect) : Turn :=
  { t with effects := t.effects ++ [e], post := t.post.reach e }

/-- A computation on the hub, which goes from a `Turn` to a `Turn`. -/
abbrev Step (α : Type) : Type := StateM Turn α

/-- A computation on the hub for a client, which is told its `ChatError`. -/
abbrev Request (α : Type) : Type := ExceptT ChatError Step α

variable {α : Type}

/-! ### Looking and acting -/

/-- The part `f` of the state. -/
def look (f : Hub → α) : Step α := fun t => (f t.hub, t)

/-- The part `f` of the state, for a `Request`. -/
def see (f : Hub → α) : Request α := ExceptT.lift (look f)

/-- Changes the state by `f`. -/
def change (f : Hub → Hub) : Step Unit := fun t => ((), { t with hub := f t.hub })

/-- Does the effect `e`. -/
def act (e : Effect) : Step Unit := fun t => ((), t.doing e)

/-- Tells the client `c` something, and whether the client accepts it. -/
def send (c : Connection) (event : ServerEvent) : Step Bool :=
  fun t => (t.post.accepts c, t.doing (.send c event))

/-- Tells several clients something (`send`), whether they accept it or not. -/
def sendAll : List Connection → ServerEvent → Step Unit
  | [], _ => pure ()
  | c :: cs, event => do
    let _ ← send c event
    sendAll cs event

/-- Tells everyone in the `room` something but connections of the identifiers in `except`, and
counts those that accept it. -/
def broadcast (room : LiveRoom) (event : ServerEvent) (except : List String) : Step Nat :=
  room.broadcastBy except fun c => send c event

/-- Tells everyone in the `room` something but the connections of `account`, and counts those that
accept it. -/
def broadcastExcept (room : LiveRoom) (event : ServerEvent) (account : String) : Step Nat :=
  room.broadcastExceptBy account fun c => send c event

/-- Reports the failure `i` of the store. -/
def report (i : Incident) : Step Unit := act (.report i)

/-! ### Calling the store -/

/-- Calls the store with `f`, unless an `Outage` meets this `kind` of call. What is left of a call
that fails by itself is up to the store. -/
def call (kind : StoreCall) (f : Store → Except StoreError α × Store) :
    Step (Except StoreError α) := fun t =>
  let (failed, outages) := Outage.meet kind t.hub.outages
  let hub := { t.hub with outages }
  match failed with
  | some e => (.error e, { t with hub })
  | none =>
    let (result, store) := f hub.store
    (result, { t with hub := { hub with store } })

/-- Asks the store for `f`. -/
def ask (kind : StoreCall) (f : Store → α) : Step (Except StoreError α) :=
  call kind fun s => (.ok (f s), s)

/-- Changes the store by `f`. -/
def tell (kind : StoreCall) (f : Store → Except StoreError Unit × Store) :
    Step (Except StoreError Unit) :=
  call kind f

/-- Lets a client be told if the `call` to the store fails. -/
def orFail (call : Step (Except StoreError α)) : Request α := do
  match ← call with
  | .ok a => pure a
  | .error e => throw (.store e)

/-- Reports the `incident` if a `call` to the store fails that no client is told of. -/
def orReport (call : Step (Except StoreError Unit)) (incident : StoreError → Incident) :
    Step Unit := do
  match ← call with
  | .ok () => pure ()
  | .error e => report (incident e)

/-! ### Drawing new identifiers -/

/-- The identifier of a new room, from the `mint`. -/
def newRoomId : Step String := fun t =>
  let n := t.hub.drawn.rooms
  (t.hub.mint.room n, { t with hub := { t.hub with drawn := { t.hub.drawn with rooms := n + 1 } } })

/-- Identifier and time of a new message, from the `mint`. -/
def newMessageStamp : Step Stamp := fun t =>
  let n := t.hub.drawn.messages
  (t.hub.mint.message n,
    { t with hub := { t.hub with drawn := { t.hub.drawn with messages := n + 1 } } })

/-- Identifier and time of a new notification that is kept, from the `mint`. -/
def newNoticeStamp : Step Stamp := fun t =>
  let n := t.hub.drawn.notices
  (t.hub.mint.notice n,
    { t with hub := { t.hub with drawn := { t.hub.drawn with notices := n + 1 } } })

/-- Identifier and time of a new notification that is not kept, from the `mint`. -/
def newSignalStamp : Step Stamp := fun t =>
  let n := t.hub.drawn.signals
  (t.hub.mint.signal n,
    { t with hub := { t.hub with drawn := { t.hub.drawn with signals := n + 1 } } })

/-! ### Live rooms -/

/-- Adds the room `r` to the live ones, in the place of one with the same identifier. -/
def addRoom (r : LiveRoom) : Step Unit :=
  change fun h => { h with rooms := h.rooms.add r }

/-- Keeps the room `r` if it is live or somebody is connected to it. -/
def keepRoom (r : LiveRoom) : Step Unit :=
  change fun h => { h with rooms := h.rooms.keep r }

/-- Adds the room `r` if somebody is connected to it, unless it is live already. -/
def enlistRoom (r : LiveRoom) : Step Unit :=
  change fun h => { h with rooms := h.rooms.enlist r }

/-- Removes the room `id` from the live ones. -/
def dropRoom (id : String) : Step Unit :=
  change fun h => { h with rooms := h.rooms.remove id }

end Hub

end GroupChat
