import GroupChat.Config.Settings
import GroupChat.Hub.Handle
import GroupChat.Server.Session
import GroupChat.Server.Writer

/-!
# The server

Around the hub many things go on at the same time: clients arrive and are read, what they send waits
in one queue for the hub, and what the hub tells them waits to be written. The server may be stopped
in between. All of this happens in single steps, in any order.

## Main definitions

- `Server`: the hub, its queue, and all that goes on around it.
- `Stage`: how far the server has come in stopping.
- `Action`: the single steps.
- `Server.act?`: the server after a step. A step that is not possible gives nothing.
- `Server.Reachable`: the states that steps lead to.
-/

namespace GroupChat

/-- How far the `Server` has come in stopping. -/
inductive Stage where
  /-- It is not stopping. -/
  | running
  /-- It accepts no more clients. -/
  | refusing
  /-- All clients are told to end. -/
  | ending
  /-- No client is read. -/
  | unread
  /-- It puts no more clients on the way into the queue. -/
  | sealed
  /-- The hub has handled the queue. -/
  | handled
  /-- Nobody is registered, and no room is live. -/
  | emptied
  /-- Everything is written. -/
  | written
  /-- It has stopped. -/
  | stopped
  deriving DecidableEq, Repr, Inhabited

namespace Stage

/-- Whether clients are accepted, which is in the stage `.running` only. -/
def isAccepting : Stage → Bool
  | .running => true
  | _ => false

/-- Whether all clients are told to end, which is from the stage `.ending` on. -/
def isEnding : Stage → Bool
  | .running | .refusing => false
  | _ => true

/-- Whether clients that were accepted are put on the way into the queue, which is up to the stage
`.unread`. -/
def hasSender : Stage → Bool
  | .running | .refusing | .ending | .unread => true
  | _ => false

end Stage

/-- The `hub`, its `queue`, and all that goes on around it. -/
structure Server where
  /-- What was chosen when the server was started. -/
  settings : Settings
  /-- The hub. -/
  hub : Hub := {}
  /-- The clients that have arrived. -/
  sessions : Table String Session := ∅
  /-- The items that wait for the hub. -/
  queue : List Inbound := []
  /-- Whether the hub still takes items. -/
  handling : Bool := true
  /-- What waits for the clients. -/
  lines : Lines := {}
  /-- The writers of the clients. -/
  writers : Table String Writer := ∅
  /-- The time in milliseconds. -/
  clock : Nat := 0
  /-- How far the server has come in stopping. -/
  stage : Stage := .running

/-- The single steps of a `Server`. -/
inductive Action where
  /-- A client arrives. -/
  | arrive (c : Connection)
  /-- A client sends a frame. -/
  | receive (id : String) (f : Frame)
  /-- No more frames come from a client. -/
  | hangUp (id : String)
  /-- Time passes. -/
  | wait (milliseconds : Nat)
  /-- The server is to stop. -/
  | stop
  /-- A client that has arrived comes nearer to the queue. -/
  | approach (id : String)
  /-- A client puts an item into the queue. -/
  | post (id : String)
  /-- A client begins to be read. -/
  | start (id : String)
  /-- A message of a client is read. -/
  | read (id : String)
  /-- A client is given up because it is silent. -/
  | timeOut (id : String)
  /-- A client finds that it is to end. -/
  | notice (id : String)
  /-- The hub handles an item. -/
  | handle
  /-- The hub finds that no items will come any more. -/
  | retire
  /-- A writer takes a text. -/
  | take (id : String)
  /-- A writer writes its text. -/
  | write (id : String)
  /-- A writer cannot write its text. -/
  | fail (id : String)
  /-- A writer ends, and its farewell is taken or not. -/
  | finish (id : String) (taken : Bool)
  /-- The server comes further in stopping. -/
  | proceed
  deriving Inhabited

namespace Server

/-- How long `s` waits for a silent client, in milliseconds. -/
def patience (s : Server) : Nat := s.settings.idleTimeout * 1000

/-- Whether the queue of `s` takes an item. -/
def hasRoom (s : Server) : Bool := s.queue.length < max s.settings.inboundCapacity 1

/-- Whether anybody may still tell the client `id` something. -/
def holds (s : Server) (id : String) : Bool :=
  (s.sessions.get? id).any (·.phase.hasSender)
    || s.queue.any (fun item => item.connection.id == id)
    || s.hub.roster.byId.contains id
    || s.hub.rooms.rooms.any (·.hasConnection id)

/-- Whether anybody may still put an item into the queue of `s`. -/
def hasSenders (s : Server) : Bool :=
  s.stage.hasSender || s.sessions.values.any (·.phase.hasSender)

/-! ### Clients -/

/-- Changes the session of the client `id` by `f`, if that is possible. -/
def onSession (s : Server) (id : String) (f : Session → Option Session) : Option Server := do
  let session ← f (← s.sessions.get? id)
  pure { s with sessions := s.sessions.insert id session }

/-- The client `c` arrives. -/
def arrive? (s : Server) (c : Connection) : Option Server :=
  if s.sessions.contains c.id then none
  else some { s with sessions := s.sessions.insert c.id { connection := c } }

/-- Opens the outbox of the client `id`, which is to be closed with all others. -/
def openLine (s : Server) (id : String) : Server :=
  let outbox := Outbox.new s.settings.outboundCapacity true
  { s with
    lines := s.lines.connect id (if s.stage.isEnding then outbox.close else outbox)
    writers := s.writers.insert id {} }

/-- The client `id`, which has arrived, comes nearer to the queue, or is turned away. -/
def approach? (s : Server) (id : String) : Option Server := do
  let session ← s.sessions.get? id
  let move (phase : Phase) (s : Server) : Server :=
    { s with sessions := s.sessions.insert id { session with phase } }
  match session.phase with
  | .arriving => pure (move (if s.stage.isAccepting then .admitted else .refused) s)
  | .admitted =>
    pure (if s.stage.hasSender then move .entering (s.openLine id) else move .refused s)
  | _ => none

/-- The client `id` puts an item into the queue, if there is room. -/
def post? (s : Server) (id : String) : Option Server := do
  if s.handling then
    let (item, session) ← (← s.sessions.get? id).give? s.clock
    if s.hasRoom then
      pure { s with
        sessions := s.sessions.insert id session
        queue := s.queue ++ [item] }
    else none
  else
    let entering := (s.sessions.get? id).any fun session => session.phase matches .entering
    let s ← s.onSession id (·.giveUp?)
    pure (if entering then { s with lines := s.lines.close id } else s)

/-- The client `id` finds that it is to end. -/
def notice? (s : Server) (id : String) : Option Server :=
  if s.lines.isClosing id then s.onSession id (·.notice?) else none

/-! ### The hub -/

/-- The hub handles the first item of the queue, over the outboxes of the clients
(`Hub.handleOver`). -/
def handle? (s : Server) : Option Server :=
  match s.handling, s.queue with
  | true, item :: rest =>
    let turn := s.hub.handleOver { lines := s.lines } item
    some { s with hub := turn.hub, queue := rest, lines := turn.post.lines }
  | _, _ => none

/-- The hub of `s` finds that no items will come any more. -/
def retire? (s : Server) : Option Server :=
  if s.handling && s.queue.isEmpty && !s.hasSenders then some { s with handling := false } else none

/-! ### Writers -/

/-- Changes the writer of the client `id` and its outbox by `f`, if that is possible. -/
def onWriter (s : Server) (id : String) (f : Writer → Outbox → Option (Writer × Outbox)) :
    Option Server := do
  let (writer, outbox) ← f (← s.writers.get? id) (← s.lines.get? id)
  pure { s with
    writers := s.writers.insert id writer
    lines := s.lines.connect id outbox }

/-! ### Stopping -/

/-- The hub `h` with nobody in it. -/
def emptied (h : Hub) : Hub := { h with roster := {}, rooms := {} }

/-- The hub `h` whose store forgets who is online, if it can be reached. -/
def forgetful (h : Hub) : Hub :=
  let (failed, outages) := Outage.meet .resetPresence h.outages
  match failed with
  | some _ => { h with outages }
  | none => { h with outages, store := h.store.resetPresence }

/-- The server `s` comes further in stopping. -/
def proceed? (s : Server) : Option Server :=
  match s.stage with
  | .running | .stopped => none
  | .refusing => some { s with stage := .ending, lines := s.lines.closeDependents }
  | .ending =>
    if s.sessions.values.any (·.phase.hasReader) then none else some { s with stage := .unread }
  | .unread => some { s with stage := .sealed }
  | .sealed => if s.handling then none else some { s with stage := .handled }
  | .handled => some { s with stage := .emptied, hub := emptied s.hub }
  | .emptied =>
    if s.writers.values.all Writer.ended then some { s with stage := .written } else none
  | .written => some { s with stage := .stopped, hub := forgetful s.hub }

/-! ### Steps -/

/-- The server `s` after a step. -/
def act? (s : Server) : Action → Option Server
  | .arrive c => s.arrive? c
  | .receive id f => s.onSession id (·.receive? (f.read s.settings.maxFrameSize))
  | .hangUp id => s.onSession id fun session => some { session with hungUp := true }
  | .wait milliseconds => some { s with clock := s.clock + milliseconds }
  | .stop => if s.stage.isAccepting then some { s with stage := .refusing } else none
  | .approach id => s.approach? id
  | .post id => s.post? id
  | .start id => s.onSession id (·.start? s.clock)
  | .read id => s.onSession id (·.read? s.clock)
  | .timeOut id => s.onSession id (·.timeOut? s.patience s.clock)
  | .notice id => s.notice? id
  | .handle => s.handle?
  | .retire => s.retire?
  | .take id => s.onWriter id Writer.take?
  | .write id => s.onWriter id fun w o => w.write?.map (·, o)
  | .fail id => s.onWriter id Writer.fail?
  | .finish id taken => if s.holds id then none else s.onWriter id (·.finish? · taken)
  | .proceed => s.proceed?

/-- The states that steps of `act?` lead to from `start`. -/
inductive Reachable (start : Server) : Server → Prop where
  /-- Where it begins. -/
  | refl : Reachable start start
  /-- One step further. -/
  | step {s t : Server} (a : Action) (hs : Reachable start s) (ht : s.act? a = some t) :
      Reachable start t

theorem Reachable.trans {s t u : Server} (h : Reachable s t) (h' : Reachable t u) :
    Reachable s u := by
  induction h' with
  | refl => exact h
  | step a _ ht ih => exact .step a ih ht

end Server

end GroupChat
