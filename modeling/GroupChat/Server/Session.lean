import GroupChat.Server.Frame

/-!
# Sessions

The way of one client through the server. When it arrives, the server looks whether it accepts
anybody, and gives it a way into the queue of the hub. Then its registration is queued, and what it
sends is read and queued, message by message, until it goes, falls silent or is told to end. The
last thing that is queued is that it goes.

## Main definitions

- `Phase`: how far a client has come.
- `Session`: a client on its way.
- `Session.read?`, `Session.give?`, `Session.timeOut?`: steps of a session. A step that is not
  possible gives nothing.
-/

namespace GroupChat

/-- How far a client has come on its way through the `Server`. -/
inductive Phase where
  /-- It has just arrived. -/
  | arriving
  /-- The server accepted clients when it arrived. -/
  | admitted
  /-- It may put items into the queue, and its registration is not queued yet. -/
  | entering
  /-- Its registration is queued. -/
  | entered
  /-- The next message is awaited, since a time in milliseconds. -/
  | reading (since : Nat)
  /-- An item for the hub is ready. -/
  | posting (item : Inbound)
  /-- Nothing is read any more, and that is not queued yet. -/
  | leaving
  /-- Nothing more is queued. -/
  | finished
  /-- It was turned away. -/
  | refused
  deriving Repr, Inhabited

namespace Phase

/-- Whether items of a client in this `Phase` may still be queued. -/
def hasSender : Phase → Bool
  | .entering | .entered | .reading _ | .posting _ | .leaving => true
  | .arriving | .admitted | .finished | .refused => false

/-- Whether the client is being read in this `Phase`. -/
def hasReader : Phase → Bool
  | .reading _ | .posting _ | .leaving => true
  | .arriving | .admitted | .entering | .entered | .finished | .refused => false

end Phase

/-- A client on its way, with its `phase`. -/
structure Session where
  /-- The client. -/
  connection : Connection
  /-- How far it has come. -/
  phase : Phase := .arriving
  /-- The messages that are not read yet. -/
  incoming : List Message := []
  /-- Whether no more messages will come. -/
  hungUp : Bool := false
  deriving Repr, Inhabited

namespace Session

/-- The message `m` arrives. -/
def receive? (s : Session) (m : Message) : Option Session :=
  if s.hungUp then none else some { s with incoming := s.incoming ++ [m] }

/-- How far the client `c` comes when it sends the message `m`. -/
def phaseAfter (c : Connection) (now : Nat) (m : Message) : Phase :=
  match m.item? c with
  | some item => .posting item
  | none => if m.isLast then .leaving else .reading now

/-- Reads the next message of `s`, or finds that there will be none. -/
def read? (s : Session) (now : Nat) : Option Session :=
  match s.phase, s.incoming with
  | .reading _, m :: rest =>
    some { s with phase := phaseAfter s.connection now m, incoming := rest }
  | .reading _, [] => if s.hungUp then some { s with phase := .leaving } else none
  | _, _ => none

/-- Until when a message of `s` is awaited. -/
def deadline (s : Session) (patience : Nat) : Option Nat :=
  match s.phase with
  | .reading since => some (since + patience)
  | _ => none

/-- Gives `s` up when no message has come for longer than `patience`. -/
def timeOut? (s : Session) (patience now : Nat) : Option Session :=
  match s.deadline patience with
  | some time =>
    if s.incoming.isEmpty && !s.hungUp && time ≤ now then some { s with phase := .leaving }
    else none
  | none => none

/-- Stops reading `s` when the connection is to be closed. -/
def notice? (s : Session) : Option Session :=
  match s.phase with
  | .reading _ => some { s with phase := .leaving }
  | _ => none

/-- Starts to read `s`, which has entered. -/
def start? (s : Session) (now : Nat) : Option Session :=
  match s.phase with
  | .entered => some { s with phase := .reading now }
  | _ => none

/-- The item of `s` that is ready for the queue, and the session when it is queued. -/
def give? (s : Session) (now : Nat) : Option (Inbound × Session) :=
  match s.phase with
  | .entering => some (.register s.connection, { s with phase := .entered })
  | .posting item => some (item, { s with phase := .reading now })
  | .leaving => some (.unregister s.connection, { s with phase := .finished })
  | _ => none

/-- The session `s` when the queue takes nothing any more. -/
def giveUp? (s : Session) : Option Session :=
  match s.phase with
  | .entering => some { s with phase := .finished }
  | .posting _ => some { s with phase := .leaving }
  | .leaving => some { s with phase := .finished }
  | _ => none

/-- How many items the session `s` may still put into the queue, and steps it may take. -/
def work (s : Session) : Nat := 8 + 3 * s.incoming.length

end Session

end GroupChat
