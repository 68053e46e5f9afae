import GroupChat.Proofs.Server.Frame
import GroupChat.Server.Basic

/-!
# What a client does

A client that is let in puts its registration into the queue of the hub, then one item for each text
or other bytes that are read of it, and at the end that it goes. Each step of the server is about
one client at most, and does one of a few things to it.

## Main definitions

- `Session.script`: everything that is queued of a client, in order.
- `Action.frame?`: the frame that a step brings for a client.
- `Session.Moves`: what a step does to a session.

## Main statements

- `Session.Moves.connection`: a client keeps its connection.
- `Session.Moves.frame?`: the frames that a step brings are for the client that makes a move.
-/

namespace GroupChat

/-- Whether nothing of a client is in the queue yet, as before `.entered`. -/
def Phase.isOutside : Phase → Bool
  | .arriving | .admitted | .entering | .refused => true
  | .entered | .reading _ | .posting _ | .leaving | .finished => false

/-- The frame that a step brings for the client `id`, which only `.receive` does. -/
def Action.frame? (id : String) : Action → Option Frame
  | .receive id' f => if id' = id then some f else none
  | _ => none

namespace Session

/-- What a step of the server `v` does to the session `s` of the client `id`, with the frames that
it brings and the items that it puts into the queue. -/
inductive Moves (v : Server) (id : String) (s : Session) :
    Action → Session → List Frame → List Inbound → Prop where
  /-- A frame arrives. -/
  | receive {f : Frame} (listens : s.hungUp = false) : Moves v id s (.receive id f)
      { s with incoming := s.incoming ++ [f.read v.settings.maxFrameSize] } [f] []
  /-- No more frames will come. -/
  | hangUp : Moves v id s (.hangUp id) { s with hungUp := true } [] []
  /-- The client comes nearer to the queue, or is turned away. -/
  | approach {p : Phase} (before : s.phase.isOutside = true) (after : p.isOutside = true) :
      Moves v id s (.approach id) { s with phase := p } [] []
  /-- It begins to be read. -/
  | start (before : s.phase = .entered) :
      Moves v id s (.start id) { s with phase := .reading v.clock } [] []
  /-- A message is read. -/
  | read {since : Nat} {m : Message} {rest : List Message} (before : s.phase = .reading since)
      (next : s.incoming = m :: rest) : Moves v id s (.read id)
      { s with phase := phaseAfter s.connection v.clock m, incoming := rest } [] []
  /-- There is nothing more to read. -/
  | readEnd {since : Nat} (before : s.phase = .reading since) (nothing : s.incoming = [])
      (hungUp : s.hungUp = true) : Moves v id s (.read id) { s with phase := .leaving } [] []
  /-- The client was silent for too long. -/
  | timeOut {since : Nat} (before : s.phase = .reading since) (nothing : s.incoming = [])
      (late : since + v.settings.idleTimeout * 1000 ≤ v.clock) :
      Moves v id s (.timeOut id) { s with phase := .leaving } [] []
  /-- The client is to end. -/
  | notice {since : Nat} (before : s.phase = .reading since)
      (closing : v.lines.isClosing id = true) :
      Moves v id s (.notice id) { s with phase := .leaving } [] []
  /-- Its registration is queued. -/
  | enter (before : s.phase = .entering) :
      Moves v id s (.post id) { s with phase := .entered } [] [.register s.connection]
  /-- An item is queued. -/
  | post {item : Inbound} (before : s.phase = .posting item) :
      Moves v id s (.post id) { s with phase := .reading v.clock } [] [item]
  /-- It is queued that the client goes. -/
  | leave (before : s.phase = .leaving) :
      Moves v id s (.post id) { s with phase := .finished } [] [.unregister s.connection]

variable {v : Server} {id : String} {s s' : Session} {a : Action} {new : List Frame}
  {items : List Inbound}

/-- `Moves` leaves the connection of a client as it is. -/
theorem Moves.connection (hm : s.Moves v id a s' new items) : s'.connection = s.connection := by
  cases hm <;> rfl

/-- The frames that `Moves` brings are for its client. -/
theorem Moves.frame? (hm : s.Moves v id a s' new items) (id' : String) :
    (a.frame? id').toList = if id' = id then new else [] := by
  cases hm with
  | receive =>
    by_cases hid : id' = id
    · rw [if_pos hid, Action.frame?, if_pos hid.symm]
      rfl
    · rw [if_neg hid, Action.frame?, if_neg fun h => hid h.symm]
      rfl
  | hangUp | approach | start | read | readEnd | timeOut | notice | enter | post | leave =>
    exact (ite_self []).symm

/-- For another client, `Moves` brings no frame and no hanging up. -/
theorem Moves.nothing_of_ne (hm : s.Moves v id a s' new items) {id' : String} (hid : id' ≠ id) :
    a.frame? id' = none ∧ a ≠ .hangUp id' := by
  have hframe := hm.frame? id'
  rw [if_neg hid] at hframe
  refine ⟨Option.toList_eq_nil_iff.1 hframe, ?_⟩
  rintro rfl
  cases hm
  exact hid rfl

theorem Moves.hungUp_iff (hm : s.Moves v id a s' new items) :
    s'.hungUp = true ↔ s.hungUp = true ∨ a = .hangUp id := by
  cases hm <;> simp

end Session

end GroupChat
