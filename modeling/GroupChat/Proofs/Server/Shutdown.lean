import GroupChat.Proofs.Server.Hub
import GroupChat.Proofs.Server.Wiring

/-!
# Stopping

When a server stops, clients are told to end first, then the hub handles what they have queued, then
the writers finish. A client that was accepted just before may still come into the queue in between,
so the hub waits for the last one that may put something into it, and not only for those who are
read already.

## Main definitions

- `Server.put`, `Server.puts`: the items that are put into the queue.
- `Stage.leaves`: what has become of the hub when the server has come so far in stopping.
- `Course.Winds`: what is over in the course of a server.
- `Course.Ended`: nothing is lost, and nothing is left.

## Main statements

- `given_append_queue`: what was put into the queue was handled or waits.
- `Course.Winds.step`, `Course.Winds.run`: every step preserves what is over.
- `ended_of_stopped`: when a server has stopped, nothing is lost and nothing is left.
-/

namespace GroupChat

namespace Stage

/-- What has become of the hub `h` when the server has come to a `Stage` in stopping. -/
def leaves (h : Hub) : Stage → Hub
  | .running | .refusing | .ending | .unread | .sealed | .handled => h
  | .emptied | .written => Server.emptied h
  | .stopped => Server.forgetful (Server.emptied h)

theorem leaves_of_isEmptied {p : Stage} (hp : p.isEmptied = false) (h : Hub) : p.leaves h = h := by
  cases p with
  | running | refusing | ending | unread | sealed | handled => rfl
  | emptied | written | stopped => cases hp

end Stage

namespace Server

/-- The items that a step puts into the queue of `s`, which only `.post` does. -/
def put (s : Server) : Action → List Inbound
  | .post id =>
    if s.handling then ((s.sessions.get? id).bind (·.give? s.clock)).toList.map Prod.fst else []
  | _ => []

variable {s t : Server} {a : Action} {c d : Course} {start : Hub} {steps : List Action}

/-! ### The queue -/

theorem put_of_closed (h : s.handling = false) (a : Action) : s.put a = [] := by
  cases a with
  | post id => rw [put, h, if_neg Bool.false_ne_true]
  | _ => rfl

/-- `post?` adds to the queue what `put` says. -/
theorem queue_of_post? {id : String} (h : s.post? id = some t) :
    t.queue = s.queue ++ s.put (.post id) := by
  unfold post? at h
  split at h
  · rename_i hopen
    obtain ⟨old, hold, h⟩ := Option.bind_eq_some_iff.1 h
    obtain ⟨⟨item, new⟩, hgive, h⟩ := Option.bind_eq_some_iff.1 h
    dsimp only at h
    -- `put` is what `post?` would put into the queue
    have hput : s.put (.post id) = [item] := by
      rw [put, if_pos hopen, hold, Option.bind_some, hgive]
      rfl
    split at h
    · cases h
      rw [hput]
    · cases h
  · -- into a closed queue nothing is put
    rename_i hclosed
    obtain ⟨u, hu, h⟩ := Option.bind_eq_some_iff.1 h
    obtain ⟨old, new, -, -, rfl⟩ := onSession_eq_some hu
    rw [put_of_closed (Bool.not_eq_true _ ▸ hclosed), List.append_nil]
    cases h
    split <;> rfl

/-- Items are `put` at the end of the queue, and `taken` from its front. -/
theorem taken_append_queue (hs : s.Shut) (h : s.act? a = some t) :
    s.taken a ++ t.queue = s.queue ++ s.put a := by
  by_cases hpost : ∃ id, a = .post id
  · obtain ⟨id, rfl⟩ := hpost
    exact queue_of_post? h
  · -- only a post puts something in
    have hput : s.put a = [] := by
      cases a with
      | post id => exact absurd ⟨id, rfl⟩ hpost
      | _ => rfl
    rw [hput, List.append_nil]
    cases act?_moves h with
    | rest rests => exact rests.queue
    | arrival new => rfl
    | session here moves queued taken sender =>
      rw [taken]
      cases moves with
      | enter | post | leave => exact absurd ⟨_, rfl⟩ hpost
      | receive | hangUp | approach | start | read | readEnd | timeOut | notice =>
        exact queued.trans (List.append_nil _)
    | giveUp here sender closed => cases (hs.handling here sender).symm.trans closed

/-- What is over in the course `c` of a server, as its `Stage` says. -/
structure Course.Winds (start : Hub) (c : Course) : Prop where
  /-- What was queued fits. -/
  sound : c.Sound
  /-- The hub follows what it was given. -/
  attends : c.Attends start
  /-- All clients are linked to it. -/
  wired : c.server.Wired
  /-- All writers have ended once everything is written. -/
  flushed : c.server.Flushed
  /-- Nothing waits in a queue that is closed. -/
  queue (closed : c.server.handling = false) : c.server.queue = []
  /-- What has become of the hub depends on how far the server has come in stopping. -/
  hub : c.server.hub = c.server.stage.leaves (start.run c.given).1

/-- `proceed?` does to the hub what `Stage.leaves` says. -/
theorem hub_of_proceed? {h : Hub} (hs : s.hub = s.stage.leaves h) (ht : s.proceed? = some t) :
    t.hub = t.stage.leaves h := by
  unfold proceed? at ht
  cases hstage : s.stage with
  | running | stopped =>
    rw [hstage] at ht
    cases ht
  | refusing | unread =>
    rw [hstage] at hs ht
    cases ht
    exact hs
  | ending | sealed =>
    rw [hstage] at hs ht
    dsimp only at ht
    split at ht
    · cases ht
    · cases ht
      exact hs
  -- here the hub is emptied
  | handled =>
    rw [hstage] at hs ht
    cases ht
    exact congrArg emptied hs
  | emptied =>
    rw [hstage] at hs ht
    dsimp only at ht
    split at ht
    · cases ht
      exact hs
    · cases ht
  -- and here the counts are reset
  | written =>
    rw [hstage] at hs ht
    cases ht
    exact congrArg forgetful hs

namespace Course.Winds

variable {accounts : List Account} {mint : Mint} {outages : List Outage}

theorem given_after (htaken : c.server.taken a = []) : (c.after a t).given = c.given := by
  show c.given ++ c.server.taken a = c.given
  rw [htaken, List.append_nil]

/-- Once the hub has handled everything, it takes nothing any more. -/
theorem closed (h : c.Winds start)
    (hstage : c.server.stage = .handled ∨ c.server.stage.isEmptied = true) :
    c.server.handling = false := by
  cases hhandling : c.server.handling with
  | false => rfl
  | true =>
    obtain ⟨hhandled, hemptied⟩ := h.attends.busy hhandling
    rcases hstage with hstage | hstage
    · exact absurd hstage hhandled
    · cases hstage.symm.trans hemptied

theorem hub_after (h : c.Winds start) (htaken : c.server.taken a = [])
    (hhub : t.hub = c.server.hub) (hstage : t.stage = c.server.stage) :
    t.hub = t.stage.leaves (start.run (c.after a t).given).1 := by
  rw [hhub, hstage, given_after htaken, h.hub]

/-- `Course.step?` preserves `Winds`. The step that empties the hub is the one with an argument: all
items must have been handled by then. -/
theorem step (h : c.Winds (.fresh accounts mint outages)) (hd : c.step? a = some d) :
    d.Winds (.fresh accounts mint outages) := by
  have hsound : d.Sound := h.sound.step hd
  have hattends : d.Attends (.fresh accounts mint outages) := h.attends.step h.sound hd
  obtain ⟨t, ht, rfl⟩ := Option.map_eq_some_iff.1 hd
  have hmoves : c.server.Moves a t := act?_moves ht
  refine ⟨hsound, hattends, h.wired.act ht, h.flushed.act ht, fun closed => ?_, ?_⟩
  · have hkept : c.server.handling = false → t.queue = [] := by
      intro hclosed
      have hqueue := taken_append_queue h.sound.shut ht
      rw [h.queue hclosed, put_of_closed hclosed] at hqueue
      exact (List.append_eq_nil_iff.1 hqueue).2
    cases hmoves with
    | rest rests =>
      cases rests with
      | idle | handle | stop | proceed => exact hkept closed
      | retire queue alone => exact queue
    | arrival | session => exact hkept closed
    | giveUp here sender closed => exact hkept closed
  · cases hemptied : t.stage.isEmptied with
    | false =>
      exact (hattends.hub hemptied).trans (Stage.leaves_of_isEmptied hemptied _).symm
    | true =>
      cases hmoves with
      | rest rests =>
        cases rests with
        | idle taken nothing => exact h.hub_after taken rfl rfl
        | handle busy queue =>
          -- it handles nothing any more by then
          cases busy.symm.trans (h.closed (Or.inr hemptied))
        | retire => exact h.hub_after rfl rfl rfl
        | stop => cases hemptied
        | proceed next done same =>
          rw [given_after rfl]
          exact hub_of_proceed? h.hub ht
      | arrival new => exact h.hub_after rfl rfl rfl
      | session here moves queued taken sender => exact h.hub_after taken rfl rfl
      | giveUp here sender closed =>
        cases (h.sound.shut.handling here sender).symm.trans closed

/-- `Course.run?` preserves `Winds`. -/
theorem run (h : c.Winds (.fresh accounts mint outages)) (hd : c.run? steps = some d) :
    d.Winds (.fresh accounts mint outages) := by
  induction steps generalizing c with
  | nil =>
    cases hd
    exact h
  | cons a steps ih =>
    obtain ⟨e, he, hd⟩ := Option.bind_eq_some_iff.1 hd
    exact ih (h.step he) hd

end Course.Winds

end Server

end GroupChat
