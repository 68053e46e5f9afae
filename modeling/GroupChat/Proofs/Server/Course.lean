import GroupChat.Proofs.Server.Moves

/-!
# What the hub is given in the course of a server

Many clients put their items into one queue, while the hub takes them out of it and the server may
be stopped. Whatever the order of the single steps, the hub is given of one client its registration,
one item for each frame that holds a text or other bytes, in the order in which they arrived, and
that it goes. It goes after a frame that ends the reading, or because no more frames come, none has
come for too long, or its token was set. No client ever finds the queue closed.

## Main definitions

- `Server.Course`: a server with the steps that it took and the items that the hub was given.
- `Course.frames`, `Course.fed`: the frames of a client that have arrived, and its items.
- `Course.Stop`: why nothing more is read of a client.
- `Course.Feed`: what was queued of a client.
- `Course.Stands`: how far a client is, with its frames and its items.

## Main statements

- `Stands.later`, `Stands.moves`: what a step preserves for a client.
- `Course.Sound.step`, `Course.Sound.run_steps`: frames and items fit in all courses.
- `reachable_iff_run?`: courses lead to all states that can be reached.
- `fed_of_run?`: what was queued of a client comes from its frames.
-/

namespace GroupChat

namespace Server

/-- A `server`, with where it began, the steps that it took, and the items that the hub was given.
-/
structure Course where
  /-- The server. -/
  server : Server
  /-- The server as it began. -/
  start : Server := server
  /-- The steps, in order. -/
  steps : List Action := []
  /-- The items, in order. -/
  given : List Inbound := []

namespace Course

/-- The course `c` when the step `a` has led to the server `t`. -/
def after (c : Course) (a : Action) (t : Server) : Course where
  server := t
  start := c.start
  steps := c.steps ++ [a]
  given := c.given ++ c.server.taken a

/-- The course `c` after the step `a`, if `act?` allows it. -/
def step? (c : Course) (a : Action) : Option Course := (c.server.act? a).map (c.after a)

/-- The course `c` after several steps, by `step?`. -/
def run? (c : Course) (steps : List Action) : Option Course := steps.foldlM step? c

/-- The frames of the client `id` that have arrived, in order. -/
def frames (c : Course) (id : String) : List Frame := c.steps.filterMap (·.frame? id)

/-- The items of the client `id` that the hub was given, and those in the queue, in order. -/
def fed (c : Course) (id : String) : List Inbound :=
  (c.given ++ c.server.queue).filter (·.connection.id == id)

/-- `d` is the course `c` as it was after some of its steps. -/
def Passed (c d : Course) : Prop :=
  run? { server := c.start } d.steps = some d ∧ d.steps <+: c.steps

/-- Why nothing more is read of a client `x`, after the frames `read` that gave `items`, when the
frames `rest` are those that arrived after them. -/
inductive Stop (c : Course) (x : Connection) (read rest : List Frame) (items : List Inbound) :
    Prop where
  /-- The next frame asks for the end, or cannot be read. -/
  | frame {f : Frame} {later : List Frame} (next : rest = f :: later)
      (ends : f.Ends c.start.settings.maxFrameSize) : Stop c x read rest items
  /-- No more frames will come. -/
  | hungUp (hungUp : .hangUp x.id ∈ c.steps) (nothing : rest = []) : Stop c x read rest items
  /-- When the items were queued, no frame came for as long as a client may be silent. -/
  | silent {d e : Course} (first : c.Passed d) (second : c.Passed e)
      (queued : d.fed x.id = .register x :: items) (before : d.frames x.id = read)
      (after : e.frames x.id = read)
      (long : d.server.clock + c.start.settings.idleTimeout * 1000 ≤ e.server.clock) :
      Stop c x read rest items
  /-- The token of the client was set. -/
  | cancelled {d : Course} (earlier : c.Passed d) (closing : d.server.lines.isClosing x.id = true) :
      Stop c x read rest items

/-- What was queued of a client `x` that is registered. -/
inductive Feed (c : Course) (x : Connection) : List Inbound → Prop where
  /-- Its registration, and the items of the first frames. -/
  | started {read rest : List Frame} {items : List Inbound} (frames : c.frames x.id = read ++ rest)
      (feeds : Feeds c.start.settings.maxFrameSize x read items) : Feed c x (.register x :: items)
  /-- Its registration, the items of the frames up to where the reading ended, and that it goes. -/
  | ended {read rest : List Frame} {items : List Inbound} (frames : c.frames x.id = read ++ rest)
      (feeds : Feeds c.start.settings.maxFrameSize x read items) (stop : c.Stop x read rest items) :
      Feed c x (.register x :: items ++ [.unregister x])

/-- The frames `read` of a client, and nothing else, were read and their items queued at a time. -/
def Idle (c : Course) (x : Connection) (read : List Frame) (items : List Inbound) (since : Nat) :
    Prop :=
  ∃ d, c.Passed d ∧ d.server.clock = since ∧ d.fed x.id = .register x :: items ∧
    read <+: d.frames x.id

/-- How far the client of the session `s` is: the frames that were read, those that wait, and the
items that were queued fit its `phase`. -/
inductive Stands (c : Course) (s : Session) : List Inbound → Prop where
  /-- Nothing is queued, and all frames wait. -/
  | outside (phase : s.phase.isOutside = true) (waiting : s.incoming =
      (c.frames s.connection.id).map (·.read c.start.settings.maxFrameSize)) : Stands c s []
  /-- The registration is queued, and all frames wait. -/
  | entered (phase : s.phase = .entered) (waiting : s.incoming =
      (c.frames s.connection.id).map (·.read c.start.settings.maxFrameSize)) :
      Stands c s [.register s.connection]
  /-- All items are queued. -/
  | reading {since : Nat} {read rest : List Frame} {items : List Inbound}
      (phase : s.phase = .reading since) (frames : c.frames s.connection.id = read ++ rest)
      (waiting : s.incoming = rest.map (·.read c.start.settings.maxFrameSize))
      (feeds : Feeds c.start.settings.maxFrameSize s.connection read items)
      (idle : c.Idle s.connection read items since) : Stands c s (.register s.connection :: items)
  /-- All items but the last one are queued. -/
  | posting {item : Inbound} {read rest : List Frame} {f : Frame} {items : List Inbound}
      (phase : s.phase = .posting item) (frames : c.frames s.connection.id = read ++ f :: rest)
      (waiting : s.incoming = rest.map (·.read c.start.settings.maxFrameSize))
      (feeds : Feeds c.start.settings.maxFrameSize s.connection read items)
      (yields : f.Yields c.start.settings.maxFrameSize s.connection item) :
      Stands c s (.register s.connection :: items)
  /-- All items are queued, and nothing more will be read. -/
  | leaving {read rest : List Frame} {items : List Inbound} (phase : s.phase = .leaving)
      (frames : c.frames s.connection.id = read ++ rest)
      (feeds : Feeds c.start.settings.maxFrameSize s.connection read items)
      (stop : c.Stop s.connection read rest items) : Stands c s (.register s.connection :: items)
  /-- Everything is queued. -/
  | finished {read rest : List Frame} {items : List Inbound} (phase : s.phase = .finished)
      (frames : c.frames s.connection.id = read ++ rest)
      (feeds : Feeds c.start.settings.maxFrameSize s.connection read items)
      (stop : c.Stop s.connection read rest items) :
      Stands c s (.register s.connection :: items ++ [.unregister s.connection])

/-- What was queued of the client `id` fits what was read of it (`Stands`), if it has arrived at
all. -/
structure Fits (c : Course) (id : String) : Prop where
  /-- Nothing is known of a client that has not arrived. -/
  absent (away : c.server.sessions.get? id = none) :
    c.frames id = [] ∧ c.fed id = [] ∧ .hangUp id ∉ c.steps
  /-- Any other one has its own connection, and is as far as its frames and items say. -/
  session {s : Session} (here : c.server.sessions.get? id = some s) : s.connection.id = id ∧
    .arrive s.connection ∈ c.steps ∧ (s.hungUp = true ↔ .hangUp id ∈ c.steps) ∧
    c.Stands s (c.fed id)

/-- No client finds the queue closed (`Shut`), and all that was queued fits (`Fits`). -/
structure Sound (c : Course) : Prop where
  /-- The steps have led to where it is. -/
  run : c.Passed c
  /-- The settings stay. -/
  settings : c.server.settings = c.start.settings
  /-- The queue is closed for good. -/
  shut : c.server.Shut
  /-- What was queued fits. -/
  fits (id : String) : c.Fits id

variable {c d : Course} {s s' : Session} {t : Server} {a : Action} {id : String} {x : Connection}
  {fed items : List Inbound} {read rest new : List Frame}

/-! ### One step further -/

theorem run?_append (c : Course) (steps steps' : List Action) :
    c.run? (steps ++ steps') = (c.run? steps).bind (·.run? steps') := by
  rw [run?, List.foldlM_append]
  rfl

/-- `Passed` one step later: the steps and frames so far are still among those of the course. -/
theorem Passed.after (h : c.Passed d) (a : Action) (t : Server) : (c.after a t).Passed d :=
  ⟨h.1, h.2.trans (List.prefix_append _ _)⟩

/-- A course has `Passed` itself after one more step. -/
theorem Passed.after_self (h : c.Passed c) (ht : c.server.act? a = some t) :
    (c.after a t).Passed (c.after a t) := by
  refine ⟨?_, List.prefix_refl _⟩
  show run? { server := c.start } (c.steps ++ [a]) = some (c.after a t)
  rw [run?_append, h.1, Option.bind_some]
  show (c.step? a).bind some = _
  rw [step?, ht]
  rfl

theorem frames_after (c : Course) (a : Action) (t : Server) (id : String) :
    (c.after a t).frames id = c.frames id ++ (a.frame? id).toList := by
  show (c.steps ++ [a]).filterMap (·.frame? id) = _
  rw [List.filterMap_append]
  cases h : a.frame? id <;> simp [frames, h]

theorem fed_after (hqueue : c.server.taken a ++ t.queue = c.server.queue ++ items) (id : String) :
    (c.after a t).fed id = c.fed id ++ items.filter (·.connection.id == id) := by
  show ((c.given ++ c.server.taken a) ++ t.queue).filter (·.connection.id == id) = _
  rw [List.append_assoc, hqueue, ← List.append_assoc, List.filter_append]
  rfl

theorem fed_after_of_nothing (hqueue : c.server.taken a ++ t.queue = c.server.queue)
    (id : String) : (c.after a t).fed id = c.fed id := by
  rw [fed_after (hqueue.trans (List.append_nil _).symm)]
  exact List.append_nil _

theorem Passed.frames_prefix (h : c.Passed d) (id : String) : d.frames id <+: c.frames id :=
  h.2.filterMap _

/-! ### One client -/

/-- `Stop` lasts, as nothing arrives once a client has hung up. -/
theorem Stop.after (h : c.Stop x read rest items) (a : Action) (t : Server)
    (hnew : .hangUp x.id ∈ c.steps → new = []) :
    (c.after a t).Stop x read (rest ++ new) items := by
  cases h with
  | frame next ends => exact .frame (by rw [next, List.cons_append]) ends
  | hungUp hungUp nothing =>
    exact .hungUp (List.mem_append_left _ hungUp) (by rw [nothing, hnew hungUp, List.append_nil])
  | silent first second queued before after long =>
    exact .silent (first.after a t) (second.after a t) queued before after long
  | cancelled earlier closing => exact .cancelled (earlier.after a t) closing

theorem Idle.after {since : Nat} (h : c.Idle x read items since) (a : Action) (t : Server) :
    (c.after a t).Idle x read items since := by
  obtain ⟨d, hd, hrest⟩ := h
  exact ⟨d, hd.after a t, hrest⟩

/-- A client `Stands` as before while nothing but frames arrives from it. -/
theorem Stands.later (h : c.Stands s fed) (a : Action) (t : Server)
    (hframes : (c.after a t).frames s.connection.id = c.frames s.connection.id ++ new)
    (hnew : .hangUp s.connection.id ∈ c.steps → new = []) (hungUp : Bool) :
    (c.after a t).Stands { s with
      incoming := s.incoming ++ new.map (·.read c.start.settings.maxFrameSize)
      hungUp } fed := by
  -- what arrives is read after everything that waits already
  have hwaiting : ∀ {rest : List Frame},
      s.incoming = rest.map (·.read c.start.settings.maxFrameSize) →
      s.incoming ++ new.map (·.read c.start.settings.maxFrameSize) =
        (rest ++ new).map (·.read c.start.settings.maxFrameSize) := fun h => by
    rw [h, List.map_append]
  -- and what was read stays a first part of all that arrived
  have hsplit : ∀ {read rest : List Frame}, c.frames s.connection.id = read ++ rest →
      (c.after a t).frames s.connection.id = read ++ (rest ++ new) := fun h => by
    rw [hframes, h, List.append_assoc]
  cases h with
  | outside phase waiting => exact .outside phase (by rw [hframes]; exact hwaiting waiting)
  | entered phase waiting => exact .entered phase (by rw [hframes]; exact hwaiting waiting)
  | reading phase frames waiting feeds idle =>
    exact .reading phase (hsplit frames) (hwaiting waiting) feeds (idle.after a t)
  | posting phase frames waiting feeds yields =>
    exact .posting phase (hsplit frames) (hwaiting waiting) feeds yields
  | leaving phase frames feeds stop =>
    exact .leaving phase (hsplit frames) feeds (stop.after a t hnew)
  | finished phase frames feeds stop =>
    exact .finished phase (hsplit frames) feeds (stop.after a t hnew)

/-- A client from which nothing arrives `Stands` as before. -/
theorem Stands.kept (h : c.Stands s fed) (a : Action) (t : Server)
    (hframes : (c.after a t).frames s.connection.id = c.frames s.connection.id) :
    (c.after a t).Stands s fed := by
  have hnone : (c.after a t).frames s.connection.id = c.frames s.connection.id ++ [] := by
    rw [hframes, List.append_nil]
  have hlater := h.later a t hnone (fun _ => rfl) s.hungUp
  rw [List.map_nil, List.append_nil] at hlater
  exact hlater

/-- If the phase `isOutside`, nothing of the client is queued, and all its frames are still to be
read. -/
theorem Stands.of_isOutside (h : c.Stands s fed) (hs : s.phase.isOutside = true) :
    fed = [] ∧ s.incoming =
      (c.frames s.connection.id).map (·.read c.start.settings.maxFrameSize) := by
  cases h with
  | outside phase waiting => exact ⟨rfl, waiting⟩
  | entered phase | reading phase | posting phase | leaving phase | finished phase =>
    rw [phase] at hs
    cases hs

/-- In the phase `.reading`, what is queued of a client is its `.register` and the items of the
frames that were read. -/
theorem Stands.of_reading {since : Nat} (h : c.Stands s fed) (hs : s.phase = .reading since) :
    ∃ read rest items, fed = .register s.connection :: items ∧
      c.frames s.connection.id = read ++ rest ∧
      s.incoming = rest.map (·.read c.start.settings.maxFrameSize) ∧
      Feeds c.start.settings.maxFrameSize s.connection read items ∧
      c.Idle s.connection read items since := by
  cases h with
  | outside phase =>
    rw [hs] at phase
    cases phase
  | reading phase frames waiting feeds idle =>
    cases hs.symm.trans phase
    exact ⟨_, _, _, rfl, frames, waiting, feeds, idle⟩
  | entered phase | posting phase | leaving phase | finished phase => cases hs.symm.trans phase

/-- In the phase `.entered`, the `.register` of a client is queued, and all its frames are still to
be read. -/
theorem Stands.of_entered (h : c.Stands s fed) (hs : s.phase = .entered) :
    fed = [.register s.connection] ∧ s.incoming =
      (c.frames s.connection.id).map (·.read c.start.settings.maxFrameSize) := by
  cases h with
  | outside phase =>
    rw [hs] at phase
    cases phase
  | entered phase waiting => exact ⟨rfl, waiting⟩
  | reading phase | posting phase | leaving phase | finished phase => cases hs.symm.trans phase

/-- In the phase `.posting`, the item that one more frame `Yields` is not queued yet. -/
theorem Stands.of_posting {item : Inbound} (h : c.Stands s fed) (hs : s.phase = .posting item) :
    ∃ read f rest items, fed = .register s.connection :: items ∧
      c.frames s.connection.id = (read ++ [f]) ++ rest ∧
      s.incoming = rest.map (·.read c.start.settings.maxFrameSize) ∧
      Feeds c.start.settings.maxFrameSize s.connection read items ∧
      f.Yields c.start.settings.maxFrameSize s.connection item := by
  cases h with
  | outside phase =>
    rw [hs] at phase
    cases phase
  | posting phase frames waiting feeds yields =>
    cases hs.symm.trans phase
    exact ⟨_, _, _, _, rfl, frames.trans (List.append_cons ..), waiting, feeds, yields⟩
  | entered phase | reading phase | leaving phase | finished phase => cases hs.symm.trans phase

/-- In the phase `.leaving`, the items of the frames that were read are queued, and something is the
`Stop` of the reading. -/
theorem Stands.of_leaving (h : c.Stands s fed) (hs : s.phase = .leaving) :
    ∃ read rest items, fed = .register s.connection :: items ∧
      c.frames s.connection.id = read ++ rest ∧
      Feeds c.start.settings.maxFrameSize s.connection read items ∧
      c.Stop s.connection read rest items := by
  cases h with
  | outside phase =>
    rw [hs] at phase
    cases phase
  | leaving phase frames feeds stop => exact ⟨_, _, _, rfl, frames, feeds, stop⟩
  | entered phase | reading phase | posting phase | finished phase => cases hs.symm.trans phase

/-- What a client that `Stands` has put into the queue is a `Feed` of it, if it is anything. -/
theorem Stands.feed (h : c.Stands s fed) : fed = [] ∨ c.Feed s.connection fed := by
  cases h with
  | outside => exact Or.inl rfl
  | entered => exact Or.inr (.started (List.nil_append _).symm .nil)
  | reading _ frames _ feeds | posting _ frames _ feeds => exact Or.inr (.started frames feeds)
  | leaving _ frames feeds => exact Or.inr (.started frames feeds)
  | finished _ frames feeds stop => exact Or.inr (.ended frames feeds stop)

/-- Every item of a `Feed` is about its client. -/
theorem Feed.connection {item : Inbound} (h : c.Feed x fed) (hitem : item ∈ fed) :
    item.connection = x := by
  have hstarted : ∀ {read items}, Feeds c.start.settings.maxFrameSize x read items →
      item ∈ Inbound.register x :: items → item.connection = x := fun feeds hitem => by
    rcases List.mem_cons.1 hitem with rfl | hitem
    · rfl
    · exact feeds.connection hitem
  cases h with
  | started frames feeds => exact hstarted feeds hitem
  | ended frames feeds stop =>
    rcases List.mem_append.1 hitem with hitem | hitem
    · exact hstarted feeds hitem
    · rw [List.mem_singleton.1 hitem]
      rfl

/-- Every item that `Session.Moves` puts into the queue is about its client. -/
theorem Stands.connection_of_moves {v : Server} {item : Inbound} (h : c.Stands s fed)
    (hm : s.Moves v id a s' new items) (hitem : item ∈ items) : item.connection = s.connection := by
  cases hm with
  | enter | leave =>
    rw [List.mem_singleton.1 hitem]
    rfl
  | post before =>
    rw [List.mem_singleton.1 hitem]
    obtain ⟨_, _, _, _, _, _, _, _, hyields⟩ := h.of_posting before
    exact hyields.connection
  | receive | hangUp | approach | start | read | readEnd | timeOut | notice => cases hitem

/-- A client `Stands` when its next message was read: it has an item to put into the queue, it
leaves, or it is read on. -/
theorem Stands.reads {since : Nat} {m : Message} {waiting : List Message} (h : c.Stands s fed)
    (before : s.phase = .reading since) (next : s.incoming = m :: waiting)
    (hframes : (c.after a t).frames s.connection.id = c.frames s.connection.id)
    (hidle : ∀ {read rest items}, fed = .register s.connection :: items →
      (c.after a t).frames s.connection.id = read ++ rest →
      (c.after a t).Idle s.connection read items c.server.clock) :
    (c.after a t).Stands { s with
      phase := Session.phaseAfter s.connection c.server.clock m
      incoming := waiting } fed := by
  obtain ⟨read, rest, items, rfl, hread, hwaiting, hfeeds, -⟩ := h.of_reading before
  obtain ⟨f, rest, rfl, rfl, rfl⟩ := List.map_eq_cons_iff.1 (hwaiting.symm.trans next)
  have hread' := hframes.trans hread
  unfold Session.phaseAfter
  split
  · rename_i item hitem
    exact .posting rfl hread' rfl hfeeds (Frame.item?_read_iff.1 hitem)
  · rename_i hnone
    rcases Frame.ends_or_isSign hnone with ⟨hends, hlast⟩ | ⟨hsign, hmore⟩
    · rw [hlast, if_pos rfl]
      exact .leaving rfl hread' hfeeds (.frame rfl hends)
    · rw [hmore, if_neg Bool.false_ne_true]
      have hsplit := hread'.trans (List.append_cons ..)
      exact .reading rfl hsplit rfl (.sign hfeeds hsign) (hidle rfl hsplit)

/-- A client that is read and stops being read `Stands` as one that leaves, for whatever `Stop`. -/
theorem Stands.stops {since : Nat} (h : c.Stands s fed) (before : s.phase = .reading since)
    (hframes : (c.after a t).frames s.connection.id = c.frames s.connection.id)
    (hstop : ∀ {read rest items}, fed = .register s.connection :: items →
      c.frames s.connection.id = read ++ rest →
      s.incoming = rest.map (·.read c.start.settings.maxFrameSize) →
      c.Idle s.connection read items since → (c.after a t).Stop s.connection read rest items) :
    (c.after a t).Stands { s with phase := .leaving } fed := by
  obtain ⟨read, rest, items, rfl, hread, hwaiting, hfeeds, hidle⟩ := h.of_reading before
  exact .leaving rfl (hframes.trans hread) hfeeds (hstop rfl hread hwaiting hidle)

/-- A client that was `Idle` for as long as it may be silent gives a `Stop`. -/
theorem Idle.stop {since : Nat} (h : c.Idle x read items since) (hself : c.Passed c)
    (hread : c.frames x.id = read)
    (late : since + c.start.settings.idleTimeout * 1000 ≤ c.server.clock) :
    c.Stop x read [] items := by
  obtain ⟨d, hd, rfl, hqueued, hfirst⟩ := h
  -- what had arrived when the reader began to wait is all that has arrived by now
  have hsame : d.frames x.id = read := by
    have hlast := hd.frames_prefix x.id
    rw [hread] at hlast
    exact (hfirst.eq_of_length_le hlast.length_le).symm
  exact .silent hd hself hqueued hsame hread late

/-- `Session.Moves` preserves `Stands`. The cases are those of the move; only the reading ones put
anything into the queue. -/
theorem Stands.moves {fed : List Inbound} (h : c.Stands s fed) (hself : c.Passed c)
    (hsettings : c.server.settings = c.start.settings) (hclock : t.clock = c.server.clock)
    (ht : c.server.act? a = some t) (hm : s.Moves c.server s.connection.id a s' new items)
    (hfed : (c.after a t).fed s.connection.id = fed ++ items)
    (hung : s.hungUp = true ↔ .hangUp s.connection.id ∈ c.steps) :
    (c.after a t).Stands s' (fed ++ items) := by
  have hframes : (c.after a t).frames s.connection.id = c.frames s.connection.id ++ new := by
    rw [frames_after, hm.frame?, if_pos rfl]
  -- the reader waits from now on, and all items of what was read are queued
  have hidle : ∀ {read rest items'}, fed ++ items = .register s.connection :: items' →
      (c.after a t).frames s.connection.id = read ++ rest →
      (c.after a t).Idle s.connection read items' c.server.clock := fun hitems hread =>
    ⟨c.after a t, hself.after_self ht, hclock, hfed.trans hitems,
      by rw [hread]; exact List.prefix_append _ _⟩
  cases hm with
  | receive listens =>
    have hnone : .hangUp s.connection.id ∉ c.steps := fun h => by
      rw [hung.2 h] at listens
      cases listens
    rw [List.append_nil, hsettings]
    exact h.later _ t hframes (fun h => absurd h hnone) s.hungUp
  | hangUp =>
    have hlater := h.later _ t hframes (fun _ => rfl) true
    rw [List.map_nil, List.append_nil] at hlater
    rw [List.append_nil]
    exact hlater
  | approach before after =>
    obtain ⟨rfl, hwaiting⟩ := h.of_isOutside before
    rw [List.append_nil] at hframes
    exact .outside after (by rw [hframes]; exact hwaiting)
  | start before =>
    obtain ⟨rfl, hwaiting⟩ := h.of_entered before
    rw [List.append_nil] at hframes
    have hnone := hframes.trans (List.nil_append _).symm
    exact .reading rfl hnone hwaiting .nil (hidle rfl hnone)
  | read before next =>
    rw [List.append_nil] at hframes hidle ⊢
    exact h.reads before next hframes hidle
  | readEnd before nothing hungUp =>
    rw [List.append_nil] at hframes ⊢
    refine h.stops before hframes fun _ _ hwaiting _ => ?_
    exact .hungUp (List.mem_append_left _ (hung.1 hungUp))
      (List.map_eq_nil_iff.1 (hwaiting.symm.trans nothing))
  | timeOut before nothing late =>
    rw [List.append_nil] at hframes ⊢
    refine h.stops before hframes fun _ hread hwaiting hwaits => ?_
    obtain rfl := List.map_eq_nil_iff.1 (hwaiting.symm.trans nothing)
    rw [List.append_nil] at hread
    rw [hsettings] at late
    exact (hwaits.stop hself hread late).after _ t fun _ => rfl
  | notice before closing =>
    rw [List.append_nil] at hframes ⊢
    exact h.stops before hframes fun _ _ _ _ => .cancelled (hself.after _ t) closing
  | enter before =>
    obtain ⟨rfl, hwaiting⟩ := h.of_isOutside (by rw [before]; rfl)
    rw [List.append_nil] at hframes
    exact .entered rfl (by rw [hframes]; exact hwaiting)
  | post before =>
    obtain ⟨read, f, rest, items, rfl, hread, hwaiting, hfeeds, hyields⟩ := h.of_posting before
    rw [List.append_nil] at hframes
    have hsplit := hframes.trans hread
    exact .reading rfl hsplit hwaiting (.item hfeeds hyields) (hidle rfl hsplit)
  | leave before =>
    obtain ⟨read, rest, items, rfl, hread, hfeeds, hstop⟩ := h.of_leaving before
    rw [List.append_nil] at hframes
    have hstop' := hstop.after (.post s.connection.id) t
      (fun _ => rfl : .hangUp s.connection.id ∈ c.steps → ([] : List Frame) = [])
    rw [List.append_nil] at hstop'
    exact .finished rfl (hframes.trans hread) hfeeds hstop'

/-! ### All clients -/

/-- `Fits` stays for a client that a step does not concern. -/
theorem Fits.kept (h : c.Fits id) (hsession : t.sessions.get? id = c.server.sessions.get? id)
    (hnothing : a.frame? id = none ∧ a ≠ .hangUp id)
    (hfed : (c.after a t).fed id = c.fed id) : (c.after a t).Fits id := by
  -- neither its frames nor whether it hung up can have changed
  have hframes : (c.after a t).frames id = c.frames id := by
    rw [frames_after, hnothing.1]
    exact List.append_nil _
  have hung : .hangUp id ∈ (c.after a t).steps ↔ .hangUp id ∈ c.steps := by
    show .hangUp id ∈ c.steps ++ [a] ↔ _
    rw [List.mem_append, List.mem_singleton, or_iff_left hnothing.2.symm]
  constructor
  · intro away
    rw [hframes, hfed, hung]
    exact h.absent (hsession.symm.trans away)
  · intro s here
    obtain ⟨hid, harrived, hhung, hstands⟩ := h.session (hsession.symm.trans here)
    refine ⟨hid, List.mem_append_left _ harrived, hhung.trans hung.symm, ?_⟩
    rw [hfed]
    exact hstands.kept a t (hid ▸ hframes)

/-- `Fits` after an arrival: nothing is queued of the new client, and the others are as they were.
-/
theorem Fits.arrival (hc : ∀ id, c.Fits id) (new : c.server.sessions.get? x.id = none)
    (ht : t = { c.server with sessions := c.server.sessions.insert x.id { connection := x } })
    (id : String) : (c.after (.arrive x) t).Fits id := by
  have hqueue : c.server.taken (.arrive x) ++ t.queue = c.server.queue := by
    rw [ht]
    rfl
  have hfed := fed_after_of_nothing hqueue
  have hsessions : t.sessions = c.server.sessions.insert x.id { connection := x } := ht ▸ rfl
  by_cases hid : id = x.id
  · subst hid
    -- nothing was ever heard of somebody who has no session yet
    obtain ⟨hunheard, hunfed, hnot⟩ := (hc x.id).absent new
    have hself : t.sessions.get? x.id = some { connection := x } := by
      rw [hsessions, Table.get?_insert_self]
    have hnot' : .hangUp x.id ∉ (c.after (.arrive x) t).steps := fun hmem => by
      rcases List.mem_append.1 hmem with hmem | hmem
      · exact hnot hmem
      · cases List.mem_singleton.1 hmem
    constructor
    · intro away
      cases hself.symm.trans away
    · intro s here
      cases hself.symm.trans here
      refine ⟨rfl, List.mem_append_right _ (List.mem_singleton.2 rfl), iff_of_false nofun hnot', ?_⟩
      rw [hfed, hunfed]
      refine .outside rfl ?_
      show [] = ((c.after (.arrive x) t).frames x.id).map _
      rw [frames_after, hunheard]
      rfl
  · refine (hc id).kept ?_ ⟨rfl, nofun⟩ (hfed id)
    rw [hsessions, Table.get?_insert_of_ne hid]

/-- `Fits` after a move of one client: that one `Stands` as its phase says, and the others are as
they were. -/
theorem Fits.session_moves {id' : String} {old new : Session} {arrived : List Frame}
    (hc : c.Sound) (ht : c.server.act? a = some t) (here : c.server.sessions.get? id' = some old)
    (moves : old.Moves c.server id' a new arrived items) (hclock : t.clock = c.server.clock)
    (hsessions : t.sessions = c.server.sessions.insert id' new)
    (hqueue : c.server.taken a ++ t.queue = c.server.queue ++ items) (id : String) :
    (c.after a t).Fits id := by
  obtain ⟨rfl, harrived, hung, hstands⟩ := (hc.fits id').session here
  -- what is queued is about the client that moves, so the others keep their feed
  have habout : ∀ item ∈ items, item.connection.id = old.connection.id := fun item hitem => by
    rw [hstands.connection_of_moves moves hitem]
  have hfed := fed_after hqueue id
  by_cases hid : id = old.connection.id
  · subst hid
    have hself : t.sessions.get? old.connection.id = some new := by
      rw [hsessions, Table.get?_insert_self]
    rw [List.filter_eq_self.2 fun item hitem => beq_iff_eq.2 (habout item hitem)] at hfed
    constructor
    · intro away
      cases hself.symm.trans away
    · intro s here
      cases hself.symm.trans here
      refine ⟨by rw [moves.connection], List.mem_append_left _ (moves.connection ▸ harrived), ?_, ?_⟩
      · rw [moves.hungUp_iff, hung]
        show _ ↔ .hangUp old.connection.id ∈ c.steps ++ [a]
        rw [List.mem_append, List.mem_singleton, eq_comm (a := a)]
      · rw [hfed]
        exact hstands.moves hc.run hc.settings hclock ht moves hfed hung
  · have hnone : items.filter (·.connection.id == id) = [] := by
      refine List.filter_eq_nil_iff.2 fun item hitem hitem' => hid ?_
      exact (beq_iff_eq.1 hitem').symm.trans (habout item hitem)
    rw [hnone, List.append_nil] at hfed
    refine (hc.fits id).kept ?_ (moves.nothing_of_ne hid) hfed
    rw [hsessions, Table.get?_insert_of_ne hid]

/-- `Course.step?` preserves `Sound`. -/
theorem Sound.step (hc : c.Sound) (h : c.step? a = some d) : d.Sound := by
  obtain ⟨t, ht, rfl⟩ := Option.map_eq_some_iff.1 h
  have hmoves : c.server.Moves a t := act?_moves ht
  refine ⟨hc.run.after_self ht, (hmoves.settings hc.shut).trans hc.settings, hc.shut.moves hmoves,
    fun id => ?_⟩
  cases hmoves with
  | rest rests =>
    exact (hc.fits id).kept (by rw [rests.sessions]) (rests.nothing id)
      (fed_after_of_nothing rests.queue id)
  | arrival new => exact Fits.arrival hc.fits new rfl id
  | session here moves queued taken sender =>
    refine Fits.session_moves hc ht here moves rfl rfl ?_ id
    rw [taken]
    exact queued
  -- the queue is open to whoever has a sender, so nobody gives up
  | giveUp here sender closed => cases (hc.shut.handling here sender).symm.trans closed

/-- `Course.run?` preserves `Sound`. -/
theorem Sound.run_steps {steps : List Action} (hc : c.Sound) (h : c.run? steps = some d) :
    d.Sound := by
  induction steps generalizing c with
  | nil =>
    cases h
    exact hc
  | cons a steps ih =>
    obtain ⟨e, he, h⟩ := Option.bind_eq_some_iff.1 h
    exact ih (hc.step he) h

/-- A course without steps is `Sound`. -/
theorem sound_start (settings : Settings) (hub : Hub) :
    Sound { server := { settings, hub } } where
  run := ⟨rfl, List.prefix_refl _⟩
  settings := rfl
  shut open' := by cases open'
  fits id := {
    absent := fun _ => ⟨rfl, rfl, List.not_mem_nil⟩
    session := fun here => by cases here }

/-- `Course.run?` keeps the start, and adds the steps that were taken. -/
theorem run?_start {steps : List Action} (h : c.run? steps = some d) :
    d.start = c.start ∧ d.steps = c.steps ++ steps := by
  induction steps generalizing c with
  | nil =>
    cases h
    exact ⟨rfl, (List.append_nil _).symm⟩
  | cons a steps ih =>
    obtain ⟨e, he, h⟩ := Option.bind_eq_some_iff.1 h
    obtain ⟨t, -, rfl⟩ := Option.map_eq_some_iff.1 he
    obtain ⟨hstart, hsteps⟩ := ih h
    exact ⟨hstart, hsteps.trans (List.append_cons ..).symm⟩

end Course

variable {s : Server}

/-- `Reachable` states are those at the end of a course. -/
theorem reachable_iff_run? {start : Server} :
    Reachable start s ↔
      ∃ steps c, Course.run? { server := start } steps = some c ∧ c.server = s := by
  constructor
  · intro h
    induction h with
    | refl => exact ⟨[], _, rfl, rfl⟩
    | @step s t a _ ht ih =>
      obtain ⟨steps, c, hc, rfl⟩ := ih
      refine ⟨steps ++ [a], c.after a t, ?_, rfl⟩
      rw [Course.run?_append, hc]
      show (c.step? a).bind _ = _
      rw [Course.step?, ht]
      rfl
  · rintro ⟨steps, c, hc, rfl⟩
    -- the induction needs every course, not only one without steps
    suffices h : ∀ d : Course, d.run? steps = some c → Reachable d.server c.server from h _ hc
    clear hc
    induction steps with
    | nil =>
      intro d hd
      cases hd
      exact .refl
    | cons a steps ih =>
      intro d hd
      obtain ⟨e, he, hd⟩ := Option.bind_eq_some_iff.1 hd
      obtain ⟨t, ht, rfl⟩ := Option.map_eq_some_iff.1 he
      exact (Reachable.step a .refl ht).trans (ih (d.after a t) hd)

/-- Whatever the order of the steps, nothing is queued of a client, or its registration and the
items of its first frames, and that it goes only if the reading came to an end at this point. -/
theorem fed_of_run? {settings : Settings} {hub : Hub} {steps : List Action} {c : Course}
    (h : Course.run? { server := { settings, hub } } steps = some c) (id : String) :
    c.start = { settings, hub } ∧ c.steps = steps ∧
      (c.fed id = [] ∨ ∃ x : Connection, x.id = id ∧ .arrive x ∈ steps ∧ c.Feed x (c.fed id)) := by
  obtain ⟨hstart, hsteps⟩ := Course.run?_start h
  have hsteps : c.steps = steps := hsteps
  have hfits : c.Fits id := ((Course.sound_start settings hub).run_steps h).fits id
  refine ⟨hstart, hsteps, ?_⟩
  cases hsession : c.server.sessions.get? id with
  | none => exact Or.inl (hfits.absent hsession).2.1
  | some s =>
    obtain ⟨hid, harrived, -, hstands⟩ := hfits.session hsession
    exact hstands.feed.imp_right fun hfeed => ⟨s.connection, hid, hsteps ▸ harrived, hfeed⟩

/-- `ann` comes, sends a text, a sign of life and other bytes, and ends the connection. `bob` comes
in between, while the server is told to stop. -/
def errand : List Action :=
  [.arrive ⟨"1", "ann", "Ann", .user⟩, .approach "1", .approach "1",
    .arrive ⟨"2", "bob", "Bob", .user⟩, .post "1", .approach "2", .approach "2", .start "1",
    .receive "1" (.text "\x7b\x7d".toUTF8), .receive "1" (.ping .empty), .post "2", .handle,
    .receive "1" (.binary .empty), .read "1", .stop, .proceed, .start "2", .notice "2",
    .receive "1" .close, .post "1", .read "1", .read "1", .post "2", .post "1", .handle, .read "1",
    .post "1"]

/-- Of the first client of `errand` everything is queued, with an item for the text and one for the
other bytes. -/
theorem fed_of_errand : ∃ c,
    Course.run? { server := { settings := .standard, hub := {} } } errand = some c ∧
      (c.fed "1").length = 4 ∧
      c.start = { settings := .standard, hub := {} } ∧ c.steps = errand ∧
        (c.fed "1" = [] ∨
          ∃ x : Connection, x.id = "1" ∧ .arrive x ∈ errand ∧ c.Feed x (c.fed "1")) := by
  have hrun : ((Course.run? { server := { settings := .standard, hub := {} } } errand).any
      fun c => (c.fed "1").length == 4) = true := by decide +kernel
  obtain ⟨c, hc, hlength⟩ := (Option.any_eq_true _ _).1 hrun
  exact ⟨c, hc, beq_iff_eq.1 hlength, fed_of_run? hc "1"⟩

end Server

end GroupChat
