import GroupChat.Proofs.Hub.Isolation
import GroupChat.Proofs.Server.Script

/-!
# What the steps of a server do

Most of what a server does is about one client that makes a move, or about none. This is all that
has to be known of a step in order to prove what all steps preserve.

## Main definitions

- `Server.Rests`: what a step does that is about no client.
- `Server.Moves`: what a step does.
- `Server.Shut`: the queue is closed to no client that may still put items into it.

## Main statements

- `act?_moves`: every step makes a move.
- `Shut.moves`: every step preserves that no client finds the queue closed.
-/

namespace GroupChat

namespace Stage

/-- The `Stage` that comes next when a server stops. -/
def next? : Stage → Option Stage
  | .running | .stopped => none
  | .refusing => some .ending
  | .ending => some .unread
  | .unread => some .sealed
  | .sealed => some .handled
  | .handled => some .emptied
  | .emptied => some .written
  | .written => some .stopped

/-- Whether the hub was emptied, which it is from the stage `.emptied` on. -/
def isEmptied : Stage → Bool
  | .emptied | .written | .stopped => true
  | .running | .refusing | .ending | .unread | .sealed | .handled => false

theorem hasSender_of_next? {p q : Stage} (h : p.next? = some q) (hq : q.hasSender = true) :
    p.hasSender = true := by
  cases p <;> cases h <;> first | rfl | cases hq

theorem isEmptied_of_next? {p q : Stage} (h : p.next? = some q) (hq : q.isEmptied = false) :
    p.isEmptied = false := by
  cases p <;> cases h <;> first | rfl | cases hq

theorem isEmptied_of_next?_of_ne {p q : Stage} (h : p.next? = some q) (hne : p ≠ .handled)
    (hp : p.isEmptied = false) : q.isEmptied = false := by
  cases p <;> cases h <;> first | rfl | exact absurd rfl hne | cases hp

end Stage

namespace Server

/-- `Server.handle?` does with the hub what `Hub.handle` does, and then lets the effects reach the
outboxes. -/
theorem handle?_eq_some {s t : Server} (h : s.handle? = some t) :
    ∃ item rest, s.handling = true ∧ s.queue = item :: rest ∧
      t = { s with
        hub := (s.hub.handle item).1
        queue := rest
        lines := s.lines.deliver (s.hub.handle item).2 } := by
  unfold handle? at h
  split at h
  · rename_i item rest hbusy hqueue
    cases h
    refine ⟨item, rest, hbusy, hqueue, ?_⟩
    rw [Hub.handleOver_eq, Post.lines_reachAll]
  · cases h

/-- The items that the hub is given by a step: only `.handle` takes one off the queue. -/
def taken (s : Server) : Action → List Inbound
  | .handle => s.queue.take 1
  | _ => []

/-- The queue is closed only when no client may put items into it (`hasSenders`). -/
def Shut (s : Server) : Prop := s.handling = false → s.hasSenders = false

/-- What a step of `s` does that is about no single client. -/
inductive Rests (s : Server) : Action → Server → Prop where
  /-- Time passes, or a writer does something. -/
  | idle {a : Action} {lines : Lines} {writers : Table String Writer} {clock : Nat}
      (taken : s.taken a = []) (nothing : ∀ id, a.frame? id = none ∧ a ≠ .hangUp id) :
      Rests s a { s with lines, writers, clock }
  /-- The hub handles the first item of the queue. -/
  | handle {item : Inbound} {rest : List Inbound} {lines : Lines} (busy : s.handling = true)
      (queue : s.queue = item :: rest) :
      Rests s .handle { s with hub := (s.hub.handle item).1, queue := rest, lines }
  /-- The hub takes nothing any more. -/
  | retire (queue : s.queue = []) (alone : s.hasSenders = false) :
      Rests s .retire { s with handling := false }
  /-- The server begins to stop. -/
  | stop (running : s.stage = .running) : Rests s .stop { s with stage := .refusing }
  /-- It comes further in stopping. -/
  | proceed {stage : Stage} {hub : Hub} {lines : Lines} (next : s.stage.next? = some stage)
      (done : stage = .handled → s.handling = false)
      (same : stage.isEmptied = false → hub = s.hub) :
      Rests s .proceed { s with stage, hub, lines }

/-- What a step of `s` does to its `sessions` and its `queue`. -/
inductive Moves (s : Server) : Action → Server → Prop where
  /-- Nothing, but that the hub may be given an item. -/
  | rest {a : Action} {t : Server} (rests : s.Rests a t) : Moves s a t
  /-- A client arrives. -/
  | arrival {c : Connection} (new : s.sessions.get? c.id = none) :
      Moves s (.arrive c) { s with sessions := s.sessions.insert c.id { connection := c } }
  /-- A client makes a move. It may begin to put items into the queue unless the server has stopped
  that. -/
  | session {a : Action} {id : String} {old new : Session} {frames : List Frame}
      {items queue : List Inbound} {lines : Lines} {writers : Table String Writer}
      (here : s.sessions.get? id = some old) (moves : old.Moves s id a new frames items)
      (queued : queue = s.queue ++ items) (taken : s.taken a = [])
      (sender : new.phase.hasSender = true →
        old.phase.hasSender = true ∨ s.stage.hasSender = true) :
      Moves s a { s with sessions := s.sessions.insert id new, queue, lines, writers }
  /-- A client finds that the queue is closed. -/
  | giveUp {a : Action} {id : String} {old : Session} {t : Server}
      (here : s.sessions.get? id = some old) (sender : old.phase.hasSender = true)
      (closed : s.handling = false) : Moves s a t

variable {s t : Server} {a : Action} {id : String}

/-! ### What a step does -/

/-- `onSession` changes the session of one client. -/
theorem onSession_eq_some {f : Session → Option Session} (h : s.onSession id f = some t) :
    ∃ old new, s.sessions.get? id = some old ∧ f old = some new ∧
      t = { s with sessions := s.sessions.insert id new } := by
  obtain ⟨old, hold, h⟩ := Option.bind_eq_some_iff.1 h
  obtain ⟨new, hnew, h⟩ := Option.bind_eq_some_iff.1 h
  exact ⟨old, new, hold, hnew, (Option.some.inj h).symm⟩

/-- `onWriter` changes the writer and the outbox of one client. -/
theorem onWriter_eq_some_iff {f : Writer → Outbox → Option (Writer × Outbox)} :
    s.onWriter id f = some t ↔ ∃ w o w' o', s.writers.get? id = some w ∧ s.lines.get? id = some o ∧
      f w o = some (w', o') ∧
      t = { s with writers := s.writers.insert id w', lines := s.lines.connect id o' } := by
  constructor
  · intro h
    obtain ⟨w, hw, h⟩ := Option.bind_eq_some_iff.1 h
    obtain ⟨o, ho, h⟩ := Option.bind_eq_some_iff.1 h
    obtain ⟨⟨w', o'⟩, hf, h⟩ := Option.bind_eq_some_iff.1 h
    exact ⟨w, o, w', o', hw, ho, hf, (Option.some.inj h).symm⟩
  · rintro ⟨w, o, w', o', hw, ho, hf, rfl⟩
    simp only [onWriter, hw, ho, hf, Option.bind_eq_bind, Option.bind_some, Option.pure_def]

theorem moves_of_onSession {f : Session → Option Session} (h : s.onSession id f = some t)
    (htaken : s.taken a = [])
    (hf : ∀ old new, f old = some new → (∃ frames, old.Moves s id a new frames []) ∧
      (new.phase.hasSender = true → old.phase.hasSender = true)) : s.Moves a t := by
  obtain ⟨old, new, hold, hnew, rfl⟩ := onSession_eq_some h
  obtain ⟨⟨frames, hmoves⟩, hsender⟩ := hf old new hnew
  exact .session hold hmoves (List.append_nil _).symm htaken fun h => Or.inl (hsender h)

/-- `read?` takes the next message, or finds that no more will come. -/
theorem moves_of_read? {old new : Session} (h : old.read? s.clock = some new) :
    (∃ frames, old.Moves s id (.read id) new frames []) ∧
      (new.phase.hasSender = true → old.phase.hasSender = true) := by
  unfold Session.read? at h
  split at h
  · rename_i since m rest hphase hnext
    cases h
    exact ⟨⟨[], .read hphase hnext⟩, fun _ => by rw [hphase]; rfl⟩
  · -- nothing waits: the reading ends only if the client has hung up
    rename_i since hphase hnext
    split at h
    · rename_i hungUp
      cases h
      exact ⟨⟨[], .readEnd hphase hnext hungUp⟩, fun _ => by rw [hphase]; rfl⟩
    · cases h
  · cases h

/-- `approach?` brings a client nearer to the queue, and puts nothing into it. -/
theorem moves_of_approach? (h : s.approach? id = some t) : s.Moves (.approach id) t := by
  obtain ⟨old, hold, h⟩ := Option.bind_eq_some_iff.1 h
  -- the phase before and the one after are both outside of the queue
  have hmove : ∀ {p : Phase} {lines : Lines} {writers : Table String Writer},
      old.phase.isOutside = true → p.isOutside = true →
      (p.hasSender = true → s.stage.hasSender = true) → s.Moves (.approach id)
        { s with sessions := s.sessions.insert id { old with phase := p }, lines, writers } :=
    fun hbefore hafter hsender => .session hold (.approach hbefore hafter)
      (List.append_nil _).symm rfl fun h => Or.inr (hsender h)
  dsimp only at h
  split at h
  · rename_i hphase
    have hbefore : old.phase.isOutside = true := by rw [hphase]; rfl
    by_cases hstage : s.stage.isAccepting = true
    · rw [if_pos hstage] at h
      cases h
      exact hmove hbefore rfl fun h => by cases h
    · rw [if_neg hstage] at h
      cases h
      exact hmove hbefore rfl fun h => by cases h
  · rename_i hphase
    have hbefore : old.phase.isOutside = true := by rw [hphase]; rfl
    by_cases hstage : s.stage.hasSender = true
    · rw [if_pos hstage] at h
      cases h
      exact hmove hbefore rfl fun _ => hstage
    · rw [if_neg hstage] at h
      cases h
      exact hmove hbefore rfl fun h => by cases h
  · cases h

/-- `give?` has one item ready for the queue, and only for a client that may put something in. -/
theorem moves_of_give? {old new : Session} {item : Inbound}
    (h : old.give? s.clock = some (item, new)) :
    old.Moves s id (.post id) new [] [item] ∧ old.phase.hasSender = true := by
  unfold Session.give? at h
  split at h <;> rename_i hphase <;> cases h
  · exact ⟨.enter hphase, by rw [hphase]; rfl⟩
  · exact ⟨.post hphase, by rw [hphase]; rfl⟩
  · exact ⟨.leave hphase, by rw [hphase]; rfl⟩

/-- `post?` puts the item of one client into the queue, or finds that the queue is closed. -/
theorem moves_of_post? (h : s.post? id = some t) : s.Moves (.post id) t := by
  unfold post? at h
  split at h
  · obtain ⟨old, hold, h⟩ := Option.bind_eq_some_iff.1 h
    obtain ⟨⟨item, new⟩, hgive, h⟩ := Option.bind_eq_some_iff.1 h
    dsimp only at h
    split at h
    · cases h
      obtain ⟨hmoves, hsender⟩ := moves_of_give? hgive
      exact .session hold hmoves rfl rfl fun _ => Or.inl hsender
    · cases h
  · -- the queue is closed, which only a client with an item finds out
    rename_i hclosed
    obtain ⟨u, hu, -⟩ := Option.bind_eq_some_iff.1 h
    obtain ⟨old, new, hold, hnew, -⟩ := onSession_eq_some hu
    refine .giveUp hold ?_ (Bool.not_eq_true _ ▸ hclosed)
    unfold Session.giveUp? at hnew
    cases hphase : old.phase with
    | entering | posting | leaving => rfl
    | arriving | admitted | entered | reading | finished | refused =>
      rw [hphase] at hnew
      cases hnew

/-- `proceed?` concerns no single client. -/
theorem rests_of_proceed? (h : s.proceed? = some t) : s.Rests .proceed t := by
  unfold proceed? at h
  cases hstage : s.stage with
  | running | stopped =>
    rw [hstage] at h
    cases h
  | refusing | unread =>
    rw [hstage] at h
    cases h
    exact .proceed (by rw [hstage]; rfl) (fun h => by cases h) fun _ => rfl
  | ending =>
    rw [hstage] at h
    dsimp only at h
    split at h
    · cases h
    · cases h
      exact .proceed (by rw [hstage]; rfl) (fun h => by cases h) fun _ => rfl
  | sealed =>
    rw [hstage] at h
    dsimp only at h
    split at h
    · cases h
    · -- all items were handled before this stage ends
      rename_i hdone
      cases h
      exact .proceed (by rw [hstage]; rfl) (fun _ => Bool.not_eq_true _ ▸ hdone) fun _ => rfl
  | handled | written =>
    rw [hstage] at h
    cases h
    exact .proceed (by rw [hstage]; rfl) (fun h => by cases h) fun h => by cases h
  | emptied =>
    rw [hstage] at h
    dsimp only at h
    split at h
    · cases h
      exact .proceed (by rw [hstage]; rfl) (fun h => by cases h) fun h => by cases h
    · cases h

/-- `arrive?` takes in a client whose identifier nobody has. -/
theorem moves_of_arrive? {c : Connection} (h : s.arrive? c = some t) : s.Moves (.arrive c) t := by
  obtain ⟨hnew, h⟩ := Option.ite_none_left_eq_some.1 h
  cases h
  rw [Bool.not_eq_true, Table.contains_eq_false_iff] at hnew
  exact .arrival hnew

theorem moves_of_receive? {old new : Session} {f : Frame}
    (h : old.receive? (f.read s.settings.maxFrameSize) = some new) :
    (∃ frames, old.Moves s id (.receive id f) new frames []) ∧
      (new.phase.hasSender = true → old.phase.hasSender = true) := by
  obtain ⟨listens, h⟩ := Option.ite_none_left_eq_some.1 h
  cases h
  exact ⟨⟨_, .receive (Bool.not_eq_true _ ▸ listens)⟩, fun h => h⟩

/-- `start?` begins to read a client that has entered. -/
theorem moves_of_start? {old new : Session} (h : old.start? s.clock = some new) :
    (∃ frames, old.Moves s id (.start id) new frames []) ∧
      (new.phase.hasSender = true → old.phase.hasSender = true) := by
  unfold Session.start? at h
  split at h
  · rename_i hphase
    cases h
    exact ⟨⟨_, .start hphase⟩, fun _ => by rw [hphase]; rfl⟩
  · cases h

/-- `timeOut?` gives up a client of which nothing waits, and which was silent for too long. -/
theorem moves_of_timeOut? {old new : Session} (h : old.timeOut? s.patience s.clock = some new) :
    (∃ frames, old.Moves s id (.timeOut id) new frames []) ∧
      (new.phase.hasSender = true → old.phase.hasSender = true) := by
  unfold Session.timeOut? Session.deadline at h
  split at h
  · rename_i time hdeadline
    split at h
    · rename_i hlate
      rw [Bool.and_eq_true, Bool.and_eq_true, decide_eq_true_iff] at hlate
      -- only a client that is read has a deadline
      split at hdeadline
      · rename_i since hphase
        cases h
        cases hdeadline
        exact ⟨⟨_, .timeOut hphase (List.isEmpty_iff.1 hlate.1.1) hlate.2⟩,
          fun _ => by rw [hphase]; rfl⟩
      · cases hdeadline
    · cases h
  · cases h

/-- `notice?` stops reading a client whose outbox is `closing`. -/
theorem moves_of_notice? (h : s.notice? id = some t) : s.Moves (.notice id) t := by
  obtain ⟨hclosing, h⟩ := Option.ite_none_right_eq_some.1 h
  refine moves_of_onSession h rfl fun old new hnew => ?_
  unfold Session.notice? at hnew
  split at hnew
  · rename_i since hphase
    cases hnew
    exact ⟨⟨_, .notice hphase hclosing⟩, fun _ => by rw [hphase]; rfl⟩
  · cases hnew

/-- `.stop` ends the stage `.running`. -/
theorem stop_eq_some (h : s.act? .stop = some t) :
    s.stage = .running ∧ t = { s with stage := .refusing } := by
  have h : (if s.stage.isAccepting then some { s with stage := .refusing } else none) = some t := h
  obtain ⟨haccepting, h⟩ := Option.ite_none_right_eq_some.1 h
  refine ⟨?_, (Option.some.inj h).symm⟩
  cases hstage : s.stage with
  | running => rfl
  | _ =>
    rw [hstage] at haccepting
    cases haccepting

/-- `retire?` ends the loop of the hub when nothing is queued and nobody can put anything in. -/
theorem rests_of_retire? (h : s.retire? = some t) : s.Rests .retire t := by
  obtain ⟨hidle, h⟩ := Option.ite_none_right_eq_some.1 h
  cases h
  rw [Bool.and_eq_true, Bool.and_eq_true, Bool.not_eq_true'] at hidle
  exact .retire (List.isEmpty_iff.1 hidle.1.2) hidle.2

/-- Every step of `act?` `Moves` one client, lets one arrive, or `Rests`; one case for each action.
-/
theorem act?_moves (h : s.act? a = some t) : s.Moves a t := by
  cases a with
  | arrive c => exact moves_of_arrive? h
  | receive id f => exact moves_of_onSession h rfl fun old new hnew => moves_of_receive? hnew
  | hangUp id =>
    refine moves_of_onSession h rfl fun old new hnew => ?_
    cases hnew
    exact ⟨⟨_, .hangUp⟩, fun h => h⟩
  | wait milliseconds =>
    cases h
    exact .rest (.idle rfl fun _ => ⟨rfl, Action.noConfusion⟩)
  | stop =>
    obtain ⟨hstage, rfl⟩ := stop_eq_some h
    exact .rest (.stop hstage)
  | approach id => exact moves_of_approach? h
  | post id => exact moves_of_post? h
  | start id => exact moves_of_onSession h rfl fun old new hnew => moves_of_start? hnew
  | read id => exact moves_of_onSession h rfl fun old new hnew => moves_of_read? hnew
  | timeOut id => exact moves_of_onSession h rfl fun old new hnew => moves_of_timeOut? hnew
  | notice id => exact moves_of_notice? h
  | handle =>
    obtain ⟨item, rest, hbusy, hqueue, rfl⟩ := handle?_eq_some h
    exact .rest (.handle hbusy hqueue)
  | retire => exact .rest (rests_of_retire? h)
  | take id | write id | fail id =>
    obtain ⟨_, _, _, _, -, -, -, rfl⟩ := onWriter_eq_some_iff.1 h
    exact .rest (.idle rfl fun _ => ⟨rfl, Action.noConfusion⟩)
  | finish id taken =>
    obtain ⟨-, h⟩ := Option.ite_none_left_eq_some.1 h
    obtain ⟨_, _, _, _, -, -, -, rfl⟩ := onWriter_eq_some_iff.1 h
    exact .rest (.idle rfl fun _ => ⟨rfl, Action.noConfusion⟩)
  | proceed => exact .rest (rests_of_proceed? h)

/-! ### Steps that are about no single client -/

theorem Rests.settings (h : s.Rests a t) : t.settings = s.settings := by cases h <;> rfl

theorem Rests.sessions (h : s.Rests a t) : t.sessions = s.sessions := by cases h <;> rfl

/-- In a step that `Rests`, the hub takes from the front of the queue, and nothing else becomes of
it. -/
theorem Rests.queue (h : s.Rests a t) : s.taken a ++ t.queue = s.queue := by
  cases h with
  | idle taken nothing =>
    rw [taken]
    rfl
  | handle busy queue =>
    rw [taken, queue]
    rfl
  | retire | stop | proceed => rfl

theorem Rests.nothing (h : s.Rests a t) (id : String) : a.frame? id = none ∧ a ≠ .hangUp id := by
  cases h with
  | idle taken nothing => exact nothing id
  | handle | retire | stop | proceed => exact ⟨rfl, nofun⟩

/-- In a step that `Rests`, the stage does not come to have a sender again. -/
theorem Rests.hasSender (h : s.Rests a t) (ht : t.stage.hasSender = true) :
    s.stage.hasSender = true := by
  cases h with
  | idle | handle | retire => exact ht
  | stop running =>
    rw [running]
    rfl
  | proceed next done same => exact Stage.hasSender_of_next? next ht

/-- A step that `Rests` closes the queue only when there are no senders. -/
theorem Rests.closes (h : s.Rests a t) (ht : t.handling = false) :
    s.handling = false ∨ s.hasSenders = false := by
  cases h with
  | idle | handle | stop | proceed => exact Or.inl ht
  | retire queue alone => exact Or.inr alone

/-! ### The closed queue -/

/-- `hasSenders` is false exactly if neither the server nor any client may put something into the
queue. -/
theorem hasSenders_eq_false_iff : s.hasSenders = false ↔ s.stage.hasSender = false ∧
    ∀ id session, s.sessions.get? id = some session → session.phase.hasSender = false := by
  rw [hasSenders, Bool.or_eq_false_iff, List.any_eq_false]
  constructor
  · rintro ⟨hstage, hsessions⟩
    refine ⟨hstage, fun id session hid => ?_⟩
    exact Bool.not_eq_true _ ▸ hsessions session (Table.mem_values_iff.2 ⟨id, hid⟩)
  · rintro ⟨hstage, hsessions⟩
    refine ⟨hstage, fun session hsession => ?_⟩
    obtain ⟨id, hid⟩ := Table.mem_values_iff.1 hsession
    rw [hsessions id session hid]
    exact Bool.false_ne_true

/-- A client that may put items into the queue finds it open. -/
theorem Shut.handling {old : Session} (hs : s.Shut) (here : s.sessions.get? id = some old)
    (sender : old.phase.hasSender = true) : s.handling = true := by
  cases h : s.handling with
  | true => rfl
  | false =>
    rw [(hasSenders_eq_false_iff.1 (hs h)).2 id old here] at sender
    cases sender

/-- `Moves` leaves the settings as they are. -/
theorem Moves.settings (h : s.Moves a t) (hs : s.Shut) : t.settings = s.settings := by
  cases h with
  | rest rests => exact rests.settings
  | arrival | session => rfl
  | giveUp here sender closed => cases (hs.handling here sender).symm.trans closed

/-- `Moves` preserves `Shut`: no client finds the queue closed. -/
theorem Shut.moves (hs : s.Shut) (h : s.Moves a t) : t.Shut := by
  cases h with
  | rest rests =>
    intro hclosed
    -- a queue is closed only when nobody has a sender, and no sender comes back
    have hnone : s.hasSenders = false := (rests.closes hclosed).elim hs fun h => h
    obtain ⟨hstage, hsessions⟩ := hasSenders_eq_false_iff.1 hnone
    refine hasSenders_eq_false_iff.2 ⟨?_, ?_⟩
    · cases h : t.stage.hasSender with
      | false => rfl
      | true =>
        rw [rests.hasSender h] at hstage
        cases hstage
    · rw [rests.sessions]
      exact hsessions
  | @arrival c new =>
    intro hclosed
    obtain ⟨hstage, hsessions⟩ := hasSenders_eq_false_iff.1 (hs hclosed)
    refine hasSenders_eq_false_iff.2 ⟨hstage, fun id session hid => ?_⟩
    rw [Table.get?_insert] at hid
    split at hid
    · cases hid
      rfl
    · exact hsessions id session hid
  | @session a id old new frames items queue lines writers here moves queued taken sender =>
    intro hclosed
    obtain ⟨hstage, hsessions⟩ := hasSenders_eq_false_iff.1 (hs hclosed)
    refine hasSenders_eq_false_iff.2 ⟨hstage, fun id' session hid => ?_⟩
    rw [Table.get?_insert] at hid
    split at hid
    · cases hid
      cases hnew : new.phase.hasSender with
      | false => rfl
      | true =>
        -- a sender of a client comes from itself or from the server
        rcases sender hnew with hold | hold
        · rw [hsessions id old here] at hold
          cases hold
        · rw [hstage] at hold
          cases hold
    · exact hsessions id' session hid
  | giveUp here sender closed => cases (hs.handling here sender).symm.trans closed

end Server

end GroupChat
