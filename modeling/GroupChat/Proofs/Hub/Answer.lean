import GroupChat.Hub.Answer
import GroupChat.Proofs.Hub.Turn

/-!
# Answers and news

An answer goes to the origin of a frame and to the other devices of its account. Everything else
that a hub does on behalf of a change of members is news: notifications, invitations, and reports of
what the store did not keep.

## Main definitions

- `answers`: what is sent when a frame was carried out.
- `Effect.IsUndoFailure`, `Effect.IsNews`: what is reported, and what is told beside answers.
- `Turn.Informs`, `Turn.Speaks`, `Turn.Tells`: news were told, and notifications may have been kept.
- `Turn.Answers`: news were told, and then a frame was answered.

## Main statements

- `replyAndForward_gives`, `signal_gives`, `notify_gives`: what is sent, and what is kept.
-/

namespace GroupChat

/-- A `.report` that a change of the store was not taken back. -/
def Effect.IsUndoFailure : Effect → Prop
  | .report (.roomNotUndone ..) | .report (.inviteNotUndone ..) | .report (.kickNotUndone ..) =>
    True
  | _ => False

instance : DecidablePred Effect.IsUndoFailure
  | .report (.roomNotUndone ..) | .report (.inviteNotUndone ..) | .report (.kickNotUndone ..) =>
    inferInstanceAs (Decidable True)
  | .report (.notMarkedOnline ..) | .report (.notMarkedOffline ..) | .report (.roomsUnknown ..)
  | .report (.noticeLost ..) | .report (.membersUnknown ..) | .report (.emptyRoomKept ..)
  | .send _ _ | .close _ => inferInstanceAs (Decidable False)

/-- A notification, an invitation, or a `.report` that is no `IsUndoFailure`. -/
def Effect.IsNews : Effect → Prop
  | .send _ (.notification _) | .send _ (.invited _) => True
  | .report i => ¬ (Effect.report i).IsUndoFailure
  | _ => False

namespace Hub

/-- What is sent when a frame of `origin` was carried out: a `.success` to `origin`, and a
`.forward` to each other connection of its account in the `roster`. -/
def answers (roster : Roster) (origin : Connection) (event : String) (result : Json) :
    List Effect :=
  .send origin (.success (replyWith event result)) ::
    (roster.othersOf origin).map fun d => .send d (.forward (replyWith event result))

/-- All that was told between `t` and `u` is news (`Effect.IsNews`); live rooms and store may have
changed. -/
def Turn.Informs (t u : Turn) : Prop :=
  ∃ news, t.Becomes u u.hub.rooms u.hub.store news ∧ ∀ e ∈ news, e.IsNews

/-- Between `t` and `u` news were told (`Effect.IsNews`), and nothing else happened. -/
structure Turn.Speaks (t u : Turn) : Prop where
  /-- What was done is news. -/
  informs : t.Informs u
  /-- The live rooms stayed. -/
  rooms : u.hub.rooms = t.hub.rooms
  /-- The store stayed. -/
  store : u.hub.store = t.hub.store

/-- Between `t` and `u` news were told (`Effect.IsNews`), and notifications may have been kept. -/
structure Turn.Tells (t u : Turn) : Prop where
  /-- What was done is news. -/
  informs : t.Informs u
  /-- The live rooms stayed. -/
  rooms : u.hub.rooms = t.hub.rooms
  /-- Notifications may have been kept. -/
  notes : t.hub.store.Notes u.hub.store

/-- Between `t` and `u` news were told, and then a frame of `origin` was answered with a `result`.
-/
def Turn.Answers (t u : Turn) (origin : Connection) (event : String) (result : Json) : Prop :=
  ∃ news, (∀ e ∈ news, e.IsNews) ∧
    t.Becomes u u.hub.rooms u.hub.store (news ++ answers t.hub.roster origin event result)

namespace Turn

variable {t u v : Turn} {rooms : LiveRooms} {store : Store} {news : List Effect}

theorem Becomes.informs (h : t.Becomes u rooms store news) (hn : ∀ e ∈ news, e.IsNews) :
    t.Informs u := by
  refine ⟨news, ?_, hn⟩
  rw [h.rooms]
  exact h.again

/-- A turn that `Informs` and then `Informs` again. -/
theorem Informs.trans (h : t.Informs u) (h' : u.Informs v) : t.Informs v := by
  obtain ⟨es, hb, hes⟩ := h
  obtain ⟨es', hb', hes'⟩ := h'
  refine ⟨es ++ es', hb.trans hb', fun e he => ?_⟩
  rcases List.mem_append.1 he with he | he
  · exact hes e he
  · exact hes' e he

theorem Informs.roster (h : t.Informs u) : u.hub.roster = t.hub.roster := by
  obtain ⟨_, hb, -⟩ := h
  exact hb.roster

theorem Informs.calm (h : t.Informs u) : t.hub.Calm → u.hub.Calm := by
  obtain ⟨_, hb, -⟩ := h
  exact hb.calm

theorem Asks.informs (h : t.Asks u) : t.Informs u := Becomes.informs h (by simp)

theorem Becomes.speaks (h : t.Becomes u t.hub.rooms t.hub.store news)
    (hn : ∀ e ∈ news, e.IsNews) : t.Speaks u :=
  ⟨h.informs hn, h.rooms, h.store⟩

theorem Asks.speaks (h : t.Asks u) : t.Speaks u := Becomes.speaks h (by simp)

theorem Speaks.trans (h : t.Speaks u) (h' : u.Speaks v) : t.Speaks v where
  informs := h.informs.trans h'.informs
  rooms := h'.rooms.trans h.rooms
  store := h'.store.trans h.store

theorem Speaks.roster (h : t.Speaks u) : u.hub.roster = t.hub.roster := h.informs.roster

theorem Becomes.tells (h : t.Becomes u t.hub.rooms store news) (hs : t.hub.store.Notes store)
    (hn : ∀ e ∈ news, e.IsNews) : t.Tells u :=
  ⟨h.informs hn, h.rooms, h.store ▸ hs⟩

theorem Asks.tells (h : t.Asks u) : t.Tells u := Becomes.tells h (Store.Notes.refl _) (by simp)

theorem Speaks.tells (h : t.Speaks u) : t.Tells u :=
  ⟨h.informs, h.rooms, h.store ▸ Store.Notes.refl _⟩

theorem Tells.refl (t : Turn) : t.Tells t := (Asks.refl t).tells

theorem Tells.trans (h : t.Tells u) (h' : u.Tells v) : t.Tells v where
  informs := h.informs.trans h'.informs
  rooms := h'.rooms.trans h.rooms
  notes := h.notes.trans h'.notes

theorem Tells.roster (h : t.Tells u) : u.hub.roster = t.hub.roster := h.informs.roster

theorem Answers.roster {c : Connection} {event : String} {result : Json}
    (h : t.Answers u c event result) : u.hub.roster = t.hub.roster := by
  obtain ⟨_, -, hb⟩ := h
  exact hb.roster

end Turn

theorem reply_gives (origin : Connection) (event : String) (result : Json) (t : Turn) :
    Step.Gives (reply origin event result) t fun _ u =>
      t.Becomes u t.hub.rooms t.hub.store [.send origin (.success (replyWith event result))] :=
  (send_gives origin _ t).discard

theorem forward_gives (origin : Connection) (event : String) (result : Json) (t : Turn) :
    Step.Gives (forward origin event result) t fun _ u =>
      t.Becomes u t.hub.rooms t.hub.store
        ((t.hub.roster.othersOf origin).map fun d => .send d (.forward (replyWith event result))) :=
  sendAll_gives _ _ t

/-- `replyAndForward` sends a success to the origin, and then the same result to its other devices.
-/
theorem replyAndForward_gives (origin : Connection) (event : String) (result : Json) (t : Turn) :
    Step.Gives (replyAndForward origin event result) t fun _ u =>
      t.Becomes u t.hub.rooms t.hub.store (answers t.hub.roster origin event result) := by
  unfold replyAndForward
  refine (reply_gives origin event result t).bind fun _ s hs => ?_
  refine (forward_gives origin event result s).mono fun _ u hu => ?_
  rw [hs.rooms, hs.store, hs.roster] at hu
  exact hs.trans hu

/-- `signal` makes a notification about the account of the connection, and the store is not told of
it. -/
theorem signal_gives (kind : NotificationKind) (c : Connection) (room : String) (t : Turn) :
    Step.Gives (signal kind c room) t fun event u => t.Asks u ∧
      ∃ n : Notification, event = .notification ⟨n, c.name⟩ ∧ n.kind = kind ∧
        n.sender = c.account ∧ n.room = room := by
  unfold signal
  exact (newSignalStamp_gives t).bind fun stamp s hs =>
    Step.gives_pure ⟨hs, _, rfl, rfl, rfl, rfl⟩

/-- A turn that `Informs` and then runs `replyAndForward` has `Answers` as a whole. -/
theorem Turn.Informs.answers {t s : Turn} (h : t.Informs s) (origin : Connection) (event : String)
    (result : Json) :
    Step.Gives (replyAndForward origin event result) s fun _ u =>
      t.Answers u origin event result ∧ u.hub.rooms = s.hub.rooms ∧ u.hub.store = s.hub.store := by
  obtain ⟨news, hb, hn⟩ := h
  refine (replyAndForward_gives origin event result s).mono fun _ u hu => ?_
  refine ⟨⟨news, hn, ?_⟩, hu.rooms, hu.store⟩
  rw [← hb.roster, hu.rooms, hu.store]
  exact hb.trans hu

/-- `notify` sends a notification about the account to everyone in the room, whether the store keeps
it or not; a failure becomes a report. -/
theorem notify_gives (room : LiveRoom) (kind : NotificationKind) (account name : String)
    (t : Turn) :
    Step.Gives (notify room kind account name) t fun event u =>
      ∃ n : Notification, event = .notification ⟨n, name⟩ ∧ n.kind = kind ∧
        n.sender = account ∧ n.room = room.id ∧
        (t.Becomes u t.hub.rooms (t.hub.store.addNotification n)
            (room.everyone.map fun d => .send d event) ∨
          ¬ t.hub.Calm ∧ ∃ e, t.Becomes u t.hub.rooms t.hub.store
            (.report (.noticeLost room.id e) :: room.everyone.map fun d => .send d event)) := by
  unfold notify
  refine (newNoticeStamp_gives t).bind fun stamp s hs => ?_
  refine (orReport_gives _ (Store.spares_ok _) _ s).bind fun _ v hv => ?_
  refine (broadcast_gives room _ v).bind fun _ w hw => Step.gives_pure ⟨_, rfl, rfl, rfl, rfl, ?_⟩
  rcases hv with ⟨store, hstore, hb⟩ | ⟨e, hb, hcalm⟩
  · left
    cases hstore
    rw [hb.rooms, hb.store, hs.rooms, hs.store] at hw
    exact hs.becomes (hb.trans hw)
  · right
    refine ⟨fun hc => (by cases hcalm (hs.calm hc)), e, ?_⟩
    rw [hb.rooms, hb.store, hs.rooms, hs.store] at hw
    exact hs.becomes (hb.trans hw)

/-- `notify` tells everyone in the room, and leaves rooms and roles as they are, whether the
notification is kept or not. -/
theorem notify_tells (room : LiveRoom) (kind : NotificationKind) (account name : String)
    (t : Turn) :
    Step.Gives (notify room kind account name) t fun event u =>
      t.Tells u ∧ ∃ view, event = .notification view := by
  refine (notify_gives room kind account name t).mono ?_
  rintro event u ⟨n, rfl, -, -, -, hb⟩
  refine ⟨?_, _, rfl⟩
  have hall : ∀ e ∈ room.everyone.map fun d => Effect.send d (.notification ⟨n, name⟩),
      e.IsNews := by
    intro e he
    obtain ⟨d, -, rfl⟩ := List.mem_map.1 he
    trivial
  -- the notification was kept, or a report says that it was not
  rcases hb with hb | ⟨-, e, hb⟩
  · exact hb.tells (Store.notes_addNotification _ n) hall
  · refine hb.tells (Store.Notes.refl _) fun e he => ?_
    rcases List.mem_cons.1 he with rfl | he
    · exact id
    · exact hall e he

/-- Sending one event to several clients is `Speaks`, if the event is news. -/
theorem Turn.Becomes.speaks_sends {t u : Turn} {cs : List Connection} {event : ServerEvent}
    (hu : t.Becomes u t.hub.rooms t.hub.store (cs.map fun c => .send c event))
    (h : ∀ d, (Effect.send d event).IsNews) : t.Speaks u := by
  refine hu.speaks fun e he => ?_
  obtain ⟨d, -, rfl⟩ := List.mem_map.1 he
  exact h d

theorem sendAll_speaks (cs : List Connection) {event : ServerEvent}
    (h : ∀ d, (Effect.send d event).IsNews) (t : Turn) :
    Step.Gives (sendAll cs event) t fun _ u => t.Speaks u :=
  (sendAll_gives cs event t).mono fun _ _ hu => hu.speaks_sends h

theorem broadcast_speaks (room : LiveRoom) {event : ServerEvent}
    (h : ∀ d, (Effect.send d event).IsNews) (t : Turn) :
    Step.Gives (broadcast room event []) t fun _ u => t.Speaks u :=
  (broadcast_gives room event t).mono fun _ _ hu => hu.speaks_sends h

theorem broadcastExcept_speaks (room : LiveRoom) {event : ServerEvent} (a : String)
    (h : ∀ d, (Effect.send d event).IsNews) (t : Turn) :
    Step.Gives (broadcastExcept room event a) t fun _ u => t.Speaks u :=
  (broadcastExcept_gives room event a t).mono fun _ _ hu => hu.speaks_sends h

end Hub

end GroupChat
