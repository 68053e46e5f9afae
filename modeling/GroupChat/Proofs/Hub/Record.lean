import GroupChat.Proofs.Hub.Replies
import GroupChat.Proofs.Hub.Trace

/-!
# What is written down

Apart from rooms and members, the store has messages, notifications and counts of connections. An
event counts no connection, and of all events only a message that is carried out adds to the
messages: that one message, of which nobody but other accounts is told. All other events leave the
messages as they are, and tell nobody of one, whatever the store does.

## Main definitions

- `Store.SameLog`: two stores have the same messages and counts.
- `Turn.Records`: some messages were kept, and others were told of these only.
- `Hub.Posts`: a message was kept as a request asks, and the request was answered with it.
- `Turn.Carries`: what an event that is carried out writes down.

## Main statements

- `Turn.Opens.addresses`: the room of a message.
- `dispatch_records`: what an event writes down, whether it is carried out or fails.
-/

namespace GroupChat

/-- `s` and `s'` have the same `messages`, and counted the same connections. -/
structure Store.SameLog (s s' : Store) : Prop where
  /-- The messages. -/
  messages : s'.messages = s.messages
  /-- The counts. -/
  presence : s'.presence = s.presence

namespace Store

variable {s s' s'' : Store} {room : String} {ms : List (String × Role)} {accounts : List String}
  {info : RoomInfo}

theorem SameLog.refl (s : Store) : s.SameLog s := ⟨rfl, rfl⟩

theorem SameLog.trans (h : s.SameLog s') (h' : s'.SameLog s'') : s.SameLog s'' :=
  ⟨h'.messages.trans h.messages, h'.presence.trans h.presence⟩

theorem Notes.sameLog (h : s.Notes s') : s.SameLog s' := ⟨by rw [h], by rw [h]⟩

theorem Alike.sameLog (h : s.Alike s') : s.SameLog s' := ⟨by rw [h.rest], by rw [h.rest]⟩

theorem Adds.sameLog (h : Adds room ms s s') : s.SameLog s' := ⟨by rw [h.rest], by rw [h.rest]⟩

theorem Removes.sameLog (h : Removes room accounts s s') : s.SameLog s' :=
  ⟨by rw [h.rest], by rw [h.rest]⟩

theorem Founds.sameLog (h : Founds info ms s s') : s.SameLog s' := ⟨by rw [h.rest], by rw [h.rest]⟩

theorem Drops.sameLog (h : Drops room s s') : s.SameLog s' := ⟨by rw [h.rest], by rw [h.rest]⟩

end Store

namespace Hub

open Wire

/-- The messages `ms` were kept, and everybody who was told of a message was told of one of these,
by another account. No connection was counted. -/
structure Turn.Records (t u : Turn) (ms : List ChatMessage) : Prop where
  /-- The counts stayed. -/
  presence : u.hub.store.presence = t.hub.store.presence
  /-- The messages that were kept are added at the end. -/
  messages : u.hub.store.messages = t.hub.store.messages ++ ms
  /-- Who was told of a message. -/
  told : ∀ d view, Effect.send d (.chat view) ∈ u.effects →
    Effect.send d (.chat view) ∈ t.effects ∨ view.message ∈ ms ∧ view.message.sender ≠ d.account

/-- The room `k` to which a message of `account` is addressed: what the reference `room?` is
resolved to (`resolved?`), or the room that has the `privateName` of the account and `user?` when
the message was written. -/
def Addresses (h h' : Hub) (account : String) (room? user? : Option String) (k : String) : Prop :=
  (∃ ref info, room? = some ref ∧ user? = none ∧ h.resolved? ref = some info ∧ info.id = k) ∨
    ∃ receiver info, room? = none ∧ user? = some receiver ∧
      h'.store.rooms.get? k = some info ∧ info.name = privateName account receiver

/-- A message is the one that a request of a connection asks to be kept, and the request was
answered with it. The hub was in the first state and came to the second one by `effects`. -/
structure Posts (h h' : Hub) (effects : List Effect) (c : Connection) (r : ChatRequest)
    (m : ChatMessage) : Prop where
  /-- The account of the connection has written it. -/
  sender : m.sender = c.account
  /-- The room. -/
  room : h.Addresses h' c.account r.room r.user m.room
  /-- The text. -/
  text : m.message = r.message
  /-- The answer shows the message, with the name of the connection. -/
  answer : Effect.send c (.success ⟨"chat", some (.object [("id", .text m.id),
    ("message", .text m.message), ("room_id", .text m.room), ("sender", .text c.name),
    ("sender_id", .text m.sender), ("ts", .int (.ofInt64 m.time))])⟩) ∈ effects

/-- What an event of `c` that was carried out has written down: the message that it holds, if it is
a `.chat`. -/
def Turn.Carries (t u : Turn) (c : Connection) : ClientEvent → Prop
  | .chat r => ∃ m, t.hub.Posts u.hub u.effects c r m ∧ t.Records u [m]
  | _ => t.Records u []

variable {h h' : Hub} {t s u : Turn} {c : Connection} {rooms : LiveRooms} {store : Store}
  {es : List Effect} {info : RoomInfo} {accounts : List String} {ms ms' : List ChatMessage}

/-! ### Nothing is written down -/

/-- `Grows` leaves `messages` as they are. -/
theorem Grows.sameLog (hg : h.Grows h' info accounts) : h.store.SameLog h'.store := by
  obtain ⟨s, hadds, hnotes⟩ := hg.store
  exact hadds.sameLog.trans hnotes.sameLog

/-- `Shrinks` leaves `messages` as they are. -/
theorem Shrinks.sameLog (hg : h.Shrinks h' info accounts) : h.store.SameLog h'.store := by
  obtain ⟨s, hremoves, hnotes | ⟨-, -, s', hnotes, hdrops⟩⟩ := hg.store
  · exact hremoves.sameLog.trans hnotes.sameLog
  · exact (hremoves.sameLog.trans hnotes.sameLog).trans hdrops.sameLog

/-- A turn that keeps no message and tells nobody of one `Records` nothing. -/
theorem Turn.Becomes.records (hb : t.Becomes u rooms store es) (hs : t.hub.store.SameLog store)
    (hes : ∀ d view, Effect.send d (.chat view) ∉ es) : t.Records u [] where
  presence := by rw [hb.store, hs.presence]
  messages := by rw [hb.store, hs.messages, List.append_nil]
  told d view hd := by
    rw [hb.effects, List.mem_append] at hd
    exact Or.inl (hd.resolve_right (hes d view))

/-- `Records` of two turns, one after the other, is that of both lists of messages. -/
theorem Turn.Records.trans (hu : t.Records s ms) (hv : s.Records u ms') :
    t.Records u (ms ++ ms') where
  presence := hv.presence.trans hu.presence
  messages := by rw [hv.messages, hu.messages, List.append_assoc]
  told d view hd := by
    rcases hv.told d view hd with hd | ⟨hm, hne⟩
    · exact (hu.told d view hd).imp_right fun ⟨hm, hne⟩ => ⟨List.mem_append_left _ hm, hne⟩
    · exact Or.inr ⟨List.mem_append_right _ hm, hne⟩

theorem Turn.Asks.records (ha : t.Asks u) : t.Records u [] :=
  Becomes.records ha (Store.SameLog.refl _) (by simp)

theorem Turn.Informs.records (hu : t.Informs u) (hs : t.hub.store.SameLog u.hub.store) :
    t.Records u [] := by
  obtain ⟨news, hb, hnews⟩ := hu
  exact hb.records hs fun d view hd => hnews _ hd

theorem Turn.Undoes.records {reports : List Effect} (hu : t.Undoes u reports)
    (hs : t.hub.store.SameLog u.hub.store) : t.Records u [] :=
  hu.1.records hs fun _ _ hd => hu.2 _ hd

theorem Turn.Restores.records (hu : t.Restores u) : t.Records u [] := hu.1.records hu.2.sameLog

theorem Turn.Abandons.records {account : String} {f : Founding} (hu : t.Abandons u account f) :
    t.Records u [] := by
  obtain ⟨ms, reports, -, hundoes, -, -, hfounds, -⟩ := hu
  exact hundoes.records hfounds.sameLog

theorem Turn.Answers.records {kind : String} {result : Json} (hu : t.Answers u c kind result)
    (hs : t.hub.store.SameLog u.hub.store) : t.Records u [] := by
  obtain ⟨news, hnews, hb⟩ := hu
  refine hb.records hs fun d view hd => ?_
  rcases List.mem_append.1 hd with hd | hd
  · exact hnews _ hd
  · exact not_chat_of_mem_answers hd

theorem Turn.Replies.records {kind : String} (hu : t.Replies u c kind) : t.Records u [] := by
  obtain ⟨result, hb⟩ := hu
  exact hb.records (Store.SameLog.refl _) (by simp)

theorem Turn.Types.records {room : LiveRoom} (hu : t.Types u c room) : t.Records u [] := by
  obtain ⟨view, result, hb⟩ := hu
  exact hb.records (Store.SameLog.refl _) (by simp)

/-! ### A message -/

section Opens

variable {room? user? : Option String} {room : LiveRoom} {text : String}

/-- `Opens` finds or makes a room, which `Records` nothing. -/
theorem Turn.Opens.records (ho : t.Opens s c room? user? room) : t.Records s [] := by
  refine ho.informs.records ?_
  rcases ho with hr | ⟨_, _, -, -, hp, -⟩
  · cases hr with
    | reference asks => exact asks.store ▸ Store.SameLog.refl _
    | receiver _ _ _ finds => exact finds.becomes.store ▸ Store.SameLog.refl _
  · exact hp.founds.store.sameLog

/-- The room that `Opens` finds or makes is the one that the request `Addresses`. -/
theorem Turn.Opens.addresses (ho : t.Opens s c room? user? room) (hc : t.hub.Coherent) :
    t.hub.Addresses s.hub c.account room? user? room.id := by
  rcases ho with hr | ⟨receiver, f, hroom, huser, hp, rfl⟩
  · cases hr with
    | @reference ref info asks resolved member =>
      exact Or.inl ⟨ref, info, rfl, rfl, resolved,
        (hc.id_roomOf (stored_of_resolved? hc resolved).1).symm⟩
    | @receiver receiver info room other stored named finds =>
      refine Or.inr ⟨receiver, info, rfl, rfl, ?_, named⟩
      rw [finds.becomes.store, finds.id hc]
      exact stored
  · -- the room was made, for the receiver as its only other member
    obtain ⟨m, hm, hpair⟩ := hp.founds.pair hc hp.permits.fits hp.isPrivate
    rw [hp.members] at hm
    obtain rfl : receiver = m := (List.cons.inj hm).1
    refine Or.inr ⟨receiver, f.info, hroom, huser, ?_, ?_⟩
    · rw [hp.founds.store.rooms, f.id_liveRoom, if_pos rfl]
    · rw [hpair.name, hp.permits.creator]

/-- `Writes` keeps one message and `Records` it, with the sender, room and text of the request; the
answer shows that very message. -/
theorem Turn.Writes.records (hw : s.Writes u c room text) : ∃ m : ChatMessage,
    m.sender = c.account ∧ m.room = room.id ∧ m.message = text ∧ s.Records u [m] ∧
      u.hub.store = s.hub.store.addMessage m ∧
      Effect.send c (.success ⟨"chat", some (ChatView.shown ⟨m, c.name⟩)⟩) ∈ u.effects := by
  obtain ⟨m, hsender, hroom, htext, hb⟩ := hw
  refine ⟨m, hsender, hroom, htext, ⟨?_, ?_, fun d view hd => ?_⟩, hb.store, ?_⟩
  · rw [hb.store]
    rfl
  · rw [hb.store]
    rfl
  · rw [hb.effects, List.mem_append, List.mem_append, List.mem_map] at hd
    rcases hd with hd | ⟨d', hd', he⟩ | hd
    · exact Or.inl hd
    · -- those who are told have other accounts than the sender
      cases he
      refine Or.inr ⟨List.mem_singleton_self m, ?_⟩
      rw [hsender]
      exact Ne.symm (LiveRoom.account_ne_of_mem_audience hd')
    · exact absurd hd not_chat_of_mem_answers
  · rw [hb.effects, ← replyWith_chatView]
    exact List.mem_append_right _ (List.mem_append_right _ List.mem_cons_self)

/-- `Opens` and then `Writes` carries the `.chat` request out. -/
theorem Turn.Opens.carries {r : ChatRequest} (ho : t.Opens s c r.room r.user room)
    (hw : s.Writes u c room r.message) (hc : t.hub.Coherent) : t.Carries u c (.chat r) := by
  obtain ⟨m, hsender, hroom, htext, hrecords, hstore, hanswer⟩ := hw.records
  refine ⟨m, ⟨hsender, ?_, htext, hanswer⟩, ho.records.trans hrecords⟩
  rw [hroom, Addresses, hstore]
  exact ho.addresses hc

end Opens

/-- Whatever event `Carries` is about, some list of messages is recorded, which is empty but for
`.chat`. -/
theorem Turn.Carries.records {event : ClientEvent} (hu : t.Carries u c event) :
    ∃ ms, t.Records u ms := by
  cases event with
  | chat r =>
    obtain ⟨m, -, hrecords⟩ := hu
    exact ⟨[m], hrecords⟩
  | typing | createRoom | joinRoom | leaveRoom | inviteRoom | kickRoom | getUsers | getChats
  | getNotifications | userRooms => exact ⟨[], hu⟩

/-! ### One event -/

/-- `dispatch` that fails `Records` nothing, and one that succeeds `Carries` its event out. -/
theorem dispatch_records (hc : t.hub.Coherent) (c : Connection) (event : ClientEvent) :
    Request.Gives (dispatch c event) t (fun _ u => t.Records u [])
      fun _ u => t.Carries u c event := by
  cases event with
  | typing r =>
    refine (typing_gives hc c r).mono (fun _ _ h => h.records) ?_
    rintro - u ⟨room, s, hr, hu⟩
    -- `typing` never makes a room, and records nothing either way
    have ho : t.Opens s c r.room r.user room := Or.inl hr
    exact ho.records.trans hu.records
  | chat r =>
    refine (chat_gives hc c r).mono ?_ ?_
    · rintro err u (⟨h, -⟩ | ⟨f, -, h⟩ | ⟨room, s, ho, hu, -⟩)
      · exact h.records
      · exact h.records
      · exact ho.records.trans hu.records
    · rintro - u ⟨room, s, ho, hu⟩
      exact ho.carries hu hc
  | createRoom r =>
    refine (createRoom_gives hc c r).mono ?_ ?_
    · rintro err u (h | ⟨f, h⟩)
      · exact h.records
      · exact h.records
    · rintro - u ⟨f, -, hf, result, hu⟩
      exact hu.records hf.store.sameLog
  | joinRoom r =>
    refine (joinRoom_gives hc c r).mono (fun _ _ h => h.1.records) ?_
    rintro - u ⟨info, -, -, -, hg, hu⟩
    exact hu.records hg.sameLog
  | leaveRoom r =>
    refine (leaveRoom_gives hc c r).mono (fun _ _ h => h.1.records) ?_
    rintro - u ⟨info, -, -, -, hg, -, hu⟩
    exact hu.records hg.sameLog
  | inviteRoom r =>
    refine (inviteRoom_gives hc c r).mono ?_ ?_
    · rintro err u ⟨h | ⟨info, kept, reports, -, hu, hadds, -⟩, -⟩
      · exact h.records
      · exact hu.records hadds.sameLog
    · rintro - u ⟨info, -, -, hg, hu⟩
      exact hu.records hg.sameLog
  | kickRoom r =>
    refine (kickRoom_gives hc c r).mono ?_ ?_
    · rintro err u ⟨h | ⟨info, lost, reports, -, hu, hremoves, -⟩, -⟩
      · exact h.records
      · exact hu.records hremoves.sameLog
    · rintro - u ⟨info, -, -, hg, hu⟩
      exact hu.records hg.sameLog
  | getUsers r => exact (getUsers_gives c r t).mono (fun _ _ h => h.records) fun _ _ h => h.records
  | getChats r => exact (getChats_gives hc c r).mono (fun _ _ h => h.records) fun _ _ h => h.records
  | getNotifications r =>
    exact (getNotifications_gives hc c r).mono (fun _ _ h => h.records) fun _ _ h => h.records
  | userRooms => exact (userRooms_gives c t).mono (fun _ _ h => h.records) fun _ _ h => h.records

theorem serve_records (hc : t.hub.Coherent) (c : Connection) (e : Envelope) :
    Request.Gives (serve c e) t (fun _ u => t.Records u [])
      fun _ u => ∃ event, ClientEvent.decode e = .ok event ∧ t.Carries u c event := by
  unfold serve
  refine Request.Gives.except_bind (fun _ _ => (Turn.Asks.refl t).records) fun event he => ?_
  exact (dispatch_records hc c event).mono (fun _ _ h => h) fun _ _ h => ⟨event, he, h⟩

end Hub

end GroupChat
