import GroupChat.Hub.Talk
import GroupChat.Proofs.Hub.NewRoom

/-!
# Writing messages

What is written goes to the room of a reference, or to the room that has the name of the private
room of two accounts. The latter is found among the live rooms or in the store, or it is made.

## Main definitions

- `Hub.Loads`: a stored room became live with the connections of two accounts.
- `Turn.Finds`: a room was found by the name of the private room of two accounts.
- `Turn.Reaches`: the room to which something is sent was found.
- `Turn.Pairs`: the private room of two accounts was made.
- `Hub.Addressable`: a direct message can be written.
- `Turn.FailsToWrite`: what is left of a message that could not be written.

## Main statements

- `directRoom_gives`: the private room is found or made.
- `write_gives`: a message is written into a room.
- `typing_gives`, `chat_gives`: the requests.
-/

namespace GroupChat.Hub

open Wire

/-- The stored room `info` became live with the connections of the accounts `a` and `b`. -/
structure Loads (h h' : Hub) (info : RoomInfo) (a b : String) : Prop where
  /-- The connections stayed. -/
  roster : h'.roster = h.roster
  /-- The room was not live. -/
  idle : h.rooms.get? info.id = none
  /-- The live room. -/
  rooms : h.rooms.Places h'.rooms ((LiveRoom.ofInfo info).enroll h.roster .user [a, b])
  /-- The store stayed. -/
  store : h'.store = h.store

/-- The stored room `info` was found, and became live with the connections of `a` and `b`
(`Hub.Loads`) if it was not. -/
def Turn.Finds (t u : Turn) (a b : String) (info : RoomInfo) (room : LiveRoom) : Prop :=
  (t.Asks u ∧ t.hub.rooms.get? info.id = some room) ∨
    (t.Becomes u u.hub.rooms t.hub.store [] ∧ t.hub.Loads u.hub info a b ∧
      room = (LiveRoom.ofInfo info).enroll t.hub.roster .user [a, b])

/-- The room to which `c` sends something was found: the one of a reference in which its account is,
or the one with the `privateName` of two accounts. -/
inductive Turn.Reaches (t u : Turn) (c : Connection) :
    Option String → Option String → LiveRoom → Prop where
  /-- The room of a reference. -/
  | reference {ref : String} {info : RoomInfo} (asks : t.Asks u)
      (resolved : t.hub.resolved? ref = some info)
      (member : (t.hub.rooms.roleOf? info.id c.account).isSome = true) :
      Reaches t u c (some ref) none (t.hub.rooms.roomOf info)
  /-- The room of two accounts. -/
  | receiver {receiver : String} {info : RoomInfo} {room : LiveRoom} (other : receiver ≠ c.account)
      (stored : t.hub.store.rooms.get? info.id = some info)
      (named : info.name = privateName c.account receiver)
      (finds : t.Finds u c.account receiver info room) :
      Reaches t u c none (some receiver) room

/-- The private room of the account of `c` and of `receiver` was made, as `f` founds it. -/
structure Turn.Pairs (t u : Turn) (c : Connection) (receiver : String) (f : Founding) : Prop where
  /-- The room can be made. -/
  permits : t.hub.Permits c.account f
  /-- The other account is the receiver. -/
  members : f.members = [receiver]
  /-- The room is private. -/
  isPrivate : f.info.isPrivate = true
  /-- The receiver is told. -/
  informs : t.Informs u
  /-- The room was made. -/
  founds : t.hub.Founds u.hub f

/-- The `room` to which `c` sends something was found (`Turn.Reaches`), or it was made
(`Turn.Pairs`). -/
def Turn.Opens (t u : Turn) (c : Connection) (room? user? : Option String) (room : LiveRoom) :
    Prop :=
  t.Reaches u c room? user? room ∨ ∃ receiver f, room? = none ∧ user? = some receiver ∧
    t.Pairs u c receiver f ∧ room = f.liveRoom t.hub.roster

/-- A direct message of `account` to `receiver` can be written: the private room of the two exists,
or it can be made, as the receiver exists and no new identifier is taken. -/
structure Addressable (h : Hub) (account receiver : String) : Prop where
  /-- The receiver is another account. -/
  other : receiver ≠ account
  /-- The room exists or can be made. -/
  room : (∃ k info, h.store.rooms.get? k = some info ∧ info.name = privateName account receiver) ∨
    (h.store.account? receiver).isSome = true ∧ ∀ n, h.store.rooms.get? (h.mint.room n) = none

/-- The others in the `room` were told that the account of `c` types, and so were its other devices.
-/
def Turn.Types (t u : Turn) (c : Connection) (room : LiveRoom) : Prop :=
  ∃ view result, t.Becomes u t.hub.rooms t.hub.store
    ((room.audience c.account).map (fun d => .send d (.notification view)) ++
      (t.hub.roster.othersOf c).map fun d => .send d (.forward (replyWith "typing" result)))

/-- A message with this `text` was kept and sent to the others in the `room`, and the frame of `c`
was answered with it. -/
def Turn.Writes (t u : Turn) (c : Connection) (room : LiveRoom) (text : String) : Prop :=
  ∃ message : ChatMessage, message.sender = c.account ∧ message.room = room.id ∧
    message.message = text ∧
    t.Becomes u t.hub.rooms (t.hub.store.addMessage message)
      ((room.audience c.account).map (fun d => .send d (.chat ⟨message, c.name⟩)) ++
        answers t.hub.roster c "chat" (chatView.shape.toJson ⟨message, c.name⟩))

/-- What is left in `u` of the request `r` to write a message that fails: nothing, or a room without
the message. In a `Calm` hub, a message to somebody who is `Addressable` is written. -/
def Turn.FailsToWrite (t u : Turn) (c : Connection) (r : ChatRequest) : Prop :=
  (t.Restores u ∧ (t.hub.Calm → r.message ≠ "" → r.room = none → ∀ receiver,
      r.user = some receiver → ¬ t.hub.Addressable c.account receiver)) ∨
    (∃ f, f.info.isPrivate = true ∧ t.Abandons u c.account f) ∨
    ∃ room s, t.Opens s c r.room r.user room ∧ s.Asks u ∧ ¬ s.hub.Calm

variable {h h' : Hub} {info : RoomInfo} {room : LiveRoom} {a b : String} {t u : Turn}

/-! ### A room that becomes live -/

theorem info_enroll_ofInfo (info : RoomInfo) (roster : Roster) (accounts : List String) :
    ((LiveRoom.ofInfo info).enroll roster .user accounts).info = info := by
  rw [LiveRoom.info_enroll, LiveRoom.info_ofInfo]

section Loads

variable (hl : h.Loads h' info a b) (hc : h.Coherent)
include hl hc

/-- `Loads` keeps a hub `Coherent`. -/
theorem Loads.coherent (hs : h.store.rooms.get? info.id = some info) : h'.Coherent := by
  have hw := LiveRoom.within_ofInfo info h.roster
  have hid := info_enroll_ofInfo info h.roster [a, b]
  refine hc.place hl.roster hl.rooms
    (LiveRoom.sound_enroll hc.roster (LiveRoom.sound_ofInfo _) hw _ _)
    (LiveRoom.within_enroll hc.roster hw _ _) (hl.store ▸ hc.store) ?_ ?_
  · intro k _
    rw [hl.store]
  · intro _
    rw [hl.store, LiveRoom.id, hid, hs]

/-- `Loads` lets the connections of the two accounts into the room, and leaves the other rooms as
they are. -/
theorem Loads.holds {k : String} {d : Connection} : h'.rooms.Holds k d ↔
    if k = info.id then h.roster.Holds d ∧ d.account ∈ [a, b] else h.rooms.Holds k d := by
  have hw := LiveRoom.within_ofInfo info h.roster
  have hr := LiveRoom.sound_enroll hc.roster (LiveRoom.sound_ofInfo info) hw .user [a, b]
  rw [hl.rooms.holds hr, LiveRoom.id, info_enroll_ofInfo, LiveRoom.holds_enroll hc.roster hw,
    or_iff_right (LiveRoom.not_holds_ofInfo _ _)]

/-- In a room that `Loads` makes live the two accounts are `.user`. -/
theorem Loads.roleOf?_rooms (k x : String) : h'.rooms.roleOf? k x =
    if k = info.id then (if h.roster.hasAccount x = true ∧ x ∈ [a, b] then some .user else none)
    else h.rooms.roleOf? k x := by
  have hw := LiveRoom.within_ofInfo info h.roster
  have hr := LiveRoom.sound_enroll hc.roster (LiveRoom.sound_ofInfo info) hw .user [a, b]
  rw [hl.rooms.roleOf? hr, LiveRoom.id, info_enroll_ofInfo, LiveRoom.roleOf?_enroll hc.roster,
    LiveRoom.roleOf?_ofInfo, Option.none_or]

end Loads

/-! ### Private rooms -/

/-- If `named?` finds no live room of the name of a stored one, that one is not live. -/
theorem Coherent.get?_eq_none_of_named? (hc : h.Coherent) {name : String}
    (hs : h.store.rooms.get? info.id = some info) (hname : info.name = name)
    (hlive : h.rooms.named? name = none) : h.rooms.get? info.id = none := by
  cases hr : h.rooms.get? info.id with
  | none => rfl
  | some room =>
    have hroom := hc.stored _ room hr
    rw [hs] at hroom
    have hother := Table.find?_values_eq_none_iff.1 hlive _ room hr
    rw [beq_eq_false_iff_ne, ← Option.some.inj hroom] at hother
    exact absurd hname hother

/-- `directRoom?` finds the room with the `privateName` of the two accounts, live or stored, or
none. It fails under calm only if both are the same. -/
theorem directRoom?_gives (hc : t.hub.Coherent) (c : Connection) (receiver : String) :
    Request.Gives (directRoom? c receiver) t
      (fun _ u => t.Asks u ∧ (t.hub.Calm → receiver = c.account))
      fun room? u => receiver ≠ c.account ∧
        ((room? = none ∧ t.Asks u ∧ ∀ k info, t.hub.store.rooms.get? k = some info →
            info.name ≠ privateName c.account receiver) ∨
          ∃ info room, room? = some room ∧ t.hub.store.rooms.get? info.id = some info ∧
            info.name = privateName c.account receiver ∧
            t.Finds u c.account receiver info room) := by
  unfold directRoom?
  refine Request.Gives.refuse (fun hself => ⟨Turn.Asks.refl t, fun _ => hself⟩) fun hne => ?_
  refine (see_gives _ t).bind (fun _ _ h => h.elim) ?_
  rintro live s ⟨hlive, rfl⟩
  split
  · -- the room is live
    rename_i room
    obtain ⟨hname, k, hk⟩ := Table.find?_values_eq_some hlive.symm
    have hid : room.info.id = k := hc.rooms.keyed k room hk
    have hget : s.hub.rooms.get? room.info.id = some room := hid.symm ▸ hk
    exact Request.gives_pure ⟨hne, Or.inr ⟨room.info, room, rfl, hc.stored _ room hget,
      beq_iff_eq.1 hname, Or.inl ⟨Turn.Asks.refl s, hget⟩⟩⟩
  · refine (orFail_ask_gives _ _ s).bind (fun _ _ h => ⟨h.1, fun hcalm => absurd hcalm h.2.1⟩) ?_
    rintro info? v ⟨hv, hinfo⟩
    split
    · exact Request.gives_pure ⟨hne, Or.inl ⟨rfl, hv, Store.roomByName?_eq_none_iff.1 hinfo.symm⟩⟩
    · -- the room is in the store only
      rename_i info
      obtain ⟨hname, k, hk⟩ := Store.roomByName?_eq_some hinfo.symm
      have hstored : s.hub.store.rooms.get? info.id = some info := by
        rw [hc.store.keyed k info hk]
        exact hk
      have hidle := hc.get?_eq_none_of_named? hstored hname hlive.symm
      refine (see_gives _ v).bind (fun _ _ h => h.elim) ?_
      rintro own x ⟨rfl, rfl⟩
      refine (see_gives _ x).bind (fun _ _ h => h.elim) ?_
      rintro others y ⟨rfl, rfl⟩
      refine Request.Gives.lift_bind (enlistRoom_gives _ y) fun _ u hu => ?_
      have hu := hv.becomes hu
      have hroom : ((LiveRoom.ofInfo info).joinAll (y.hub.roster.connectionsOf c.account)
          .user).joinAll (y.hub.roster.connectionsOf receiver) .user =
          (LiveRoom.ofInfo info).enroll s.hub.roster .user [c.account, receiver] := by
        rw [← hv.roster]
        rfl
      rw [hroom] at hu ⊢
      refine Request.gives_pure ⟨hne, Or.inr ⟨info, _, rfl, hstored, hname, Or.inr ⟨?_, ?_, rfl⟩⟩⟩
      · rw [hv.store] at hu
        rw [hu.rooms]
        exact hu
      · refine ⟨hu.roster, hidle, ?_, hu.store.trans hv.store⟩
        rw [hu.rooms, hv.rooms]
        apply LiveRooms.places_enlist
        rw [LiveRoom.id, LiveRoom.info_enroll]
        exact hidle

/-- `directRoom` makes the room if there is none. A failure leaves everything as it was, or
`Abandons` the new room; under calm it finds a room that exists or can be made. -/
theorem directRoom_gives (hc : t.hub.Coherent) (c : Connection) (receiver : String) :
    Request.Gives (directRoom c receiver) t
      (fun _ u => (t.Restores u ∧ (t.hub.Calm → ¬ t.hub.Addressable c.account receiver)) ∨
        ∃ f, f.info.isPrivate = true ∧ t.Abandons u c.account f)
      fun room u => t.Reaches u c none (some receiver) room ∨
        ∃ f, t.Pairs u c receiver f ∧ room = f.liveRoom t.hub.roster := by
  unfold directRoom
  refine (directRoom?_gives hc c receiver).bind ?_ ?_
  · rintro e u ⟨ha, hself⟩
    exact Or.inl ⟨ha.restores, fun hcalm haddress => haddress.other (hself hcalm)⟩
  rintro room? s ⟨hne, ⟨rfl, hs, hnew⟩ | ⟨info, room, rfl, hstored, hname, hfinds⟩⟩
  swap
  · exact Request.gives_pure (Or.inl (.receiver hne hstored hname hfinds))
  -- there is no such room, so that it has to be made
  have hmake : t.hub.Addressable c.account receiver → (t.hub.store.account? receiver).isSome = true ∧
      ∀ n, t.hub.store.rooms.get? (t.hub.mint.room n) = none := by
    rintro ⟨-, ⟨k, info, hk, hname⟩ | hroom⟩
    · exact absurd hname (hnew k info hk)
    · exact hroom
  refine (knownAccount_gives receiver s).bind ?_ ?_
  · rintro e u ⟨hu, hfail⟩
    refine Or.inl ⟨(hs.trans hu).restores, fun hcalm haddress => ?_⟩
    rcases hfail with ⟨hstorm, -⟩ | ⟨-, hnone⟩
    · exact hstorm (hs.calm hcalm)
    · have hknown := (hmake haddress).1
      rw [← hs.store, hnone] at hknown
      cases hknown
  rintro account v ⟨hv, haccount⟩
  have hv := hs.trans hv
  rw [hs.store] at haccount
  refine Request.Gives.lift_bind (newRoomId_gives v) ?_
  rintro id w ⟨hw, hid⟩
  have hw := hv.trans hw
  have hpermits : t.hub.Permits c.account
      ⟨⟨id, privateName c.account receiver, "", false, true⟩, c.account, .user, [receiver]⟩ := by
    refine ⟨⟨?_, List.nodup_singleton _, fun _ => ⟨rfl, receiver, rfl, rfl⟩, ?_⟩, rfl, ?_, hnew⟩
    · exact fun hm => hne (List.mem_singleton.1 hm).symm
    · exact fun hp => by cases hp
    · intro m hm
      rw [List.mem_singleton.1 hm, haccount]
      rfl
  refine (persist_gives (hw.store ▸ hc.store) (hpermits.congr hw.store)).bind ?_ ?_
  · rintro e u (⟨hu, htaken⟩ | hu)
    · refine Or.inl ⟨hw.restores_trans hu, fun hcalm haddress => htaken (hw.calm hcalm) ?_⟩
      rw [hw.store]
      show t.hub.store.rooms.get? id = none
      rw [hid, hv.mint]
      exact (hmake haddress).2 _
    · exact Or.inr ⟨_, rfl, hw.abandons hu⟩
  rintro - x ⟨hx, hfounds⟩
  have hx := (hw.undoes.trans hx).1
  refine Request.Gives.lift ((openRoom_gives _ x).mono ?_)
  rintro room u ⟨hu, rfl, hrooms, hstore⟩
  have hu' : t.Informs u := (hx.informs (by simp)).trans hu
  refine Or.inr ⟨_, ⟨hpermits, rfl, rfl, hu', founds_of_enlist hc hu'.roster ?_ ?_⟩, ?_⟩
  · rw [hrooms, hx.rooms, hx.roster]
  · rw [hstore, ← hw.store]
    exact hfounds
  · rw [hx.roster]

/-! ### The requests -/

/-- `Address.of?` wants exactly one of room and account. -/
theorem addressOf?_eq_ok {room? user? : Option String} {address : Address}
    (h : Address.of? room? user? = .ok address) :
    (∃ ref, room? = some ref ∧ user? = none ∧ address = .room ref) ∨
      ∃ account, room? = none ∧ user? = some account ∧ address = .user account := by
  unfold Address.of? at h
  split at h <;> cases h
  · exact Or.inl ⟨_, rfl, rfl, rfl⟩
  · exact Or.inr ⟨_, rfl, rfl, rfl⟩

/-- `typing` reaches a room that exists, and leaves the store as it was. -/
theorem typing_gives (hc : t.hub.Coherent) (c : Connection) (r : TypingRequest) :
    Request.Gives (typing c r) t (fun _ u => t.Asks u) fun _ u => ∃ room s,
      t.Reaches s c r.room r.user room ∧ s.Types u c room := by
  unfold typing
  -- what follows once the room was found
  have htail : ∀ room s, t.Reaches s c r.room r.user room →
      Request.Gives (do
        let event ← liftM (signal .typing c room.id)
        let _ ← liftM (broadcastExcept room event c.account)
        liftM (forward c "typing" (roomResult room.id))) s (fun _ u => t.Asks u)
        fun _ u => ∃ room s, t.Reaches s c r.room r.user room ∧ s.Types u c room := by
    intro room s hs
    refine Request.Gives.lift_bind (signal_gives _ c _ s) ?_
    rintro event v ⟨hv, n, rfl, -⟩
    refine Request.Gives.lift_bind (broadcastExcept_gives room _ _ v) fun _ w hw => ?_
    refine Request.Gives.lift ((forward_gives c _ _ w).mono fun _ u hu => ?_)
    rw [hw.roster, hw.rooms, hw.store] at hu
    have hvu := hv.becomes (hw.trans hu)
    rw [hv.roster, hv.rooms, hv.store] at hvu
    exact ⟨room, s, hs, _, _, hvu⟩
  refine Request.Gives.except_bind (fun _ _ => Turn.Asks.refl t) fun address haddress => ?_
  obtain ⟨ref, hroom, huser, rfl⟩ | ⟨receiver, hroom, huser, rfl⟩ := addressOf?_eq_ok haddress
  · rw [hroom, huser] at htail ⊢
    refine (memberRoom_gives hc c ref).bind (fun _ _ h => h.1) ?_
    rintro room s ⟨hs, info, hi, rfl, hm⟩
    exact htail _ s (.reference hs hi hm)
  · rw [hroom, huser] at htail ⊢
    refine (directRoom?_gives hc c receiver).bind (fun _ _ h => h.1) ?_
    rintro room? s ⟨hne, ⟨rfl, hs, -⟩ | ⟨info, room, rfl, hstored, hname, hfinds⟩⟩
    · exact hs
    · exact htail room s (.receiver hne hstored hname hfinds)

/-- The part of `chat` that follows once the room is known: it `Writes`, or the message cannot be
kept and nothing happens. -/
theorem write_gives (c : Connection) (room : LiveRoom) (text : String) (t : Turn) :
    Request.Gives (do
      let stamp ← liftM newMessageStamp
      let message : ChatMessage := ⟨stamp.id, c.account, room.id, text, stamp.time⟩
      orFail (tell .addMessage fun s => (.ok (), s.addMessage message))
      let view : ChatView := ⟨message, c.name⟩
      let _ ← liftM (broadcastExcept room (.chat view) c.account)
      liftM (replyAndForward c "chat" (chatView.shape.toJson view))) t
      (fun _ u => t.Asks u ∧ ¬ t.hub.Calm) fun _ u => t.Writes u c room text := by
  refine Request.Gives.lift_bind (newMessageStamp_gives t) fun stamp s hs => ?_
  refine (orFail_tell_gives _ (Store.spares_ok _) s).bind ?_ ?_
  · rintro e u ⟨hu, cause, -, hfail⟩
    refine ⟨hs.trans hu, fun hcalm => ?_⟩
    -- `addMessage` itself never fails
    cases hfail (hs.calm hcalm)
  rintro - v ⟨store, hstore, hv⟩
  cases hstore
  have hv := hs.becomes hv
  rw [hs.rooms, hs.store] at hv
  refine Request.Gives.lift_bind (broadcastExcept_gives room _ _ v) fun _ w hw => ?_
  refine Request.Gives.lift ((replyAndForward_gives c _ _ w).mono fun _ u hu => ?_)
  rw [hv.rooms, hv.store] at hw
  have hw := hv.trans hw
  rw [hw.rooms, hw.store, hw.roster] at hu
  exact ⟨_, rfl, rfl, rfl, hw.trans hu⟩

/-- `chat` `Opens` a room and `Writes` into it. One that fails leaves everything as it was, apart
from a room that was made. -/
theorem chat_gives (hc : t.hub.Coherent) (c : Connection) (r : ChatRequest) :
    Request.Gives (chat c r) t (fun _ u => t.FailsToWrite u c r)
      fun _ u => ∃ room s, t.Opens s c r.room r.user room ∧ s.Writes u c room r.message := by
  unfold chat
  refine Request.Gives.refuse (fun hempty => Or.inl ⟨(Turn.Asks.refl t).restores,
    fun _ hne => absurd hempty hne⟩) fun _ => ?_
  -- what follows once the room was found or made
  have hfails : ∀ room s, t.Opens s c r.room r.user room → ∀ (_ : ChatError) u,
      s.Asks u ∧ ¬ s.hub.Calm → t.FailsToWrite u c r :=
    fun room s hs _ _ hu => Or.inr (Or.inr ⟨room, s, hs, hu⟩)
  have hwrites : ∀ room s, t.Opens s c r.room r.user room → ∀ (_ : Unit) u,
      s.Writes u c room r.message →
      ∃ room s, t.Opens s c r.room r.user room ∧ s.Writes u c room r.message :=
    fun room s hs _ _ hu => ⟨room, s, hs, hu⟩
  have htail := fun room s hs =>
    (write_gives c room r.message s).mono (hfails room s hs) (hwrites room s hs)
  refine Request.Gives.except_bind (fun e he => ?_) fun address haddress => ?_
  · refine Or.inl ⟨(Turn.Asks.refl t).restores, fun _ _ hroom receiver huser => ?_⟩
    rw [hroom, huser] at he
    cases he
  obtain ⟨ref, hroom, huser, rfl⟩ | ⟨receiver, hroom, huser, rfl⟩ := addressOf?_eq_ok haddress
  · rw [hroom, huser] at htail ⊢
    refine (memberRoom_gives hc c ref).bind (fun _ _ h => Or.inl ⟨h.1.restores, ?_⟩) ?_
    · intro _ _ hnone
      rw [hroom] at hnone
      cases hnone
    rintro room s ⟨hs, info, hi, rfl, hm⟩
    exact htail _ s (Or.inl (.reference hs hi hm))
  · rw [hroom, huser] at htail ⊢
    refine (directRoom_gives hc c receiver).bind ?_ ?_
    · rintro e u (⟨hu, haddress⟩ | hu)
      · refine Or.inl ⟨hu, fun hcalm _ _ receiver' huser' => ?_⟩
        rw [huser] at huser'
        cases huser'
        exact haddress hcalm
      · exact Or.inr (Or.inl hu)
    rintro room s (hs | ⟨f, hs, rfl⟩)
    · exact htail room s (Or.inl hs)
    · exact htail _ s (Or.inr ⟨receiver, f, rfl, rfl, hs, rfl⟩)

end GroupChat.Hub
