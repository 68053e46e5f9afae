import GroupChat.Proofs.Hub.Decision
import GroupChat.Proofs.Hub.Replies
import GroupChat.Proofs.Hub.Told

/-!
# Whom a message reaches

A message to a public room is sent to the connections in the live room, without those of the account
that has written it, and the answer goes to the devices of that account. As the live room mirrors
the store, each device of each other member is reached once, and nobody else.

## Main definitions

- `Hub.CanWrite`: a message can be written to a room.
- `Hub.Delivers`: a message was kept, and reached the members of a room.

## Main statements

- `chat_decides`: a message to a public room is written exactly if it can be.
- `Turn.Writes.delivers`: what is sent with it.
- `delivers_of_reachable`: both, in all states.
-/

namespace GroupChat.Hub

open Wire

/-- A message of `account` to the room `info` can be written: it is not empty and has no other
address, and `account` is a member. -/
structure CanWrite (h : Hub) (account : String) (info : RoomInfo) (r : ChatRequest) : Prop where
  /-- The message is not empty. -/
  text : r.message ≠ ""
  /-- It is addressed to the room only. -/
  address : r.user = none
  /-- The sender is a member. -/
  member : (h.store.roleOf? info.id account).isSome = true

/-- A message was kept and sent to every device of every member of a room other than its sender. The
answer to the origin and what is forwarded to the other devices of the sender both show the same
message, as `ChatView.shown` writes it. Nobody else was told anything. -/
def Delivers (h h' : Hub) (c : Connection) (info : RoomInfo) (text : String)
    (effects : List Effect) : Prop :=
  ∃ message : ChatMessage, message.sender = c.account ∧ message.room = info.id ∧
    message.message = text ∧ h'.store = h.store.addMessage message ∧
    ∀ d, toldTo d effects =
      (if h.Present info.id d ∧ d.account ≠ c.account then [.chat ⟨message, c.name⟩] else []) ++
        if d = c then [.success ⟨"chat", some (ChatView.shown ⟨message, c.name⟩)⟩]
        else if h.roster.Holds d ∧ d.account = c.account then
          [.forward ⟨"chat", some (ChatView.shown ⟨message, c.name⟩)⟩]
        else []

variable {h : Hub} {c : Connection} {e : Envelope} {info : RoomInfo} {ref : String}
  {r : ChatRequest}

section Room

variable (hc : h.Coherent) (ha : h.Agree info.id) (hreg : h.roster.Holds c)
include hc ha hreg

/-- A turn that `Writes` a message `Delivers` it: the stored message and its view are the same to
everybody. -/
theorem Turn.Writes.delivers {t u : Turn} {text : String}
    (hinfo : h.store.rooms.get? info.id = some info)
    (hu : t.Writes u c (h.rooms.roomOf info) text) (ht : Turn.Asks { hub := h } t) :
    h.Delivers u.hub c info text u.effects := by
  obtain ⟨message, hsender, hroom, htext, hb⟩ := hu
  have hsound := hc.rooms.sound_roomOf info
  refine ⟨message, hsender, hroom.trans (hc.id_roomOf hinfo), htext, ?_, fun d => ?_⟩
  · rw [hb.store, ht.store]
  -- who is in the live room are the connections of members
  have haudience : d ∈ (h.rooms.roomOf info).audience c.account ↔
      h.Present info.id d ∧ d.account ≠ c.account := by
    rw [hsound.mem_audience, LiveRooms.holds_roomOf, ha.holds]
  have heffects : u.effects = ((h.rooms.roomOf info).audience c.account).map (fun d =>
      .send d (.chat ⟨message, c.name⟩)) ++
        answers h.roster c "chat" (chatView.shape.toJson ⟨message, c.name⟩) := by
    rw [hb.effects, ht.effects, ht.roster]
    rfl
  rw [heffects, toldTo_append, toldTo_sendAll (hsound.nodup_audience _),
    toldTo_answers hc.roster hreg (replyWith_chatView ..), answerFor]
  simp only [haudience]

/-- `chat` under calm, to a room that is resolved: it is carried out exactly if the account
`CanWrite`, and then the message `Delivers`. -/
theorem chat_decides (hcalm : h.Calm) (href : r.room = some ref)
    (hi : h.resolved? ref = some info) :
    Request.Gives (chat c r) { hub := h }
      (fun _ u => ¬ h.CanWrite c.account info r ∧ u.effects = []) fun _ u =>
      h.CanWrite c.account info r ∧ (∃ reply, Effect.send c (.success reply) ∈ u.effects) ∧
        h.Delivers u.hub c info r.message u.effects := by
  have hrole := ha.roleOf?_of_holds hc hreg
  have hasks : ∀ {u : Turn}, Turn.Asks { hub := h } u → u.effects = [] := fun hu => hu.effects
  unfold chat
  refine Request.Gives.refuse (fun hempty => ⟨fun hcan => hcan.text hempty, rfl⟩) fun htext => ?_
  refine Request.Gives.except_bind (fun err herr => ⟨fun hcan => ?_, rfl⟩)
    fun address haddress => ?_
  · rw [href, hcan.address] at herr
    cases herr
  obtain ⟨ref', hroom, huser, rfl⟩ | ⟨receiver, hroom, -, -⟩ := addressOf?_eq_ok haddress
  swap
  · rw [href] at hroom
    cases hroom
  obtain rfl : ref = ref' := Option.some.inj (href.symm.trans hroom)
  refine (memberRoom_gives (t := { hub := h }) hc c ref).bind ?_ ?_
  · rintro err u ⟨hu, hfail⟩
    refine ⟨fun hcan => ?_, hasks hu⟩
    -- the room is found, and whoever is a member and connected is in it
    rcases hfail with ⟨hstorm, -⟩ | ⟨-, hnone⟩ | ⟨-, info', hi', hout⟩
    · exact hstorm hcalm
    · rw [show h.resolved? ref = none from hnone] at hi
      cases hi
    · obtain rfl : info = info' := Option.some.inj (hi.symm.trans hi')
      have hmember := hcan.member
      rw [← hrole, show h.rooms.roleOf? info.id c.account = none from hout] at hmember
      cases hmember
  rintro room s ⟨hs, info', hi', rfl, hin⟩
  obtain rfl : info = info' := Option.some.inj (hi.symm.trans hi')
  have hcan : h.CanWrite c.account info r := ⟨htext, huser, hrole ▸ hin⟩
  refine (write_gives c _ r.message s).mono (fun _ _ hu => absurd (hs.calm hcalm) hu.2) ?_
  rintro - u hu
  have hdelivers := hu.delivers hc ha hreg (stored_of_resolved? hc hi).1 hs
  obtain ⟨message, -, -, -, hb⟩ := hu
  refine ⟨hcan, ⟨replyWith "chat" (chatView.shape.toJson ⟨message, c.name⟩), ?_⟩, hdelivers⟩
  rw [hb.effects]
  exact List.mem_append_right _ (List.mem_append_right _ List.mem_cons_self)

end Room

/-- **A message reaches each device of each member once.** In every state that a hub reaches from
one without rooms, while the store is in reach, a message of a registered connection to a public
room is written exactly if it is not empty, the room is its only address, and its sender is a
member. Then it is sent once to each registered connection of each other member, and shown in the
answer to its origin and in what is forwarded to the other devices of the sender. Nobody else is
told anything. -/
theorem delivers_of_reachable {accounts : List Account} {mint : Mint}
    (hr : Reachable (fresh accounts mint []) h) (hreg : h.roster.get? c.id = some c)
    (he : ClientEvent.decode e = .ok (.chat r)) (href : r.room = some ref)
    (hres : h.Resolves ref info) (hp : info.isPrivate = false) :
    ((∃ reply, Effect.send c (.success reply) ∈ (h.handle (.event c e)).2) ↔
        h.CanWrite c.account info r) ∧
      (h.CanWrite c.account info r → h.Delivers (h.handle (.event c e)).1 c info r.message
        (h.handle (.event c e)).2) := by
  have hc := hr.coherent (coherent_fresh accounts mint [])
  have hcalm := hr.calm (coherent_fresh accounts mint []) rfl
  have hi : h.resolved? ref = some info := (hc.resolves_iff hcalm).1 hres
  have hpublic : h.Public info.id := public_of_resolved? hc hi hp
  have hdecides := chat_decides hc (hr.faithful.agree _ hpublic) hreg hcalm href hi
  exact success_iff_of_gives (D := fun h' effects => h.Delivers h' c info r.message effects) hreg
    (serve_gives he hdecides)

/-- The envelope of a message to the room `den`. -/
def greeting : Envelope := ⟨"chat", .object [("room_id", .text den), ("message", .text "hello")]⟩

/-- Here `ann` writes into a room that she has made, and `bob` is told once. -/
theorem delivers_greeting : ∃ h, Reachable (lobby []) h ∧ h.roster.get? ann.id = some ann ∧
    ClientEvent.decode greeting = .ok (.chat ⟨some den, none, "hello"⟩) ∧
    h.Resolves den denInfo ∧ h.CanWrite "ann" denInfo ⟨some den, none, "hello"⟩ ∧
    h.Delivers (h.handle (.event ann greeting)).1 ann denInfo "hello"
      (h.handle (.event ann greeting)).2 ∧
    (toldTo bob (h.handle (.event ann greeting)).2).length = 1 := by
  have hr : Reachable (lobby []) ((lobby []).run meeting).1 :=
    Reachable.start.run (by decide +kernel)
  have hreg : ((lobby []).run meeting).1.roster.get? ann.id = some ann := by decide +kernel
  have hdecode : ClientEvent.decode greeting = .ok (.chat ⟨some den, none, "hello"⟩) := rfl
  have hres : ((lobby []).run meeting).1.Resolves den denInfo := by
    rw [(hr.coherent (coherent_fresh _ _ _)).resolves_iff (hr.calm (coherent_fresh _ _ _) rfl)]
    decide +kernel
  have hcan : ((lobby []).run meeting).1.CanWrite "ann" denInfo ⟨some den, none, "hello"⟩ :=
    ⟨by decide, rfl, by decide +kernel⟩
  obtain ⟨-, hdelivers⟩ := delivers_of_reachable hr hreg hdecode rfl hres rfl
  exact ⟨_, hr, hreg, hdecode, hres, hcan, hdelivers hcan, by decide +kernel⟩

end GroupChat.Hub
