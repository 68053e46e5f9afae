import GroupChat.Hub.Handle
import GroupChat.Hub.Mint
import GroupChat.Server.Frame
import GroupChat.Proofs.Hub.Inquiry
import GroupChat.Proofs.Hub.Presence
import GroupChat.Proofs.Hub.Talk
import GroupChat.Proofs.Json.Takes

/-!
# Moves of the hub

What one item can do to connections, live rooms, and the rooms and members of the store. Everything
that is shown about all reachable states goes by the cases of a move.

## Main definitions

- `Hub.MayAdd`, `Hub.MayRemove`: whom an event adds to a room or removes from it.
- `Hub.Move`: what one item did.
- `Inbound.Fits`: an item comes from the connection that is registered under its identifier.
- `Hub.Reachable`: the states between items.

## Main statements

- `handle_moves`: an item makes a move.
- `Move.coherent`, `Reachable.coherent`: connections, live rooms and store fit together.
-/

namespace GroupChat

/-- The `item` comes from the connection that is registered in `h` under its identifier, if there is
one. -/
def Inbound.Fits (item : Inbound) (h : Hub) : Prop :=
  ∀ d, h.roster.get? item.connection.id = some d → d = item.connection

instance (item : Inbound) (h : Hub) : Decidable (item.Fits h) :=
  inferInstanceAs (Decidable (∀ d ∈ h.roster.get? item.connection.id, d = item.connection))

/-- `Fits` holds of an item whose connection is the one that is registered under its identifier. -/
theorem Inbound.fits_of_get? {item : Inbound} {h : Hub}
    (hr : h.roster.get? item.connection.id = some item.connection) : item.Fits h := by
  intro d hd
  rw [hr] at hd
  exact (Option.some.inj hd).symm

/-- `ClientEvent.kind` is the kind that the envelope names. -/
theorem ClientEvent.kind_of_decode {e : Envelope} {event : ClientEvent}
    (h : ClientEvent.decode e = .ok event) : event.kind = e.kind := by
  unfold ClientEvent.decode at h
  split at h <;> rename_i hk
  case h_11 =>
    cases h
    exact hk.symm
  case h_12 => cases h
  all_goals
    obtain ⟨r, -, rfl⟩ := Json.of_map_eq_ok h
    exact hk.symm

namespace Hub

/-- The states of a hub between items that begins as `start` and is given items that fit
(`Inbound.Fits`). -/
inductive Reachable (start : Hub) : Hub → Prop where
  /-- The state before the first item. -/
  | start : Reachable start start
  /-- The state after an item. -/
  | step {h : Hub} {item : Inbound} (before : Reachable start h) (fits : item.Fits h) :
      Reachable start (h.handle item).1

/-- Each item of a list fits (`Inbound.Fits`) the state in which `h` handles it. -/
def Follows (h : Hub) : List Inbound → Prop
  | [] => True
  | item :: rest => item.Fits h ∧ (h.handle item).1.Follows rest

/-- A hub that nobody is connected to yet, with a store that holds `accounts` only. -/
def fresh (accounts : List Account) (mint : Mint) (outages : List Outage) : Hub :=
  { store := .ofAccounts accounts, mint, outages }

/-- Whom an event of the connection `c` may add to which room of `h`. -/
inductive MayAdd (h : Hub) (c : Connection) : ClientEvent → RoomInfo → List String → Prop where
  /-- The account joins a room that is open to all. -/
  | join {r : RoomRequest} {info : RoomInfo} (resolved : h.resolved? r.room = some info)
      (isPublic : info.isPrivate = false) (isOpen : info.inviteOnly = false) :
      MayAdd h c (.joinRoom r) info [c.account]
  /-- An admin invites accounts. -/
  | invite {r : MembersRequest} {info : RoomInfo} {accounts : List String}
      (governs : h.Governs c.account r.room info) (listed : ∀ a ∈ accounts, a ∈ r.users) :
      MayAdd h c (.inviteRoom r) info accounts

/-- Whom an event of the connection `c` may remove from which room of `h`. -/
inductive MayRemove (h : Hub) (c : Connection) : ClientEvent → RoomInfo → List String → Prop where
  /-- The account leaves a room. -/
  | leave {r : RoomRequest} {info : RoomInfo} (resolved : h.resolved? r.room = some info)
      (isPublic : info.isPrivate = false) : MayRemove h c (.leaveRoom r) info [c.account]
  /-- An admin removes other accounts. -/
  | kick {r : MembersRequest} {info : RoomInfo} {accounts : List String}
      (governs : h.Governs c.account r.room info)
      (listed : ∀ a ∈ accounts, a ∈ r.users ∧ a ≠ c.account) :
      MayRemove h c (.kickRoom r) info accounts

/-- `h'` has the `roster` and the live `rooms` of `h`. -/
structure SameLive (h h' : Hub) : Prop where
  /-- The connections. -/
  roster : h'.roster = h.roster
  /-- The live rooms. -/
  rooms : h'.rooms = h.rooms

/-- `h'` is `SameLive`, and its store has the same rooms and members (`Store.Agrees`). -/
structure Still (h h' : Hub) : Prop extends SameLive h h' where
  /-- The rooms and members. -/
  store : h.store.Agrees h'.store

/-- What one item does to `h`. A change of the store that breaks off and is not taken back does not
reach the live rooms, and happens only in a hub that is not `Calm`. -/
inductive Move (h : Hub) : Inbound → Hub → Prop where
  /-- Nothing that concerns rooms and members. -/
  | still {item : Inbound} {h' : Hub} (still : h.Still h') : Move h item h'
  /-- A connection came. -/
  | registered {c : Connection} {h' : Hub} (registers : h.Registers h' c) : Move h (.register c) h'
  /-- A connection went. -/
  | unregistered {c : Connection} {h' : Hub} (unregisters : h.Unregisters h' c) :
      Move h (.unregister c) h'
  /-- A stored room became live. -/
  | loaded {c : Connection} {e : Envelope} {b : String} {info : RoomInfo} {h₁ h' : Hub}
      (other : b ≠ c.account) (stored : h.store.rooms.get? info.id = some info)
      (named : info.name = privateName c.account b) (loads : h.Loads h₁ info c.account b)
      (still : h₁.Still h') : Move h (.event c e) h'
  /-- A room was made, on request if it is public. -/
  | founded {c : Connection} {e : Envelope} {f : Founding} {h₁ h' : Hub}
      (permits : h.Permits c.account f) (founds : h.Founds h₁ f) (still : h₁.Still h')
      (asked : f.info.isPrivate = false → ∃ r, ClientEvent.decode e = .ok (.createRoom r)) :
      Move h (.event c e) h'
  /-- A room was left in the store with some of its members. -/
  | halfFounded {c : Connection} {e : Envelope} {f : Founding} {ms : List (String × Role)}
      {h' : Hub} (permits : h.Permits c.account f) (storm : ¬ h.Calm) (live : h.SameLive h')
      (founds : h.store.Founds f.info ms h'.store) (part : ∀ p ∈ ms, p ∈ f.initial)
      (asked : f.info.isPrivate = false → ∃ r, ClientEvent.decode e = .ok (.createRoom r)) :
      Move h (.event c e) h'
  /-- Accounts became members. -/
  | grown {c : Connection} {e : Envelope} {event : ClientEvent} {info : RoomInfo}
      {accounts : List String} {h' : Hub} (decoded : ClientEvent.decode e = .ok event)
      (may : h.MayAdd c event info accounts) (grows : h.Grows h' info accounts) :
      Move h (.event c e) h'
  /-- Some accounts were left as members. -/
  | halfGrown {c : Connection} {e : Envelope} {r : MembersRequest} {info : RoomInfo}
      {accounts : List String} {h' : Hub} (decoded : ClientEvent.decode e = .ok (.inviteRoom r))
      (may : h.MayAdd c (.inviteRoom r) info accounts) (storm : ¬ h.Calm) (live : h.SameLive h')
      (adds : h.store.Adds info.id (asUsers accounts) h'.store) : Move h (.event c e) h'
  /-- Accounts stopped being members. -/
  | shrunk {c : Connection} {e : Envelope} {event : ClientEvent} {info : RoomInfo}
      {accounts : List String} {h' : Hub} (decoded : ClientEvent.decode e = .ok event)
      (may : h.MayRemove c event info accounts) (shrinks : h.Shrinks h' info accounts) :
      Move h (.event c e) h'
  /-- Some accounts did not become members again. -/
  | halfShrunk {c : Connection} {e : Envelope} {r : MembersRequest} {info : RoomInfo}
      {accounts : List String} {h' : Hub} (decoded : ClientEvent.decode e = .ok (.kickRoom r))
      (may : h.MayRemove c (.kickRoom r) info accounts) (storm : ¬ h.Calm) (live : h.SameLive h')
      (removes : h.store.Removes info.id accounts h'.store) : Move h (.event c e) h'

variable {h h' : Hub} {t u : Turn} {item : Inbound}

instance Follows.decidable (h : Hub) : ∀ items : List Inbound, Decidable (h.Follows items)
  | [] => inferInstanceAs (Decidable True)
  | item :: rest =>
    have := decidable (h.handle item).1 rest
    inferInstanceAs (Decidable (item.Fits h ∧ (h.handle item).1.Follows rest))

/-! ### Rooms and members that stay -/

theorem Still.refl (h : Hub) : h.Still h := ⟨⟨rfl, rfl⟩, Store.Agrees.refl _⟩

/-- A hub that only asked the store is `Still`. -/
theorem Turn.Asks.still (ha : t.Asks u) : t.hub.Still u.hub :=
  ⟨⟨ha.roster, ha.rooms⟩, ha.store ▸ Store.Agrees.refl _⟩

theorem Turn.Undoes.sameLive {reports : List Effect} (hu : t.Undoes u reports) :
    t.hub.SameLive u.hub :=
  ⟨hu.1.roster, hu.1.rooms⟩

/-- A hub that only replied is `Still`. -/
theorem Turn.Replies.still {c : Connection} {event : String} (hu : t.Replies u c event) :
    t.hub.Still u.hub := by
  obtain ⟨result, hb⟩ := hu
  exact ⟨⟨hb.roster, hb.rooms⟩, hb.store ▸ Store.Agrees.refl _⟩

/-- A hub that only told that somebody types is `Still`. -/
theorem Turn.Types.still {c : Connection} {room : LiveRoom} (hu : t.Types u c room) :
    t.hub.Still u.hub := by
  obtain ⟨view, result, hb⟩ := hu
  exact ⟨⟨hb.roster, hb.rooms⟩, hb.store ▸ Store.Agrees.refl _⟩

/-- A hub that kept a message and told of it is `Still`. -/
theorem Turn.Writes.still {c : Connection} {room : LiveRoom} {text : String}
    (hu : t.Writes u c room text) : t.hub.Still u.hub := by
  obtain ⟨message, -, -, -, hb⟩ := hu
  refine ⟨⟨hb.roster, hb.rooms⟩, ?_⟩
  rw [hb.store]
  exact ⟨fun _ => rfl, fun _ _ => rfl, rfl⟩

/-- A hub that is `Still` stays coherent. -/
theorem Still.coherent (hs : h.Still h') (hc : h.Coherent) : h'.Coherent where
  roster := hs.roster ▸ hc.roster
  rooms := by rw [hs.roster, hs.rooms]; exact hc.rooms
  store := hc.store.of_agrees hs.store
  stored k room hk := by
    rw [hs.rooms] at hk
    rw [hs.store.rooms]
    exact hc.stored k room hk

/-- `SameLive` keeps a hub `Coherent` if the store that is left is `Sound` and still has the rooms
that it had. -/
theorem SameLive.coherent (hl : h.SameLive h') (hc : h.Coherent) (hs : h'.store.Sound)
    (hrooms : ∀ k info, h.store.rooms.get? k = some info → h'.store.rooms.get? k = some info) :
    h'.Coherent where
  roster := hl.roster ▸ hc.roster
  rooms := by rw [hl.roster, hl.rooms]; exact hc.rooms
  store := hs
  stored k room hk := by
    rw [hl.rooms] at hk
    exact hrooms k _ (hc.stored k room hk)

theorem MayAdd.stored {c : Connection} {event : ClientEvent} {info : RoomInfo}
    {accounts : List String} (hm : h.MayAdd c event info accounts) (hc : h.Coherent) :
    h.store.rooms.get? info.id = some info := by
  cases hm with
  | join resolved => exact (stored_of_resolved? hc resolved).1
  | invite governs => exact (stored_of_resolved? hc governs.resolved).1

theorem MayRemove.stored {c : Connection} {event : ClientEvent} {info : RoomInfo}
    {accounts : List String} (hm : h.MayRemove c event info accounts) (hc : h.Coherent) :
    h.store.rooms.get? info.id = some info := by
  cases hm with
  | leave resolved => exact (stored_of_resolved? hc resolved).1
  | kick governs => exact (stored_of_resolved? hc governs.resolved).1

theorem MayAdd.isPublic {c : Connection} {event : ClientEvent} {info : RoomInfo}
    {accounts : List String} (hm : h.MayAdd c event info accounts) : info.isPrivate = false := by
  cases hm with
  | join _ isPublic => exact isPublic
  | invite governs => exact governs.isPublic

theorem MayRemove.isPublic {c : Connection} {event : ClientEvent} {info : RoomInfo}
    {accounts : List String} (hm : h.MayRemove c event info accounts) : info.isPrivate = false := by
  cases hm with
  | leave _ isPublic => exact isPublic
  | kick governs => exact governs.isPublic

theorem Still.trans {h'' : Hub} (hs : h.Still h') (hs' : h'.Still h'') : h.Still h'' where
  roster := hs'.roster.trans hs.roster
  rooms := hs'.rooms.trans hs.rooms
  store := hs.store.trans hs'.store

/-! ### One item -/

/-- A turn that reached its room, and after which the hub was `Still`, makes a move of the hub. -/
theorem Turn.Reaches.moves {c : Connection} {room? user? : Option String} {room : LiveRoom}
    (hr : t.Reaches u c room? user? room) (hs : u.hub.Still h') (e : Envelope) :
    t.hub.Move (.event c e) h' := by
  cases hr with
  | reference asks => exact .still (asks.still.trans hs)
  | receiver other stored named finds =>
    rcases finds with ⟨asks, -⟩ | ⟨-, loads, -⟩
    · exact .still (asks.still.trans hs)
    · exact .loaded other stored named loads hs

theorem Turn.Reaches.calm {c : Connection} {room? user? : Option String} {room : LiveRoom}
    (hr : t.Reaches u c room? user? room) : t.hub.Calm → u.hub.Calm := by
  cases hr with
  | reference asks => exact asks.calm
  | receiver other stored named finds =>
    rcases finds with ⟨asks, -⟩ | ⟨hb, -, -⟩
    · exact asks.calm
    · exact hb.calm

/-- A turn that may have opened a room for two, and after which the hub was `Still`, makes a move of
the hub. -/
theorem Turn.Opens.moves {c : Connection} {room? user? : Option String} {room : LiveRoom}
    (hr : t.Opens u c room? user? room) (hs : u.hub.Still h') (e : Envelope) :
    t.hub.Move (.event c e) h' := by
  rcases hr with hr | ⟨receiver, f, -, -, hp, -⟩
  · exact hr.moves hs e
  · refine .founded hp.permits hp.founds hs fun hpublic => ?_
    rw [hp.isPrivate] at hpublic
    cases hpublic

theorem Turn.Opens.calm {c : Connection} {room? user? : Option String} {room : LiveRoom}
    (hr : t.Opens u c room? user? room) : t.hub.Calm → u.hub.Calm := by
  rcases hr with hr | ⟨receiver, f, -, -, hp, -⟩
  · exact hr.calm
  · exact hp.informs.calm

/-- `dispatch` makes a `Move`, whether the event is carried out or fails, and keeps the calm. The
cases are those of the events, each with the lemma about its request. -/
theorem dispatch_moves (hc : t.hub.Coherent) (c : Connection) {e : Envelope} {event : ClientEvent}
    (he : ClientEvent.decode e = .ok event) :
    Request.Gives (dispatch c event) t
      (fun _ u => t.hub.Move (.event c e) u.hub ∧ (t.hub.Calm → u.hub.Calm))
      fun _ u => t.hub.Move (.event c e) u.hub ∧ (t.hub.Calm → u.hub.Calm) := by
  -- the four ways in which requests leave rooms and roles as they were, or nearly so
  have hasks : ∀ {u : Turn}, t.Asks u → t.hub.Move (.event c e) u.hub ∧ (t.hub.Calm → u.hub.Calm) :=
    fun ha => ⟨.still ha.still, ha.calm⟩
  have hreplies : ∀ {u : Turn} {kind : String}, t.Replies u c kind →
      t.hub.Move (.event c e) u.hub ∧ (t.hub.Calm → u.hub.Calm) := by
    intro u kind hu
    obtain ⟨result, hb⟩ := id hu
    exact ⟨.still hu.still, hb.calm⟩
  have hrestores : ∀ {u : Turn}, t.Restores u →
      t.hub.Move (.event c e) u.hub ∧ (t.hub.Calm → u.hub.Calm) :=
    fun hu => ⟨.still ⟨hu.1.sameLive, hu.2.agrees⟩, hu.1.1.calm⟩
  have habandons : ∀ {u : Turn} {f : Founding}, t.Abandons u c.account f →
      (f.info.isPrivate = false → ∃ r, event = .createRoom r) →
      t.hub.Move (.event c e) u.hub ∧ (t.hub.Calm → u.hub.Calm) := by
    rintro u f ⟨ms, reports, hp, hu, -, hstorm, hf, hms⟩ hasked
    refine ⟨.halfFounded hp hstorm hu.sameLive hf hms fun hpublic => ?_, hu.1.calm⟩
    obtain ⟨r, rfl⟩ := hasked hpublic
    exact ⟨r, he⟩
  cases event with
  | typing r =>
    refine (typing_gives hc c r).mono (fun _ _ h => hasks h) ?_
    rintro - u ⟨room, s, hr, hu⟩
    obtain ⟨view, result, hb⟩ := id hu
    exact ⟨hr.moves hu.still e, hb.calm ∘ hr.calm⟩
  | chat r =>
    refine (chat_gives hc c r).mono ?_ ?_
    · rintro err u (⟨h, -⟩ | ⟨f, hprivate, h⟩ | ⟨room, s, hr, hu, -⟩)
      · exact hrestores h
      · refine habandons h fun hpublic => ?_
        -- the room of two is private, so no `.createRoom` is asked for
        rw [hprivate] at hpublic
        cases hpublic
      · exact ⟨hr.moves hu.still e, hu.calm ∘ hr.calm⟩
    · rintro - u ⟨room, s, hr, hu⟩
      obtain ⟨message, -, -, -, hb⟩ := id hu
      exact ⟨hr.moves hu.still e, hb.calm ∘ hr.calm⟩
  | createRoom r =>
    refine (createRoom_gives hc c r).mono ?_ ?_
    · rintro err u (h | ⟨f, h⟩)
      · exact hrestores h
      · exact habandons h fun _ => ⟨r, rfl⟩
    · rintro - u ⟨f, hp, hf, result, news, -, hb⟩
      exact ⟨.founded hp hf (Still.refl _) fun _ => ⟨r, he⟩, hb.calm⟩
  | joinRoom r =>
    refine (joinRoom_gives hc c r).mono (fun _ _ h => hasks h.1) ?_
    rintro - u ⟨info, hi, hp, hcan, hg, news, -, hb⟩
    exact ⟨.grown he (.join hi hp hcan.isOpen) hg, hb.calm⟩
  | leaveRoom r =>
    refine (leaveRoom_gives hc c r).mono (fun _ _ h => hasks h.1) ?_
    rintro - u ⟨info, hi, hp, -, hg, -, news, -, hb⟩
    exact ⟨.shrunk he (.leave hi hp) hg, hb.calm⟩
  | inviteRoom r =>
    refine (inviteRoom_gives hc c r).mono ?_ ?_
    · rintro err u ⟨h | ⟨info, kept, reports, hg, hu, hadds, hkept, hnone, hcalm⟩, -⟩
      · exact hasks h
      · -- in calm weather everything is taken back
        by_cases hstorm : t.hub.Calm
        · rw [hnone (hcalm hstorm)] at hadds
          exact ⟨.still ⟨hu.sameLive, hadds.alike.agrees⟩, hu.1.calm⟩
        · exact ⟨.halfGrown he (.invite hg hkept) hstorm hu.sameLive hadds, hu.1.calm⟩
    · rintro - u ⟨info, hg, -, hgrows, news, -, hb⟩
      have hlisted : ∀ a ∈ t.hub.store.outsiders info r.users, a ∈ r.users :=
        fun a ha => (mem_outsiders.1 ha).1
      exact ⟨.grown he (.invite hg hlisted) hgrows, hb.calm⟩
  | kickRoom r =>
    refine (kickRoom_gives hc c r).mono ?_ ?_
    · rintro err u ⟨h | ⟨info, lost, reports, hg, hu, hremoves, hlost, hnone, hcalm⟩, -⟩
      · exact hasks h
      · -- in calm weather everybody becomes a member again
        by_cases hstorm : t.hub.Calm
        · rw [hnone (hcalm hstorm)] at hremoves
          exact ⟨.still ⟨hu.sameLive, hremoves.alike.agrees⟩, hu.1.calm⟩
        · exact ⟨.halfShrunk he (.kick hg hlost) hstorm hu.sameLive hremoves, hu.1.calm⟩
    · rintro - u ⟨info, hg, hcan, hshrinks, news, -, hb⟩
      have hlisted : ∀ a ∈ distinct r.users, a ∈ r.users ∧ a ≠ c.account := fun a ha =>
        ⟨mem_distinct.1 ha, fun h => hcan.others (h ▸ mem_distinct.1 ha)⟩
      exact ⟨.shrunk he (.kick hg hlisted) hshrinks, hb.calm⟩
  | getUsers r => exact (getUsers_gives c r t).mono (fun _ _ h => hasks h) fun _ _ h => hreplies h
  | getChats r => exact (getChats_gives hc c r).mono (fun _ _ h => hasks h) fun _ _ h => hreplies h
  | getNotifications r =>
    exact (getNotifications_gives hc c r).mono (fun _ _ h => hasks h) fun _ _ h => hreplies h
  | userRooms => exact (userRooms_gives c t).mono (fun _ _ h => hasks h) fun _ _ h => hreplies h

/-- `answering` carries a request out, or tells the client its error with `ServerEvent.ofError`. -/
theorem answering_gives {request : Request Unit} {F : ChatError → Turn → Prop}
    {D : Unit → Turn → Prop} (h : Request.Gives request t F D) (c : Connection) :
    Step.Gives (answering c request) t fun _ u => D () u ∨
      ∃ e s, F e s ∧ u = s.doing (.send c (.ofError e)) := by
  unfold answering
  refine Step.Gives.bind (P := fun r s => (r = .ok () ∧ D () s) ∨ ∃ e, r = .error e ∧ F e s) ?_ ?_
  · show _ ∨ _
    -- `answering` looks at the outcome and goes on from the turn that is left
    rcases hr : request t with ⟨e | ⟨⟩, s⟩
    · right
      refine ⟨e, congrArg Prod.fst hr, ?_⟩
      rw [show (request.run t).2 = s from congrArg Prod.snd hr]
      exact h.of_error hr
    · left
      refine ⟨congrArg Prod.fst hr, ?_⟩
      rw [show (request.run t).2 = s from congrArg Prod.snd hr]
      exact h.of_ok hr
  · rintro r s (⟨rfl, hs⟩ | ⟨e, rfl, hs⟩)
    · exact Step.gives_pure (Or.inl hs)
    · exact Or.inr ⟨e, s, hs, rfl⟩

/-- `fromClient` ignores what a client sends that is not registered. -/
theorem fromClient_gives {request : Request Unit} {F : ChatError → Turn → Prop}
    {D : Unit → Turn → Prop} (h : Request.Gives request t F D) (c : Connection) :
    Step.Gives (fromClient c request) t fun _ u =>
      (t.hub.roster.get? c.id = none ∧ u = t) ∨ D () u ∨
        ∃ e s, F e s ∧ u = s.doing (.send c (.ofError e)) := by
  unfold fromClient
  refine (look_gives _ t).bind ?_
  rintro client s ⟨rfl, rfl⟩
  split
  · exact (answering_gives h c).mono fun _ _ => Or.inr
  · rename_i hn
    exact Step.gives_pure (Or.inl ⟨Option.not_isSome_iff_eq_none.1 hn, rfl⟩)

/-- `serve` is `dispatch` of the event that `ClientEvent.decode` finds in the envelope. -/
theorem serve_gives {c : Connection} {e : Envelope} {event : ClientEvent}
    {F : ChatError → Turn → Prop} {D : Unit → Turn → Prop}
    (he : ClientEvent.decode e = .ok event) (h : Request.Gives (dispatch c event) t F D) :
    Request.Gives (serve c e) t F D := by
  unfold serve
  rw [he]
  exact h

/-- `handle` of an event: it is ignored, carried out, or answered with its error. -/
theorem handle_event {c : Connection} {e : Envelope} {F : ChatError → Turn → Prop}
    {D : Unit → Turn → Prop} (hg : Request.Gives (serve c e) { hub := h } F D) :
    (h.roster.get? c.id = none ∧ h.handle (.event c e) = (h, [])) ∨
      (∃ u, D () u ∧ h.handle (.event c e) = (u.hub, u.effects)) ∨
      ∃ err s, F err s ∧
        h.handle (.event c e) = (s.hub, s.effects ++ [.send c (.ofError err)]) := by
  have hgives := fromClient_gives hg c
  generalize hu : (take (.event c e) { hub := h }).2 = u
  rw [show h.handle (.event c e) = (u.hub, u.effects) by rw [← hu]; rfl]
  rw [Step.Gives, show (fromClient c (serve c e) { hub := h }).2 = u from hu] at hgives
  rcases hgives with ⟨hn, rfl⟩ | hd | ⟨err, s, hs, rfl⟩
  · exact Or.inl ⟨hn, rfl⟩
  · exact Or.inr (Or.inl ⟨u, hd, rfl⟩)
  · exact Or.inr (Or.inr ⟨err, s, hs, rfl⟩)

/-- From a lemma about `serve` to a statement about `handle`: a request that is carried out exactly
if `P`, with `D` after it, and that tells nobody anything before its error. -/
theorem success_iff_of_gives {c : Connection} {e : Envelope} {P : Prop} {D : Hub → List Effect → Prop}
    (hreg : h.roster.Holds c)
    (hg : Request.Gives (serve c e) { hub := h } (fun _ u => ¬ P ∧ u.effects = []) fun _ u =>
      P ∧ (∃ reply, Effect.send c (.success reply) ∈ u.effects) ∧ D u.hub u.effects) :
    ((∃ reply, Effect.send c (.success reply) ∈ (h.handle (.event c e)).2) ↔ P) ∧
      (P → D (h.handle (.event c e)).1 (h.handle (.event c e)).2) := by
  rcases handle_event hg with ⟨hnone, -⟩ | ⟨u, ⟨hp, hreply, hd⟩, hh⟩ | ⟨err, s, ⟨hp, hs⟩, hh⟩
  · rw [show h.roster.get? c.id = some c from hreg] at hnone
    cases hnone
  · rw [hh]
    exact ⟨iff_of_true hreply hp, fun _ => hd⟩
  · -- there is nothing but the error
    rw [hh, hs]
    refine ⟨iff_of_false ?_ hp, fun hp' => absurd hp' hp⟩
    rintro ⟨reply, hreply⟩
    cases List.mem_singleton.1 hreply

theorem handle_register (hc : h.Coherent) (c : Connection) :
    h.Registers (h.handle (.register c)).1 c :=
  (register_gives (t := { hub := h }) hc c).1

/-- All that `handle` sends for a `.register` is news. -/
theorem isNews_of_register (hc : h.Coherent) (c : Connection) :
    ∀ e ∈ (h.handle (.register c)).2, e.IsNews := by
  obtain ⟨-, -, news, heffects, hnews⟩ := register_gives (t := { hub := h }) hc c
  show ∀ e ∈ (register c { hub := h }).2.effects, e.IsNews
  rw [heffects]
  exact hnews

/-- `handle` of `.unregister` does nothing to a connection that has gone already; otherwise it
`Unregisters`, and closes the connection before it sends news. -/
theorem handle_unregister (hc : h.Coherent) {c : Connection} (hf : (Inbound.unregister c).Fits h) :
    (h.roster.get? c.id = none ∧ h.handle (.unregister c) = (h, [])) ∨
      h.Unregisters (h.handle (.unregister c)).1 c ∧
        ∃ news, (h.handle (.unregister c)).2 = .close c :: news ∧ ∀ e ∈ news, e.IsNews := by
  have hgone := unregister_gives (t := { hub := h }) hc c hf
  rw [show h.handle (.unregister c) =
    ((unregister c { hub := h }).2.hub, (unregister c { hub := h }).2.effects) from rfl]
  rcases hgone with ⟨hn, hsame⟩ | ⟨hgone, -, hnews⟩
  · rw [hsame]
    exact Or.inl ⟨hn, rfl⟩
  · exact Or.inr ⟨hgone, hnews⟩

/-- `serve` makes a move of the hub, whether it succeeds or fails, and needs no outage to end. -/
theorem serve_moves (hc : t.hub.Coherent) (c : Connection) (e : Envelope) :
    Request.Gives (serve c e) t
      (fun _ u => t.hub.Move (.event c e) u.hub ∧ (t.hub.Calm → u.hub.Calm))
      fun _ u => t.hub.Move (.event c e) u.hub ∧ (t.hub.Calm → u.hub.Calm) := by
  unfold serve
  refine Request.Gives.except_bind (fun _ _ => ?_) fun event he => dispatch_moves hc c he
  exact ⟨.still (Still.refl _), id⟩

/-- `handle` of `.malformed` leaves the hub as it is, whoever has sent it. -/
theorem handle_malformed_fst (h : Hub) (c : Connection) (err : ChatError) :
    (h.handle (.malformed c err)).1 = h := by
  show ((if (h.roster.get? c.id).isSome then answering c (throw err) else pure () : Step Unit)
    { hub := h }).2.hub = h
  split
  · rfl
  · rfl

/-- `handle` of every item that `Fits` makes a `Move` and keeps the calm. -/
theorem handle_moves (hc : h.Coherent) (hf : item.Fits h) :
    h.Move item (h.handle item).1 ∧ (h.Calm → (h.handle item).1.Calm) := by
  show Step.Gives (take item) { hub := h } fun _ u => h.Move item u.hub ∧ (h.Calm → u.hub.Calm)
  have hstill : h.Move item h ∧ (h.Calm → h.Calm) := ⟨.still (Still.refl h), id⟩
  cases item with
  | register c =>
    refine (register_gives hc c).mono ?_
    rintro - u ⟨hr, hcalm, -⟩
    exact ⟨.registered hr, hcalm⟩
  | unregister c =>
    refine (unregister_gives (t := { hub := h }) hc c hf).mono ?_
    rintro - u (⟨-, rfl⟩ | ⟨hr, hcalm, -⟩)
    · -- the connection was not registered
      exact hstill
    · exact ⟨.unregistered hr, hcalm⟩
  | malformed c e =>
    show h.Move _ (h.handle (.malformed c e)).1 ∧ (h.Calm → (h.handle (.malformed c e)).1.Calm)
    rw [handle_malformed_fst]
    exact hstill
  | event c e =>
    refine (fromClient_gives (serve_moves hc c e) c).mono ?_
    rintro - u (⟨-, rfl⟩ | hd | ⟨e, s, hs, rfl⟩)
    · exact hstill
    · exact hd
    · exact hs

/-! ### All states -/

/-- A `Move` preserves `Coherent`: this is what one item preserves, kind by kind. -/
theorem Move.coherent (hm : h.Move item h') (hf : item.Fits h) (hc : h.Coherent) :
    h'.Coherent := by
  cases hm with
  | still hs => exact hs.coherent hc
  | registered hr => exact hr.coherent hc hf
  | unregistered hr => exact hr.coherent hc
  | loaded _ stored _ loads still => exact still.coherent (loads.coherent hc stored)
  | founded _ founds still => exact still.coherent (founds.coherent hc)
  | halfFounded _ _ live founds =>
    -- no room was deleted, and the one that was made is not live
    refine live.coherent hc (hc.store.of_founds founds) fun k info hk => ?_
    rw [founds.rooms]
    split
    · rename_i hk'
      rw [hk', founds.fresh] at hk
      cases hk
    · exact hk
  | grown _ may grows => exact grows.coherent hc (may.stored hc)
  | halfGrown _ may _ live adds =>
    refine live.coherent hc (hc.store.of_adds adds) fun k info hk => ?_
    rw [adds.rooms]
    exact hk
  | shrunk _ may shrinks => exact shrinks.coherent hc (may.stored hc)
  | halfShrunk _ may _ live removes =>
    refine live.coherent hc (hc.store.of_removes removes) fun k info hk => ?_
    rw [removes.rooms]
    exact hk

/-- A `Move` leaves `Store.accounts` as they are. -/
theorem Move.accounts (hm : h.Move item h') : h'.store.accounts = h.store.accounts := by
  cases hm with
  | still still => exact still.store.accounts
  | registered registers => exact (agrees_of_presence registers.store).accounts
  | unregistered unregisters => exact (agrees_of_presence unregisters.store).accounts
  | loaded _ _ _ loads still => rw [still.store.accounts, loads.store]
  | founded _ founds still => rw [still.store.accounts, founds.store.rest]
  | halfFounded _ _ _ founds => rw [founds.rest]
  | grown _ _ grows => exact grows.known
  | halfGrown _ _ _ _ adds => rw [adds.rest]
  | shrunk _ _ shrinks => exact shrinks.known
  | halfShrunk _ _ _ _ removes => rw [removes.rest]

/-- Whoever is in the roster after a `Move` was there before, or the item was its `.register`. -/
theorem Move.connected (hm : h.Move item h') (hf : item.Fits h) {d : Connection}
    (hd : h'.roster.Holds d) : h.roster.Holds d ∨ item = .register d := by
  cases hm with
  | still still => exact Or.inl (still.roster ▸ hd)
  | registered registers =>
    -- no other move adds anybody to the roster
    rw [registers.roster] at hd
    rcases (Roster.holds_add hf).1 hd with rfl | hd
    · exact Or.inr rfl
    · exact Or.inl hd
  | unregistered unregisters => exact Or.inl ((Roster.holds_remove unregisters.roster).1 hd).1
  | loaded _ _ _ loads still => exact Or.inl (loads.roster ▸ still.roster ▸ hd)
  | founded _ founds still => exact Or.inl (founds.roster ▸ still.roster ▸ hd)
  | halfFounded _ _ live | halfGrown _ _ _ live | halfShrunk _ _ _ live =>
    exact Or.inl (live.roster ▸ hd)
  | grown _ _ grows => exact Or.inl (grows.roster ▸ hd)
  | shrunk _ _ shrinks => exact Or.inl (shrinks.roster ▸ hd)

/-- `fresh` is `Coherent`, whatever the outages. -/
theorem coherent_fresh (accounts : List Account) (mint : Mint) (outages : List Outage) :
    (fresh accounts mint outages).Coherent where
  roster := Roster.sound_empty
  rooms := LiveRooms.sound_empty _
  store := Store.sound_ofAccounts accounts
  stored _ _ h := by cases h

/-! ### Lists of items -/

theorem run_append (h : Hub) (items items' : List Inbound) :
    (h.run (items ++ items')).1 = ((h.run items).1.run items').1 := by
  induction items generalizing h with
  | nil => rfl
  | cons item items ih => exact ih _

theorem follows_append {items items' : List Inbound} :
    h.Follows (items ++ items') ↔ h.Follows items ∧ (h.run items).1.Follows items' := by
  induction items generalizing h with
  | nil => exact ⟨fun h => ⟨trivial, h⟩, And.right⟩
  | cons item items ih =>
    rw [List.cons_append, Follows, Follows, ih, and_assoc]
    rfl

theorem Reachable.trans {start : Hub} (hr : Reachable start h) (hr' : Reachable h h') :
    Reachable start h' := by
  induction hr' with
  | start => exact hr
  | step _ fits ih => exact ih.step fits

/-- `run` leads to states that can be reached, if the items follow the hub. -/
theorem Reachable.run {start : Hub} {items : List Inbound} (hr : Reachable start h)
    (hf : h.Follows items) : Reachable start (h.run items).1 := by
  induction items generalizing h with
  | nil => exact hr
  | cons item items ih => exact ih (hr.step hf.1) hf.2

/-- Induction over `Reachable` by `Move`: what holds at the start and is preserved by every move of
a `Coherent` hub holds in all states. -/
theorem Reachable.induct {start : Hub} {P : Hub → Prop} (hr : Reachable start h)
    (hstart : P start)
    (hstep : ∀ {h h' : Hub} {item : Inbound}, item.Fits h → h.Move item h' → (h.Calm → h'.Calm) →
      h.Coherent → P h → P h')
    (hc : start.Coherent) : P h ∧ h.Coherent := by
  induction hr with
  | start => exact ⟨hstart, hc⟩
  | step before fits ih =>
    obtain ⟨hp, hcoherent⟩ := ih
    obtain ⟨hmove, hcalm⟩ := handle_moves hcoherent fits
    exact ⟨hstep fits hmove hcalm hcoherent hp, hmove.coherent fits hcoherent⟩

/-- `Reachable` states are those after a list of items that the start `Follows`. -/
theorem reachable_iff {start : Hub} :
    Reachable start h ↔ ∃ items, start.Follows items ∧ h = (start.run items).1 := by
  constructor
  · intro hr
    induction hr with
    | start => exact ⟨[], trivial, rfl⟩
    | @step h item _ fits ih =>
      obtain ⟨items, hf, rfl⟩ := ih
      exact ⟨items ++ [item], follows_append.2 ⟨hf, fits, trivial⟩, (run_append start items [item]).symm⟩
  · rintro ⟨items, hf, rfl⟩
    exact Reachable.start.run hf

/-- All states that are `Reachable` from a `Coherent` one are `Coherent`. -/
theorem Reachable.coherent {start : Hub} (hr : Reachable start h) (hc : start.Coherent) :
    h.Coherent :=
  (hr.induct (P := fun _ => True) trivial (fun _ _ _ _ _ => trivial) hc).2

theorem Reachable.calm {start : Hub} (hr : Reachable start h) (hc : start.Coherent)
    (hcalm : start.Calm) : h.Calm :=
  (hr.induct hcalm (fun _ _ h _ => h) hc).1

/-! ### A run -/

/-- A connection of one account, `ann`. -/
def ann : Connection := ⟨"1", "ann", "Ann", .user⟩

/-- A connection of another account, `bob`. -/
def bob : Connection := ⟨"2", "bob", "Bob", .user⟩

/-- `ann` and `bob` come, and `ann` makes a public room with `bob`. -/
def meeting : List Inbound :=
  [.register ann, .register bob, .event ann ⟨"create-room",
    .object [("name", .text "den"), ("members", .list [.text "bob"])]⟩]

/-- The identifier of the room that `meeting` makes. -/
def den : String := "00000000-0000-4000-8001-000000000000"

/-- A `fresh` hub with `ann`, `bob` and two more accounts. -/
def lobby (outages : List Outage) : Hub :=
  fresh [⟨"ann", "Ann", .user⟩, ⟨"bob", "Bob", .user⟩, ⟨"cleo", "Cleo", .user⟩,
    ⟨"dan", "Dan", .user⟩] (.counting 0) outages

end Hub

end GroupChat
