import GroupChat.Proofs.Hub.Response

/-!
# Refusals and questions

A request looks before it acts. Once it has changed something, told somebody or made a room live,
only the store can stop it, and the client is told so by the code of an internal error. So a frame
that is answered with any other error did nothing else, and neither did a question.

## Main definitions

- `Hub.Untouched`: connections, live rooms and store are as they were.
- `Turn.Refuses`: a request failed before it did anything, or with an internal error.
- `ClientEvent.queryKinds`: the kinds of the questions.
- `Effect.IsRefusal`: a client is told that it is refused something.

## Main statements

- `dispatch_refuses`: a request does nothing before it is refused.
- `serve_asks`: a question changes nothing, and only its origin is told.
- `untouched_of_reachable`: both, for the frames of all states.
-/

namespace GroupChat

/-- The kinds of requests that only ask something, as `ClientEvent.kind` names them. -/
def ClientEvent.queryKinds : List String := ["get-users", "get-chats", "get-notifs", "user-rooms"]

/-- The client `c` is told an `.error` other than an internal one, which has the code 3. -/
def Effect.IsRefusal (c : Connection) : Effect → Prop
  | .send d (.error view) => d = c ∧ view.code ≠ 3
  | _ => False

instance (c : Connection) : DecidablePred (Effect.IsRefusal c)
  | .send d (.error view) => inferInstanceAs (Decidable (d = c ∧ view.code ≠ 3))
  | .send _ (.success _) | .send _ (.forward _) | .send _ (.chat _) | .send _ (.notification _)
  | .send _ (.invited _) | .close _ | .report _ => inferInstanceAs (Decidable False)

/-- `IsRefusal` is an error with a code other than 3, which is that of the store. -/
theorem Effect.IsRefusal.eq {c : Connection} {e : Effect} (he : e.IsRefusal c) :
    ∃ view, e = .send c (.error view) ∧ view.code ≠ 3 := by
  cases e with
  | send d event =>
    cases event with
    | error view => exact ⟨view, by rw [he.1], he.2⟩
    | success | forward | chat | notification | invited => exact he.elim
  | close d => exact he.elim
  | report i => exact he.elim

namespace Hub

/-- `h'` is `SameLive`, and everything in the store is as it was in `h`. -/
structure Untouched (h h' : Hub) : Prop extends SameLive h h' where
  /-- The store. -/
  store : h'.store = h.store

/-- A request failed with the internal error 3, or with `e` before it did anything (`Turn.Asks`). -/
def Turn.Refuses (t u : Turn) (e : ChatError) : Prop := e.code = 3 ∨ t.Asks u

variable {α : Type} {h : Hub} {t u : Turn} {c : Connection} {item : Inbound} {view : ErrorView}

theorem Turn.Asks.untouched (h : t.Asks u) : t.hub.Untouched u.hub := ⟨⟨h.roster, h.rooms⟩, h.store⟩

theorem Turn.Asks.refuses (h : t.Asks u) (e : ChatError) : t.Refuses u e := Or.inr h

/-! ### What only the store can stop -/

/-- `orFail` fails with the code 3 only. -/
theorem orFail_internal (call : Step (Except StoreError α)) (t : Turn) :
    Request.Gives (orFail call) t (fun e _ => e.code = 3) fun _ _ => True := by
  unfold orFail
  refine Request.Gives.lift_bind (P := fun _ _ => True) trivial fun r s _ => ?_
  cases r with
  | error e => exact Request.gives_throw rfl
  | ok a => exact Request.gives_pure trivial

theorem gives_of_step {F : ChatError → Turn → Prop} (x : Step α) (t : Turn) :
    Request.Gives (liftM x : Request α) t F fun _ _ => True :=
  Request.Gives.lift trivial

/-- What follows a `Step` fails as it does anyway. -/
theorem gives_of_step_bind {β : Type} {F : ChatError → Turn → Prop} {D : β → Turn → Prop}
    (x : Step α) {f : α → Request β} {t : Turn} (hf : ∀ a s, Request.Gives (f a) s F D) :
    Request.Gives ((liftM x : Request α) >>= f) t F D :=
  Request.Gives.lift_bind (P := fun _ _ => True) trivial fun a s _ => hf a s

/-- `persist` fails with the code 3 only. -/
theorem persist_internal (f : Founding) (t : Turn) :
    Request.Gives (persist f) t (fun e _ => e.code = 3) fun _ _ => True := by
  unfold persist
  refine (orFail_internal _ t).bind (fun _ _ he => he) fun _ s _ => ?_
  refine gives_of_step_bind _ fun r v => ?_
  cases r with
  | ok => exact Request.gives_pure trivial
  | error e => exact gives_of_step_bind _ fun _ u => Request.gives_throw rfl

/-- `addInvitees` fails with the code 3 only. -/
theorem addInvitees_internal (room : String) (added : List String) (accounts : List Account)
    (t : Turn) :
    Request.Gives (addInvitees room added accounts) t (fun e _ => e.code = 3) fun _ _ => True := by
  induction accounts generalizing added t with
  | nil => exact Request.gives_pure trivial
  | cons account accounts ih =>
    rw [addInvitees]
    refine gives_of_step_bind _ fun r s => ?_
    cases r with
    | ok => exact ih _ s
    | error e => exact gives_of_step_bind _ fun _ u => Request.gives_throw rfl

/-- `removeTargets` fails with the code 3 only. -/
theorem removeTargets_internal (room : String) (removed ms : List (String × Role)) (t : Turn) :
    Request.Gives (removeTargets room removed ms) t (fun e _ => e.code = 3) fun _ _ => True := by
  induction ms generalizing removed t with
  | nil => exact Request.gives_pure trivial
  | cons p ms ih =>
    obtain ⟨account, role⟩ := p
    rw [removeTargets]
    refine gives_of_step_bind _ fun r s => ?_
    cases r with
    | ok => exact ih _ s
    | error e => exact gives_of_step_bind _ fun _ u => Request.gives_throw rfl

/-! ### The requests -/

/-- A request that fails with the code 3 only has no refusal to answer for, so `Refuses` holds. -/
theorem refuses_of_internal {x : Request α} {s : Turn}
    (hx : Request.Gives x s (fun e _ => e.code = 3) fun _ _ => True) :
    Request.Gives x s (fun e u => t.Refuses u e) fun _ _ => True :=
  hx.mono (fun _ _ he => Or.inl he) fun _ _ h => h

/-- `createRoom` refuses before it makes anything. -/
theorem createRoom_refuses (c : Connection) (r : CreateRequest) (t : Turn) :
    Request.Gives (createRoom c r) t (fun e u => t.Refuses u e) fun _ _ => True := by
  unfold createRoom
  refine Request.Gives.except_bind (fun e _ => (Turn.Asks.refl t).refuses e) fun _ _ => ?_
  refine (knownAccounts_gives _ t).bind (fun e _ h => h.1.refuses e) ?_
  rintro - s ⟨hs, -⟩
  refine Request.Gives.except_bind (fun e _ => hs.refuses e) fun name _ => ?_
  refine (orFail_ask_gives _ _ s).bind (fun e _ h => (hs.trans h.1).refuses e) ?_
  rintro room? v ⟨hv, -⟩
  refine Request.Gives.refuse (fun _ => (hs.trans hv).refuses _) fun _ => ?_
  -- from here on, only the store can stop it
  refine gives_of_step_bind _ fun id w => ?_
  refine refuses_of_internal ?_
  refine (persist_internal _ w).bind (fun _ _ he => he) fun _ x _ => ?_
  exact gives_of_step_bind _ fun room y => gives_of_step _ y

/-- `inviteRoom` refuses before it adds anybody. -/
theorem inviteRoom_refuses (hc : t.hub.Coherent) (c : Connection) (r : MembersRequest) :
    Request.Gives (inviteRoom c r) t (fun e u => t.Refuses u e) fun _ _ => True := by
  unfold inviteRoom
  refine (adminRoom_gives hc c r.room).bind (fun e _ h => h.1.refuses e) ?_
  rintro room s ⟨hs, -⟩
  refine Request.Gives.refuse (fun _ => hs.refuses _) fun _ => ?_
  refine (invitees_gives (hs.store ▸ hc.store) _ _).bind (fun e _ h => (hs.trans h.1).refuses e) ?_
  rintro accounts v ⟨hv, -⟩
  refine Request.Gives.refuse (fun _ => (hs.trans hv).refuses _) fun _ => ?_
  refine refuses_of_internal ?_
  refine (addInvitees_internal _ _ _ v).bind (fun _ _ he => he) fun _ w _ => ?_
  refine gives_of_step_bind _ fun room x => ?_
  exact gives_of_step_bind _ fun _ y => gives_of_step _ y

/-- `kickRoom` refuses before it removes anybody. -/
theorem kickRoom_refuses (hc : t.hub.Coherent) (c : Connection) (r : MembersRequest) :
    Request.Gives (kickRoom c r) t (fun e u => t.Refuses u e) fun _ _ => True := by
  unfold kickRoom
  refine (adminRoom_gives hc c r.room).bind (fun e _ h => h.1.refuses e) ?_
  rintro room s ⟨hs, -⟩
  refine Request.Gives.refuse (fun _ => hs.refuses _) fun _ => ?_
  refine Request.Gives.refuse (fun _ => hs.refuses _) fun _ => ?_
  refine (targets_gives _ _ s).bind (fun e _ h => (hs.trans h.1).refuses e) ?_
  rintro ms v -
  refine refuses_of_internal ?_
  refine (removeTargets_internal _ _ _ v).bind (fun _ _ he => he) fun _ w _ => ?_
  refine gives_of_step_bind _ fun room x => ?_
  refine gives_of_step_bind _ fun _ y => ?_
  exact gives_of_step_bind _ fun _ z => gives_of_step _ z

/-- `directRoom` refuses before it has done anything. A room that it finds becomes live, but nothing
is refused after that. -/
theorem directRoom_refuses (hc : t.hub.Coherent) (c : Connection) (receiver : String) :
    Request.Gives (directRoom c receiver) t (fun e u => t.Refuses u e) fun _ _ => True := by
  unfold directRoom
  refine (directRoom?_gives hc c receiver).bind (fun e _ h => h.1.refuses e) ?_
  rintro room? s ⟨-, ⟨rfl, hs, -⟩ | ⟨info, room, rfl, -⟩⟩
  swap
  · exact Request.gives_pure trivial
  refine (knownAccount_gives receiver s).bind (fun e _ h => (hs.trans h.1).refuses e) ?_
  rintro account v -
  refine gives_of_step_bind _ fun id w => ?_
  refine refuses_of_internal ?_
  refine (persist_internal _ w).bind (fun _ _ he => he) fun _ x _ => ?_
  exact gives_of_step _ x

/-- Once the room of a message was found or made, only the store can stop `chat`. -/
theorem write_internal (c : Connection) (room : LiveRoom) (text : String) (t : Turn) :
    Request.Gives (do
      let stamp ← liftM newMessageStamp
      let message : ChatMessage := ⟨stamp.id, c.account, room.id, text, stamp.time⟩
      orFail (tell .addMessage fun s => (.ok (), s.addMessage message))
      let view : ChatView := ⟨message, c.name⟩
      let _ ← liftM (broadcastExcept room (.chat view) c.account)
      liftM (replyAndForward c "chat" (Wire.chatView.shape.toJson view))) t
      (fun e _ => e.code = 3) fun _ _ => True := by
  refine gives_of_step_bind _ fun stamp s => ?_
  refine (orFail_internal _ s).bind (fun _ _ he => he) fun _ v _ => ?_
  exact gives_of_step_bind _ fun _ w => gives_of_step _ w

/-- `chat` refuses before it keeps the message. A room for two that it opened is no reason to
refuse. -/
theorem chat_refuses (hc : t.hub.Coherent) (c : Connection) (r : ChatRequest) :
    Request.Gives (chat c r) t (fun e u => t.Refuses u e) fun _ _ => True := by
  unfold chat
  refine Request.Gives.refuse (fun _ => (Turn.Asks.refl t).refuses _) fun _ => ?_
  refine Request.Gives.except_bind (fun e _ => (Turn.Asks.refl t).refuses e) fun address _ => ?_
  have htail := fun room s => refuses_of_internal (t := t) (write_internal c room r.message s)
  cases address with
  | room ref =>
    refine (memberRoom_gives hc c ref).bind (fun e _ h => h.1.refuses e) ?_
    exact fun room s _ => htail room s
  | user receiver =>
    refine (directRoom_refuses hc c receiver).bind (fun _ _ h => h) ?_
    exact fun room s _ => htail room s

/-- `dispatch` does nothing before it refuses, whatever the event is. -/
theorem dispatch_refuses (hc : t.hub.Coherent) (c : Connection) (event : ClientEvent) :
    Request.Gives (dispatch c event) t (fun e u => t.Refuses u e) fun _ _ => True := by
  cases event with
  | typing r => exact (typing_gives hc c r).mono (fun e _ h => h.refuses e) fun _ _ _ => trivial
  | chat r => exact chat_refuses hc c r
  | createRoom r => exact createRoom_refuses c r t
  | joinRoom r =>
    exact (joinRoom_gives hc c r).mono (fun e _ h => h.1.refuses e) fun _ _ _ => trivial
  | leaveRoom r =>
    exact (leaveRoom_gives hc c r).mono (fun e _ h => h.1.refuses e) fun _ _ _ => trivial
  | inviteRoom r => exact inviteRoom_refuses hc c r
  | kickRoom r => exact kickRoom_refuses hc c r
  | getUsers r => exact (getUsers_gives c r t).mono (fun e _ h => h.refuses e) fun _ _ _ => trivial
  | getChats r => exact (getChats_gives hc c r).mono (fun e _ h => h.refuses e) fun _ _ _ => trivial
  | getNotifications r =>
    exact (getNotifications_gives hc c r).mono (fun e _ h => h.refuses e) fun _ _ _ => trivial
  | userRooms => exact (userRooms_gives c t).mono (fun e _ h => h.refuses e) fun _ _ _ => trivial

theorem serve_refuses (hc : t.hub.Coherent) (c : Connection) (e : Envelope) :
    Request.Gives (serve c e) t (fun err u => t.Refuses u err) fun _ _ => True := by
  unfold serve
  refine Request.Gives.except_bind (fun err _ => (Turn.Asks.refl t).refuses err) fun event _ => ?_
  exact dispatch_refuses hc c event

/-- `serve` of one of the `queryKinds` only `Asks`, whether it fails or `Replies`. -/
theorem serve_asks (hc : t.hub.Coherent) (c : Connection) {e : Envelope}
    (hk : e.kind ∈ ClientEvent.queryKinds) :
    Request.Gives (serve c e) t (fun _ u => t.Asks u) fun _ u => t.Replies u c e.kind := by
  unfold serve
  refine Request.Gives.except_bind (fun _ _ => Turn.Asks.refl t) fun event he => ?_
  rw [← ClientEvent.kind_of_decode he] at hk ⊢
  cases event with
  | getUsers r => exact getUsers_gives c r t
  | getChats r => exact getChats_gives hc c r
  | getNotifications r => exact getNotifications_gives hc c r
  | userRooms => exact userRooms_gives c t
  | typing | chat | createRoom | joinRoom | leaveRoom | inviteRoom | kickRoom =>
    simp [ClientEvent.kind, ClientEvent.queryKinds] at hk

/-! ### One item -/

theorem mem_answersTo {es : List Effect} {event : ServerEvent} (he : event.isAnswer = true)
    (hmem : .send c event ∈ es) : event ∈ answersTo c es := by
  refine List.mem_filterMap.2 ⟨_, hmem, ?_⟩
  rw [Effect.answerTo?, if_pos ⟨rfl, he⟩]

/-- If `handle` sends an error to the client of a frame, it is that of `outcome`. -/
theorem Coherent.outcome_of_error (hc : h.Coherent) (hframe : item.IsFrame)
    (hreg : h.roster.Holds item.connection)
    (hmem : .send item.connection (.error view) ∈ (h.handle item).2) :
    ∃ e, h.outcome item = .error e ∧ view.code = e.code := by
  obtain ⟨result, hdue⟩ := hc.answersTo_handle hframe hreg
  have hanswer := mem_answersTo rfl hmem
  rw [hdue, due] at hanswer
  cases hout : h.outcome item with
  | error e =>
    refine ⟨e, rfl, ?_⟩
    rw [hout] at hanswer
    simp only [if_true, List.mem_singleton, ServerEvent.error.injEq] at hanswer
    rw [hanswer]
  | ok =>
    -- what came of a frame that was carried out is no error
    rw [hout] at hanswer
    simp only [if_true] at hanswer
    split_ifs at hanswer <;> simp at hanswer

/-- A request that only `Asks` before it fails leaves the hub `Untouched`, and sends one event,
which is its error. -/
theorem Turn.Asks.untouched_of_error (ha : Turn.Asks { hub := h } u) (err : ChatError) :
    h.Untouched u.hub ∧ ∃ event, u.effects ++ [.send c (.ofError err)] = [.send c event] := by
  have hsilent : u.effects = [] := ha.effects
  exact ⟨ha.untouched, _, by rw [hsilent]; rfl⟩

/-- `handle` of an event that is refused, or is one of the `queryKinds`, leaves the hub `Untouched`
and sends one event. -/
theorem Coherent.untouched_of_event (hc : h.Coherent) {e : Envelope} (hreg : h.roster.Holds c)
    (hpure : (∃ err, h.outcome (.event c e) = .error err ∧ err.code ≠ 3) ∨
      e.kind ∈ ClientEvent.queryKinds) :
    h.Untouched (h.handle (.event c e)).1 ∧
      ∃ event, (h.handle (.event c e)).2 = [.send c event] := by
  have hnot : h.roster.get? c.id ≠ none := by
    rw [show h.roster.get? c.id = some c from hreg]
    simp
  rcases hpure with ⟨err, hout, hcode⟩ | hk
  · -- a request that was refused: its outcome says which case of `handle_event` it is
    have hserve := (serve_refuses (t := { hub := h }) hc c e).with_run
    rcases handle_event hserve with ⟨hnone, -⟩ | ⟨u, ⟨-, hrun⟩, -⟩ | ⟨err', s, ⟨hs, hrun⟩, hh⟩
    · exact absurd hnone hnot
    · have hok : h.outcome (.event c e) = .ok () := congrArg Prod.fst hrun
      rw [hout] at hok
      cases hok
    · have herr : h.outcome (.event c e) = .error err' := congrArg Prod.fst hrun
      rw [hout] at herr
      cases herr
      rw [hh]
      exact (hs.resolve_left hcode).untouched_of_error err
  · -- a question: it does not matter whether it fails
    rcases handle_event (serve_asks (t := { hub := h }) hc c hk) with
      ⟨hnone, -⟩ | ⟨u, ⟨result, hu⟩, hh⟩ | ⟨err, s, hs, hh⟩
    · exact absurd hnone hnot
    · rw [hh]
      exact ⟨⟨⟨hu.roster, hu.rooms⟩, hu.store⟩, _, hu.effects⟩
    · rw [hh]
      exact hs.untouched_of_error err

/-! ### All states -/

/-- **Refused requests and questions are pure.** In every state that a hub reaches from one without
rooms, whichever calls to the store fail, a frame of a registered connection that is answered with
an error other than an internal one, or that only asks something, leaves connections, live rooms and
store as they are, and all that is done is to send one event to that connection. -/
theorem untouched_of_reachable {accounts : List Account} {mint : Mint} {outages : List Outage}
    (hr : Reachable (fresh accounts mint outages) h) (hframe : item.IsFrame)
    (hreg : h.roster.Holds item.connection)
    (hpure : (∃ x ∈ (h.handle item).2, x.IsRefusal item.connection) ∨
      item.kind ∈ ClientEvent.queryKinds) :
    h.Untouched (h.handle item).1 ∧
      ∃ event, (h.handle item).2 = [.send item.connection event] := by
  have hc := hr.coherent (coherent_fresh accounts mint outages)
  cases item with
  | register c => exact hframe.elim
  | unregister c => exact hframe.elim
  | malformed c err =>
    have hanswer : h.handle (.malformed c err) = (h, [.send c (.ofError err)]) :=
      handle_malformed hreg err
    rw [hanswer]
    exact ⟨⟨⟨rfl, rfl⟩, rfl⟩, _, rfl⟩
  | event c e =>
    -- the error that was sent is the outcome of the event
    refine hc.untouched_of_event hreg (hpure.imp_left ?_)
    rintro ⟨x, hmem, hx⟩
    obtain ⟨view, rfl, hcode⟩ := hx.eq
    obtain ⟨err, hout, hview⟩ := hc.outcome_of_error hframe hreg hmem
    exact ⟨err, hout, hview ▸ hcode⟩

/-- The item by which `ann`, who made `den`, invites `cleo` and an account that does not exist. -/
def misinvitation : Inbound :=
  .event ann ⟨"invite-room", .object [("room_id", .text "den"),
    ("user_ids", .list [.text "cleo", .text "eve"])]⟩

/-- The second account of `misinvitation` does not exist, so nobody is invited, although the first
one could have been. -/
theorem untouched_of_misinvitation :
    ∃ h, Reachable (lobby [⟨.addNotification, 0, 9, .backend "down"⟩]) h ∧
      misinvitation.IsFrame ∧ h.roster.Holds misinvitation.connection ∧
      (∃ x ∈ (h.handle misinvitation).2, x.IsRefusal misinvitation.connection) ∧
      h.Untouched (h.handle misinvitation).1 ∧
      ∃ event, (h.handle misinvitation).2 = [.send misinvitation.connection event] := by
  have hr : Reachable (lobby [⟨.addNotification, 0, 9, .backend "down"⟩])
      ((lobby [⟨.addNotification, 0, 9, .backend "down"⟩]).run meeting).1 :=
    Reachable.start.run (by decide +kernel)
  have hreg : ((lobby [⟨.addNotification, 0, 9, .backend "down"⟩]).run meeting).1.roster.Holds
      misinvitation.connection := by decide +kernel
  have hrefused : ∃ x ∈ (((lobby [⟨.addNotification, 0, 9, .backend "down"⟩]).run
      meeting).1.handle misinvitation).2, x.IsRefusal misinvitation.connection := by
    decide +kernel
  exact ⟨_, hr, trivial, hreg, hrefused, untouched_of_reachable hr trivial hreg (Or.inl hrefused)⟩

end Hub

end GroupChat
