import GroupChat.Proofs.Hub.Record
import GroupChat.Proofs.Hub.Response

/-!
# The history is what was accepted

A message is kept before anybody is told of it, and from then on the request cannot fail any more.
So, whatever the store does, the messages that it has are those of the frames with a message that
were answered with success, and everybody who was told of a message was told of one of these.

## Main definitions

- `Hub.Accepts`: the frame in an item holds a message, and is answered with success.
- `Hub.accepted`: the accepted frames of a run.
- `Hub.Files`: a message is the one of an accepted frame.
- `Hub.Logs`: some messages were kept, and others were told of these only.

## Main statements

- `Coherent.logs_handle`: what one item writes down.
- `Coherent.logs_run`: the messages that a run adds are those of the accepted frames, in their
  order.
- `history_of_run`: the same for a hub that begins without messages.
-/

namespace GroupChat

/-- The client `c` is told by a `.success` that its frame was carried out. -/
def Effect.IsSuccessTo (c : Connection) : Effect → Prop
  | .send d (.success _) => d = c
  | _ => False

instance (c : Connection) : DecidablePred (Effect.IsSuccessTo c)
  | .send d (.success _) => inferInstanceAs (Decidable (d = c))
  | .send _ (.error _) | .send _ (.forward _) | .send _ (.chat _) | .send _ (.notification _)
  | .send _ (.invited _) | .close _ | .report _ => inferInstanceAs (Decidable False)

namespace Hub

/-- The frame in the `item` holds a message, and `h` answers it with a `.success`. -/
def Accepts (h : Hub) (item : Inbound) : Prop :=
  item.kind = "chat" ∧ ∃ x ∈ (h.handle item).2, x.IsSuccessTo item.connection

instance (h : Hub) (item : Inbound) : Decidable (h.Accepts item) :=
  inferInstanceAs (Decidable (_ ∧ ∃ x ∈ (h.handle item).2, _))

/-- The frames that are accepted (`Accepts`) when `h` is given a list, in their order, each with the
state in which it was handled. -/
def accepted (h : Hub) : List Inbound → List (Hub × Inbound)
  | [] => []
  | item :: rest =>
    if h.Accepts item then (h, item) :: (h.handle item).1.accepted rest
    else (h.handle item).1.accepted rest

/-- A message is the one that the frame in an item holds: its sender is the account of the
connection, its room is the one that is addressed, its text is the one of the frame, and the answer
shows it, as `Hub.Posts` says. -/
def Files (frame : Hub × Inbound) (m : ChatMessage) : Prop :=
  ∃ c e r, frame.2 = .event c e ∧ ClientEvent.decode e = .ok (.chat r) ∧
    frame.1.Posts (frame.1.handle frame.2).1 (frame.1.handle frame.2).2 c r m

/-- The messages `ms` were kept between `h` and `h'`, and whoever the `effects` told of a message
was told of one of these, by another account. -/
structure Logs (h h' : Hub) (effects : List Effect) (ms : List ChatMessage) : Prop where
  /-- The messages that were kept are added at the end. -/
  messages : h'.store.messages = h.store.messages ++ ms
  /-- Who was told of a message. -/
  told : ∀ d view, Effect.send d (.chat view) ∈ effects →
    view.message ∈ ms ∧ view.message.sender ≠ d.account

variable {h h' h'' : Hub} {u : Turn} {item : Inbound} {c : Connection} {es fs : List Effect}
  {ms ms' : List ChatMessage}

theorem Turn.Records.logs (hu : Turn.Records { hub := h } u ms) : h.Logs u.hub u.effects ms where
  messages := hu.messages
  told d view hd := (hu.told d view hd).resolve_left List.not_mem_nil

theorem Logs.nil (h : Hub) : h.Logs h [] [] := ⟨(List.append_nil _).symm, by simp⟩

/-- `Logs` of two items, one after the other, is that of their messages in this order. -/
theorem Logs.trans (hl : h.Logs h' es ms) (hl' : h'.Logs h'' fs ms') :
    h.Logs h'' (es ++ fs) (ms ++ ms') where
  messages := by rw [hl'.messages, hl.messages, List.append_assoc]
  told d view hd := by
    rcases List.mem_append.1 hd with hd | hd
    · exact (hl.told d view hd).imp_left (List.mem_append_left _)
    · exact (hl'.told d view hd).imp_left (List.mem_append_right _)

theorem Logs.append (hl : h.Logs h' es ms) (hfs : ∀ d view, Effect.send d (.chat view) ∉ fs) :
    h.Logs h' (es ++ fs) ms where
  messages := hl.messages
  told d view hd := hl.told d view ((List.mem_append.1 hd).resolve_right (hfs d view))

/-- A store that differs in `presence` only has the same messages, so nothing is logged. -/
theorem logs_of_presence (hs : h'.store = { h.store with presence := h'.store.presence })
    (hes : ∀ d view, Effect.send d (.chat view) ∉ es) : h.Logs h' es [] where
  messages := by rw [hs, List.append_nil]
  told d view hd := absurd hd (hes d view)

/-! ### Success -/

theorem exists_isSuccessTo_iff :
    (∃ x ∈ es, x.IsSuccessTo c) ↔ ∃ reply, Effect.send c (.success reply) ∈ es := by
  constructor
  · rintro ⟨x, hx, hsuccess⟩
    cases x with
    | send d event =>
      cases event with
      | success reply =>
        obtain rfl : d = c := hsuccess
        exact ⟨reply, hx⟩
      | error | forward | chat | notification | invited => exact hsuccess.elim
    | close | report => exact hsuccess.elim
  · rintro ⟨reply, hreply⟩
    exact ⟨_, hreply, rfl⟩

theorem success_mem_answersTo {reply : Reply} (h : Effect.send c (.success reply) ∈ es) :
    ServerEvent.success reply ∈ answersTo c es :=
  List.mem_filterMap.2 ⟨_, h, by simp [Effect.answerTo?, ServerEvent.isAnswer]⟩

/-- A frame that `Responds` with an error has no success among its effects. -/
theorem Turn.Responds.not_success {s : Turn} (hs : Turn.Responds { hub := h } s []) (c : Connection)
    (err : ChatError) : ¬ ∃ x ∈ s.effects ++ [.send c (.ofError err)], x.IsSuccessTo c := by
  rw [exists_isSuccessTo_iff]
  rintro ⟨reply, hreply⟩
  rcases List.mem_append.1 hreply with hreply | hreply
  · have hanswer := success_mem_answersTo hreply
    rw [hs.answers] at hanswer
    cases hanswer
  · simp [ServerEvent.ofError] at hreply

/-! ### One item -/

/-- An item without a kind, as `.register` is, is not what `Accepts` is about. -/
theorem not_accepts_of_kind (hk : item.kind = "") : ¬ h.Accepts item := by
  rintro ⟨hchat, -⟩
  rw [hk] at hchat
  exact absurd hchat (by decide)

/-- An event is accepted and `Logs` the one message that `Files` describes, or it is not and `Logs`
none. -/
theorem Coherent.logs_event (hc : h.Coherent) (c : Connection) (e : Envelope) :
    (h.Accepts (.event c e) ∧ ∃ m, Files (h, .event c e) m ∧
        h.Logs (h.handle (.event c e)).1 (h.handle (.event c e)).2 [m]) ∨
      ¬ h.Accepts (.event c e) ∧
        h.Logs (h.handle (.event c e)).1 (h.handle (.event c e)).2 [] := by
  have hgives := (serve_records (t := { hub := h }) hc c e).and (serve_responds hc c e)
  rcases handle_event hgives with ⟨-, hh⟩ | ⟨u, ⟨⟨event, he, hu⟩, -⟩, hh⟩ | ⟨err, s, ⟨hs, hr⟩, hh⟩
  · -- the connection is not registered
    refine Or.inr ⟨fun ⟨_, x, hx, _⟩ => ?_, ?_⟩
    · rw [hh] at hx
      cases hx
    · rw [hh]
      exact Logs.nil h
  · have hkind : event.kind = e.kind := ClientEvent.kind_of_decode he
    cases event with
    | chat r =>
      obtain ⟨m, hposts, hrecords⟩ := hu
      refine Or.inl ⟨⟨hkind.symm, ?_⟩, m, ⟨c, e, r, rfl, he, ?_⟩, ?_⟩
      · rw [hh]
        exact exists_isSuccessTo_iff.2 ⟨_, hposts.answer⟩
      · rw [hh]
        exact hposts
      · rw [hh]
        exact hrecords.logs
    | typing | createRoom | joinRoom | leaveRoom | inviteRoom | kickRoom | getUsers | getChats
    | getNotifications | userRooms =>
      -- no other kind of event is a message
      refine Or.inr ⟨fun ⟨hchat, _⟩ => ?_, ?_⟩
      · rw [show (Inbound.event c e).kind = e.kind from rfl, ← hkind] at hchat
        exact absurd hchat (by simp [ClientEvent.kind])
      · rw [hh]
        exact Turn.Records.logs hu
  · refine Or.inr ⟨fun ⟨_, hsuccess⟩ => ?_, ?_⟩
    · rw [hh] at hsuccess
      exact hr.not_success c err hsuccess
    · rw [hh]
      exact hs.logs.append (by simp [ServerEvent.ofError])

/-- `.register` and `.unregister` write nothing down. -/
theorem Coherent.logs_of_not_frame (hc : h.Coherent) (hf : item.Fits h) (hframe : ¬ item.IsFrame) :
    h.Logs (h.handle item).1 (h.handle item).2 [] := by
  cases item with
  | register c =>
    exact logs_of_presence (handle_register hc c).store fun _ _ hd => isNews_of_register hc c _ hd
  | unregister c =>
    rcases handle_unregister hc hf with ⟨-, hsame⟩ | ⟨hunregisters, news, heffects, hnews⟩
    · rw [hsame]
      exact Logs.nil h
    · rw [heffects]
      refine logs_of_presence hunregisters.store fun d view hd => hnews (.send d (.chat view)) ?_
      exact (List.mem_cons.1 hd).resolve_left nofun
  | event c e => exact absurd trivial hframe
  | malformed c err => exact absurd trivial hframe

/-- `handle` of any item that `Fits`: it is accepted and `Logs` its message, or it is not and `Logs`
none. -/
theorem Coherent.logs_handle (hc : h.Coherent) (hf : item.Fits h) :
    (h.Accepts item ∧ ∃ m, Files (h, item) m ∧ h.Logs (h.handle item).1 (h.handle item).2 [m]) ∨
      ¬ h.Accepts item ∧ h.Logs (h.handle item).1 (h.handle item).2 [] := by
  cases item with
  | event c e => exact hc.logs_event c e
  | register c => exact Or.inr ⟨not_accepts_of_kind rfl, hc.logs_of_not_frame hf id⟩
  | unregister c => exact Or.inr ⟨not_accepts_of_kind rfl, hc.logs_of_not_frame hf id⟩
  | malformed c err =>
    refine Or.inr ⟨not_accepts_of_kind rfl, ?_⟩
    -- who is not registered is not even told the error
    cases hget : h.roster.get? c.id with
    | none =>
      have hidle : h.handle (.malformed c err) = (h, []) := handle_of_get?_eq_none hc hget id
      rw [hidle]
      exact Logs.nil h
    | some d =>
      have hreg : h.roster.Holds c := hget.trans (congrArg some (hf d hget))
      rw [handle_malformed hreg]
      exact (Logs.nil h).append (by simp [ServerEvent.ofError])

/-! ### A run -/

/-- Along `run`, the messages that are added are those of `accepted`, one for each and in their
order; by induction on the items. -/
theorem Coherent.logs_run (hc : h.Coherent) {items : List Inbound} (hf : h.Follows items) :
    ∃ ms, List.Forall₂ Files (h.accepted items) ms ∧ h.Logs (h.run items).1 (h.run items).2 ms := by
  induction items generalizing h with
  | nil => exact ⟨[], .nil, Logs.nil h⟩
  | cons item items ih =>
    have hc' := (handle_moves hc hf.1).1.coherent hf.1 hc
    obtain ⟨ms, hfiles, hlogs⟩ := ih hc' hf.2
    rw [accepted]
    rcases hc.logs_handle hf.1 with ⟨haccepts, m, hm, hone⟩ | ⟨hnot, hnone⟩
    · rw [if_pos haccepts]
      exact ⟨m :: ms, .cons hm hfiles, hone.trans hlogs⟩
    · rw [if_neg hnot]
      exact ⟨ms, hfiles, hnone.trans hlogs⟩

/-- **The history is what was accepted.** In every run of a hub that begins without messages,
whichever calls to the store fail, the messages of the store are those of the frames with a message
that were answered with success, in their order and once each. Each of them has the account of the
connection for its sender, the room that was addressed, and the text of the frame, and the answer
shows it. Whoever was told of a message was told of one that the store has, by another account. -/
theorem history_of_run {accounts : List Account} {mint : Mint} {outages : List Outage}
    {items : List Inbound} (hf : (fresh accounts mint outages).Follows items) :
    List.Forall₂ Files ((fresh accounts mint outages).accepted items)
      ((fresh accounts mint outages).run items).1.store.messages ∧
    ∀ d view, Effect.send d (.chat view) ∈ ((fresh accounts mint outages).run items).2 →
      view.message ∈ ((fresh accounts mint outages).run items).1.store.messages ∧
        view.message.sender ≠ d.account := by
  obtain ⟨ms, hfiles, hlogs⟩ := (coherent_fresh accounts mint outages).logs_run hf
  have hmessages : ((fresh accounts mint outages).run items).1.store.messages = ms := hlogs.messages
  rw [hmessages]
  exact ⟨hfiles, hlogs.told⟩

/-- The envelope of a message to the room `den`. -/
def remark : Envelope := ⟨"chat", .object [("room_id", .text "den"), ("message", .text "hello")]⟩

/-- After `meeting`, `ann` writes to `den` and then to `bob`. `bob` writes to `den`, and so does
`cleo`, who is not in it. -/
def gossip : List Inbound :=
  meeting ++ [.event ann remark, .event ann (direct "bob"), .event bob remark,
    .register ⟨"3", "cleo", "Cleo", .user⟩, .event ⟨"3", "cleo", "Cleo", .user⟩ remark]

/-- The second message meets an outage of `addMessage`, and the last one is refused. The store has
the others, and somebody was told of them. -/
theorem history_gossip : (lobby [⟨.addMessage, 1, 1, .backend "down"⟩]).Follows gossip ∧
    ((lobby [⟨.addMessage, 1, 1, .backend "down"⟩]).run gossip).1.store.messages.map
      ChatMessage.sender = ["ann", "bob"] ∧
    (((lobby [⟨.addMessage, 1, 1, .backend "down"⟩]).run gossip).2.any
      fun x => x matches .send _ (.chat _)) = true ∧
    List.Forall₂ Files ((lobby [⟨.addMessage, 1, 1, .backend "down"⟩]).accepted gossip)
      ((lobby [⟨.addMessage, 1, 1, .backend "down"⟩]).run gossip).1.store.messages ∧
    ∀ d view, Effect.send d (.chat view) ∈
      ((lobby [⟨.addMessage, 1, 1, .backend "down"⟩]).run gossip).2 →
      view.message ∈ ((lobby [⟨.addMessage, 1, 1, .backend "down"⟩]).run gossip).1.store.messages ∧
        view.message.sender ≠ d.account := by
  have hf : (lobby [⟨.addMessage, 1, 1, .backend "down"⟩]).Follows gossip := by decide +kernel
  exact ⟨hf, by decide +kernel, by decide +kernel, history_of_run hf⟩

end Hub

end GroupChat
