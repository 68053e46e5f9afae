import GroupChat.Proofs.Hub.Atomicity
import GroupChat.Proofs.Hub.Privacy
import GroupChat.Proofs.Hub.Silence

/-!
# What is left of a message that is not written

A message to an account goes to the private room of sender and receiver. If that room is not live,
it is made or becomes live first, and the message is kept afterwards. When it cannot be kept, the
room stays, and whoever was invited into it has been told. In all other cases a message that is not
written leaves nothing behind.

## Main definitions

- `Hub.OpensFor`: a message makes a room live before it is kept.
- `Hub.Traces`: what is left of a message that is not written.

## Main statements

- `direct_traces`, `chat_traces`: what is left of a message to an account, and of any message.
- `unchanged_iff_of_chat_error`: a message that is not written leaves nothing behind exactly if it
  did not open a room.
- `exists_reachable_trace`: a message that leaves a room behind.
-/

namespace GroupChat.Hub

/-- The envelope `e` of `c` holds a message that is addressed to an account, the private room of the
two is not live, and that room is found in the store or made (`Turn.Opens`). -/
def OpensFor (h : Hub) (c : Connection) (e : Envelope) : Prop :=
  ∃ r receiver room, ClientEvent.decode e = .ok (.chat r) ∧ r.message ≠ "" ∧ r.room = none ∧
    r.user = some receiver ∧ h.rooms.named? (privateName c.account receiver) = none ∧
    ((directRoom c receiver).run { hub := h }).1 = .ok room

/-- What a message that is not written has done by `u`: nothing but what is reported (`Turn.Fails`),
or it has opened a room (`OpensFor`). -/
def Traces (h : Hub) (c : Connection) (e : Envelope) (u : Turn) : Prop :=
  ¬ h.OpensFor c e ∧ Turn.Fails { hub := h } u ∨ h.OpensFor c e ∧ u.hub.rooms ≠ h.rooms

variable {h : Hub} {t u : Turn} {c : Connection} {e : Envelope} {receiver : String}
  {room : LiveRoom}

/-! ### The private room of a message -/

/-- `directRoom` takes a live room that `named?` finds, without the store. -/
theorem directRoom_gives_of_named? (hlive : t.hub.rooms.named? (privateName c.account receiver) =
    some room) : Request.Gives (directRoom c receiver) t (fun _ u => u = t) fun _ u => u = t := by
  have hfound : Request.Gives (directRoom? c receiver) t (fun _ u => u = t)
      fun room? u => room? = some room ∧ u = t := by
    unfold directRoom?
    refine Request.Gives.refuse (fun _ => rfl) fun _ => ?_
    refine (see_gives _ t).bind (fun _ _ hu => hu.elim) ?_
    rintro live s ⟨rfl, rfl⟩
    rw [hlive]
    exact Request.gives_pure ⟨rfl, rfl⟩
  unfold directRoom
  refine hfound.bind (fun _ _ hu => hu) ?_
  rintro room? s ⟨rfl, rfl⟩
  exact Request.gives_pure rfl

/-- The live rooms have changed if one that was not live holds somebody. -/
theorem rooms_ne_of_holds {h' : Hub} {k : String} {d : Connection} (hidle : h.rooms.get? k = none)
    (hd : h'.rooms.Holds k d) : h'.rooms ≠ h.rooms := by
  intro hsame
  obtain ⟨room, hroom, -⟩ := hd
  rw [hsame, hidle] at hroom
  cases hroom

/-- If no live room has the name, `Opens` changes the live rooms, since the connection that asks is
in the room then. -/
theorem Turn.Opens.rooms_ne (ho : t.Opens u c none (some receiver) room) (hc : t.hub.Coherent)
    (hreg : t.hub.roster.Holds c)
    (hlive : t.hub.rooms.named? (privateName c.account receiver) = none) :
    u.hub.rooms ≠ t.hub.rooms := by
  rcases ho with hr | ⟨receiver', f, -, hreceiver, hp, -⟩
  · cases hr with
    | @receiver _ info _ other stored named finds =>
      have hidle : t.hub.rooms.get? info.id = none :=
        hc.get?_eq_none_of_named? stored named hlive
      rcases finds with ⟨-, hroom⟩ | ⟨-, loads, -⟩
      · rw [hidle] at hroom
        cases hroom
      · have hin : u.hub.rooms.Holds info.id c := by
          rw [loads.holds hc, if_pos rfl]
          exact ⟨hreg, List.mem_cons_self⟩
        exact rooms_ne_of_holds hidle hin
  · have hidle : t.hub.rooms.get? f.info.id = none := by
      cases hroom : t.hub.rooms.get? f.info.id with
      | none => rfl
      | some r =>
        -- what is new in the store was not live
        have hstored := hc.stored _ r hroom
        rw [hp.founds.store.fresh] at hstored
        cases hstored
    have hin : u.hub.rooms.Holds f.info.id c := by
      rw [hp.founds.holds hc, if_pos rfl]
      exact ⟨hreg, Or.inl hp.permits.creator.symm⟩
    exact rooms_ne_of_holds hidle hin

/-- `Opens` is news about rooms, which is `Informs`. -/
theorem Turn.Opens.informs {room? user? : Option String} (ho : t.Opens u c room? user? room) :
    t.Informs u := by
  rcases ho with hr | ⟨_, _, -, -, hp, -⟩
  · cases hr with
    | reference asks => exact asks.informs
    | receiver _ _ _ finds =>
      rcases finds with ⟨asks, -⟩ | ⟨hb, -, -⟩
      · exact asks.informs
      · exact hb.informs (by simp)
  · exact hp.informs

/-! ### Messages -/

/-- `Opens`, then `Writes`, is a request that `Succeeds`. -/
theorem Turn.Opens.succeeds {v : Turn} {room? user? : Option String} {text : String}
    (ho : t.Opens u c room? user? room) (hw : u.Writes v c room text) : t.Succeeds v := by
  obtain ⟨news, hb, hnews⟩ := ho.informs
  obtain ⟨message, -, -, -, hv⟩ := hw
  refine ⟨_, (hb.trans hv).effects, fun x hx => ?_⟩
  rcases List.mem_append.1 hx with hx | hx
  · exact (hnews x hx).not_isError
  rcases List.mem_append.1 hx with hx | hx
  · obtain ⟨d, -, rfl⟩ := List.mem_map.1 hx
    exact id
  · exact not_isError_of_mem_answers hx

/-- `OpensFor`, for a decoded `.chat`: the message is not empty, is addressed to an account, and
`directRoom` opens its room. -/
theorem OpensFor.of_chat (ho : h.OpensFor c e) {r : ChatRequest}
    (hdecode : ClientEvent.decode e = .ok (.chat r)) :
    r.message ≠ "" ∧ r.room = none ∧ ∃ receiver room, r.user = some receiver ∧
      h.rooms.named? (privateName c.account receiver) = none ∧
      ((directRoom c receiver).run { hub := h }).1 = .ok room := by
  obtain ⟨r', receiver, room, hr', hne, hroom, huser, hlive, hok⟩ := ho
  rw [hdecode] at hr'
  cases hr'
  exact ⟨hne, hroom, receiver, room, huser, hlive, hok⟩

/-- A message to an account, where `k` writes it into the room that was found or made. -/
theorem direct_traces (hc : h.Coherent) (hreg : h.roster.Holds c) {r : ChatRequest}
    (hdecode : ClientEvent.decode e = .ok (.chat r)) (hne : r.message ≠ "") (hroom : r.room = none)
    (huser : r.user = some receiver) {k : LiveRoom → Request Unit}
    (hk : ∀ room s, Request.Gives (k room) s (fun _ u => s.Asks u ∧ ¬ s.hub.Calm)
      fun _ u => s.Writes u c room r.message) :
    Request.Gives (directRoom c receiver >>= k) { hub := h } (fun _ u => h.Traces c e u)
      fun _ u => Turn.Succeeds { hub := h } u := by
  have hopens : h.OpensFor c e → h.rooms.named? (privateName c.account receiver) = none ∧
      ∃ room, ((directRoom c receiver).run { hub := h }).1 = .ok room := by
    intro ho
    obtain ⟨-, -, receiver', room, huser', hlive, hok⟩ := ho.of_chat hdecode
    rw [huser] at huser'
    cases huser'
    exact ⟨hlive, room, hok⟩
  refine (directRoom_gives (t := { hub := h }) hc c receiver).with_run.bind ?_ ?_
  · -- no room was opened, and what had been done is undone
    rintro err u ⟨hu, hrun⟩
    refine Or.inl ⟨fun ho => ?_, ?_⟩
    · obtain ⟨-, room, hok⟩ := hopens ho
      have herror : ((directRoom c receiver).run { hub := h }).1 = .error err :=
        congrArg Prod.fst hrun
      rw [herror] at hok
      cases hok
    · rcases hu with ⟨hu, -⟩ | ⟨f, -, ms, reports, -, hu, hreports, -⟩
      · exact hu.1.fails fun _ => hu.2
      · exact hu.fails fun hnil => absurd hnil hreports
  rintro room s ⟨hs, hrun⟩
  have ho : Turn.Opens { hub := h } s c none (some receiver) room :=
    hs.imp id fun ⟨f, hp, hroom⟩ => ⟨receiver, f, rfl, rfl, hp, hroom⟩
  refine (hk room s).mono ?_ fun _ u hu => ho.succeeds hu
  rintro err u ⟨hu, -⟩
  cases hlive : h.rooms.named? (privateName c.account receiver) with
  | some live =>
    -- the room was live before, so that nothing has been done
    have hsame : s = { hub := h } :=
      (directRoom_gives_of_named? (t := { hub := h }) hlive).of_ok hrun
    refine Or.inl ⟨fun ho => ?_, (hsame ▸ hu).fails_of_request⟩
    rw [(hopens ho).1] at hlive
    cases hlive
  | none =>
    have hok : ((directRoom c receiver).run { hub := h }).1 = .ok room := congrArg Prod.fst hrun
    refine Or.inr ⟨⟨r, receiver, room, hdecode, hne, hroom, huser, hlive, hok⟩, ?_⟩
    rw [hu.rooms]
    exact ho.rooms_ne hc hreg hlive

/-- `chat` that fails `Fails` without a trace but reports, or the message `OpensFor` its receiver.
-/
theorem chat_traces (hc : h.Coherent) (hreg : h.roster.Holds c) {r : ChatRequest}
    (hdecode : ClientEvent.decode e = .ok (.chat r)) :
    Request.Gives (chat c r) { hub := h } (fun _ u => h.Traces c e u)
      fun _ u => Turn.Succeeds { hub := h } u := by
  unfold chat
  refine Request.Gives.refuse (fun hempty => Or.inl ⟨fun ho => (ho.of_chat hdecode).1 hempty,
    (Turn.Asks.refl _).fails_of_request⟩) fun hne => ?_
  refine Request.Gives.except_bind (fun err haddress => ?_) fun address haddress => ?_
  · refine Or.inl ⟨fun ho => ?_, (Turn.Asks.refl _).fails_of_request⟩
    obtain ⟨-, hroom, receiver, -, huser, -⟩ := ho.of_chat hdecode
    rw [hroom, huser] at haddress
    cases haddress
  obtain ⟨ref, hroom, huser, rfl⟩ | ⟨receiver, hroom, huser, rfl⟩ := addressOf?_eq_ok haddress
  · -- a message to a room does not open one
    have hnot : ¬ h.OpensFor c e := by
      intro ho
      rw [(ho.of_chat hdecode).2.1] at hroom
      cases hroom
    refine (memberRoom_gives (t := { hub := h }) hc c ref).bind
      (fun _ _ hu => Or.inl ⟨hnot, hu.1.fails_of_request⟩) ?_
    rintro room s ⟨hs, info, hi, rfl, hm⟩
    refine (write_gives c _ r.message s).mono ?_ ?_
    · exact fun _ u hu => Or.inl ⟨hnot, (hs.trans hu.1).fails_of_request⟩
    · exact fun _ u hu => Turn.Opens.succeeds (Or.inl (.reference hs hi hm)) hu
  · exact direct_traces hc hreg hdecode hne hroom huser fun room s => write_gives c room r.message s

/-- `serve` traces a chat: if it fails, a room for two is all that may be left of it. -/
theorem serve_traces (hc : h.Coherent) (hreg : h.roster.Holds c) (hk : e.kind = "chat") :
    Request.Gives (serve c e) { hub := h } (fun _ u => h.Traces c e u)
      fun _ u => Turn.Succeeds { hub := h } u := by
  unfold serve
  refine Request.Gives.except_bind (fun err he => ?_) fun event he => ?_
  · refine Or.inl ⟨?_, (Turn.Asks.refl _).fails_of_request⟩
    rintro ⟨r, receiver, room, hr, -⟩
    rw [he] at hr
    cases hr
  · rw [← ClientEvent.kind_of_decode he] at hk
    cases event with
    | chat r => exact chat_traces hc hreg he
    | typing | createRoom | joinRoom | leaveRoom | inviteRoom | kickRoom | getUsers | getChats
    | getNotifications | userRooms => simp [ClientEvent.kind] at hk

/-! ### What is told -/

/-- An event that has effects is one of a registered connection, since `fromClient` ignores all
others. -/
theorem holds_of_answered (hc : h.Coherent) (hf : (Inbound.event c e).Fits h) {x : Effect}
    (hx : x ∈ (h.handle (.event c e)).2) : h.roster.Holds c := by
  cases hget : h.roster.get? c.id with
  | some d =>
    have hd : d = c := hf d hget
    exact hd ▸ hget
  | none =>
    have hnothing : h.handle (.event c e) = (h, []) := handle_of_get?_eq_none hc hget id
    rw [hnothing] at hx
    cases hx

/-- A request that `Fails` from the start, without reports, leaves the hub `Unchanged` and sends its
error only. -/
theorem Turn.Fails.unchanged {err : ChatError} (hu : Turn.Fails { hub := h } u)
    (hundone : ∀ x ∈ u.effects ++ [.send c (.ofError err)], ¬ x.IsUndoFailure) :
    h.Unchanged u.hub ∧ ∃ view, u.effects ++ [.send c (.ofError err)] = [.send c (.error view)] := by
  obtain ⟨reports, hreports, hundo, hsame⟩ := hu
  have hnil : reports = [] := by
    rw [List.eq_nil_iff_forall_not_mem]
    intro x hx
    refine hundone x ?_ (hundo x hx)
    rw [hreports]
    exact List.mem_append_left _ hx
  rw [hnil, List.append_nil] at hreports
  exact ⟨hsame hnil, _, by rw [hreports]; rfl⟩

/-- **What is left of a message that is not written.** In every state that a hub reaches from one
without rooms, a message that is answered with an error changes nothing and is told to nobody else,
whichever calls to the store failed, exactly if it did not open a room; that a room is deleted again
when its members cannot be added must not fail. -/
theorem unchanged_iff_of_chat_error {accounts : List Account} {mint : Mint}
    {outages : List Outage} (hr : Reachable (fresh accounts mint outages) h)
    (hf : (Inbound.event c e).Fits h) (hk : e.kind = "chat")
    (herror : ∃ x ∈ (h.handle (.event c e)).2, x.IsError)
    (hundone : ∀ x ∈ (h.handle (.event c e)).2, ¬ x.IsUndoFailure) :
    (h.Unchanged (h.handle (.event c e)).1 ∧
      ∃ err, (h.handle (.event c e)).2 = [.send c (.error err)]) ↔ ¬ h.OpensFor c e := by
  have hc := hr.coherent (coherent_fresh accounts mint outages)
  obtain ⟨x, hx, herr⟩ := herror
  have hreg := holds_of_answered hc hf hx
  rcases handle_event (serve_traces hc hreg hk) with ⟨hnone, -⟩ | ⟨u, ⟨effects, heffects, hall⟩, hh⟩ |
    ⟨err, s, ⟨hnot, hfails⟩ | ⟨hopens, hrooms⟩, hh⟩
  · -- the client is registered
    rw [show h.roster.get? c.id = some c from hreg] at hnone
    cases hnone
  · -- a message that was written tells nobody an error
    rw [hh, heffects] at hx
    exact absurd herr (hall x hx)
  · -- it failed without a trace
    rw [hh] at hundone ⊢
    exact iff_of_true (hfails.unchanged hundone) hnot
  · rw [hh]
    -- it has opened a room, which is live from then on
    exact iff_of_false (fun hsame => hrooms hsame.1.live) (not_not_intro hopens)

/-! ### Two messages -/

/-- `ann` and `bob` come. -/
def arrival : List Inbound := [.register ann, .register bob]

/-- `addMessage` fails for the first message. Its receiver was told of the room all the same, and
the room stays. -/
theorem exists_reachable_trace : ∃ h, Reachable (lobby [⟨.addMessage, 0, 1, .backend "down"⟩]) h ∧
    (Inbound.event ann (direct "bob")).Fits h ∧
    (∃ x ∈ (h.handle (.event ann (direct "bob"))).2, x.IsError) ∧
    (∀ x ∈ (h.handle (.event ann (direct "bob"))).2, ¬ x.IsUndoFailure) ∧
    bob ∈ (h.handle (.event ann (direct "bob"))).2.filterMap Effect.client? ∧
    ¬ h.Unchanged (h.handle (.event ann (direct "bob"))).1 := by
  refine ⟨_, Reachable.start.run (show Follows _ arrival by decide +kernel), by decide +kernel,
    by decide +kernel, by decide +kernel, by decide +kernel, fun hsame => ?_⟩
  have hlive := hsame.live
  revert hlive
  decide +kernel

/-- `addMessage` fails for the second message, which leaves nothing behind. -/
theorem unchanged_of_second_message :
    ∃ h, Reachable (lobby [⟨.addMessage, 1, 1, .backend "down"⟩]) h ∧
    (Inbound.event ann (direct "bob")).Fits h ∧ (direct "bob").kind = "chat" ∧
    (∃ x ∈ (h.handle (.event ann (direct "bob"))).2, x.IsError) ∧
    (∀ x ∈ (h.handle (.event ann (direct "bob"))).2, ¬ x.IsUndoFailure) ∧
    h.Unchanged (h.handle (.event ann (direct "bob"))).1 ∧
    ∃ err, (h.handle (.event ann (direct "bob"))).2 = [.send ann (.error err)] := by
  have hr : Reachable (lobby [⟨.addMessage, 1, 1, .backend "down"⟩])
      ((lobby [⟨.addMessage, 1, 1, .backend "down"⟩]).run
        (arrival ++ [.event ann (direct "bob")])).1 :=
    Reachable.start.run (by decide +kernel)
  have hfits : (Inbound.event ann (direct "bob")).Fits
      ((lobby [⟨.addMessage, 1, 1, .backend "down"⟩]).run
        (arrival ++ [.event ann (direct "bob")])).1 := by decide +kernel
  have hlive : ((lobby [⟨.addMessage, 1, 1, .backend "down"⟩]).run
      (arrival ++ [.event ann (direct "bob")])).1.rooms.named? (privateName "ann" "bob") ≠ none := by
    decide +kernel
  have herror : ∃ x ∈ (((lobby [⟨.addMessage, 1, 1, .backend "down"⟩]).run
      (arrival ++ [.event ann (direct "bob")])).1.handle (.event ann (direct "bob"))).2,
      x.IsError := by decide +kernel
  have hundone : ∀ x ∈ (((lobby [⟨.addMessage, 1, 1, .backend "down"⟩]).run
      (arrival ++ [.event ann (direct "bob")])).1.handle (.event ann (direct "bob"))).2,
      ¬ x.IsUndoFailure := by decide +kernel
  -- the room of the two is live since the first message
  have hnot : ¬ ((lobby [⟨.addMessage, 1, 1, .backend "down"⟩]).run
      (arrival ++ [.event ann (direct "bob")])).1.OpensFor ann (direct "bob") := by
    rintro ⟨r, receiver, room, hdecode, -, -, huser, hnone, -⟩
    rw [decode_direct] at hdecode
    cases hdecode
    cases huser
    exact hlive hnone
  exact ⟨_, hr, hfits, rfl, herror, hundone,
    (unchanged_iff_of_chat_error hr hfits rfl herror hundone).2 hnot⟩

end GroupChat.Hub
