import GroupChat.Proofs.Hub.Handle

/-!
# Failed requests leave no trace

A request that makes a room or changes its members and fails has taken back what it had done, unless
that failed too, which is reported. Then the hub is as it was, and only the origin is told.

## Main definitions

- `Hub.Unchanged`: everything that can be asked of a hub about rooms is as it was.
- `ClientEvent.membershipKinds`: the kinds of the requests.

## Main statements

- `serve_atomic`: what is left of a request that fails.
- `unchanged_of_error`: in all states, such a request changes nothing.
-/

namespace GroupChat

/-- The kinds of requests that make a room or change its members, as `ClientEvent.kind` names them.
-/
def ClientEvent.membershipKinds : List String :=
  ["create-room", "join-room", "leave-room", "invite-room", "kick-room"]

/-- Some client is sent an `.error`. -/
def Effect.IsError : Effect → Prop
  | .send _ (.error _) => True
  | _ => False

instance : DecidablePred Effect.IsError
  | .send _ (.error _) => inferInstanceAs (Decidable True)
  | .send _ (.success _) | .send _ (.forward _) | .send _ (.chat _) | .send _ (.notification _)
  | .send _ (.invited _) | .close _ | .report _ => inferInstanceAs (Decidable False)

/-- `IsNews` and `IsError` exclude each other. -/
theorem Effect.IsNews.not_isError {e : Effect} (he : e.IsNews) : ¬ e.IsError := by
  cases e with
  | send d event => cases event <;> simp_all [Effect.IsNews, Effect.IsError]
  | close d => simp [Effect.IsError]
  | report i => simp [Effect.IsError]

namespace Hub

/-- The hub `h'` answers everything that can be asked of it about rooms as `h` does. -/
structure Unchanged (h h' : Hub) : Prop where
  /-- The rooms of the store. -/
  rooms : ∀ k, h'.store.roomById? k = h.store.roomById? k
  /-- Their members with their roles. -/
  roles : ∀ k a, h'.store.roleOf? k a = h.store.roleOf? k a
  /-- How many members they have. -/
  counts : ∀ k, h'.store.countMembers k = h.store.countMembers k
  /-- The messages. -/
  messages : h'.store.messages = h.store.messages
  /-- The notifications. -/
  notifications : h'.store.notifications = h.store.notifications
  /-- The connections. -/
  roster : h'.roster = h.roster
  /-- The live rooms. -/
  live : h'.rooms = h.rooms

/-- What is left in `u` of a request that begins in `t` and fails: the hub is `Unchanged`, or an
`Effect.IsUndoFailure` says otherwise. -/
def Turn.Fails (t u : Turn) : Prop :=
  ∃ reports, u.effects = t.effects ++ reports ∧ (∀ e ∈ reports, e.IsUndoFailure) ∧
    (reports = [] → t.hub.Unchanged u.hub)

/-- A request that begins in `t` is carried out without an `Effect.IsError`, and ends in `u`. -/
def Turn.Succeeds (t u : Turn) : Prop :=
  ∃ effects, u.effects = t.effects ++ effects ∧ ∀ e ∈ effects, ¬ e.IsError

variable {h : Hub} {t u : Turn} {c : Connection} {e : Envelope}

/-- `Undoes`, with a store that is `Alike`, leaves the hub `Unchanged`. -/
theorem Turn.Undoes.unchanged {reports : List Effect} (hu : t.Undoes u reports)
    (ha : t.hub.store.Alike u.hub.store) : t.hub.Unchanged u.hub where
  rooms := ha.rooms
  roles := ha.roles
  counts k := Store.countMembers_congr (ha.roles k)
  messages := by rw [ha.rest]
  notifications := by rw [ha.rest]
  roster := hu.1.roster
  live := hu.1.rooms

/-- A request that `Undoes` what it did `Fails` as required, if the store is `Alike` whenever there
are no reports. -/
theorem Turn.Undoes.fails {reports : List Effect} (hu : t.Undoes u reports)
    (ha : reports = [] → t.hub.store.Alike u.hub.store) : t.Fails u :=
  ⟨reports, hu.1.effects, hu.2, fun hnil => hu.unchanged (ha hnil)⟩

theorem Turn.Asks.fails_of_request (ha : t.Asks u) : t.Fails u :=
  ha.undoes.fails fun _ => by rw [ha.store]; exact Store.Alike.refl _

theorem not_isError_of_mem_answers {roster : Roster} {event : String} {result : Json} {x : Effect}
    (hx : x ∈ answers roster c event result) : ¬ x.IsError := by
  rcases List.mem_cons.1 hx with rfl | hx
  · exact id
  · obtain ⟨d, -, rfl⟩ := List.mem_map.1 hx
    exact id

/-- `Answers` is one way to `Succeeds`: only news and the answers are sent. -/
theorem Turn.Answers.succeeds {event : String} {result : Json}
    (hu : t.Answers u c event result) : t.Succeeds u := by
  obtain ⟨news, hnews, hb⟩ := hu
  refine ⟨_, hb.effects, fun x hx => ?_⟩
  rcases List.mem_append.1 hx with hx | hx
  · exact (hnews x hx).not_isError
  · exact not_isError_of_mem_answers hx

/-- `serve`, for the kinds in `membershipKinds`: the request `Succeeds`, or it `Fails` with the hub
as it was, up to what is reported. -/
theorem serve_atomic (hc : t.hub.Coherent) (hk : e.kind ∈ ClientEvent.membershipKinds) :
    Request.Gives (serve c e) t (fun _ u => t.Fails u) fun _ u => t.Succeeds u := by
  unfold serve
  refine Request.Gives.except_bind (fun _ _ => (Turn.Asks.refl t).fails_of_request)
    fun event he => ?_
  rw [← ClientEvent.kind_of_decode he] at hk
  cases event with
  | createRoom r =>
    refine (createRoom_gives hc c r).mono ?_ ?_
    · -- either all was taken back, or there is a report of what was not
      rintro err u (hu | ⟨f, ms, reports, -, hu, hne, -⟩)
      · exact hu.1.fails fun _ => hu.2
      · exact hu.fails fun hnil => absurd hnil hne
    · rintro - u ⟨f, -, -, result, hu⟩
      exact hu.succeeds
  | joinRoom r =>
    refine (joinRoom_gives hc c r).mono (fun _ _ ha => ha.1.fails_of_request) ?_
    rintro - u ⟨info, -, -, -, -, hu⟩
    exact hu.succeeds
  | leaveRoom r =>
    refine (leaveRoom_gives hc c r).mono (fun _ _ ha => ha.1.fails_of_request) ?_
    rintro - u ⟨info, -, -, -, -, -, hu⟩
    exact hu.succeeds
  | inviteRoom r =>
    refine (inviteRoom_gives hc c r).mono ?_ ?_
    · rintro err u ⟨ha | ⟨info, kept, reports, -, hu, hadds, -, hnone, -⟩, -⟩
      · exact ha.fails_of_request
      · -- without reports nobody was kept, so the store answers as before
        refine hu.fails fun hnil => ?_
        rw [hnone hnil] at hadds
        exact hadds.alike
    · rintro - u ⟨info, -, -, -, hu⟩
      exact hu.succeeds
  | kickRoom r =>
    refine (kickRoom_gives hc c r).mono ?_ ?_
    · rintro err u ⟨ha | ⟨info, lost, reports, -, hu, hremoves, -, hnone, -⟩, -⟩
      · exact ha.fails_of_request
      · -- without reports nobody is lost, so the store answers as before
        refine hu.fails fun hnil => ?_
        rw [hnone hnil] at hremoves
        exact hremoves.alike
    · rintro - u ⟨info, -, -, -, hu⟩
      exact hu.succeeds
  | typing | chat | getUsers | getChats | getNotifications | userRooms =>
    simp [ClientEvent.kind, ClientEvent.membershipKinds] at hk

/-- **Failed requests leave no trace.** In every state that a hub reaches from one without rooms, a
request that makes a room or changes its members and is answered with an error changes nothing and
tells nobody else, whichever calls to the store failed, unless something could not be taken back. -/
theorem unchanged_of_error {accounts : List Account} {mint : Mint} {outages : List Outage}
    (hr : Reachable (fresh accounts mint outages) h)
    (hk : e.kind ∈ ClientEvent.membershipKinds)
    (herror : ∃ x ∈ (h.handle (.event c e)).2, x.IsError)
    (hundone : ∀ x ∈ (h.handle (.event c e)).2, ¬ x.IsUndoFailure) :
    h.Unchanged (h.handle (.event c e)).1 ∧
      ∃ err, (h.handle (.event c e)).2 = [.send c (.error err)] := by
  have hc := hr.coherent (coherent_fresh accounts mint outages)
  obtain ⟨x, hx, herr⟩ := herror
  rcases handle_event (serve_atomic (t := { hub := h }) (c := c) hc hk) with
    ⟨-, hh⟩ | ⟨u, ⟨effects, heffects, hall⟩, hh⟩ | ⟨err, s, ⟨reports, hreports, hundo, hsame⟩, hh⟩
  all_goals rw [hh] at hx hundone ⊢
  · -- the client is not registered, and nothing is sent
    cases hx
  · -- a request that was carried out tells nobody an error
    rw [heffects] at hx
    exact absurd herr (hall x hx)
  · -- by assumption there are no reports
    have hnil : reports = [] := by
      rw [List.eq_nil_iff_forall_not_mem]
      intro r hr
      refine hundone r ?_ (hundo r hr)
      rw [hreports]
      exact List.mem_append_left _ hr
    rw [hnil, List.append_nil] at hreports
    exact ⟨hsame hnil, _, by rw [hreports]; rfl⟩

/-- The envelope with which the creator of `den` invites `cleo` and `dan`. -/
def invitation : Envelope :=
  ⟨"invite-room", .object [("room_id", .text "den"),
    ("user_ids", .list [.text "cleo", .text "dan"])]⟩

/-- The third `addMember` fails, which is that of the second account, so the first one does not
stay. -/
theorem unchanged_of_half_invitation : ∃ h, Reachable (lobby [⟨.addMember, 3, 1, .conflict⟩]) h ∧
    invitation.kind ∈ ClientEvent.membershipKinds ∧
    (∃ x ∈ (h.handle (.event ann invitation)).2, x.IsError) ∧
    (∀ x ∈ (h.handle (.event ann invitation)).2, ¬ x.IsUndoFailure) ∧
    h.Unchanged (h.handle (.event ann invitation)).1 ∧
    ∃ err, (h.handle (.event ann invitation)).2 = [.send ann (.error err)] := by
  have hr : Reachable (lobby [⟨.addMember, 3, 1, .conflict⟩])
      ((lobby [⟨.addMember, 3, 1, .conflict⟩]).run meeting).1 :=
    Reachable.start.run (by decide +kernel)
  have hk : invitation.kind ∈ ClientEvent.membershipKinds := by decide
  have herror : ∃ x ∈ (((lobby [⟨.addMember, 3, 1, .conflict⟩]).run meeting).1.handle
      (.event ann invitation)).2, x.IsError := by decide +kernel
  have hundone : ∀ x ∈ (((lobby [⟨.addMember, 3, 1, .conflict⟩]).run meeting).1.handle
      (.event ann invitation)).2, ¬ x.IsUndoFailure := by decide +kernel
  exact ⟨_, hr, hk, herror, hundone, unchanged_of_error hr hk herror hundone⟩

end Hub

end GroupChat
