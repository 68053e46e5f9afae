import GroupChat.Proofs.Hub.Atomicity
import GroupChat.Proofs.Hub.Reference
import GroupChat.Proofs.Hub.Replies

/-!
# Requests about members are decided by the store

Whether somebody may join or leave a public room, invite to it or remove from it is looked up partly
in the live room and partly in the store. As the live room mirrors the store for everyone who is
connected, the outcome is what the store alone tells: whether the request is carried out, whom it
adds or removes, whether the room is deleted, and what is answered.

## Main definitions

- `ClientEvent.membersOf?`: the room whose members a request changes.
- `Store.Grants`: the store has nothing against a request.
- `Store.newcomers`, `Hub.leavers`: whom a request adds to a room and removes from it.
- `Store.Performs`: a store after a request that was carried out.
- `Store.resultOf`: what is answered, member by member.
- `Hub.Decides`: a request is carried out exactly if the store grants it.

## Main statements

- `Agree.roleOf?_of_holds`: whoever is connected has the stored role in the live room.
- `joinRoom_decides`, `leaveRoom_decides`, `inviteRoom_decides`, `kickRoom_decides`: the store
  decides each of the requests.
- `decides_of_reachable`: the same, told by what is sent, in all states.
-/

namespace GroupChat

/-- The reference to the room whose members a request changes; `none` for other events. -/
def ClientEvent.membersOf? : ClientEvent → Option String
  | .joinRoom r | .leaveRoom r => some r.room
  | .inviteRoom r | .kickRoom r => some r.room
  | _ => none

/-- The requests of `membersOf?` are among the `membershipKinds`, for which `serve_atomic` holds. -/
theorem ClientEvent.kind_mem_of_membersOf? {event : ClientEvent} {ref : String}
    (href : event.membersOf? = some ref) : event.kind ∈ ClientEvent.membershipKinds := by
  cases event with
  | joinRoom | leaveRoom | inviteRoom | kickRoom =>
    simp [ClientEvent.kind, ClientEvent.membershipKinds]
  | typing | chat | createRoom | getUsers | getChats | getNotifications | userRooms => cases href

/-- Whom a request of `account` removes from a room, each of them once and in the order of the
request. -/
def Hub.leavers (account : String) : ClientEvent → List String
  | .leaveRoom _ => [account]
  | .kickRoom r => r.users.eraseDups
  | _ => []

namespace Store

/-- The store `s` has nothing against what `account` asks for about the public room `info`: to join
it if it is open to all and `account` is no member, to leave it as a member, to invite known
accounts as an `.admin` if some of them are no members, or to remove other members as an `.admin`.
-/
def Grants (s : Store) (account : String) (info : RoomInfo) : ClientEvent → Prop
  | .joinRoom _ => info.inviteOnly = false ∧ s.roleOf? info.id account = none
  | .leaveRoom _ => (s.roleOf? info.id account).isSome = true
  | .inviteRoom r => s.roleOf? info.id account = some .admin ∧ r.users ≠ [] ∧
    (∀ id ∈ r.users, (s.account? id).isSome = true) ∧ ∃ id ∈ r.users, s.roleOf? info.id id = none
  | .kickRoom r => s.roleOf? info.id account = some .admin ∧ r.users ≠ [] ∧ account ∉ r.users ∧
    ∀ id ∈ r.users, (s.roleOf? info.id id).isSome = true
  | _ => False

/-- Whom a request of `account` adds to the room `info`, each of them once and in the order of the
request. -/
def newcomers (s : Store) (account : String) (info : RoomInfo) : ClientEvent → List String
  | .joinRoom _ => [account]
  | .inviteRoom r => r.users.eraseDups.filter fun id => s.roleOf? info.id id = none
  | _ => []

/-- What is answered to a request of `account` about `info` that was carried out: the room that it
joined, the room that it left, or the room with the accounts that were added or removed. -/
def resultOf (s : Store) (account : String) (info : RoomInfo) (event : ClientEvent) : Json :=
  match event with
  | .joinRoom _ => info.shown
  | .leaveRoom _ => .object [("room_id", .text info.id)]
  | .inviteRoom _ => .object [("room_id", .text info.id),
      ("user_ids", .list ((s.newcomers account info event).map .text))]
  | .kickRoom _ => .object [("room_id", .text info.id),
      ("user_ids", .list ((Hub.leavers account event).map .text))]
  | _ => .null

/-- By its request `account` leaves the room `info`, of which it is the last member. -/
def Empties (s : Store) (account : String) (info : RoomInfo) : ClientEvent → Prop
  | .leaveRoom _ => ∀ a, (s.roleOf? info.id a).isSome = true → a = account
  | _ => False

/-- The store `s'` is `s` after a request of `account` about the room `info` was carried out. -/
structure Performs (s s' : Store) (account : String) (info : RoomInfo) (event : ClientEvent) :
    Prop where
  /-- Newcomers have no special role, leavers have none any more, and nobody else is concerned. -/
  roles : ∀ k a, s'.roleOf? k a =
    if k = info.id ∧ a ∈ s.newcomers account info event then some .user
    else if k = info.id ∧ a ∈ Hub.leavers account event then none
    else s.roleOf? k a
  /-- The room is deleted exactly if its last member leaves it. -/
  deleted : s'.rooms.get? info.id = none ↔ s.Empties account info event
  /-- Otherwise rooms stay as they are. -/
  rooms : ∀ k, k ≠ info.id ∨ ¬ s.Empties account info event → s'.rooms.get? k = s.rooms.get? k

end Store

namespace Hub

variable {h h' : Hub} {c : Connection} {info : RoomInfo} {ref : String} {event : ClientEvent}
  {e : Envelope}

/-! ### What live rooms tell about the store -/

/-- Where live room and store `Agree`, a registered account has its stored role in the live room. -/
theorem Agree.roleOf?_of_holds {k : String} (ha : h.Agree k) (hc : h.Coherent)
    (hreg : h.roster.Holds c) : h.rooms.roleOf? k c.account = h.store.roleOf? k c.account := by
  cases hstored : h.store.roleOf? k c.account with
  | none =>
    cases hlive : h.rooms.roleOf? k c.account with
    | none => rfl
    | some role =>
      rw [ha.roles _ role hlive] at hstored
      cases hstored
  | some role =>
    -- a member that is connected is in the live room, with the role of the store
    have hpresent : h.Present k c := ⟨hreg, by rw [hstored]; rfl⟩
    have hin : h.rooms.Holds k c := (ha.holds c).2 hpresent
    have hsome := hc.rooms.isSome_roleOf?_iff.2 ⟨c, hin, rfl⟩
    obtain ⟨role', hlive⟩ := Option.isSome_iff_exists.1 hsome
    rw [hlive, ← ha.roles _ role' hlive, hstored]

/-- If the account is the only stored member, `dismiss` leaves an empty live room. -/
theorem Agree.isEmpty_dismiss (ha : h.Agree info.id) (hc : h.Coherent)
    (hlast : ∀ a, (h.store.roleOf? info.id a).isSome = true → a = c.account) :
    ((h.rooms.roomOf info).dismiss [c.account]).isEmpty = true := by
  rw [(hc.sound_dismiss info _).isEmpty_iff]
  -- a connection that stayed would be one of another member
  intro d hd
  obtain ⟨hin, hnot⟩ := (LiveRoom.holds_dismiss _ _).1 hd
  have hpresent := (ha.holds d).1 ((h.rooms.holds_roomOf info).1 hin)
  exact hnot (List.mem_singleton.2 (hlast _ hpresent.2))

/-! ### What becomes of the store -/

/-- `Grows` by the newcomers of the request is all that `Performs` asks for. -/
theorem Grows.performs (hstored : h.store.rooms.get? info.id = some info)
    (hg : h.Grows h' info (h.store.newcomers c.account info event))
    (hleavers : leavers c.account event = [])
    (hempties : ¬ h.store.Empties c.account info event) :
    h.store.Performs h'.store c.account info event where
  roles k a := by
    rw [hg.roles, hleavers, if_neg (not_and_of_not_right _ List.not_mem_nil)]
  deleted := by
    rw [hg.stored, hstored]
    exact iff_of_false nofun hempties
  rooms k _ := by rw [hg.stored]

/-- `Shrinks` by the leavers of the request, with the room deleted exactly if it `Empties`, is all
that `Performs` asks for. -/
theorem Shrinks.performs (hs : h.Shrinks h' info (leavers c.account event))
    (hnewcomers : h.store.newcomers c.account info event = [])
    (hdeleted : h'.store.rooms.get? info.id = none ↔ h.store.Empties c.account info event) :
    h.store.Performs h'.store c.account info event where
  roles k a := by
    rw [hs.roles, hnewcomers, if_neg (not_and_of_not_right _ List.not_mem_nil)]
  deleted := hdeleted
  rooms k hk := by
    rcases hs.stored k with hsame | ⟨rfl, hnone⟩
    · exact hsame
    · exact absurd (hdeleted.1 hnone) (hk.resolve_left fun hne => hne rfl)

/-- If `Shrinks` has deleted the room, every member it had was among those removed. -/
theorem Shrinks.mem_of_deleted {accounts : List String} (hc : h.Coherent)
    (hstored : h.store.rooms.get? info.id = some info) (hs : h.Shrinks h' info accounts)
    (hnone : h'.store.rooms.get? info.id = none) {a : String}
    (ha : (h.store.roleOf? info.id a).isSome = true) : a ∈ accounts := by
  -- the account would have kept its role, but a deleted room has no roles
  by_contra hnot
  have hgone := (hs.coherent hc hstored).store.roleOf?_eq_none hnone (a := a)
  rw [hs.roles, if_neg fun hx => hnot hx.2] at hgone
  rw [hgone] at ha
  cases ha

/-! ### One request -/

/-- `Store.outsiders` are those of the accounts that are no members, in the order of the request. -/
theorem outsiders_eq (s : Store) (info : RoomInfo) (users : List String) :
    s.outsiders info users =
      users.eraseDups.filter fun id => s.roleOf? info.id id = none := by
  rw [Store.outsiders, distinct_eq_eraseDups]
  refine List.filter_congr fun id _ => ?_
  rw [Bool.eq_iff_iff, Option.isNone_iff_eq_none, decide_eq_true_iff]

/-- The `request` that an `event` makes is carried out exactly if `Store.Grants` it. -/
def Decides (h : Hub) (c : Connection) (info : RoomInfo) (event : ClientEvent)
    (request : Request Unit) : Prop :=
  Request.Gives request { hub := h } (fun _ _ => ¬ h.store.Grants c.account info event)
    fun _ u => h.store.Grants c.account info event ∧
      h.store.Performs u.hub.store c.account info event ∧
      ∃ result, Turn.Answers { hub := h } u c event.kind result ∧
        replyWith event.kind result =
          ⟨event.kind, some (h.store.resultOf c.account info event)⟩

section Dispatch

variable (hc : h.Coherent) (hcalm : h.Calm) (ha : h.Agree info.id) (hreg : h.roster.Holds c)
include hc hcalm ha hreg

/-- `joinRoom` lets an account in exactly if the store grants it. -/
theorem joinRoom_decides (r : RoomRequest) (hi : h.resolved? r.room = some info)
    (hp : info.isPrivate = false) : h.Decides c info (.joinRoom r) (joinRoom c r) := by
  have hstored := (stored_of_resolved? hc hi).1
  have hrole := ha.roleOf?_of_holds hc hreg
  refine (joinRoom_gives (t := { hub := h }) hc c r).mono ?_ ?_
  · rintro err u ⟨-, hrefused⟩ ⟨hopen, hout⟩
    -- who is no member in the store is not in the live room either
    have hcan : h.CanJoin c.account info := ⟨hopen, hrole.trans hout, hout⟩
    exact hrefused hcalm info hi hp hcan
  · rintro - u ⟨info', hi', -, hcan, hgrows, hanswers⟩
    obtain rfl : info' = info := Option.some.inj (hi'.symm.trans hi)
    exact ⟨⟨hcan.isOpen, hcan.outside⟩, hgrows.performs hstored rfl id, _, hanswers,
      replyWith_infoResult _ _⟩

/-- `leaveRoom` lets an account go exactly if the store grants it, and deletes the room behind the
last one. -/
theorem leaveRoom_decides (r : RoomRequest) (hi : h.resolved? r.room = some info)
    (hp : info.isPrivate = false) : h.Decides c info (.leaveRoom r) (leaveRoom c r) := by
  have hstored := (stored_of_resolved? hc hi).1
  have hrole := ha.roleOf?_of_holds hc hreg
  refine (leaveRoom_gives (t := { hub := h }) hc c r).mono ?_ ?_
  · -- under calm the request fails only where the account is no member
    rintro err u ⟨-, hrefused⟩ hmember
    have hcan : h.CanLeave c.account info := ⟨hrole ▸ hmember, hmember⟩
    exact hrefused hcalm info hi hp hcan
  rintro - u ⟨info', hi', -, hcan, hshrinks, hdeletes, hanswers⟩
  -- both are what `resolved?` finds
  obtain rfl : info' = info := Option.some.inj (hi'.symm.trans hi)
  refine ⟨hcan.member, hshrinks.performs rfl ⟨fun hnone a hsome => ?_, fun hlast => ?_⟩, _, hanswers,
    replyWith_roomResult _ _⟩
  · exact List.mem_singleton.1 (hshrinks.mem_of_deleted hc hstored hnone hsome)
  · -- without the last member, nobody is connected and no role is left
    have hempty := ha.isEmpty_dismiss hc hlast
    refine hdeletes hcalm hempty fun a => ?_
    rw [hshrinks.roles]
    split_ifs with hleft
    · rfl
    · by_contra hmember
      have hself : a = c.account := hlast a (Option.isSome_iff_ne_none.2 hmember)
      exact hleft ⟨rfl, List.mem_singleton.2 hself⟩

/-- `inviteRoom` adds the newcomers exactly if the store grants it. -/
theorem inviteRoom_decides (r : MembersRequest) (hi : h.resolved? r.room = some info)
    (hp : info.isPrivate = false) : h.Decides c info (.inviteRoom r) (inviteRoom c r) := by
  have hstored := (stored_of_resolved? hc hi).1
  have hrole := ha.roleOf?_of_holds hc hreg
  refine (inviteRoom_gives (t := { hub := h }) hc c r).mono ?_ ?_
  · rintro err u ⟨-, hrefused⟩ ⟨hadmin, hlisted, hknown, hout⟩
    have hgov : h.Governs c.account r.room info := ⟨hi, hp, hrole.trans hadmin⟩
    exact hrefused hcalm info hgov ⟨hlisted, hknown, hout⟩
  · rintro - u ⟨info', hgov, hcan, hgrows, hanswers⟩
    obtain rfl : info' = info := Option.some.inj (hgov.resolved.symm.trans hi)
    have hadmin := hrole.symm.trans hgov.role
    rw [outsiders_eq] at hgrows hanswers
    exact ⟨⟨hadmin, hcan.listed, hcan.known, hcan.outside⟩, hgrows.performs hstored rfl id,
      _, hanswers, replyWith_membersResult _ _ _⟩

/-- `kickRoom` removes the leavers exactly if the store grants it. -/
theorem kickRoom_decides (r : MembersRequest) (hi : h.resolved? r.room = some info)
    (hp : info.isPrivate = false) : h.Decides c info (.kickRoom r) (kickRoom c r) := by
  have hstored := (stored_of_resolved? hc hi).1
  have hrole := ha.roleOf?_of_holds hc hreg
  refine (kickRoom_gives (t := { hub := h }) hc c r).mono ?_ ?_
  · rintro err u ⟨-, hrefused⟩ ⟨hadmin, hlisted, hothers, hmembers⟩
    have hgov : h.Governs c.account r.room info := ⟨hi, hp, hrole.trans hadmin⟩
    exact hrefused hcalm info hgov ⟨hlisted, hothers, hmembers⟩
  rintro - u ⟨info', hgov, hcan, hshrinks, hanswers⟩
  obtain rfl : info' = info := Option.some.inj (hgov.resolved.symm.trans hi)
  have hadmin := hrole.symm.trans hgov.role
  rw [distinct_eq_eraseDups] at hshrinks hanswers
  refine ⟨⟨hadmin, hcan.listed, hcan.others, hcan.members⟩,
    hshrinks.performs rfl ⟨fun hnone => hcan.others ?_, False.elim⟩,
    _, hanswers, replyWith_membersResult _ _ _⟩
  -- the room cannot have been deleted, as the admin is still a member
  have hself : c.account ∈ r.users.eraseDups :=
    hshrinks.mem_of_deleted hc hstored hnone (by rw [hadmin]; rfl)
  exact List.mem_eraseDups.1 hself

/-- `dispatch` under calm, for a public room: the request is carried out exactly if the store
`Grants` it, and then it `Performs`. -/
theorem dispatch_decides (hi : h.resolved? ref = some info) (hp : info.isPrivate = false)
    (href : event.membersOf? = some ref) : h.Decides c info event (dispatch c event) := by
  cases event with
  | joinRoom r =>
    cases href
    exact joinRoom_decides hc hcalm ha hreg r hi hp
  | leaveRoom r =>
    cases href
    exact leaveRoom_decides hc hcalm ha hreg r hi hp
  | inviteRoom r =>
    cases href
    exact inviteRoom_decides hc hcalm ha hreg r hi hp
  | kickRoom r =>
    cases href
    exact kickRoom_decides hc hcalm ha hreg r hi hp
  | typing | chat | createRoom | getUsers | getChats | getNotifications | userRooms => cases href

end Dispatch

/-! ### What is sent -/

theorem not_success_of_isNews {d : Connection} {reply : Reply} :
    ¬ (Effect.send d (.success reply)).IsNews := id

/-- In a turn that `Answers` from the start, the only success for the client is that of
`replyAndForward`. -/
theorem Turn.Answers.success_iff {t u : Turn} {kind : String} {result : Json}
    (hu : t.Answers u c kind result) (hnil : t.effects = []) {reply : Reply} :
    Effect.send c (.success reply) ∈ u.effects ↔ reply = replyWith kind result := by
  obtain ⟨news, hnews, hb⟩ := hu
  rw [hb.effects, hnil, List.nil_append, List.mem_append, answers, List.mem_cons]
  constructor
  · rintro (hmem | hself | hmem)
    · exact absurd (hnews _ hmem) not_success_of_isNews
    · cases hself
      rfl
    · obtain ⟨d, -, hd⟩ := List.mem_map.1 hmem
      cases hd
  · rintro rfl
    exact Or.inr (Or.inl rfl)

/-- **Requests about members are decided by the store.** In every state that a hub reaches from one
without rooms, while the store is in reach, a request of a registered connection about the members
of a public room is carried out exactly if the store grants it, and answered with an error exactly
if not. If it is carried out, the store has changed as the request says and not otherwise, and the
answer names the event and tells the same: the accounts that were added or removed, in the order of
the request. -/
theorem decides_of_reachable {accounts : List Account} {mint : Mint}
    (hr : Reachable (fresh accounts mint []) h) (hreg : h.roster.get? c.id = some c)
    (he : ClientEvent.decode e = .ok event) (href : event.membersOf? = some ref)
    (hres : h.Resolves ref info) (hp : info.isPrivate = false) :
    ((∃ reply, Effect.send c (.success reply) ∈ (h.handle (.event c e)).2) ↔
        h.store.Grants c.account info event) ∧
      ((∃ err, Effect.send c (.error err) ∈ (h.handle (.event c e)).2) ↔
        ¬ h.store.Grants c.account info event) ∧
      (h.store.Grants c.account info event →
        h.store.Performs (h.handle (.event c e)).1.store c.account info event ∧
        ∀ reply, Effect.send c (.success reply) ∈ (h.handle (.event c e)).2 ↔
          reply = ⟨e.kind, some (h.store.resultOf c.account info event)⟩) := by
  have hc := hr.coherent (coherent_fresh accounts mint [])
  have hcalm := hr.calm (coherent_fresh accounts mint []) rfl
  have hi : h.resolved? ref = some info := (hc.resolves_iff hcalm).1 hres
  have hpublic : h.Public info.id := fun info' hinfo' => by
    rw [(stored_of_resolved? hc hi).1] at hinfo'
    exact Option.some.inj hinfo' ▸ hp
  have hkind := ClientEvent.kind_of_decode he
  have hk : e.kind ∈ ClientEvent.membershipKinds :=
    hkind ▸ ClientEvent.kind_mem_of_membersOf? href
  have hdecides := serve_gives he
    (dispatch_decides hc hcalm (hr.faithful.agree _ hpublic) hreg hi hp href)
  -- what is sent is known from what becomes of any request that makes a room or changes its members
  have hgives := hdecides.and (serve_atomic (t := { hub := h }) (c := c) hc hk)
  rcases handle_event hgives with ⟨hnone, -⟩ |
    ⟨u, ⟨⟨hgrants, hperforms, result, hanswers, hresult⟩, hok⟩, hh⟩ |
    ⟨err, s, ⟨hnot, reports, hreports, hundo, -⟩, hh⟩
  · rw [hreg] at hnone
    cases hnone
  · -- the request was carried out, and nobody was told an error
    rw [hh, hkind.symm] at *
    have hsuccess : ∀ reply, Effect.send c (.success reply) ∈ u.effects ↔
        reply = ⟨event.kind, some (h.store.resultOf c.account info event)⟩ := fun _ => by
      rw [hanswers.success_iff rfl, hresult]
    refine ⟨iff_of_true ⟨_, (hsuccess _).2 rfl⟩ hgrants, iff_of_false ?_ (not_not_intro hgrants),
      fun _ => ⟨hperforms, hsuccess⟩⟩
    rintro ⟨err, herr⟩
    obtain ⟨effects, heffects, hall⟩ := hok
    rw [heffects] at herr
    exact absurd trivial (hall _ herr)
  · -- it failed, and besides the error there are only reports
    rw [hh, show s.effects = reports from hreports]
    have htold : ∃ view, Effect.send c (.error view) ∈ reports ++ [.send c (.ofError err)] :=
      ⟨_, List.mem_append_right _ (List.mem_singleton.2 rfl)⟩
    refine ⟨iff_of_false ?_ hnot, iff_of_true htold hnot, fun hgrants => absurd hgrants hnot⟩
    rintro ⟨reply, hreply⟩
    rcases List.mem_append.1 hreply with hreply | hreply
    · exact hundo _ hreply
    · cases List.mem_singleton.1 hreply

/-- The creator of a room invites two accounts that are no members, and is told so. -/
theorem decides_invitation : ∃ h, Reachable (lobby []) h ∧ h.roster.get? ann.id = some ann ∧
    ClientEvent.decode invitation = .ok (.inviteRoom ⟨"den", ["cleo", "dan"]⟩) ∧
    h.Resolves "den" denInfo ∧
    h.store.Grants "ann" denInfo (.inviteRoom ⟨"den", ["cleo", "dan"]⟩) ∧
    h.store.Performs (h.handle (.event ann invitation)).1.store "ann" denInfo
      (.inviteRoom ⟨"den", ["cleo", "dan"]⟩) ∧
    Effect.send ann (.success ⟨"invite-room", some (.object [("room_id", .text den),
      ("user_ids", .list [.text "cleo", .text "dan"])])⟩) ∈
      (h.handle (.event ann invitation)).2 := by
  have hr : Reachable (lobby []) ((lobby []).run meeting).1 :=
    Reachable.start.run (by decide +kernel)
  have hreg : ((lobby []).run meeting).1.roster.get? ann.id = some ann := by decide +kernel
  have hdecode : ClientEvent.decode invitation =
      .ok (.inviteRoom ⟨"den", ["cleo", "dan"]⟩) := rfl
  have hres : ((lobby []).run meeting).1.Resolves "den" denInfo := by
    rw [(hr.coherent (coherent_fresh _ _ _)).resolves_iff (hr.calm (coherent_fresh _ _ _) rfl)]
    decide +kernel
  have hgrants : ((lobby []).run meeting).1.store.Grants "ann" denInfo
      (.inviteRoom ⟨"den", ["cleo", "dan"]⟩) :=
    ⟨by decide +kernel, by decide, by decide +kernel, by decide +kernel⟩
  -- neither of the two is a member yet
  have hnewcomers : ((lobby []).run meeting).1.store.newcomers "ann" denInfo
      (.inviteRoom ⟨"den", ["cleo", "dan"]⟩) = ["cleo", "dan"] := by decide +kernel
  obtain ⟨-, -, hdone⟩ := decides_of_reachable hr hreg hdecode rfl hres rfl
  obtain ⟨hperforms, hsuccess⟩ := hdone hgrants
  refine ⟨_, hr, hreg, hdecode, hres, hgrants, hperforms, (hsuccess _).2 ?_⟩
  rw [Store.resultOf, show ann.account = "ann" from rfl, hnewcomers]
  rfl

end Hub

end GroupChat
