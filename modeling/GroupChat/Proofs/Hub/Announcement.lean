import GroupChat.Proofs.Hub.Atomicity
import GroupChat.Proofs.Hub.History
import GroupChat.Proofs.Hub.Reference
import GroupChat.Proofs.Hub.Replies
import GroupChat.Proofs.Hub.Told

/-!
# Members that come and go are announced

Accounts that are invited to a room are let in one after the other, and accounts that are removed
are let out one after the other. Everyone in the room is notified each time, so that who is notified
changes on the way: a device of a new member is invited and learns of its own account and of those
that come after it, and a device of a former member learns of those before it and of its own
account.

## Main definitions

- `Store.Announces`: a notification about an account, under the name that the store has for it.
- `Hub.toldOfArrivals`, `Hub.toldOfDepartures`: what a client is told of several accounts.
- `Hub.TellsOfArrivals`, `Hub.TellsOfDepartures`: what clients are told by the requests.

## Main statements

- `welcome_utters`, `sendOff_utters`: what is told along the accounts.
- `inviteRoom_tells`, `kickRoom_tells`: what is told by the requests.
- `inviteRoom_announces`, `kickRoom_announces`: when it is told.
- `announces_of_reachable`: both, in all states.
-/

namespace GroupChat

open Hub (toldTo)

/-- The name under which `account` is shown: `Account.name`, or the identifier of an unknown
account. -/
def Store.displayName (s : Store) (account : String) : String :=
  ((s.account? account).map Account.name).getD account

/-- `v` is a notification of a `kind` about the account `a` in a `room`. -/
structure Store.Announces (s : Store) (kind : NotificationKind) (room a : String)
    (v : NotificationView) : Prop where
  /-- What happened. -/
  kind : v.notification.kind = kind
  /-- The room. -/
  room : v.notification.room = room
  /-- The account. -/
  account : v.notification.sender = a
  /-- Its name. -/
  name : v.sender = s.displayName a

namespace Hub

/-- What a connection is told when accounts become members of a room, where `vs` are the
notifications about them. -/
def toldOfArrivals (h : Hub) (info : RoomInfo) (xs : List String) (vs : List NotificationView)
    (d : Connection) : List ServerEvent :=
  if h.Present info.id d then vs.map .notification
  else if h.roster.Holds d ∧ d.account ∈ xs then
    .invited info :: (vs.drop (xs.idxOf d.account)).map .notification
  else []

/-- What a connection is told when accounts stop being members of a room, where `vs` are the
notifications about them. -/
def toldOfDepartures (h : Hub) (info : RoomInfo) (xs : List String) (vs : List NotificationView)
    (d : Connection) : List ServerEvent :=
  if ¬ h.Present info.id d then []
  else if d.account ∈ xs then (vs.take (xs.idxOf d.account + 1)).map .notification
  else vs.map .notification

/-- Accounts `xs` became members of a public room, and what clients are told of it. The answer names
them in this order, and the notifications `vs` follow the same one. -/
structure TellsOfArrivals (h h' : Hub) (c : Connection) (reference : String)
    (effects : List Effect) (info : RoomInfo) (xs : List String) (vs : List NotificationView) :
    Prop where
  /-- The room of the reference. -/
  resolves : h.Resolves reference info
  /-- The room is public. -/
  isPublic : info.isPrivate = false
  /-- The accounts are different. -/
  nodup : xs.Nodup
  /-- They are those who have become members. -/
  mem_iff : ∀ a, a ∈ xs ↔
    h.store.roleOf? info.id a = none ∧ (h'.store.roleOf? info.id a).isSome = true
  /-- Each of them is announced. -/
  announced : List.Forall₂ (h.store.Announces .join info.id) xs vs
  /-- What clients are told, in order, with the answer at the end. -/
  told : ∀ d, toldTo d effects = h.toldOfArrivals info xs vs d ++
    h.answerFor c "invite-room"
      (.object [("room_id", .text info.id), ("user_ids", .list (xs.map .text))]) d

/-- Accounts `xs` stopped being members of a public room, and what clients are told of it. The
answer names them in this order, and the notifications `vs` follow the same one. -/
structure TellsOfDepartures (h h' : Hub) (c : Connection) (reference : String)
    (effects : List Effect) (info : RoomInfo) (xs : List String) (vs : List NotificationView) :
    Prop where
  /-- The room of the reference. -/
  resolves : h.Resolves reference info
  /-- The room is public. -/
  isPublic : info.isPrivate = false
  /-- The accounts are different. -/
  nodup : xs.Nodup
  /-- They are those who are no members any more. -/
  mem_iff : ∀ a, a ∈ xs ↔
    (h.store.roleOf? info.id a).isSome = true ∧ h'.store.roleOf? info.id a = none
  /-- Each of them is announced. -/
  announced : List.Forall₂ (h.store.Announces .leave info.id) xs vs
  /-- What clients are told, in order, with the answer at the end. -/
  told : ∀ d, toldTo d effects = h.toldOfDepartures info xs vs d ++
    h.answerFor c "kick-room"
      (.object [("room_id", .text info.id), ("user_ids", .list (xs.map .text))]) d

variable {h : Hub} {t : Turn} {c : Connection} {e : Envelope} {s : Store}

/-! ### One account -/

/-- `notify` tells everyone in the room of an account, with the name that `Store.displayName` has
for it. -/
theorem notify_utters {room : LiveRoom} (hr : room.Sound) (kind : NotificationKind)
    {account name : String} (hname : name = s.displayName account) (t : Turn) :
    Step.Gives (notify room kind account name) t fun event u => t.Tells u ∧
      ∃ v, event = .notification v ∧ s.Announces kind room.id account v ∧
        t.Utters u fun d => if room.Holds d then [.notification v] else [] := by
  have hall : ∀ (v : NotificationView) (d : Connection),
      toldTo d (room.everyone.map fun d => .send d (.notification v)) =
        if room.Holds d then [.notification v] else [] := by
    intro v d
    rw [toldTo_sendAll hr.nodup_everyone]
    exact if_congr hr.mem_everyone rfl rfl
  refine ((notify_tells room kind account name t).and
    (notify_gives room kind account name t)).mono ?_
  rintro - u ⟨⟨htells, -⟩, n, rfl, hkind, hsender, hroom, hb | ⟨-, e, hb⟩⟩
  · exact ⟨htells, ⟨n, name⟩, rfl, ⟨hkind, hroom, hsender, hname⟩, hb.utters.congr (hall _)⟩
  · -- a report is told to nobody
    exact ⟨htells, ⟨n, name⟩, rfl, ⟨hkind, hroom, hsender, hname⟩, hb.utters.congr (hall _)⟩

/-- Under calm `nameOf` only asks the store, and answers `Store.displayName`. -/
theorem nameOf_asks (hcalm : t.hub.Calm) (hs : t.hub.store.accounts = s.accounts)
    (account : String) :
    Step.Gives (nameOf account) t fun name u => t.Asks u ∧ name = s.displayName account := by
  have hsame : t.hub.store.account? account = s.account? account := by
    rw [Store.account?, hs, Store.account?]
  unfold nameOf
  refine (ask_gives _ _ t).bind ?_
  rintro r v ⟨hv, rfl | ⟨e, -, hstorm⟩⟩
  · rw [Store.displayName, ← hsame]
    cases t.hub.store.account? account with
    | none => exact Step.gives_pure ⟨hv, rfl⟩
    | some a => exact Step.gives_pure ⟨hv, rfl⟩
  · exact absurd hcalm hstorm

/-! ### Along the accounts -/

/-- `welcome`, by induction on the accounts: those in the room learn of all of them, and the devices
of each, which are invited, learn of those from their own account on. For this the accounts must be
distinct and outside the room. -/
theorem welcome_utters (accounts : List Account) (room : LiveRoom) (t : Turn)
    (hs : t.hub.roster.Sound) (hr : room.Sound) (hw : room.Within t.hub.roster)
    (hn : (accounts.map Account.id).Nodup)
    (hknown : ∀ a ∈ accounts, s.account? a.id = some a)
    (hout : ∀ d, room.Holds d → d.account ∉ accounts.map Account.id) :
    Step.Gives (welcome accounts room) t fun _ u => ∃ vs,
      List.Forall₂ (s.Announces .join room.id) (accounts.map Account.id) vs ∧ t.Utters u fun d =>
        if room.Holds d then vs.map .notification
        else if t.hub.roster.Holds d ∧ d.account ∈ accounts.map Account.id then
          .invited room.info ::
            (vs.drop ((accounts.map Account.id).idxOf d.account)).map .notification
        else [] := by
  -- those who are in the room grow in number along the accounts
  induction accounts generalizing room t with
  | nil =>
    refine Step.gives_pure ⟨[], .nil, (Turn.Asks.refl t).utters.congr fun d => ?_⟩
    simp
  | cons a accounts ih =>
    rw [List.map_cons, List.nodup_cons] at hn
    have hdevices := LiveRoom.holds_of_mem_connectionsOf hs a.id
    have hname : a.name = s.displayName a.id := by
      rw [Store.displayName, hknown a List.mem_cons_self]
      rfl
    rw [welcome]
    refine (look_gives _ t).bind ?_
    rintro - x ⟨rfl, rfl⟩
    have hr' := LiveRoom.sound_joinAll hr hw hdevices .user
    have hholds : ∀ d, (room.joinAll (x.hub.roster.connectionsOf a.id) .user).Holds d ↔
        (x.hub.roster.Holds d ∧ d.account = a.id) ∨ room.Holds d := by
      intro d
      rw [LiveRoom.holds_joinAll hw hdevices, hs.mem_connectionsOf]
    refine (sendAll_utters (hs.nodup_connectionsOf a.id) _ x).bind ?_
    rintro - y ⟨hy, hinvited⟩
    refine (notify_utters hr' .join hname y).bind ?_
    rintro - z ⟨hz, v, -, hv, hjoined⟩
    have hroster : z.hub.roster = x.hub.roster := hz.roster.trans hy.roster
    have hout' : ∀ d, (room.joinAll (x.hub.roster.connectionsOf a.id) .user).Holds d →
        d.account ∉ accounts.map Account.id := by
      intro d hd
      rcases (hholds d).1 hd with ⟨-, hda⟩ | hd
      · rw [hda]
        exact hn.1
      · exact fun hm => hout d hd (List.mem_cons_of_mem _ hm)
    refine (ih _ z (hroster ▸ hs) hr' (hroster ▸ LiveRoom.within_joinAll hw hdevices .user) hn.2
      (fun b hb => hknown b (List.mem_cons_of_mem _ hb)) hout').mono ?_
    rintro - u ⟨vs, hvs, hu⟩
    rw [LiveRoom.id, LiveRoom.info_joinAll] at hv hvs
    refine ⟨v :: vs, .cons hv hvs, ((hinvited.trans hjoined).trans hu).congr fun d => ?_⟩
    simp only [hholds, hs.mem_connectionsOf, LiveRoom.info_joinAll, hroster, List.map_cons,
      List.mem_cons]
    by_cases hd : room.Holds d
    · -- who was in the room has another account
      have hda : d.account ≠ a.id := fun hda => hout d hd (hda ▸ List.mem_cons_self)
      simp [hd, hda]
    · by_cases hda : d.account = a.id
      · by_cases hreg : x.hub.roster.Holds d <;> simp [hd, hda, hreg]
      · simp [hd, hda, List.idxOf_cons_ne _ (Ne.symm hda)]

/-- `sendOff`, by induction on the accounts: those who stay learn of all of them, and the devices of
each learn of those up to their own account, since `notify` comes before the account is taken out.
-/
theorem sendOff_utters (accounts : List String) (room : LiveRoom) (t : Turn)
    (hcalm : t.hub.Calm) (hs : t.hub.store.accounts = s.accounts) (hr : room.Sound) :
    Step.Gives (sendOff accounts room) t fun _ u => ∃ vs,
      List.Forall₂ (s.Announces .leave room.id) accounts vs ∧ t.Utters u fun d =>
        if ¬ room.Holds d then []
        else if d.account ∈ accounts then
          (vs.take (accounts.idxOf d.account + 1)).map .notification
        else vs.map .notification := by
  -- those who are in the room become fewer along the accounts
  induction accounts generalizing room t with
  | nil =>
    refine Step.gives_pure ⟨[], .nil, (Turn.Asks.refl t).utters.congr fun d => ?_⟩
    simp
  | cons a accounts ih =>
    rw [sendOff]
    refine (nameOf_asks hcalm hs a).bind ?_
    rintro name x ⟨hx, hname⟩
    have hr' := LiveRoom.sound_removeAccount hr a
    refine (notify_utters hr' .leave hname x).bind ?_
    rintro - y ⟨hy, v, rfl, hv, hleft⟩
    refine (sendAll_utters (hr.nodup_connectionsOf a) _ y).bind ?_
    rintro - z ⟨hz, hremoved⟩
    have hcalm' : z.hub.Calm := hz.calm (hy.informs.calm (hx.calm hcalm))
    have hs' : z.hub.store.accounts = s.accounts := by
      rw [hz.store, hy.notes.accounts, hx.store, hs]
    refine (ih _ z hcalm' hs' hr').mono ?_
    rintro - u ⟨vs, hvs, hu⟩
    refine ⟨v :: vs, .cons hv hvs,
      (((hx.utters.trans hleft).trans hremoved).trans hu).congr fun d => ?_⟩
    simp only [LiveRoom.holds_removeAccount, hr.mem_connectionsOf, List.mem_cons, List.nil_append]
    by_cases hd : room.Holds d
    · by_cases hda : d.account = a
      · -- its account is the one that goes
        simp [hd, hda]
      · by_cases hm : d.account ∈ accounts
        · simp [hd, hda, hm, List.idxOf_cons_ne _ (Ne.symm hda)]
        · simp [hd, hda, hm]
    · simp [hd]

/-- `dropIfEmpty` tells nobody anything. -/
theorem dropIfEmpty_utters (room : LiveRoom) (t : Turn) :
    Step.Gives (dropIfEmpty room) t fun _ u => t.Utters u fun _ => [] := by
  unfold dropIfEmpty
  split
  swap
  · exact Step.gives_pure (Turn.Asks.refl t).utters
  refine (dropRoom_gives room.id t).bind fun _ x hx => ?_
  refine (ask_gives _ _ x).bind fun r y hy => ?_
  have hquiet : t.Utters y fun _ => [] := hx.utters.trans hy.1.utters
  split
  · refine (orReport_deleteRoom_gives room.id _ y).mono ?_
    rintro - u (⟨store, news, -, hu, hnews, -⟩ | ⟨e, hu, -⟩)
    · -- at most a report, which `toldTo` does not see
      refine hquiet.trans (hu.utters.congr fun d => ?_)
      refine List.filterMap_eq_nil_iff.2 fun x hx => ?_
      obtain ⟨e, rfl⟩ := hnews x hx
      rfl
    · exact hquiet.trans hu.utters
  · exact Step.gives_pure hquiet
  · exact (act_gives _ y).mono fun _ u hu => hquiet.trans hu.utters

/-! ### The requests -/

section Requests

variable (hc : h.Coherent) (hagree : ∀ k, h.Public k → h.Agree k)
include hc hagree

/-- In a room that an account `Governs`, `roomOf` holds exactly the registered connections of its
members. -/
theorem Governs.holds_roomOf {account reference : String} {info : RoomInfo} {d : Connection}
    (hg : h.Governs account reference info) :
    (h.rooms.roomOf info).Holds d ↔ h.Present info.id d := by
  rw [LiveRooms.holds_roomOf]
  exact (hagree _ (public_of_resolved? hc hg.resolved hg.isPublic)).holds d

variable (hreg : h.roster.Holds c)
include hreg

/-- What `inviteRoom` tells each device if it is carried out, with `welcome_utters` for the loop. -/
theorem inviteRoom_tells (r : MembersRequest) :
    Request.Gives (inviteRoom c r) { hub := h }
      (fun _ u => Turn.FailsToInvite { hub := h } u c r)
      fun _ u => ∃ info vs, h.Governs c.account r.room info ∧
        List.Forall₂ (h.store.Announces .join info.id) (h.store.outsiders info r.users) vs ∧
        (∃ reply, Effect.send c (.success reply) ∈ u.effects) ∧
        ∀ d, toldTo d u.effects = h.toldOfArrivals info (h.store.outsiders info r.users) vs d ++
          h.answerFor c "invite-room" (.object [("room_id", .text info.id),
            ("user_ids", .list ((h.store.outsiders info r.users).map .text))]) d := by
  refine inviteRoom_after hc c r (fun _ _ hu => hu) fun info accounts w hw => ?_
  have hstored := (stored_of_resolved? hc hw.governs.resolved).1
  have hids : accounts.map Account.id = h.store.outsiders info r.users := hw.ids
  have hholds := fun d => hw.governs.holds_roomOf (d := d) hc hagree
  have hroster : w.hub.roster = h.roster := hw.becomes.roster
  have hs : w.hub.roster.Sound := hroster ▸ hc.roster
  have hout : ∀ d, (h.rooms.roomOf info).Holds d → d.account ∉ accounts.map Account.id := by
    intro d hd hm
    -- who is in the room is a member
    have hmember := ((hholds d).1 hd).2
    rw [hids, mem_outsiders] at hm
    rw [hm.2] at hmember
    cases hmember
  have hn : (accounts.map Account.id).Nodup := hids ▸ nodup_outsiders
  refine Request.Gives.lift_bind ((welcome_gives _ _ w).and (welcome_utters accounts _ w hs
    (hc.rooms.sound_roomOf info) (hroster ▸ hc.rooms.within_roomOf info) hn hw.known hout)) ?_
  rintro room x ⟨⟨hx, rfl⟩, vs, hvs, htold⟩
  refine Request.Gives.lift_bind (keepRoom_gives _ x) fun _ y hy => ?_
  have hrest : y.hub.roster = h.roster := (hy.roster.trans hx.roster).trans hroster
  refine Request.Gives.lift ((replyAndForward_utters hc.roster hreg (replyWith_membersResult ..)
    hrest).mono ?_)
  rintro - u ⟨hreply, hu⟩
  rw [hc.id_roomOf hstored, hids] at hvs
  refine ⟨info, vs, hw.governs, hvs, hreply, fun d => ?_⟩
  rw [hu.told, hy.utters.told, htold.told, hw.becomes.effects]
  simp only [hids, hholds, hroster, hc.info_roomOf hstored, hc.id_enroll hstored]
  rw [toldOfArrivals]
  simp [toldTo]

variable (hcalm : h.Calm)
include hcalm

/-- Under calm an `inviteRoom` that fails tells nothing before its error, and one that is carried
out `TellsOfArrivals`. -/
theorem inviteRoom_announces (r : MembersRequest) :
    Request.Gives (inviteRoom c r) { hub := h }
      (fun _ u => (¬ ∃ info, h.Governs c.account r.room info ∧ h.CanInvite info r.users) ∧
        u.effects = [])
      fun _ u => (∃ info, h.Governs c.account r.room info ∧ h.CanInvite info r.users) ∧
        (∃ reply, Effect.send c (.success reply) ∈ u.effects) ∧
        ∃ info xs vs, h.TellsOfArrivals u.hub c r.room u.effects info xs vs := by
  refine ((inviteRoom_tells hc hagree hreg r).and
    (inviteRoom_gives (t := { hub := h }) hc c r)).mono ?_ ?_
  · rintro - u ⟨hfails, -⟩
    refine ⟨?_, hfails.effects hcalm⟩
    rintro ⟨info, hgov, hcan⟩
    exact hfails.2 hcalm info hgov hcan
  · rintro - u ⟨⟨info, vs, hgov, hvs, hreply, htold⟩, info', hgov', hcan, hgrows, -⟩
    obtain rfl : info = info' := Option.some.inj (hgov.resolved.symm.trans hgov'.resolved)
    exact ⟨⟨info, hgov, hcan⟩, hreply, info, _, vs, (hc.resolves_iff hcalm).2 hgov.resolved,
      hgov.isPublic, nodup_outsiders, hgrows.mem_iff, hvs, htold⟩

/-- What `kickRoom` tells each device if it is carried out, with `sendOff_utters` for the loop. -/
theorem kickRoom_tells (r : MembersRequest) :
    Request.Gives (kickRoom c r) { hub := h }
      (fun _ u => Turn.FailsToKick { hub := h } u c r)
      fun _ u => ∃ info vs, h.Governs c.account r.room info ∧
        List.Forall₂ (h.store.Announces .leave info.id) (distinct r.users) vs ∧
        (∃ reply, Effect.send c (.success reply) ∈ u.effects) ∧
        ∀ d, toldTo d u.effects = h.toldOfDepartures info (distinct r.users) vs d ++
          h.answerFor c "kick-room" (.object [("room_id", .text info.id),
            ("user_ids", .list ((distinct r.users).map .text))]) d := by
  refine kickRoom_after hc c r (fun _ _ hu => hu) fun info w hw => ?_
  have hstored := (stored_of_resolved? hc hw.governs.resolved).1
  have hholds := fun d => hw.governs.holds_roomOf (d := d) hc hagree
  have hroster : w.hub.roster = h.roster := hw.becomes.roster
  have hknown : w.hub.store.accounts = h.store.accounts := by rw [hw.removes.rest]
  refine Request.Gives.lift_bind ((sendOff_gives _ _ w).and (sendOff_utters _ _ w
    (hw.becomes.calm hcalm) hknown (hc.rooms.sound_roomOf info))) ?_
  rintro room x ⟨⟨hx, hroom⟩, vs, hvs, htold⟩
  refine Request.Gives.lift_bind (keepRoom_gives _ x) fun _ y hy => ?_
  refine Request.Gives.lift_bind (dropIfEmpty_utters _ y) fun _ z hz => ?_
  have hrest : z.hub.roster = h.roster :=
    ((hz.roster.trans hy.roster).trans hx.roster).trans hroster
  refine Request.Gives.lift ((replyAndForward_utters hc.roster hreg (replyWith_membersResult ..)
    hrest).mono ?_)
  rintro - u ⟨hreply, hu⟩
  -- `sendOff` knows the room by what it holds, and the statement by `info`
  rw [hc.id_roomOf hstored] at hvs
  refine ⟨info, vs, hw.governs, hvs, hreply, fun d => ?_⟩
  rw [hu.told, hz.told, hy.utters.told, htold.told, hw.becomes.effects]
  simp only [hholds, hroom, hc.id_dismiss hstored]
  rw [toldOfDepartures]
  simp [toldTo]

/-- Under calm a `kickRoom` that fails tells nothing before its error, and one that is carried out
`TellsOfDepartures`. -/
theorem kickRoom_announces (r : MembersRequest) :
    Request.Gives (kickRoom c r) { hub := h }
      (fun _ u => (¬ ∃ info, h.Governs c.account r.room info ∧
        h.CanKick c.account info r.users) ∧ u.effects = [])
      fun _ u => (∃ info, h.Governs c.account r.room info ∧ h.CanKick c.account info r.users) ∧
        (∃ reply, Effect.send c (.success reply) ∈ u.effects) ∧
        ∃ info xs vs, h.TellsOfDepartures u.hub c r.room u.effects info xs vs := by
  refine ((kickRoom_tells hc hagree hreg hcalm r).and
    (kickRoom_gives (t := { hub := h }) hc c r)).mono ?_ ?_
  · rintro - u ⟨hfails, -⟩
    refine ⟨?_, hfails.effects hcalm⟩
    rintro ⟨info, hgov, hcan⟩
    exact hfails.2 hcalm info hgov hcan
  · rintro - u ⟨⟨info, vs, hgov, hvs, hreply, htold⟩, info', hgov', hcan, hshrinks, -⟩
    obtain rfl : info = info' := Option.some.inj (hgov.resolved.symm.trans hgov'.resolved)
    have hmembers : ∀ a ∈ distinct r.users, (h.store.roleOf? info.id a).isSome = true :=
      fun a ha => hcan.members a (mem_distinct.1 ha)
    exact ⟨⟨info, hgov, hcan⟩, hreply, info, _, vs, (hc.resolves_iff hcalm).2 hgov.resolved,
      hgov.isPublic, nodup_distinct r.users, hshrinks.mem_iff hmembers, hvs, htold⟩

end Requests

/-- **Members are announced to each device in their order.** In every state that a hub reaches from
one without rooms, while the store is in reach, a request that has made accounts members of a room
is told to each registered connection of a member from before as the list of these accounts, and to
each registered connection of one of them as an invitation and the list from its own account on. A
request that has removed accounts is told to each registered connection of a member that stays as
the list of these accounts, and to each registered connection of one of them as the list up to its
own account. Besides, the devices of the account that has asked are told the answer afterwards, and
nobody else is told anything. -/
theorem announces_of_reachable {accounts : List Account} {mint : Mint}
    (hr : Reachable (fresh accounts mint []) h) (hreg : h.roster.get? c.id = some c)
    (hok : ∃ reply, Effect.send c (.success reply) ∈ (h.handle (.event c e)).2) :
    (∀ r, ClientEvent.decode e = .ok (.inviteRoom r) → ∃ info xs vs,
      h.TellsOfArrivals (h.handle (.event c e)).1 c r.room (h.handle (.event c e)).2 info xs vs) ∧
    ∀ r, ClientEvent.decode e = .ok (.kickRoom r) → ∃ info xs vs,
      h.TellsOfDepartures (h.handle (.event c e)).1 c r.room (h.handle (.event c e)).2
        info xs vs := by
  have hc := hr.coherent (coherent_fresh accounts mint [])
  have hcalm := hr.calm (coherent_fresh accounts mint []) rfl
  have hagree := hr.faithful.agree
  refine ⟨fun r he => ?_, fun r he => ?_⟩
  · obtain ⟨hiff, htells⟩ := success_iff_of_gives
      (D := fun h' effects => ∃ info xs vs, h.TellsOfArrivals h' c r.room effects info xs vs) hreg
      (serve_gives he (inviteRoom_announces hc hagree hreg hcalm r))
    exact htells (hiff.1 hok)
  · obtain ⟨hiff, htells⟩ := success_iff_of_gives
      (D := fun h' effects => ∃ info xs vs, h.TellsOfDepartures h' c r.room effects info xs vs)
      hreg (serve_gives he (kickRoom_announces hc hagree hreg hcalm r))
    exact htells (hiff.1 hok)

/-- A connection of a third account, which is not one of `Hub.meeting`. -/
def cleo : Connection := ⟨"3", "cleo", "Cleo", .user⟩

/-- `cleo` comes after the room of `Hub.meeting` was made. -/
def gathering : List Inbound := meeting ++ [.register cleo]

/-- The creator of the room invites two accounts, of which the first one is connected and is told
three things, while the other member is told two. The creator may also remove that member, who is
told so. -/
theorem announces_gathering : ∃ h, Reachable (lobby []) h ∧ h.roster.get? ann.id = some ann ∧
    (∃ reply, Effect.send ann (.success reply) ∈ (h.handle (.event ann invitation)).2) ∧
    (∃ reply, Effect.send ann (.success reply) ∈ (h.handle dismissal).2) ∧
    (∃ info xs vs, h.TellsOfArrivals (h.handle (.event ann invitation)).1 ann "den"
      (h.handle (.event ann invitation)).2 info xs vs) ∧
    (toldTo cleo (h.handle (.event ann invitation)).2).length = 3 ∧
    (toldTo bob (h.handle (.event ann invitation)).2).length = 2 ∧
    (∃ info xs vs, h.TellsOfDepartures (h.handle dismissal).1 ann "den" (h.handle dismissal).2
      info xs vs) ∧
    (toldTo bob (h.handle dismissal).2).length = 1 := by
  have hr : Reachable (lobby []) ((lobby []).run gathering).1 :=
    Reachable.start.run (by decide +kernel)
  have hreg : ((lobby []).run gathering).1.roster.get? ann.id = some ann := by decide +kernel
  have hinvite : ∃ reply, Effect.send ann (.success reply) ∈
      (((lobby []).run gathering).1.handle (.event ann invitation)).2 :=
    exists_isSuccessTo_iff.1 (by decide +kernel)
  have hkick : ∃ reply, Effect.send ann (.success reply) ∈
      (((lobby []).run gathering).1.handle dismissal).2 :=
    exists_isSuccessTo_iff.1 (by decide +kernel)
  obtain ⟨harrivals, -⟩ := announces_of_reachable hr hreg hinvite
  obtain ⟨-, hdepartures⟩ := announces_of_reachable hr hreg hkick
  exact ⟨_, hr, hreg, hinvite, hkick, harrivals _ rfl, by decide +kernel, by decide +kernel,
    hdepartures _ rfl, by decide +kernel⟩

end Hub

end GroupChat
