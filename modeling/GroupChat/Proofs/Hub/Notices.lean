import GroupChat.Proofs.Hub.Membership

/-!
# Which notifications are kept

Only the four requests that change the members of a room keep notifications, all of one kind and
about one room. In calm weather there is one for each account that came or went, in order.

## Main definitions

- `Store.noticed`: how many notifications of a kind are kept about an account in a room.
- `Turn.Logs`: notifications about accounts were kept.

## Main statements

- `notify_logs`, `welcome_logs`, `sendOff_logs`: who is notified about.
- `joinRoom_logs`, `leaveRoom_logs`, `inviteRoom_logs`, `kickRoom_logs`: the requests.
-/

namespace GroupChat

/-- How many notifications of a `kind` are kept about `account` in a `room`. -/
def Store.noticed (s : Store) (kind : NotificationKind) (room account : String) : Nat :=
  s.notifications.countP fun n => n.kind == kind && n.room == room && n.sender == account

namespace Hub

/-- Notifications of a `kind` about the `accounts` in a `room` were kept, or some of them if the hub
is not `Calm`. -/
structure Turn.Logs (t u : Turn) (kind : NotificationKind) (room : String)
    (accounts : List String) : Prop where
  /-- Calm weather lasts. -/
  calm : t.hub.Calm → u.hub.Calm
  /-- The notifications are added at the end. -/
  kept : ∃ ns, u.hub.store.notifications = t.hub.store.notifications ++ ns ∧
    (∀ n ∈ ns, n.kind = kind ∧ n.room = room) ∧
    (t.hub.Calm → ns.map Notification.sender = accounts)

variable {t s u : Turn} {kind : NotificationKind} {room : String} {accounts accounts' : List String}
  {rooms : LiveRooms} {store : Store} {es : List Effect}

/-! ### Notifications that are kept -/

/-- A turn that leaves `notifications` as they are `Logs` nothing. -/
theorem Turn.Becomes.logs (h : t.Becomes u rooms store es)
    (hs : store.notifications = t.hub.store.notifications) (kind : NotificationKind)
    (room : String) : t.Logs u kind room [] where
  calm := h.calm
  kept := ⟨[], by rw [h.store, hs, List.append_nil], by simp, fun _ => rfl⟩

theorem Turn.Asks.logs (h : t.Asks u) (kind : NotificationKind) (room : String) :
    t.Logs u kind room [] :=
  Turn.Becomes.logs h rfl kind room

/-- `Logs` of two turns, one after the other, is that of both lists of accounts. -/
theorem Turn.Logs.trans (h : t.Logs s kind room accounts) (h' : s.Logs u kind room accounts') :
    t.Logs u kind room (accounts ++ accounts') where
  calm := h'.calm ∘ h.calm
  kept := by
    obtain ⟨ns, hns, hkind, hall⟩ := h.kept
    obtain ⟨ns', hns', hkind', hall'⟩ := h'.kept
    refine ⟨ns ++ ns', by rw [hns', hns, List.append_assoc], fun n hn => ?_, fun hcalm => ?_⟩
    · rcases List.mem_append.1 hn with hn | hn
      · exact hkind n hn
      · exact hkind' n hn
    · rw [List.map_append, hall hcalm, hall' (h.calm hcalm)]

/-- `Logs` after a turn that leaves `notifications` as they are. -/
theorem Turn.Becomes.logs_trans (h : t.Becomes s rooms store es)
    (hs : store.notifications = t.hub.store.notifications) (h' : s.Logs u kind room accounts) :
    t.Logs u kind room accounts :=
  (h.logs hs kind room).trans h'

/-- `Logs` before a turn that leaves `notifications` as they are. -/
theorem Turn.Logs.becomes (h : t.Logs s kind room accounts) (h' : s.Becomes u rooms store es)
    (hs : store.notifications = s.hub.store.notifications) : t.Logs u kind room accounts := by
  rw [← List.append_nil accounts]
  exact h.trans (h'.logs hs kind room)

/-- Under calm `noticed` grows by how often the account is among those of `Logs`. -/
theorem Turn.Logs.noticed (h : t.Logs u kind room accounts) (hcalm : t.hub.Calm)
    (kind' : NotificationKind) (room' account : String) :
    u.hub.store.noticed kind' room' account = t.hub.store.noticed kind' room' account +
      if kind' = kind ∧ room' = room then accounts.count account else 0 := by
  obtain ⟨ns, hns, hkind, hall⟩ := h.kept
  rw [Store.noticed, Store.noticed, hns, List.countP_append, ← hall hcalm]
  congr 1
  split
  · rename_i hsame
    rw [hsame.1, hsame.2, List.count, List.countP_map]
    -- all that was kept is of this kind and room, so accounts are counted
    refine List.countP_congr fun n hn => ?_
    obtain ⟨hk, hr⟩ := hkind n hn
    simp [hk, hr]
  · rename_i hother
    -- nothing that was kept is of another kind or room
    refine List.countP_eq_zero.2 fun n hn hcounted => hother ?_
    obtain ⟨hk, hr⟩ := hkind n hn
    simp only [Bool.and_eq_true, beq_iff_eq] at hcounted
    exact ⟨hcounted.1.1.symm.trans hk, hcounted.1.2.symm.trans hr⟩

/-! ### Notifying about several accounts -/

/-- `notify` keeps one notification about the account, if the store is in reach. -/
theorem notify_logs (room : LiveRoom) (kind : NotificationKind) (account name : String) (t : Turn) :
    Step.Gives (notify room kind account name) t fun _ u => t.Logs u kind room.id [account] := by
  refine (notify_gives room kind account name t).mono ?_
  rintro event u ⟨n, rfl, hkind, hsender, hroom, hb | ⟨hstorm, e, hb⟩⟩
  · refine ⟨hb.calm, [n], by rw [hb.store]; rfl, fun m hm => ?_, fun _ => ?_⟩
    · rw [List.mem_singleton.1 hm]
      exact ⟨hkind, hroom⟩
    · rw [List.map_singleton, hsender]
  · exact ⟨hb.calm, [], by rw [hb.store, List.append_nil], by simp, fun h => absurd h hstorm⟩

/-- `welcome` keeps a `.join` notification for each account in turn. -/
theorem welcome_logs (accounts : List Account) (room : LiveRoom) (t : Turn) :
    Step.Gives (welcome accounts room) t fun _ u =>
      t.Logs u .join room.id (accounts.map Account.id) := by
  induction accounts generalizing room t with
  | nil => exact Step.gives_pure ((Turn.Asks.refl t).logs _ _)
  | cons account accounts ih =>
    rw [welcome]
    refine (look_gives _ t).bind ?_
    rintro devices s ⟨rfl, rfl⟩
    have hid : (room.joinAll (s.hub.roster.connectionsOf account.id) .user).id = room.id := by
      rw [LiveRoom.id, LiveRoom.info_joinAll, LiveRoom.id]
    refine (sendAll_gives _ _ s).bind fun _ v hv => ?_
    refine (notify_logs _ _ _ _ v).bind fun _ w hw => ?_
    refine (ih _ w).mono fun _ u hu => ?_
    rw [hid] at hw hu
    have hone : s.Logs w .join room.id [account.id] := hv.logs_trans rfl hw
    exact hone.trans hu

/-- `sendOff` keeps a `.leave` notification for each account in turn. -/
theorem sendOff_logs (accounts : List String) (room : LiveRoom) (t : Turn) :
    Step.Gives (sendOff accounts room) t fun _ u => t.Logs u .leave room.id accounts := by
  induction accounts generalizing room t with
  | nil => exact Step.gives_pure ((Turn.Asks.refl t).logs _ _)
  | cons account accounts ih =>
    rw [sendOff]
    refine (nameOf_gives account t).bind fun name s hs => ?_
    refine (notify_logs _ _ _ _ s).bind fun _ v hv => ?_
    refine (sendAll_gives _ _ v).bind fun _ w hw => ?_
    refine (ih _ w).mono fun _ u hu => ?_
    -- the room is the same without the account
    have hv : s.Logs v .leave room.id [account] := hv
    have hu : w.Logs u .leave room.id accounts := hu
    have hone : t.Logs w .leave room.id [account] :=
      (Turn.Becomes.logs_trans hs rfl hv).becomes hw rfl
    exact hone.trans hu

/-- `dropIfEmpty` keeps no notification. -/
theorem dropIfEmpty_logs (kind : NotificationKind) (room : LiveRoom) (t : Turn) :
    Step.Gives (dropIfEmpty room) t fun _ u => t.Logs u kind room.id [] := by
  refine (dropIfEmpty_gives room t).mono ?_
  rintro - u ⟨news, -, hb, hstore, -⟩
  refine hb.logs ?_ _ _
  rcases hstore with hsame | ⟨-, -, hdrops⟩
  · rw [hsame]
  · rw [hdrops.rest]

/-! ### The requests -/

/-- `joinRoom` keeps one notification that the account came. -/
theorem joinRoom_logs (hc : t.hub.Coherent) (c : Connection) (r : RoomRequest) :
    Request.Gives (joinRoom c r) t (fun _ _ => True) fun _ u => ∃ info,
      t.hub.resolved? r.room = some info ∧ t.Logs u .join info.id [c.account] := by
  unfold joinRoom
  refine publicRoom_gives hc r.room (fun _ _ _ _ => trivial) fun info s hs hi _ => ?_
  -- `notify` takes the identifier from the live room
  have hid : (t.hub.rooms.roomOf info).id = info.id :=
    hc.id_roomOf (stored_of_resolved? hc hi).1
  refine Request.Gives.refuse (fun _ => trivial) fun _ => ?_
  refine (isMember_gives _ _ s).bind (fun _ _ _ => trivial) ?_
  rintro member v ⟨hv, -⟩
  refine Request.Gives.refuse (fun _ => trivial) fun _ => ?_
  refine (orFail_tell_gives _ (Store.spares_addMember _ c.account .user) v).bind (fun _ _ _ => trivial) ?_
  rintro - w ⟨store, hadd, hw⟩
  have hadds := Store.adds_of_addMember hadd
  -- up to here nothing was kept
  have hw : t.Logs w .join info.id [] :=
    Turn.Becomes.logs_trans (hs.trans hv) rfl (hw.logs (by rw [hadds.rest]) _ _)
  refine (see_gives _ w).bind (fun _ _ h => h.elim) ?_
  rintro own x ⟨rfl, rfl⟩
  refine Request.Gives.lift_bind (keepRoom_gives _ x) fun _ y hy => ?_
  refine Request.Gives.lift_bind (notify_logs _ _ _ _ y) fun _ z hz => ?_
  rw [LiveRoom.id, LiveRoom.info_joinAll, ← LiveRoom.id, hid] at hz
  refine Request.Gives.lift ((replyAndForward_gives c _ _ z).mono fun _ u hu => ⟨info, hi, ?_⟩)
  exact ((hw.becomes hy rfl).trans hz).becomes hu rfl

/-- `leaveRoom` keeps one notification that the account went. -/
theorem leaveRoom_logs (hc : t.hub.Coherent) (c : Connection) (r : RoomRequest) :
    Request.Gives (leaveRoom c r) t (fun _ _ => True) fun _ u => ∃ info,
      t.hub.resolved? r.room = some info ∧ t.Logs u .leave info.id [c.account] := by
  unfold leaveRoom
  refine publicRoom_gives hc r.room (fun _ _ _ _ => trivial) fun info s hs hi _ => ?_
  have hstored := (stored_of_resolved? hc hi).1
  refine Request.Gives.refuse (fun _ => trivial) fun _ => ?_
  refine (orFail_tell_gives _ (Store.spares_removeMember _ c.account) s).bind (fun _ _ _ => trivial) ?_
  rintro - v ⟨store, hremove, hv⟩
  have hremoves := Store.removes_of_removeMember hremove
  -- up to here nothing was kept
  have hv : t.Logs v .leave info.id [] :=
    Turn.Becomes.logs_trans hs rfl (hv.logs (by rw [hremoves.rest]) _ _)
  have hid : ((t.hub.rooms.roomOf info).removeAccount c.account).2.id = info.id :=
    hc.id_dismiss hstored [c.account]
  refine Request.Gives.lift_bind (keepRoom_gives _ v) fun _ w hw => ?_
  refine Request.Gives.lift_bind (notify_logs _ _ _ _ w) fun _ x hx => ?_
  refine Request.Gives.lift_bind (dropIfEmpty_logs .leave _ x) fun _ y hy => ?_
  rw [hid] at hx hy
  refine Request.Gives.lift ((replyAndForward_gives c _ _ y).mono fun _ u hu => ⟨info, hi, ?_⟩)
  exact (((hv.becomes hw rfl).trans hx).trans hy).becomes hu rfl

/-- `inviteRoom` keeps one notification about each account that came, in order. -/
theorem inviteRoom_logs (hc : t.hub.Coherent) (c : Connection) (r : MembersRequest) :
    Request.Gives (inviteRoom c r) t (fun _ _ => True) fun _ u => ∃ info,
      t.hub.Governs c.account r.room info ∧
        t.Logs u .join info.id (t.hub.store.outsiders info r.users) := by
  refine inviteRoom_after hc c r (fun _ _ _ => trivial) fun info accounts w hw => ?_
  have hid : (t.hub.rooms.roomOf info).id = info.id :=
    hc.id_roomOf (stored_of_resolved? hc hw.governs.resolved).1
  have hlogs : t.Logs w .join info.id [] := hw.becomes.logs (by rw [hw.adds.rest]) _ _
  refine Request.Gives.lift_bind (welcome_logs _ _ w) fun room x hx => ?_
  rw [hid, hw.ids] at hx
  refine Request.Gives.lift_bind (keepRoom_gives _ x) fun _ y hy => ?_
  refine Request.Gives.lift ((replyAndForward_gives c _ _ y).mono fun _ u hu => ?_)
  exact ⟨info, hw.governs, ((hlogs.trans hx).becomes hy rfl).becomes hu rfl⟩

/-- `kickRoom` keeps one notification about each account that went, in order. -/
theorem kickRoom_logs (hc : t.hub.Coherent) (c : Connection) (r : MembersRequest) :
    Request.Gives (kickRoom c r) t (fun _ _ => True) fun _ u => ∃ info,
      t.hub.Governs c.account r.room info ∧ t.Logs u .leave info.id (distinct r.users) := by
  refine kickRoom_after hc c r (fun _ _ _ => trivial) fun info w hw => ?_
  have hstored := (stored_of_resolved? hc hw.governs.resolved).1
  have hid : (t.hub.rooms.roomOf info).id = info.id := hc.id_roomOf hstored
  have hlogs : t.Logs w .leave info.id [] := hw.becomes.logs (by rw [hw.removes.rest]) _ _
  -- `dropIfEmpty` comes after the loop and needs the identifier that the loop leaves
  have hsent : Step.Gives (sendOff (distinct r.users) (t.hub.rooms.roomOf info)) w fun room x =>
      room.id = info.id ∧ w.Logs x .leave info.id (distinct r.users) := by
    refine ⟨?_, hid ▸ sendOff_logs _ _ w⟩
    rw [(sendOff_gives _ _ w).2]
    exact hc.id_dismiss hstored _
  refine Request.Gives.lift_bind hsent ?_
  rintro room x ⟨hroom, hx⟩
  refine Request.Gives.lift_bind (keepRoom_gives _ x) fun _ y hy => ?_
  refine Request.Gives.lift_bind (dropIfEmpty_logs .leave _ y) fun _ z hz => ?_
  rw [hroom] at hz
  refine Request.Gives.lift ((replyAndForward_gives c _ _ z).mono fun _ u hu => ?_)
  have hall := ((hlogs.trans hx).becomes hy rfl).trans hz
  rw [List.nil_append, List.append_nil] at hall
  exact ⟨info, hw.governs, hall.becomes hu rfl⟩

end Hub

end GroupChat
