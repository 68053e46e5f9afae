import GroupChat.Proofs.Hub.Handle

/-!
# Who changes memberships

Whatever the store does, memberships change only by those who may change them: an account joins an
open room or leaves a room itself, and the admin of a public room adds and removes others. Whether
an account is an admin is asked of the live room, so it has to be shown that an admin there is the
admin of the store, even after changes that were not taken back.

## Main definitions

- `Hub.Reroles`: how one item changes the roles of the store.
- `Hub.Lawful`: the invariant: a room has one admin at most, and a live admin is that one.
- `Hub.Authorized`: every change of memberships by an item is due to somebody who may make it.

## Main statements

- `Move.reroles`: a move changes roles in one of four ways.
- `Lawful.move`: a move preserves the invariant.
- `authorized_of_reachable`: in all states, items change memberships with authority only.
-/

namespace GroupChat

/-- An item whose `Envelope.kind` asks to change the members of a room. -/
def Inbound.ConcernsMembers : Inbound → Prop
  | .event _ e => e.kind ∈ ["join-room", "leave-room", "invite-room", "kick-room"]
  | _ => False

namespace Hub

/-- How one item changes what `Store.roleOf?` says. -/
inductive Reroles (h : Hub) : Inbound → Hub → Prop where
  /-- All accounts keep their roles. -/
  | same {item : Inbound} {h' : Hub}
      (roles : ∀ k a, h'.store.roleOf? k a = h.store.roleOf? k a) : Reroles h item h'
  /-- A room was put into the store with members. -/
  | founded {c : Connection} {e : Envelope} {f : Founding} {ms : List (String × Role)} {h' : Hub}
      (permits : h.Permits c.account f) (fresh : h.store.rooms.get? f.info.id = none)
      (rooms : ∀ k, h'.store.rooms.get? k =
        if k = f.info.id then some f.info else h.store.rooms.get? k)
      (part : ∀ p ∈ ms, p ∈ f.initial)
      (roles : ∀ k a, h'.store.roleOf? k a =
        if k = f.info.id then ms.lookup a else h.store.roleOf? k a)
      (asked : f.info.isPrivate = false → ∃ r, ClientEvent.decode e = .ok (.createRoom r)) :
      Reroles h (.event c e) h'
  /-- Accounts were added to a room. -/
  | added {c : Connection} {e : Envelope} {event : ClientEvent} {info : RoomInfo}
      {accounts : List String} {h' : Hub} (decoded : ClientEvent.decode e = .ok event)
      (may : h.MayAdd c event info accounts)
      (fresh : ∀ a ∈ accounts, h.store.roleOf? info.id a = none)
      (roles : ∀ k a, h'.store.roleOf? k a =
        if k = info.id ∧ a ∈ accounts then some .user else h.store.roleOf? k a) :
      Reroles h (.event c e) h'
  /-- Accounts were removed from a room. -/
  | removed {c : Connection} {e : Envelope} {event : ClientEvent} {info : RoomInfo}
      {accounts : List String} {h' : Hub} (decoded : ClientEvent.decode e = .ok event)
      (may : h.MayRemove c event info accounts)
      (roles : ∀ k a, h'.store.roleOf? k a =
        if k = info.id ∧ a ∈ accounts then none else h.store.roleOf? k a) :
      Reroles h (.event c e) h'

variable {h h' : Hub} {item : Inbound}

/-- The kinds of `Move` fall into the ways of `Reroles`, for which alone roles matter. -/
theorem Move.reroles (hm : h.Move item h') (hc : h.Coherent) : h.Reroles item h' := by
  cases hm with
  | still still => exact .same still.store.roles
  | registered registers => exact .same (agrees_of_presence registers.store).roles
  | unregistered unregisters => exact .same (agrees_of_presence unregisters.store).roles
  | loaded _ _ _ loads still =>
    -- a room that becomes live leaves the store as it is
    refine .same fun k a => ?_
    rw [still.store.roles, loads.store]
  | founded permits founds still asked =>
    refine .founded permits founds.store.fresh (fun k => ?_) (fun _ hp => hp) (fun k a => ?_) asked
    · rw [still.store.rooms, founds.store.rooms]
    · rw [still.store.roles, founds.store.roles hc.store]
  | halfFounded permits _ _ founds part asked =>
    exact .founded permits founds.fresh founds.rooms part (founds.roles hc.store) asked
  | grown decoded may grows =>
    exact .added decoded may (fun a ha => grows.fresh ha) grows.roles
  | halfGrown decoded may _ _ adds =>
    exact .added decoded may (fun a ha => adds.fresh (a, .user) (List.mem_map_of_mem ha))
      (roles_of_adds adds)
  | shrunk decoded may shrinks => exact .removed decoded may shrinks.roles
  | halfShrunk decoded may _ _ removes => exact .removed decoded may removes.roles

/-! ### Admins -/

/-- A room has one `.admin` at most, and whoever is connected to a live room as an `.admin` is that
one. -/
structure Lawful (h : Hub) : Prop where
  /-- A room has one admin at most. -/
  unique : ∀ k a b, h.store.roleOf? k a = some .admin → h.store.roleOf? k b = some .admin → a = b
  /-- An admin in a live room is the admin of the store. -/
  live : ∀ k a, h.rooms.roleOf? k a = some .admin → h.store.roleOf? k a = some .admin

/-- In `Founding.initial`, and so in every part of it, nobody but the creator is an admin. -/
theorem Founding.eq_creator_of_lookup {f : Founding} {ms : List (String × Role)} {a : String}
    (hms : ∀ p ∈ ms, p ∈ f.initial) (ha : ms.lookup a = some .admin) : a = f.creator := by
  rcases List.mem_cons.1 (hms _ (Store.mem_of_lookup ha)) with h | h
  · exact congrArg Prod.fst h
  · obtain ⟨b, -, hb⟩ := List.mem_map.1 h
    cases hb

/-- `Reroles` keeps that a room has one stored admin at most: only a room that is founded gets one.
-/
theorem Reroles.unique (hr : h.Reroles item h') (hl : h.Lawful) (k a b : String)
    (ha : h'.store.roleOf? k a = some .admin) (hb : h'.store.roleOf? k b = some .admin) :
    a = b := by
  cases hr with
  | same roles =>
    rw [roles] at ha hb
    exact hl.unique k a b ha hb
  | founded _ _ _ part roles =>
    rw [roles] at ha hb
    split_ifs at ha hb with hk
    · rw [Founding.eq_creator_of_lookup part ha, Founding.eq_creator_of_lookup part hb]
    · exact hl.unique k a b ha hb
  | added _ _ _ roles =>
    -- those who were added are no admins
    have hold : ∀ x, h'.store.roleOf? k x = some .admin → h.store.roleOf? k x = some .admin := by
      intro x hx
      rw [roles] at hx
      split_ifs at hx
      · cases hx
      · exact hx
    exact hl.unique k a b (hold a ha) (hold b hb)
  | removed _ _ roles =>
    rw [roles] at ha hb
    split_ifs at ha hb
    exact hl.unique k a b ha hb

/-- `Registers`: in each live room the account keeps the role that it has there, or else gets the
one that it has in the store. -/
theorem Registers.live_admin {c : Connection} (hr : h.Registers h' c) (hc : h.Coherent)
    (hl : h.Lawful) (k a : String) (ha : h'.rooms.roleOf? k a = some .admin) :
    h'.store.roleOf? k a = some .admin := by
  obtain ⟨ms, hms, henters⟩ := hr.rooms
  rw [(agrees_of_presence hr.store).roles]
  by_cases hm : ∃ m ∈ ms, m.room.id = k
  · obtain ⟨m, hm, rfl⟩ := hm
    rw [henters.roleOf?_of_mem hm] at ha
    cases hold : h.rooms.roleOf? m.room.id a with
    | some role =>
      rw [hold, Option.some_or] at ha
      exact hl.live _ a (hold.trans ha)
    | none =>
      rw [hold, Option.none_or] at ha
      split_ifs at ha with hac
      -- the role with which the connection entered was read from the store
      rcases hms with rfl | ⟨-, rfl⟩
      · rw [hac, ((Store.mem_roomsOf hc.store).1 hm).2]
        exact ha
      · cases hm
  · push Not at hm
    rw [henters.roleOf?_of_ne hm] at ha
    exact hl.live k a ha

/-- `Unregisters`: whoever stays in a live room keeps its role. -/
theorem Unregisters.live_admin {c : Connection} (hr : h.Unregisters h' c) (hc : h.Coherent)
    (hc' : h'.Coherent) (hl : h.Lawful) (k a : String)
    (ha : h'.rooms.roleOf? k a = some .admin) : h'.store.roleOf? k a = some .admin := by
  obtain ⟨d, hd, rfl⟩ := hc'.rooms.isSome_roleOf?_iff.1 (by rw [ha]; rfl)
  rw [hr.rooms.roleOf? hc.rooms hd] at ha
  -- an account that still has a connection in the room keeps its role
  rw [(agrees_of_presence hr.store).roles]
  exact hl.live k _ ha

/-- `Loads`: a room that becomes live by its name starts with the role `.user` for everybody. -/
theorem Loads.live_admin {info : RoomInfo} {x y : String} (hl' : h.Loads h' info x y)
    (hc : h.Coherent) (hl : h.Lawful) (k a : String)
    (ha : h'.rooms.roleOf? k a = some .admin) : h'.store.roleOf? k a = some .admin := by
  rw [hl'.roleOf?_rooms hc] at ha
  rw [hl'.store]
  split_ifs at ha
  · cases ha
  · exact hl.live k a ha

/-- `Founds`: the only admin of the new live room is its creator, as in the store. -/
theorem Founds.live_admin {f : Founding} (hf : h.Founds h' f) (hc : h.Coherent) (hl : h.Lawful)
    (k a : String) (ha : h'.rooms.roleOf? k a = some .admin) :
    h'.store.roleOf? k a = some .admin := by
  rw [hf.roleOf?_rooms hc] at ha
  rw [hf.store.roles hc.store]
  split_ifs at ha ⊢
  · exact ha
  · exact hl.live k a ha

/-- `Grows`: who was added was no member, and is added as `.user` in store and live room. -/
theorem Grows.live_admin {info : RoomInfo} {accounts : List String} (hg : h.Grows h' info accounts)
    (hc : h.Coherent) (hstored : h.store.rooms.get? info.id = some info) (hl : h.Lawful)
    (k a : String) (ha : h'.rooms.roleOf? k a = some .admin) :
    h'.store.roleOf? k a = some .admin := by
  have hold : h.rooms.roleOf? k a = some .admin := by
    rw [hg.roleOf?_rooms hc hstored, Option.or_eq_some_iff] at ha
    rcases ha with ha | ⟨-, ha⟩
    · exact ha
    · split_ifs at ha
      cases ha
  have hadmin := hl.live k a hold
  rw [hg.roles, if_neg]
  · exact hadmin
  · rintro ⟨rfl, hm⟩
    rw [hg.fresh hm] at hadmin
    cases hadmin

/-- `Shrinks`: removing members makes nobody an admin. -/
theorem Shrinks.live_admin {info : RoomInfo} {accounts : List String}
    (hg : h.Shrinks h' info accounts) (hc : h.Coherent)
    (hstored : h.store.rooms.get? info.id = some info) (hl : h.Lawful) (k a : String)
    (ha : h'.rooms.roleOf? k a = some .admin) : h'.store.roleOf? k a = some .admin := by
  rw [hg.roleOf?_rooms hc hstored] at ha
  rw [hg.roles]
  split_ifs at ha ⊢
  exact hl.live k a ha

/-- A `Move` preserves `Lawful`, whether the store is in reach or not. -/
theorem Lawful.move (hl : h.Lawful) (hm : h.Move item h') (hc : h.Coherent) (hc' : h'.Coherent) :
    h'.Lawful := by
  refine ⟨(hm.reroles hc).unique hl, fun k a ha => ?_⟩
  cases hm with
  | still still =>
    rw [still.rooms] at ha
    rw [still.store.roles]
    exact hl.live k a ha
  | registered registers => exact registers.live_admin hc hl k a ha
  | unregistered unregisters => exact unregisters.live_admin hc hc' hl k a ha
  | loaded _ _ _ loads still =>
    rw [still.rooms] at ha
    rw [still.store.roles]
    exact loads.live_admin hc hl k a ha
  | founded permits founds still =>
    rw [still.rooms] at ha
    rw [still.store.roles]
    exact founds.live_admin hc hl k a ha
  | grown decoded may grows => exact grows.live_admin hc (may.stored hc) hl k a ha
  | shrunk decoded may shrinks => exact shrinks.live_admin hc (may.stored hc) hl k a ha
  | halfFounded permits _ live founds part =>
    rw [live.rooms] at ha
    have hadmin := hl.live k a ha
    -- a room with an admin exists, so that it is not the new one
    obtain ⟨info, hinfo⟩ := hc.store.housed k a .admin hadmin
    rw [founds.roles hc.store, if_neg]
    · exact hadmin
    · rintro rfl
      rw [founds.fresh] at hinfo
      cases hinfo
  | halfGrown decoded may _ live adds =>
    rw [live.rooms] at ha
    have hadmin := hl.live k a ha
    rw [roles_of_adds adds, if_neg]
    · exact hadmin
    · rintro ⟨rfl, hm⟩
      have hnone := adds.fresh (a, .user) (List.mem_map_of_mem hm)
      rw [hadmin] at hnone
      cases hnone
  | halfShrunk decoded may _ live removes =>
    rw [live.rooms] at ha
    have hadmin := hl.live k a ha
    rw [removes.roles, if_neg]
    · exact hadmin
    · -- whoever removed the admin would be the admin as well
      rintro ⟨rfl, hm⟩
      cases may with
      | kick governs listed =>
        exact (listed a hm).2 (hl.unique _ a _ hadmin (hl.live _ _ governs.role))

theorem lawful_fresh (accounts : List Account) (mint : Mint) (outages : List Outage) :
    (fresh accounts mint outages).Lawful where
  unique _ _ _ ha := by cases ha
  live _ _ ha := by cases ha

/-- All states that can be reached are `Lawful`. -/
theorem Reachable.lawful {accounts : List Account} {mint : Mint} {outages : List Outage}
    (hr : Reachable (fresh accounts mint outages) h) : h.Lawful := by
  have hc := coherent_fresh accounts mint outages
  refine (hr.induct (P := Lawful) (lawful_fresh accounts mint outages) ?_ hc).1
  intro h h' item hfits hm _ hcoherent hl
  exact hl.move hm hcoherent (hm.coherent hfits hcoherent)

/-! ### Authority -/

/-- By the `item` the account `x` joins the room `k`, which is public and open to all. -/
def Joins (h : Hub) (item : Inbound) (k x : String) : Prop :=
  ∃ c e r info, item = .event c e ∧ ClientEvent.decode e = .ok (.joinRoom r) ∧ x = c.account ∧
    h.store.rooms.get? k = some info ∧ (k = r.room ∨ info.name = r.room) ∧
    info.isPrivate = false ∧ info.inviteOnly = false

/-- By the `item` the `.admin` of the public room `k` invites the account `x`. -/
def Invites (h : Hub) (item : Inbound) (k x : String) : Prop :=
  ∃ c e r info, item = .event c e ∧ ClientEvent.decode e = .ok (.inviteRoom r) ∧ x ∈ r.users ∧
    h.store.rooms.get? k = some info ∧ (k = r.room ∨ info.name = r.room) ∧
    info.isPrivate = false ∧ h.store.roleOf? k c.account = some .admin

/-- By the `item` the account `x` leaves the public room `k`. -/
def Leaves (h : Hub) (item : Inbound) (k x : String) : Prop :=
  ∃ c e r info, item = .event c e ∧ ClientEvent.decode e = .ok (.leaveRoom r) ∧ x = c.account ∧
    h.store.rooms.get? k = some info ∧ (k = r.room ∨ info.name = r.room) ∧
    info.isPrivate = false

/-- By the `item` the `.admin` of the public room `k` removes another account `x`. -/
def Kicks (h : Hub) (item : Inbound) (k x : String) : Prop :=
  ∃ c e r info, item = .event c e ∧ ClientEvent.decode e = .ok (.kickRoom r) ∧ x ∈ r.users ∧
    x ≠ c.account ∧ h.store.rooms.get? k = some info ∧ (k = r.room ∨ info.name = r.room) ∧
    info.isPrivate = false ∧ h.store.roleOf? k c.account = some .admin

theorem MayAdd.concernsMembers {c : Connection} {e : Envelope} {event : ClientEvent}
    {info : RoomInfo} {accounts : List String} (hm : h.MayAdd c event info accounts)
    (he : ClientEvent.decode e = .ok event) : (Inbound.event c e).ConcernsMembers := by
  show e.kind ∈ _
  rw [← ClientEvent.kind_of_decode he]
  cases hm <;> simp [ClientEvent.kind]

theorem MayRemove.concernsMembers {c : Connection} {e : Envelope} {event : ClientEvent}
    {info : RoomInfo} {accounts : List String} (hm : h.MayRemove c event info accounts)
    (he : ClientEvent.decode e = .ok event) : (Inbound.event c e).ConcernsMembers := by
  show e.kind ∈ _
  rw [← ClientEvent.kind_of_decode he]
  cases hm <;> simp [ClientEvent.kind]

/-- Every change of memberships between `h` and `h'` is due to an `item` of somebody who may make
it. -/
structure Authorized (h : Hub) (item : Inbound) (h' : Hub) : Prop where
  /-- Who becomes a member of a room that was there joined it or was invited. -/
  gained : ∀ k x, h.store.roleOf? k x = none → (h'.store.roleOf? k x).isSome = true →
    (h.store.rooms.get? k = none ∧ (h'.store.rooms.get? k).isSome = true) ∨
      h.Joins item k x ∨ h.Invites item k x
  /-- Who stops being a member left or was removed. -/
  lost : ∀ k x, (h.store.roleOf? k x).isSome = true → h'.store.roleOf? k x = none →
    h.Leaves item k x ∨ h.Kicks item k x
  /-- Who stays a member keeps its role. -/
  kept : ∀ k x role role', h.store.roleOf? k x = some role → h'.store.roleOf? k x = some role' →
    role' = role
  /-- Other items do not concern the members of rooms that were there. -/
  others : ¬ item.ConcernsMembers → ∀ k x, (h.store.rooms.get? k).isSome = true →
    h'.store.roleOf? k x = h.store.roleOf? k x

/-- Whom `MayAdd` allows to be added joins, or is invited by the admin; this is `Gains`. -/
theorem MayAdd.authority {c : Connection} {e : Envelope} {event : ClientEvent} {info : RoomInfo}
    {accounts : List String} (hm : h.MayAdd c event info accounts)
    (he : ClientEvent.decode e = .ok event) (hc : h.Coherent) (hl : h.Lawful) {x : String}
    (hx : x ∈ accounts) : h.Joins (.event c e) info.id x ∨ h.Invites (.event c e) info.id x := by
  cases hm with
  | join resolved isPublic isOpen =>
    obtain ⟨hstored, href⟩ := stored_of_resolved? hc resolved
    exact Or.inl ⟨c, e, _, info, rfl, he, List.mem_singleton.1 hx, hstored, href, isPublic, isOpen⟩
  | invite governs listed =>
    obtain ⟨hstored, href⟩ := stored_of_resolved? hc governs.resolved
    exact Or.inr ⟨c, e, _, info, rfl, he, listed x hx, hstored, href, governs.isPublic,
      hl.live _ _ governs.role⟩

/-- Whom `MayRemove` allows to be removed leaves, or is removed by the admin; this is `Loses`. -/
theorem MayRemove.authority {c : Connection} {e : Envelope} {event : ClientEvent}
    {info : RoomInfo} {accounts : List String} (hm : h.MayRemove c event info accounts)
    (he : ClientEvent.decode e = .ok event) (hc : h.Coherent) (hl : h.Lawful) {x : String}
    (hx : x ∈ accounts) : h.Leaves (.event c e) info.id x ∨ h.Kicks (.event c e) info.id x := by
  cases hm with
  | leave resolved isPublic =>
    obtain ⟨hstored, href⟩ := stored_of_resolved? hc resolved
    exact Or.inl ⟨c, e, _, info, rfl, he, List.mem_singleton.1 hx, hstored, href, isPublic⟩
  | kick governs listed =>
    obtain ⟨hstored, href⟩ := stored_of_resolved? hc governs.resolved
    exact Or.inr ⟨c, e, _, info, rfl, he, (listed x hx).1, (listed x hx).2, hstored, href,
      governs.isPublic, hl.live _ _ governs.role⟩

/-- Where `roleOf?` stays the same everywhere, `Authorized` asks for nothing. -/
theorem authorized_of_roleOf?_eq (hroles : ∀ k x, h'.store.roleOf? k x = h.store.roleOf? k x) :
    h.Authorized item h' := by
  refine ⟨fun k x hn hs => ?_, fun k x hs hn => ?_, fun k x role role' hr hr' => ?_,
    fun _ k x _ => hroles k x⟩
  · rw [hroles, hn] at hs
    cases hs
  · rw [hroles] at hn
    rw [hn] at hs
    cases hs
  · rw [hroles, hr] at hr'
    exact (Option.some.inj hr').symm

/-- In a room that the store did not have, everybody may become a member. -/
theorem authorized_of_fresh {info : RoomInfo} {ms : List (String × Role)} (hc : h.Coherent)
    (hfresh : h.store.rooms.get? info.id = none)
    (hrooms : (h'.store.rooms.get? info.id).isSome = true)
    (hroles : ∀ k x, h'.store.roleOf? k x =
      if k = info.id then ms.lookup x else h.store.roleOf? k x) : h.Authorized item h' := by
  -- in rooms that were there no role changes
  have hold : ∀ k x, (h.store.rooms.get? k).isSome = true →
      h'.store.roleOf? k x = h.store.roleOf? k x := by
    intro k x hk
    rw [hroles, if_neg]
    rintro rfl
    rw [hfresh] at hk
    cases hk
  -- a room in which somebody has a role was there, so roles are kept
  have hhoused : ∀ k x role, h.store.roleOf? k x = some role →
      h'.store.roleOf? k x = some role := by
    intro k x role hrole
    obtain ⟨i, hi⟩ := hc.store.housed k x role hrole
    rw [hold k x (by rw [hi]; rfl), hrole]
  refine ⟨fun k x hn hs => ?_, fun k x hs hn => ?_, fun k x role role' hr hr' => ?_, fun _ => hold⟩
  · rw [hroles] at hs
    split_ifs at hs with hk
    · subst hk
      exact Or.inl ⟨hfresh, hrooms⟩
    · rw [hn] at hs
      cases hs
  · obtain ⟨role, hrole⟩ := Option.isSome_iff_exists.1 hs
    rw [hhoused k x role hrole] at hn
    cases hn
  · rw [hhoused k x role hr] at hr'
    exact (Option.some.inj hr').symm

/-- `Grows` by accounts that `MayAdd` allows is `Authorized`. -/
theorem authorized_of_mayAdd {c : Connection} {e : Envelope} {event : ClientEvent}
    {info : RoomInfo} {accounts : List String} (hc : h.Coherent) (hl : h.Lawful)
    (hdecoded : ClientEvent.decode e = .ok event) (hmay : h.MayAdd c event info accounts)
    (hfresh : ∀ x ∈ accounts, h.store.roleOf? info.id x = none)
    (hroles : ∀ k x, h'.store.roleOf? k x =
      if k = info.id ∧ x ∈ accounts then some .user else h.store.roleOf? k x) :
    h.Authorized (.event c e) h' := by
  refine ⟨fun k x hn hs => ?_, fun k x hs hn => ?_, fun k x role role' hr hr' => ?_,
    fun hother => absurd (hmay.concernsMembers hdecoded) hother⟩
  · -- a role that is new is that of an account that may be added
    rw [hroles] at hs
    split_ifs at hs with hk
    · obtain ⟨rfl, hx⟩ := hk
      exact Or.inr (hmay.authority hdecoded hc hl hx)
    · rw [hn] at hs
      cases hs
  · -- nobody loses a role
    rw [hroles] at hn
    split_ifs at hn
    rw [hn] at hs
    cases hs
  · -- whoever had a role keeps it, as those who are added had none
    rw [hroles] at hr'
    split_ifs at hr' with hk
    · obtain ⟨rfl, hx⟩ := hk
      rw [hfresh x hx] at hr
      cases hr
    · rw [hr] at hr'
      exact (Option.some.inj hr').symm

/-- `Shrinks` by accounts that `MayRemove` allows is `Authorized`, also where the room is deleted
after it. -/
theorem authorized_of_mayRemove {c : Connection} {e : Envelope} {event : ClientEvent}
    {info : RoomInfo} {accounts : List String} (hc : h.Coherent) (hl : h.Lawful)
    (hdecoded : ClientEvent.decode e = .ok event) (hmay : h.MayRemove c event info accounts)
    (hroles : ∀ k x, h'.store.roleOf? k x =
      if k = info.id ∧ x ∈ accounts then none else h.store.roleOf? k x) :
    h.Authorized (.event c e) h' := by
  refine ⟨fun k x hn hs => ?_, fun k x hs hn => ?_, fun k x role role' hr hr' => ?_,
    fun hother => absurd (hmay.concernsMembers hdecoded) hother⟩
  · -- nobody gets a role
    rw [hroles, hn, ite_self] at hs
    cases hs
  · -- a role that is lost is that of an account that may be removed
    rw [hroles] at hn
    split_ifs at hn with hk
    · obtain ⟨rfl, hx⟩ := hk
      exact hmay.authority hdecoded hc hl hx
    · rw [hn] at hs
      cases hs
  · rw [hroles] at hr'
    split_ifs at hr'
    rw [hr] at hr'
    exact (Option.some.inj hr').symm

/-- Each way of `Reroles` is `Authorized` in a `Lawful` hub. -/
theorem Reroles.authorized (hr : h.Reroles item h') (hc : h.Coherent) (hl : h.Lawful) :
    h.Authorized item h' := by
  cases hr with
  | same roles => exact authorized_of_roleOf?_eq roles
  | founded _ fresh rooms _ roles =>
    exact authorized_of_fresh hc fresh (by rw [rooms, if_pos rfl]; rfl) roles
  | added decoded may fresh roles => exact authorized_of_mayAdd hc hl decoded may fresh roles
  | removed decoded may roles => exact authorized_of_mayRemove hc hl decoded may roles

/-- **Membership changes need authority.** In every state that a hub reaches from one without rooms,
however often the store is out of reach, an item changes the members of rooms only on behalf of
somebody who may do so. -/
theorem authorized_of_reachable {accounts : List Account} {mint : Mint} {outages : List Outage}
    (hr : Reachable (fresh accounts mint outages) h) (hf : item.Fits h) :
    h.Authorized item (h.handle item).1 := by
  have hc := hr.coherent (coherent_fresh accounts mint outages)
  exact ((handle_moves hc hf).1.reroles hc).authorized hc hr.lawful

/-- The item by which `ann`, who made `den`, removes `bob`. -/
def dismissal : Inbound :=
  .event ann ⟨"kick-room", .object [("room_id", .text "den"), ("user_ids", .list [.text "bob"])]⟩

theorem authorized_dismissal : ∃ h, Reachable (lobby []) h ∧ dismissal.Fits h ∧
    h.store.roleOf? den "bob" = some .user ∧
    (h.handle dismissal).1.store.roleOf? den "bob" = none ∧
    h.Authorized dismissal (h.handle dismissal).1 := by
  have hr : Reachable (lobby []) ((lobby []).run meeting).1 :=
    Reachable.start.run (by decide +kernel)
  have hf : dismissal.Fits ((lobby []).run meeting).1 := by decide +kernel
  exact ⟨_, hr, hf, by decide +kernel, by decide +kernel, authorized_of_reachable hr hf⟩

end Hub

end GroupChat
