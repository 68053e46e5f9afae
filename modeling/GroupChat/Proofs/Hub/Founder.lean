import GroupChat.Proofs.Hub.Permanence

/-!
# Only founders are admins

The creator of a public room is its admin, and nobody becomes one later. Whoever stops being a
member and comes back has no special role, the creator included. All of this holds whatever the
store does.

## Main definitions

- `Hub.Lasts`: the states that a hub reaches while a room stays in the store.
- `Hub.Created`: an account has made a room, which has stayed in the store since.

## Main statements

- `Reroles.admin_of_admin`: the admin of a room that was there was its admin before.
- `Move.created`: a room that gets an admin was made by that account, on request.
- `Lasts.admin_of_admin`: who is not the admin of a room does not become it.
- `founders_of_reachable`: all that holds of admins, in all states.
-/

namespace GroupChat.Hub

/-- The states that the hub reaches from `start` while the room `k` stays in the store. -/
inductive Lasts (k : String) (start : Hub) : Hub → Prop where
  /-- The state before the first item. -/
  | start (stored : (start.store.rooms.get? k).isSome = true) : Lasts k start start
  /-- The state after an item that leaves the room in the store. -/
  | step {h : Hub} {item : Inbound} (before : Lasts k start h) (fits : item.Fits h)
      (stored : ((h.handle item).1.store.rooms.get? k).isSome = true) :
      Lasts k start (h.handle item).1

/-- Between `start` and `h`, `account` has asked for the room `k`, which was made and has stayed in
the store since (`Lasts`). -/
def Created (start h : Hub) (k account : String) : Prop :=
  ∃ h₀ c e r, Reachable start h₀ ∧ h₀.store.rooms.get? k = none ∧ (Inbound.event c e).Fits h₀ ∧
    c.account = account ∧ ClientEvent.decode e = .ok (.createRoom r) ∧
    Lasts k (h₀.handle (.event c e)).1 h

variable {start h h' : Hub} {item : Inbound} {k a : String} {info : RoomInfo}

/-! ### One item -/

/-- In a room that was there, `Reroles` gives nobody the role `.admin`. -/
theorem Reroles.admin_of_admin (hr : h.Reroles item h') (hk : (h.store.rooms.get? k).isSome = true)
    (ha : h'.store.roleOf? k a = some .admin) : h.store.roleOf? k a = some .admin := by
  cases hr with
  | same roles => exact (roles k a).symm.trans ha
  | founded _ fresh _ _ roles =>
    rw [roles] at ha
    split_ifs at ha with hkf
    · rw [hkf, fresh] at hk
      cases hk
    · exact ha
  | added _ _ _ roles =>
    -- who is added has no special role
    rw [roles] at ha
    split_ifs at ha
    · cases ha
    · exact ha
  | removed _ _ roles =>
    rw [roles] at ha
    split_ifs at ha
    exact ha

/-- An admin of a room that was not there has just sent `.createRoom`, and the room is public: of
all ways of `Reroles` only `Founds` adds rooms. -/
theorem Reroles.founder_of_admin (hr : h.Reroles item h') (hc : h.Coherent)
    (hk : h.store.rooms.get? k = none) (ha : h'.store.roleOf? k a = some .admin) :
    ∃ c e r info, item = .event c e ∧ c.account = a ∧
      ClientEvent.decode e = .ok (.createRoom r) ∧ h'.store.rooms.get? k = some info ∧
      info.isPrivate = false := by
  have hnone : h.store.roleOf? k a = none := hc.store.roleOf?_eq_none hk
  cases hr with
  | same roles =>
    rw [roles, hnone] at ha
    cases ha
  | @founded c e f ms _ permits _ rooms part roles asked =>
    rw [roles] at ha
    split_ifs at ha with hkf
    · have hcreator : a = f.creator := Founding.eq_creator_of_lookup part ha
      have hpublic : f.info.isPrivate = false := by
        rw [← Bool.not_eq_true]
        intro hprivate
        -- the members of a private room have no special role
        have hmem := part _ (Store.mem_of_lookup ha)
        rw [Founding.initial, (permits.fits.isPrivate hprivate).1] at hmem
        simp at hmem
      obtain ⟨r, hdecode⟩ := asked hpublic
      refine ⟨c, e, r, f.info, rfl, ?_, hdecode, ?_, hpublic⟩
      · rw [hcreator, permits.creator]
      · rw [rooms, if_pos hkf]
    · rw [hnone] at ha
      cases ha
  | added _ may _ roles =>
    rw [roles, hnone] at ha
    split_ifs at ha
    · cases ha
  | removed _ _ roles =>
    rw [roles, hnone] at ha
    split_ifs at ha

/-! ### All states -/

theorem Lasts.reachable (hl : Lasts k start h) : Reachable start h := by
  induction hl with
  | start => exact .start
  | step _ fits _ ih => exact ih.step fits

theorem Lasts.stored (hl : Lasts k start h) : (h.store.rooms.get? k).isSome = true := by
  cases hl with
  | start stored => exact stored
  | step _ _ stored => exact stored

/-- While a room `Lasts`, nobody becomes its admin who is not; by induction on the run. -/
theorem Lasts.admin_of_admin (hl : Lasts k start h) (hc : start.Coherent)
    (ha : h.store.roleOf? k a = some .admin) : start.store.roleOf? k a = some .admin := by
  induction hl with
  | start => exact ha
  | step before fits _ ih =>
    have hcoherent := before.reachable.coherent hc
    have hreroles := (handle_moves hcoherent fits).1.reroles hcoherent
    exact ih (hreroles.admin_of_admin before.stored ha)

/-- From a state without admins, whoever is an admin has `Created` the room, and it is public. -/
theorem Reachable.created (hr : Reachable start h) (hc : start.Coherent)
    (hnobody : ∀ k a, start.store.roleOf? k a ≠ some .admin)
    (ha : h.store.roleOf? k a = some .admin) :
    Created start h k a ∧ ∃ info, h.store.rooms.get? k = some info ∧ info.isPrivate = false := by
  induction hr with
  | start => exact absurd ha (hnobody k a)
  | @step h item before fits ih =>
    have hcoherent := before.coherent hc
    have hmove := (handle_moves hcoherent fits).1
    have hreroles := hmove.reroles hcoherent
    obtain ⟨info, hstored⟩ := (hmove.coherent fits hcoherent).store.housed k a .admin ha
    have hsome : ((h.handle item).1.store.rooms.get? k).isSome = true := by rw [hstored]; rfl
    cases hk : h.store.rooms.get? k with
    | some i =>
      -- the room was there before, with the same admin
      have hadmin := hreroles.admin_of_admin (by rw [hk]; rfl) ha
      obtain ⟨⟨h₀, c, e, r, hr₀, hnone, hfits₀, hca, hdecode, hlasts⟩, info', hk', hpublic⟩ := ih hadmin
      refine ⟨⟨h₀, c, e, r, hr₀, hnone, hfits₀, hca, hdecode, hlasts.step fits hsome⟩,
        info', ?_, hpublic⟩
      rcases hmove.kept_or_deleted hcoherent hk' with hsame | ⟨hgone, -⟩
      · exact hsame
      · rw [hgone] at hstored
        cases hstored
    | none =>
      obtain ⟨c, e, r, info', rfl, hca, hdecode, hmade⟩ := hreroles.founder_of_admin hcoherent hk ha
      exact ⟨⟨h, c, e, r, before, hk, fits, hca, hdecode, .start hsome⟩, info', hmade⟩

/-- **The admin role cannot be acquired.** In every state that a hub reaches from one without rooms,
whichever calls to the store fail, a stored room has one admin at most, who is the account that
asked for it and made it. A private room has none. Whoever is connected to a room as an admin is its
admin in the store. As long as a room stays in the store, whoever is not its admin has no special
role there when it is a member later or is connected to it. -/
theorem founders_of_reachable {accounts : List Account} {mint : Mint} {outages : List Outage}
    (hr : Reachable (fresh accounts mint outages) h) :
    (∀ k a b, h.store.roleOf? k a = some .admin → h.store.roleOf? k b = some .admin → a = b) ∧
    (∀ k a, h.store.roleOf? k a = some .admin → Created (fresh accounts mint outages) h k a) ∧
    (∀ k info, h.Private k info → ∀ a, h.store.roleOf? k a ≠ some .admin) ∧
    (∀ k a, h.rooms.roleOf? k a = some .admin → h.store.roleOf? k a = some .admin) ∧
    ∀ k a, h.store.roleOf? k a ≠ some .admin → ∀ h', Lasts k h h' → ∀ role,
      h'.store.roleOf? k a = some role ∨ h'.rooms.roleOf? k a = some role → role = .user := by
  have hstart := coherent_fresh accounts mint outages
  have hc := hr.coherent hstart
  have hlawful := hr.lawful
  have hnobody : ∀ k a, (fresh accounts mint outages).store.roleOf? k a ≠ some .admin := by
    intro k a ha
    cases ha
  refine ⟨hlawful.unique, fun k a ha => (hr.created hstart hnobody ha).1, ?_, hlawful.live, ?_⟩
  · intro k info hp a ha
    obtain ⟨-, info', hk, hpublic⟩ := hr.created hstart hnobody ha
    rw [hp.stored] at hk
    rw [← Option.some.inj hk, hp.isPrivate] at hpublic
    cases hpublic
  · intro k a hnot h' hlasts role hrole
    -- an admin of the live room would be one of the store, and would have been one before
    have hstored : h'.store.roleOf? k a ≠ some .admin :=
      fun ha => hnot (hlasts.admin_of_admin hc ha)
    have hlive : h'.rooms.roleOf? k a ≠ some .admin :=
      fun ha => hstored ((hr.trans hlasts.reachable).lawful.live k a ha)
    cases role with
    | user => rfl
    | admin => exact absurd hrole (not_or_intro hstored hlive)

/-- The hub after `meeting` has made a room, where notifications cannot be kept. -/
def founding : Hub := ((lobby [⟨.addNotification, 0, 9, .backend "down"⟩]).run meeting).1

/-- The item by which `ann`, who made `den`, leaves it. -/
def departure : Inbound := .event ann ⟨"leave-room", .object [("room_id", .text "den")]⟩

/-- The item by which `ann` joins `den` again. -/
def comeback : Inbound := .event ann ⟨"join-room", .object [("room_id", .text "den")]⟩

/-- The creator is the admin of `den`, and is a `.user` after it has left and come back. -/
theorem founders_comeback :
    Created (lobby [⟨.addNotification, 0, 9, .backend "down"⟩]) founding den "ann" ∧
    (founding.handle departure).1.store.roleOf? den "ann" = none ∧
    Lasts den (founding.handle departure).1 ((founding.handle departure).1.handle comeback).1 ∧
    ((founding.handle departure).1.handle comeback).1.store.roleOf? den "ann" = some .user := by
  have hr : Reachable (lobby [⟨.addNotification, 0, 9, .backend "down"⟩]) founding :=
    Reachable.start.run (by decide +kernel)
  have hgone : Reachable (lobby [⟨.addNotification, 0, 9, .backend "down"⟩])
      (founding.handle departure).1 := hr.step (by decide +kernel)
  have hnone : (founding.handle departure).1.store.roleOf? den "ann" = none := by decide +kernel
  have hlasts : Lasts den (founding.handle departure).1
      ((founding.handle departure).1.handle comeback).1 :=
    .step (.start (by decide +kernel)) (by decide +kernel) (by decide +kernel)
  have hback : (((founding.handle departure).1.handle comeback).1.store.roleOf? den
      "ann").isSome = true := by decide +kernel
  obtain ⟨-, hcreated, -⟩ := founders_of_reachable hr
  obtain ⟨-, -, -, -, hacquired⟩ := founders_of_reachable hgone
  -- some role it has, and that can only be this one
  obtain ⟨role, hrole⟩ := Option.isSome_iff_exists.1 hback
  obtain rfl : role = .user :=
    hacquired den "ann" (by rw [hnone]; exact nofun) _ hlasts role (Or.inl hrole)
  exact ⟨hcreated den "ann" (by decide +kernel), hnone, hlasts, hrole⟩

end GroupChat.Hub
