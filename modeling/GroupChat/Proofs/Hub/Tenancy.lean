import GroupChat.Proofs.Hub.Decision
import GroupChat.Proofs.Hub.Authority

/-!
# Rooms end with their last member

Connections come and go, and a room that nobody is connected to is not live any more. In the store
it stays, with its members. It is deleted only when its last member leaves it: nobody is connected
to it then, as only connections of members are. An admin who removes others is a member and stays
one.

## Main definitions

- `Hub.Occupied`: each stored room has a member.
- `Hub.Parts`: an item by which an account may stop being a member of a room.
- `Hub.Closes`: an item by which the last member of a room leaves, with which the room is deleted.
- `Hub.Sometime`, `Hub.Throughout`: what holds of some item, or after every item of a run.

## Main statements

- `Occupied.handle`: an item preserves that rooms have members.
- `Reachable.kept_or_closes`: a room stays, or its last member leaves it.
- `Reachable.stored_of_throughout`: a room stays as long as it has members.
- `tenancy_of_reachable`: all of this, in all states.
-/

namespace GroupChat.Hub

/-- Each stored room has a member, with a role that `Store.roleOf?` says. -/
def Occupied (h : Hub) : Prop :=
  ∀ k info, h.store.rooms.get? k = some info → ∃ a, (h.store.roleOf? k a).isSome = true

/-- By the `item` the account `a` leaves the room `k`, or is removed from it by an `.admin`. -/
def Parts (h : Hub) (item : Inbound) (k a : String) : Prop :=
  ∃ c e event info accounts, item = .event c e ∧ ClientEvent.decode e = .ok event ∧
    h.MayRemove c event info accounts ∧ info.id = k ∧ a ∈ accounts

/-- By the `item` the last member of the room `k` leaves it, with which the room is deleted. -/
def Closes (h : Hub) (item : Inbound) (k : String) : Prop :=
  ∃ c e r info, item = .event c e ∧ ClientEvent.decode e = .ok (.leaveRoom r) ∧
    h.resolved? r.room = some info ∧ info.id = k ∧
    (∀ a, (h.store.roleOf? k a).isSome = true ↔ a = c.account) ∧
    (h.handle item).1.store.rooms.get? k = none

/-- `P` holds of an item of a run, in the state in which it is handled. -/
def Sometime (P : Hub → Inbound → Prop) (h : Hub) : List Inbound → Prop
  | [] => False
  | item :: rest => P h item ∨ Sometime P (h.handle item).1 rest

/-- `P` holds after every item of a run. -/
def Throughout (P : Hub → Prop) (h : Hub) : List Inbound → Prop
  | [] => True
  | item :: rest => P (h.handle item).1 ∧ Throughout P (h.handle item).1 rest

instance Throughout.decidable (P : Hub → Prop) [DecidablePred P] (h : Hub) :
    ∀ items : List Inbound, Decidable (Throughout P h items)
  | [] => inferInstanceAs (Decidable True)
  | item :: rest =>
    have := decidable P (h.handle item).1 rest
    inferInstanceAs (Decidable (P (h.handle item).1 ∧ Throughout P (h.handle item).1 rest))

variable {h h' : Hub} {item : Inbound} {items : List Inbound} {k a : String} {info : RoomInfo}
  {role : Role} {c : Connection}

theorem countMembers_pos_iff {s : Store} :
    0 < s.countMembers k ↔ ∃ a, (s.roleOf? k a).isSome = true := by
  rw [Nat.pos_iff_ne_zero, ne_eq, Store.countMembers_eq_zero_iff, not_forall]
  simp only [Option.isSome_iff_ne_none, ne_eq]

/-- `Shrinks` takes roles from members only. -/
theorem Shrinks.isSome_roleOf? {accounts : List String} (hs : h.Shrinks h' info accounts)
    (ha : a ∈ accounts) : (h.store.roleOf? info.id a).isSome = true := by
  obtain ⟨s, hremoves, -⟩ := hs.store
  exact hremoves.members a ha

/-! ### Rooms have members -/

theorem Occupied.of_agrees (ho : h.Occupied) (hs : h.store.Agrees h'.store) : h'.Occupied := by
  intro k info hk
  rw [hs.rooms] at hk
  obtain ⟨a, ha⟩ := ho k info hk
  exact ⟨a, by rw [hs.roles]; exact ha⟩

/-- `Founds` keeps `Occupied`: the new room has its creator. -/
theorem Occupied.founds {f : Founding} (ho : h.Occupied) (hf : h.Founds h' f) (hc : h.Coherent) :
    h'.Occupied := by
  intro k info hk
  have hroles := hf.store.roles hc.store k
  rw [hf.store.rooms] at hk
  split_ifs at hk with hkf
  · refine ⟨f.creator, ?_⟩
    rw [hroles, if_pos hkf]
    exact (f.isSome_lookup_initial _).2 (Or.inl rfl)
  · obtain ⟨a, ha⟩ := ho k info hk
    refine ⟨a, ?_⟩
    rw [hroles, if_neg hkf]
    exact ha

/-- `Grows` keeps `Occupied`. -/
theorem Occupied.grows {accounts : List String} (ho : h.Occupied) (hg : h.Grows h' info accounts) :
    h'.Occupied := by
  intro k i hk
  rw [hg.stored] at hk
  obtain ⟨a, ha⟩ := ho k i hk
  refine ⟨a, ?_⟩
  rw [hg.roles]
  split_ifs
  · rfl
  · exact ha

/-- `Shrinks` keeps `Occupied` if somebody stays wherever the room does. -/
theorem Occupied.shrinks {accounts : List String} (ho : h.Occupied)
    (hg : h.Shrinks h' info accounts)
    (hstays : (h'.store.rooms.get? info.id).isSome = true →
      ∃ a, (h'.store.roleOf? info.id a).isSome = true) : h'.Occupied := by
  intro k i hk
  by_cases hid : k = info.id
  · subst hid
    exact hstays (by rw [hk]; rfl)
  · obtain ⟨a, ha⟩ := ho k i (hg.stored_of_eq_some hk)
    refine ⟨a, ?_⟩
    rw [hg.roles, if_neg fun hx => hid hx.1]
    exact ha

/-- A `Move` keeps `Occupied`, unless it is that of a `.leaveRoom`: the admin, who removes others,
stays. -/
theorem Occupied.move (ho : h.Occupied) (hm : h.Move item h') (hc : h.Coherent) (hl : h.Lawful)
    (hcalm : h.Calm)
    (hstays : ∀ c e r, item = .event c e → ClientEvent.decode e ≠ .ok (.leaveRoom r)) :
    h'.Occupied := by
  cases hm with
  | still still => exact ho.of_agrees still.store
  | registered registers => exact ho.of_agrees (agrees_of_presence registers.store)
  | unregistered unregisters => exact ho.of_agrees (agrees_of_presence unregisters.store)
  | loaded _ _ _ loads still => exact ho.of_agrees (loads.store ▸ still.store)
  | founded _ founds still => exact (ho.founds founds hc).of_agrees still.store
  | grown _ _ grows => exact ho.grows grows
  | @shrunk c e event info accounts _ decoded may shrinks =>
    cases may with
    | leave resolved isPublic => exact absurd decoded (hstays _ _ _ rfl)
    | kick governs listed =>
      -- whoever removes others is the admin of the store, and is not one of them
      refine ho.shrinks shrinks fun _ => ⟨c.account, ?_⟩
      rw [shrinks.roles, if_neg fun hx => (listed _ hx.2).2 rfl, hl.live _ _ governs.role]
      rfl
  | halfFounded _ storm | halfGrown _ _ storm | halfShrunk _ _ storm => exact absurd hcalm storm

/-- A `.leaveRoom` keeps `Occupied`: others stay, or nobody is connected any more (`Agree`) and the
room is deleted. -/
theorem Occupied.leave (ho : h.Occupied) (hc : h.Coherent) (ha : h.Agree info.id)
    (hshrinks : h.Shrinks h' info [c.account])
    (hdeletes : ((h.rooms.roomOf info).dismiss [c.account]).isEmpty = true →
      (∀ a, h'.store.roleOf? info.id a = none) → h'.store.rooms.get? info.id = none) :
    h'.Occupied := by
  refine ho.shrinks hshrinks fun hstored => ?_
  by_contra hnobody
  simp only [not_exists, Bool.not_eq_true, Option.isSome_eq_false_iff,
    Option.isNone_iff_eq_none] at hnobody
  -- if nobody is left behind, nobody is connected either
  have hlast : ∀ a, (h.store.roleOf? info.id a).isSome = true → a = c.account := by
    intro a hmember
    by_contra hne
    have hgone := hnobody a
    rw [hshrinks.roles, if_neg fun hx => hne (List.mem_singleton.1 hx.2)] at hgone
    rw [hgone] at hmember
    cases hmember
  rw [hdeletes (ha.isEmpty_dismiss hc hlast) hnobody] at hstored
  cases hstored

/-- `handle` of every item keeps `Occupied` under calm. -/
theorem Occupied.handle (ho : h.Occupied) (hc : h.Coherent) (hl : h.Lawful) (hf : h.Faithful)
    (hcalm : h.Calm) (hfits : item.Fits h) : (h.handle item).1.Occupied := by
  by_cases hleave : ∃ c e r, item = .event c e ∧ ClientEvent.decode e = .ok (.leaveRoom r)
  · -- only who leaves may be the last member, so this case needs the live room
    obtain ⟨c, e, r, rfl, he⟩ := hleave
    rcases handle_event (serve_gives he (leaveRoom_gives (t := { hub := h }) hc c r)) with
      ⟨-, hh⟩ | ⟨u, ⟨info, hi, hp, -, hshrinks, hdeletes, -⟩, hh⟩ | ⟨err, s, ⟨hasks, -⟩, hh⟩
    · rw [hh]
      exact ho
    · rw [hh]
      -- private rooms cannot be left
      have hpublic : h.Public info.id := fun info' hi' => by
        rw [(stored_of_resolved? hc hi).1] at hi'
        exact Option.some.inj hi' ▸ hp
      exact ho.leave hc (hf.agree info.id hpublic) hshrinks (hdeletes hcalm)
    · rw [hh]
      exact ho.of_agrees hasks.still.store
  · refine ho.move (handle_moves hc hfits).1 hc hl hcalm fun c e r hitem he => ?_
    exact hleave ⟨c, e, r, hitem, he⟩

theorem occupied_fresh (accounts : List Account) (mint : Mint) (outages : List Outage) :
    (fresh accounts mint outages).Occupied :=
  fun _ _ hk => by cases hk

/-- All states that can be reached without outages are `Occupied`. -/
theorem Reachable.occupied {accounts : List Account} {mint : Mint}
    (hr : Reachable (fresh accounts mint []) h) : h.Occupied := by
  have hstart := coherent_fresh accounts mint []
  induction hr with
  | start => exact occupied_fresh accounts mint []
  | step before fits ih =>
    have hcalm := before.calm hstart rfl
    exact ih.handle (before.coherent hstart) before.lawful before.faithful hcalm fits

/-! ### Rooms and members stay -/

/-- A `Move` that deletes a room is that of a `.leaveRoom` by its last member. -/
theorem Move.last_of_deleted (hm : h.Move item h') (hc : h.Coherent) (hl : h.Lawful)
    (hk : h.store.rooms.get? k = some info) (hnone : h'.store.rooms.get? k = none) :
    ∃ c e r, item = .event c e ∧ ClientEvent.decode e = .ok (.leaveRoom r) ∧
      h.resolved? r.room = some info ∧
      ∀ a, (h.store.roleOf? k a).isSome = true ↔ a = c.account := by
  obtain rfl : info.id = k := hc.store.keyed k info hk
  rcases hm.kept_or_shrunk hc hk with
    hsame | ⟨-, c, e, event, accounts, rfl, decoded, may, shrinks⟩
  · rw [hsame] at hnone
    cases hnone
  cases may with
  | @leave r info resolved isPublic =>
    refine ⟨c, e, r, rfl, decoded, resolved, fun a => ⟨fun ha => ?_, ?_⟩⟩
    · exact List.mem_singleton.1 (shrinks.mem_of_deleted hc hk hnone ha)
    · rintro rfl
      exact shrinks.isSome_roleOf? (List.mem_singleton_self _)
  | kick governs listed =>
    -- the admin is a member who was not removed
    have hadmin := hl.live _ _ governs.role
    have hself := shrinks.mem_of_deleted hc hk hnone (by rw [hadmin]; rfl)
    exact absurd rfl (listed _ hself).2

/-- A member keeps its role under `Reroles`, unless it `Parts`. -/
theorem Reroles.kept_or_parts (hr : h.Reroles item h') (hc : h.Coherent)
    (ha : h.store.roleOf? k a = some role) :
    h'.store.roleOf? k a = some role ∨ h.Parts item k a := by
  cases hr with
  | same roles => exact Or.inl ((roles k a).trans ha)
  | @founded _ _ f _ _ _ fresh _ _ roles _ =>
    -- a new room had no members
    have hne : k ≠ f.info.id := by
      rintro rfl
      rw [hc.store.roleOf?_eq_none fresh] at ha
      cases ha
    exact Or.inl (by rw [roles, if_neg hne, ha])
  | added _ _ fresh roles =>
    refine Or.inl ?_
    rw [roles, if_neg, ha]
    rintro ⟨rfl, hm⟩
    rw [fresh a hm] at ha
    cases ha
  | @removed c e event info accounts _ decoded may roles =>
    by_cases hx : k = info.id ∧ a ∈ accounts
    · exact Or.inr ⟨c, e, event, info, accounts, rfl, decoded, may, hx.1.symm, hx.2⟩
    · exact Or.inl (by rw [roles, if_neg hx, ha])

section Reachable

variable {accounts : List Account} {mint : Mint} {outages : List Outage}
  (hr : Reachable (fresh accounts mint outages) h)
include hr

/-- A stored room survives `handle`, or the item `Closes` it. -/
theorem Reachable.kept_or_closes (hf : item.Fits h) (hk : h.store.rooms.get? k = some info) :
    (h.handle item).1.store.rooms.get? k = some info ∨ h.Closes item k := by
  have hc := hr.coherent (coherent_fresh accounts mint outages)
  have hm := (handle_moves hc hf).1
  rcases hm.kept_or_deleted hc hk with hsame | ⟨hnone, -⟩
  · exact Or.inl hsame
  · obtain ⟨c, e, r, rfl, he, hi, hlast⟩ := hm.last_of_deleted hc hr.lawful hk hnone
    exact Or.inr ⟨c, e, r, info, rfl, he, hi, hc.store.keyed k info hk, hlast, hnone⟩

/-- A room stays stored if it has members `Throughout` the run. -/
theorem Reachable.stored_of_throughout (hf : h.Follows items)
    (hk : h.store.rooms.get? k = some info)
    (ht : h.Throughout (fun h => 0 < h.store.countMembers k) items) :
    (h.run items).1.store.rooms.get? k = some info := by
  induction items generalizing h with
  | nil => exact hk
  | cons item items ih =>
    have hr' := hr.step hf.1
    refine ih hr' hf.2 ?_ ht.2
    rcases hr.kept_or_closes hf.1 hk with hsame | ⟨-, -, -, -, -, -, -, -, -, hnone⟩
    · exact hsame
    · -- a room that is deleted has no members
      have hc' := hr'.coherent (coherent_fresh accounts mint outages)
      obtain ⟨a, ha⟩ := countMembers_pos_iff.1 ht.1
      rw [hc'.store.roleOf?_eq_none hnone] at ha
      cases ha

/-- A member that `Sometime` `Parts` in no step keeps its role, and so the room has members
`Throughout`. -/
theorem Reachable.roleOf?_of_not_parts (hf : h.Follows items)
    (ha : h.store.roleOf? k a = some role)
    (hstays : ¬ h.Sometime (fun h item => h.Parts item k a) items) :
    (h.run items).1.store.roleOf? k a = some role ∧
      h.Throughout (fun h => 0 < h.store.countMembers k) items := by
  induction items generalizing h with
  | nil => exact ⟨ha, trivial⟩
  | cons item items ih =>
    have hc := hr.coherent (coherent_fresh accounts mint outages)
    obtain ⟨hnot, hrest⟩ := not_or.1 hstays
    have hkept := ((handle_moves hc hf.1).1.reroles hc).kept_or_parts hc ha
    have ha' := hkept.resolve_right hnot
    obtain ⟨hrole, hthroughout⟩ := ih (hr.step hf.1) hf.2 ha' hrest
    exact ⟨hrole, countMembers_pos_iff.2 ⟨a, by rw [ha']; rfl⟩, hthroughout⟩

end Reachable

/-! ### All states -/

/-- **Rooms end with their last member.** In every state that a hub reaches from one without rooms,
while the store is in reach, a stored room has a member. An item leaves it as it is, or deletes it
when its last member leaves it. Over a run, whoever comes and goes, a room stays with its name as
long as it has members, and each member stays one with the same role until it leaves or is removed,
and so does the room. -/
theorem tenancy_of_reachable {accounts : List Account} {mint : Mint}
    (hr : Reachable (fresh accounts mint []) h) :
    (∀ k info, h.store.rooms.get? k = some info → 0 < h.store.countMembers k) ∧
    (∀ item : Inbound, item.Fits h → ∀ k info, h.store.rooms.get? k = some info →
      (h.handle item).1.store.rooms.get? k = some info ∨ h.Closes item k) ∧
    ∀ items, h.Follows items → ∀ k info, h.store.rooms.get? k = some info →
      (h.Throughout (fun h' => 0 < h'.store.countMembers k) items →
        (h.run items).1.store.rooms.get? k = some info) ∧
      ∀ a role, h.store.roleOf? k a = some role →
        ¬ h.Sometime (fun h' item => h'.Parts item k a) items →
        (h.run items).1.store.roleOf? k a = some role ∧
          (h.run items).1.store.rooms.get? k = some info := by
  refine ⟨fun k info hk => countMembers_pos_iff.2 (hr.occupied k info hk),
    fun item hf k info hk => hr.kept_or_closes hf hk,
    fun items hf k info hk => ⟨hr.stored_of_throughout hf hk, fun a role ha hstays => ?_⟩⟩
  obtain ⟨hrole, hthroughout⟩ := hr.roleOf?_of_not_parts hf ha hstays
  exact ⟨hrole, hr.stored_of_throughout hf hk hthroughout⟩

/-- `bob` and `ann` go and come back, and then `ann`, who made the room, leaves it. -/
def comings : List Inbound :=
  [.unregister bob, .unregister ann, .register ann, .register bob,
    .event ann ⟨"leave-room", .object [("room_id", .text "den")]⟩]

/-- `bob` leaves the room of `meeting`, too. -/
def farewell : Inbound := .event bob ⟨"leave-room", .object [("room_id", .text "den")]⟩

/-- Neither who goes and comes back nor who stays while another one leaves `Parts`. -/
theorem not_parts_comings (h : Hub) :
    ¬ h.Sometime (fun h item => h.Parts item den "bob") comings := by
  rintro (⟨_, _, _, _, _, heq, -⟩ | ⟨_, _, _, _, _, heq, -⟩ | ⟨_, _, _, _, _, heq, -⟩ |
    ⟨_, _, _, _, _, heq, -⟩ | ⟨c, e, event, info, accounts, heq, decoded, may, -, hbob⟩ | ⟨⟨⟩⟩)
  · cases heq
  · cases heq
  · cases heq
  · cases heq
  · cases heq
    cases may with
    | leave => exact absurd (List.mem_singleton.1 hbob) (by decide)
    | kick => cases decoded

/-- A room that nobody is connected to stays, with `bob` as its last member, until his `farewell`
`Closes` it. -/
theorem tenancy_farewell : ∃ h, Reachable (lobby []) h ∧ h.Follows comings ∧
    (h.run comings).1.store.roleOf? den "bob" = some .user ∧
    (h.run comings).1.store.rooms.get? den = some denInfo ∧
    (h.run comings).1.Closes farewell den := by
  have hr : Reachable (lobby []) ((lobby []).run meeting).1 :=
    Reachable.start.run (by decide +kernel)
  have hf : ((lobby []).run meeting).1.Follows comings := by decide +kernel
  have hstored : ((lobby []).run meeting).1.store.rooms.get? den = some denInfo := by
    decide +kernel
  obtain ⟨-, -, hruns⟩ := tenancy_of_reachable hr
  obtain ⟨hstays, hkeeps⟩ := hruns comings hf den denInfo hstored
  have hroom := hstays (by decide +kernel)
  obtain ⟨hrole, -⟩ := hkeeps "bob" .user (by decide +kernel) (not_parts_comings _)
  -- the item of the last member is handled in the state after the run
  obtain ⟨-, hitems, -⟩ := tenancy_of_reachable (hr.run hf)
  rcases hitems farewell (by decide +kernel) den denInfo hroom with hsame | hcloses
  · have hgone : ((((lobby []).run meeting).1.run comings).1.handle farewell).1.store.rooms.get?
        den = none := by decide +kernel
    rw [hgone] at hsame
    cases hsame
  · exact ⟨_, hr, hf, hrole, hroom, hcloses⟩

end GroupChat.Hub
