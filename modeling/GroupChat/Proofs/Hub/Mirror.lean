import GroupChat.Proofs.Hub.Handle

/-!
# Live rooms mirror the store

As long as the store is in reach, a public room is live exactly if one of its members is connected.
Then exactly the connections of its members are in it, with the roles that the store knows.

## Main definitions

- `Hub.Present`: a registered connection of a member of a room.
- `Hub.Mirrors`: the live room of an identifier is what the store makes of it.
- `Hub.Agree`: the same, told by the connections in the room.
- `Hub.Faithful`: the invariant.

## Main statements

- `Agree.move`: a move preserves that a room agrees with the store.
- `Faithful.move`: a move preserves the invariant.
- `mirrors_of_reachable`: public rooms mirror the store in all states.
-/

namespace GroupChat.Hub

/-- `d` is a registered connection of an account that is a member of the room `k`. -/
def Present (h : Hub) (k : String) (d : Connection) : Prop :=
  h.roster.Holds d ∧ (h.store.roleOf? k d.account).isSome = true

instance (h : Hub) (k : String) (d : Connection) : Decidable (h.Present k d) :=
  inferInstanceAs (Decidable (_ ∧ _))

/-- The live room under `k` is what the store makes of it. -/
structure Mirrors (h : Hub) (k : String) : Prop where
  /-- A room that does not exist, or none of whose members is connected, is not live. -/
  idle : (h.store.rooms.get? k = none ∨ ∀ d, ¬ h.Present k d) → h.rooms.get? k = none
  /-- Any other room is live with the connections of its members and their roles. -/
  live : ∀ info, h.store.rooms.get? k = some info → (∃ d, h.Present k d) →
    ∃ room, h.rooms.get? k = some room ∧ room.info = info ∧
      (∀ x d, room.connections.get? x = some d ↔ d.id = x ∧ h.Present k d) ∧
      ∀ a role, room.roles.get? a = some role ↔
        h.store.roleOf? k a = some role ∧ ∃ d, h.Present k d ∧ d.account = a

/-- No stored room under `k` has `isPrivate`. -/
def Public (h : Hub) (k : String) : Prop :=
  ∀ info, h.store.rooms.get? k = some info → info.isPrivate = false

/-- In the live room under `k` are the connections that are `Present`, with the roles that
`Store.roleOf?` says. -/
structure Agree (h : Hub) (k : String) : Prop where
  /-- The connections of members are in the room, and no others. -/
  holds : ∀ d, h.rooms.Holds k d ↔ h.Present k d
  /-- Their roles are those of the store. -/
  roles : ∀ a role, h.rooms.roleOf? k a = some role → h.store.roleOf? k a = some role

/-- The name of a public room does not begin with `privateMark`. -/
def Named (h : Hub) : Prop :=
  ∀ k info, h.store.rooms.get? k = some info → info.isPrivate = false →
    privateMark.toList.isPrefixOf info.name.toList = false

/-- Public rooms `Agree` with the store, and have no names of private rooms (`Named`). -/
structure Faithful (h : Hub) : Prop where
  /-- Public rooms agree with the store. -/
  agree : ∀ k, h.Public k → h.Agree k
  /-- They have other names than private ones. -/
  named : h.Named

instance (h : Hub) (k : String) : Decidable (h.Public k) :=
  inferInstanceAs (Decidable (∀ info ∈ h.store.rooms.get? k, info.isPrivate = false))

variable {h h' : Hub} {item : Inbound} {k : String}

/-- `privateName` puts the lesser of two identifiers first; between mark and end stand the two with
a colon between them. -/
theorem exists_toList_privateName (a b : String) : ∃ x y,
    (privateName a b).toList = privateMark.toList ++ (x.toList ++ ':' :: y.toList) ∧
      ((x = a ∧ y = b) ∨ (x = b ∧ y = a)) := by
  rw [privateName]
  split
  · exact ⟨a, b, by simp [String.toList_append], Or.inl ⟨rfl, rfl⟩⟩
  · exact ⟨b, a, by simp [String.toList_append], Or.inr ⟨rfl, rfl⟩⟩

theorem isPrefixOf_privateName (a b : String) :
    privateMark.toList.isPrefixOf (privateName a b).toList = true := by
  obtain ⟨x, y, hname, -⟩ := exists_toList_privateName a b
  rw [List.isPrefixOf_iff_prefix, hname]
  exact List.prefix_append _ _

/-- `Mirrors` is `Agree` from outside: connections of the roster in place of those of the room. -/
theorem Agree.mirrors (ha : h.Agree k) (hc : h.Coherent) : h.Mirrors k := by
  have hnone : (∀ d, ¬ h.Present k d) → h.rooms.get? k = none := fun hn =>
    hc.rooms.get?_eq_none_iff.2 fun d hd => hn d ((ha.holds d).1 hd)
  refine ⟨?_, fun info hinfo hp => ?_⟩
  · rintro (hs | hn)
    · -- a room that does not exist has no members
      refine hnone fun d hd => ?_
      obtain ⟨role, hrole⟩ := Option.isSome_iff_exists.1 hd.2
      obtain ⟨info, hinfo⟩ := hc.store.housed k _ role hrole
      rw [hs] at hinfo
      cases hinfo
    · exact hnone hn
  · obtain ⟨d, hd⟩ := hp
    obtain ⟨room, hroom, -⟩ := (ha.holds d).2 hd
    -- a room with somebody in it is live, and is compared part by part
    have hsound := hc.rooms.sound k room hroom
    have hholds : ∀ d, room.Holds d ↔ h.Present k d := fun d => by
      rw [← ha.holds d, LiveRooms.Holds, hroom]
      simp
    refine ⟨room, hroom, ?_, fun x d => ⟨fun hx => ?_, ?_⟩, fun a role => ⟨fun hrole => ?_, ?_⟩⟩
    · exact Option.some.inj ((hc.stored k room hroom).symm.trans hinfo)
    · exact ⟨hsound.keyed x d hx, (hholds d).1 (hsound.holds_of_get? hx)⟩
    · rintro ⟨rfl, hd⟩
      exact (hholds d).2 hd
    · have hlive : h.rooms.roleOf? k a = some role := by rw [LiveRooms.roleOf?, hroom]; exact hrole
      obtain ⟨d, hd, hda⟩ := (hsound.role_iff a).1 (by rw [LiveRoom.roleOf?, hrole]; rfl)
      exact ⟨ha.roles a role hlive, d, (hholds d).1 hd, hda⟩
    · -- whoever is in the room has some role there, and it is the one of the store
      rintro ⟨hrole, d, hd, rfl⟩
      have hsome := (hsound.role_iff d.account).2 ⟨d, (hholds d).2 hd, rfl⟩
      obtain ⟨role', hrole'⟩ := Option.isSome_iff_exists.1 hsome
      have hlive : h.rooms.roleOf? k d.account = some role' := by
        rw [LiveRooms.roleOf?, hroom]
        exact hrole'
      rw [ha.roles _ role' hlive] at hrole
      rw [← hrole]
      exact hrole'

theorem public_of_resolved? (hc : h.Coherent) {reference : String} {info : RoomInfo}
    (hi : h.resolved? reference = some info) (hp : info.isPrivate = false) :
    h.Public info.id := by
  intro info' hinfo'
  rw [(stored_of_resolved? hc hi).1] at hinfo'
  exact Option.some.inj hinfo' ▸ hp

/-! ### One room -/

section Agree

variable (ha : h.Agree k)
include ha

/-- `Agree` stays where live room and stored roles stay. -/
theorem Agree.of_eq (hroster : h'.roster = h.roster) (hrooms : h'.rooms.get? k = h.rooms.get? k)
    (hroles : ∀ a, h'.store.roleOf? k a = h.store.roleOf? k a) : h'.Agree k := by
  refine ⟨fun d => ?_, fun a role hrole => ?_⟩
  · rw [LiveRooms.Holds, hrooms, Present, hroster, hroles]
    exact ha.holds d
  · rw [hroles]
    rw [LiveRooms.roleOf?, hrooms] at hrole
    exact ha.roles a role hrole

/-- A hub that is `Still` agrees as before. -/
theorem Agree.still (hs : h.Still h') : h'.Agree k :=
  ha.of_eq hs.roster (by rw [hs.rooms]) (hs.store.roles k)

/-- `Registers` keeps `Agree`: under calm the connection enters all rooms of its account. -/
theorem Agree.registers {c : Connection} (hr : h.Registers h' c) (hc : h.Coherent)
    (hnew : ∀ d, h.roster.get? c.id = some d → d = c) (hcalm : h.Calm) : h'.Agree k := by
  have hs := agrees_of_presence hr.store
  obtain ⟨ms, hms, henters⟩ := hr.rooms
  obtain rfl : ms = h.store.roomsOf c.account := hms.resolve_right fun hm => hm.1 hcalm
  have hrooms : h.rooms.Sound (h.roster.add c) :=
    hc.rooms.mono fun _ hd => (Roster.holds_add hnew).2 (Or.inr hd)
  have hself : (h.roster.add c).Holds c := (Roster.holds_add hnew).2 (Or.inl rfl)
  refine ⟨fun d => ?_, fun a role hrole => ?_⟩
  · -- the rooms that are entered are those in which the account has a role
    rw [henters.holds hrooms hself, Store.exists_mem_roomsOf_iff hc.store, Present, hr.roster,
      Roster.holds_add hnew, hs.roles, ha.holds d, Present]
    constructor
    · rintro (⟨hd, hm⟩ | ⟨rfl, hm⟩)
      · exact ⟨Or.inr hd, hm⟩
      · exact ⟨Or.inl rfl, hm⟩
    · rintro ⟨rfl | hd, hm⟩
      · exact Or.inr ⟨rfl, hm⟩
      · exact Or.inl ⟨hd, hm⟩
  · rw [hs.roles]
    -- a room that was entered, or any other one
    by_cases hm : ∃ m ∈ h.store.roomsOf c.account, m.room.id = k
    · obtain ⟨m, hm, rfl⟩ := hm
      rw [henters.roleOf?_of_mem hm] at hrole
      cases hold : h.rooms.roleOf? m.room.id a with
      | some role' =>
        rw [hold] at hrole
        rw [ha.roles a role' hold]
        exact hrole
      | none =>
        rw [hold, Option.none_or] at hrole
        split_ifs at hrole with hac
        rw [hac, ((Store.mem_roomsOf hc.store).1 hm).2]
        exact hrole
    · push Not at hm
      rw [henters.roleOf?_of_ne hm] at hrole
      exact ha.roles a role hrole

/-- `Unregisters` keeps `Agree`: the connection leaves all rooms. -/
theorem Agree.unregisters {c : Connection} (hr : h.Unregisters h' c) (hc : h.Coherent) :
    h'.Agree k := by
  have hs := agrees_of_presence hr.store
  have hc' := hr.coherent hc
  have hself : h.roster.Holds c := (Roster.remove_eq_some hr.roster).1
  refine ⟨fun d => ?_, fun a role hrole => ?_⟩
  · -- the connection that went is the only one of its identifier
    rw [hr.rooms.holds hc.rooms, Present, Roster.holds_remove hr.roster, hs.roles, ha.holds d,
      Present]
    constructor
    · rintro ⟨⟨hd, hm⟩, hid⟩
      exact ⟨⟨hd, fun h => hid (h ▸ rfl)⟩, hm⟩
    · rintro ⟨⟨hd, hne⟩, hm⟩
      exact ⟨⟨hd, hm⟩, fun hid => hne (hd.eq_of_id_eq hself hid)⟩
  · -- an account that has a role still has a connection in the room
    obtain ⟨d, hd, rfl⟩ := hc'.rooms.isSome_roleOf?_iff.1 (by rw [hrole]; rfl)
    rw [hr.rooms.roleOf? hc.rooms hd] at hrole
    rw [hs.roles]
    exact ha.roles _ role hrole

/-- `Loads` keeps `Agree` of all other rooms. Of the room itself it does not in general, as only two
accounts enter it. -/
theorem Agree.loads {info : RoomInfo} {a b : String} (hl : h.Loads h' info a b)
    (hne : k ≠ info.id) : h'.Agree k := by
  refine ha.of_eq hl.roster (hl.rooms.get?_of_ne ?_) fun a => by rw [hl.store]
  rw [LiveRoom.id, info_enroll_ofInfo]
  exact hne

/-- `Founds` keeps `Agree`: a new room has the connections of its members. -/
theorem Agree.founds {f : Founding} (hf : h.Founds h' f) (hc : h.Coherent) : h'.Agree k := by
  have hroles := hf.store.roles hc.store
  refine ⟨fun d => ?_, fun a role hrole => ?_⟩
  · rw [hf.holds hc, Present, hf.roster, hroles]
    split_ifs
    · rw [f.isSome_lookup_initial]
    · exact ha.holds d
  · rw [hf.roleOf?_rooms hc] at hrole
    rw [hroles]
    split_ifs at hrole ⊢
    · exact hrole
    · exact ha.roles a role hrole

/-- `Grows` keeps `Agree`. -/
theorem Agree.grows {info : RoomInfo} {accounts : List String} (hg : h.Grows h' info accounts)
    (hc : h.Coherent) (hstored : h.store.rooms.get? info.id = some info) : h'.Agree k := by
  refine ⟨fun d => ?_, fun a role hrole => ?_⟩
  · -- who is in the room: those from before, and those who were added
    rw [hg.holds hc hstored, ha.holds d, Present, Present, hg.roster, hg.roles]
    split_ifs with hm
    · constructor
      · rintro (⟨hd, -⟩ | ⟨-, hd, -⟩)
        · exact ⟨hd, rfl⟩
        · exact ⟨hd, rfl⟩
      · rintro ⟨hd, -⟩
        exact Or.inr ⟨hm.1, hd, hm.2⟩
    · rw [or_iff_left fun hx => hm ⟨hx.1, hx.2.2⟩]
  · rw [hg.roleOf?_rooms hc hstored, Option.or_eq_some_iff] at hrole
    rw [hg.roles]
    rcases hrole with hold | ⟨-, hnew⟩
    · -- who has a role already was not added
      have hrole := ha.roles a role hold
      rw [if_neg]
      · exact hrole
      · rintro ⟨rfl, hm⟩
        rw [hg.fresh hm] at hrole
        cases hrole
    · split_ifs at hnew with hm
      rw [if_pos ⟨hm.1, hm.2.2⟩, hnew]

/-- `Shrinks` keeps `Agree`, also of a room that is deleted. -/
theorem Agree.shrinks {info : RoomInfo} {accounts : List String} (hg : h.Shrinks h' info accounts)
    (hc : h.Coherent) (hstored : h.store.rooms.get? info.id = some info) : h'.Agree k := by
  refine ⟨fun d => ?_, fun a role hrole => ?_⟩
  · rw [hg.holds hc hstored, ha.holds d, Present, Present, hg.roster, hg.roles]
    split_ifs with hm
    · simp [hm]
    · rw [and_iff_left hm]
  · rw [hg.roleOf?_rooms hc hstored] at hrole
    rw [hg.roles]
    split_ifs at hrole ⊢
    exact ha.roles a role hrole

end Agree

/-! ### Moves -/

/-- Under calm, a room that is stored after a `Move` was stored before, or the move is that of an
event that `Founds` it. -/
theorem Move.stored (hm : h.Move item h') (hcalm : h.Calm) {info : RoomInfo}
    (hk : h'.store.rooms.get? k = some info) : h.store.rooms.get? k = some info ∨
      ∃ c e f h₁, item = .event c e ∧ k = f.info.id ∧ info = f.info ∧ h.Permits c.account f ∧
        h.Founds h₁ f ∧ h₁.Still h' := by
  cases hm with
  | still still => exact Or.inl (still.store.rooms k ▸ hk)
  | registered registers => exact Or.inl ((agrees_of_presence registers.store).rooms k ▸ hk)
  | unregistered unregisters => exact Or.inl ((agrees_of_presence unregisters.store).rooms k ▸ hk)
  | loaded _ _ _ loads still => exact Or.inl (loads.store ▸ still.store.rooms k ▸ hk)
  | @founded c e f h₁ _ permits founds still =>
    rw [still.store.rooms, founds.store.rooms] at hk
    split_ifs at hk with hkf
    · exact Or.inr ⟨c, e, f, h₁, rfl, hkf, (Option.some.inj hk).symm, permits, founds, still⟩
    · exact Or.inl hk
  | grown _ _ grows => exact Or.inl (grows.stored ▸ hk)
  | shrunk _ _ shrinks => exact Or.inl (shrinks.stored_of_eq_some hk)
  | halfFounded _ storm | halfGrown _ _ storm | halfShrunk _ _ storm => exact absurd hcalm storm

/-- A stored room survives a `Move`, or it is deleted by one that `Shrinks` it. -/
theorem Move.kept_or_shrunk (hm : h.Move item h') (hc : h.Coherent) {info : RoomInfo}
    (hk : h.store.rooms.get? k = some info) :
    h'.store.rooms.get? k = some info ∨ h'.store.rooms.get? k = none ∧
      ∃ c e event accounts, item = .event c e ∧ ClientEvent.decode e = .ok event ∧
        h.MayRemove c event info accounts ∧ h.Shrinks h' info accounts := by
  -- what is put into the store has a new identifier
  have hnew : ∀ {f : Founding}, h.store.rooms.get? f.info.id = none → k ≠ f.info.id := by
    rintro f hfresh rfl
    rw [hfresh] at hk
    cases hk
  cases hm with
  | still still => exact Or.inl (by rw [still.store.rooms, hk])
  | registered registers =>
    exact Or.inl (by rw [(agrees_of_presence registers.store).rooms, hk])
  | unregistered unregisters =>
    exact Or.inl (by rw [(agrees_of_presence unregisters.store).rooms, hk])
  | loaded _ _ _ loads still => exact Or.inl (by rw [still.store.rooms, loads.store, hk])
  | founded _ founds still =>
    left
    rw [still.store.rooms, founds.store.rooms, if_neg (hnew founds.store.fresh), hk]
  | halfFounded _ _ _ founds => exact Or.inl (by rw [founds.rooms, if_neg (hnew founds.fresh), hk])
  | grown _ _ grows => exact Or.inl (by rw [grows.stored, hk])
  | halfGrown _ _ _ _ adds => exact Or.inl (by rw [adds.rooms, hk])
  | halfShrunk _ _ _ _ removes => exact Or.inl (by rw [removes.rooms, hk])
  | @shrunk c e event i accounts _ decoded may shrinks =>
    rcases shrinks.stored k with hsame | ⟨rfl, hnone⟩
    · exact Or.inl (hsame.trans hk)
    · -- the room that was deleted is the one that has become empty
      rw [may.stored hc] at hk
      cases hk
      exact Or.inr ⟨hnone, c, e, event, accounts, rfl, decoded, may, shrinks⟩

theorem Move.kept_or_deleted (hm : h.Move item h') (hc : h.Coherent) {info : RoomInfo}
    (hk : h.store.rooms.get? k = some info) :
    h'.store.rooms.get? k = some info ∨
      h'.store.rooms.get? k = none ∧ info.isPrivate = false := by
  rcases hm.kept_or_shrunk hc hk with hsame | ⟨hnone, c, e, event, accounts, -, -, may, -⟩
  · exact Or.inl hsame
  · exact Or.inr ⟨hnone, may.isPublic⟩

/-- A private room survives every `Move`. -/
theorem Move.stored_of_isPrivate (hm : h.Move item h') (hc : h.Coherent) {info : RoomInfo}
    (hk : h.store.rooms.get? k = some info) (hp : info.isPrivate = true) :
    h'.store.rooms.get? k = some info := by
  rcases hm.kept_or_deleted hc hk with hsame | ⟨-, hpublic⟩
  · exact hsame
  · rw [hpublic] at hp
    cases hp

/-- A `Move` preserves `Agree` under calm, given that it does where the room becomes live by its
name (`Loads`). -/
theorem Agree.move (ha : h.Agree k) (hm : h.Move item h') (hfits : item.Fits h) (hc : h.Coherent)
    (hcalm : h.Calm)
    (hloads : ∀ {c e b info h₁}, item = .event c e → b ≠ c.account →
      h.store.rooms.get? info.id = some info → info.name = privateName c.account b →
      h.Loads h₁ info c.account b → k = info.id → h₁.Agree k) : h'.Agree k := by
  cases hm with
  | still still => exact ha.still still
  | registered registers => exact ha.registers registers hc hfits hcalm
  | unregistered unregisters => exact ha.unregisters unregisters hc
  | @loaded c e b info h₁ _ other stored named loads still =>
    by_cases hk : k = info.id
    · exact (hloads rfl other stored named loads hk).still still
    · exact (ha.loads loads hk).still still
  | founded _ founds still => exact (ha.founds founds hc).still still
  | grown _ may grows => exact ha.grows grows hc (may.stored hc)
  | shrunk _ may shrinks => exact ha.shrinks shrinks hc (may.stored hc)
  | halfFounded _ storm | halfGrown _ _ storm | halfShrunk _ _ storm => exact absurd hcalm storm

theorem Named.isPrivate (hn : h.Named) {info : RoomInfo} {a b : String}
    (hk : h.store.rooms.get? k = some info) (hname : info.name = privateName a b) :
    info.isPrivate = true := by
  rw [← Bool.not_eq_false]
  intro hp
  have hmark := hn k info hk hp
  rw [hname, isPrefixOf_privateName] at hmark
  cases hmark

/-- A `Move` preserves `Named`: only private rooms have names that begin with `privateMark`. -/
theorem Named.move (hn : h.Named) (hm : h.Move item h') (hcalm : h.Calm) : h'.Named := by
  intro k info hk hp
  rcases hm.stored hcalm hk with hold | ⟨c, e, f, h₁, -, rfl, rfl, permits, -⟩
  · exact hn k info hold hp
  · exact (permits.fits.isPublic hp).2

/-- A `Move` preserves `Faithful` under calm. `Loads` concerns private rooms only, by `Named`, so
that the hypothesis of `Agree.move` is met by public ones. -/
theorem Faithful.move (hf : h.Faithful) (hm : h.Move item h') (hfits : item.Fits h)
    (hc : h.Coherent) (hcalm : h.Calm) : h'.Faithful := by
  refine ⟨fun k hk => ?_, hf.named.move hm hcalm⟩
  have hpublic : h.Public k := fun info hi => by
    rw [← Bool.not_eq_true]
    intro hp
    have hstays := hk info (hm.stored_of_isPrivate hc hi hp)
    rw [hp] at hstays
    cases hstays
  refine (hf.agree k hpublic).move hm hfits hc hcalm ?_
  -- a room that becomes live by its name is private
  rintro c e b info h₁ - - hstored hname - rfl
  have hinfo := hpublic info hstored
  rw [hf.named.isPrivate hstored hname] at hinfo
  cases hinfo

/-! ### All states -/

theorem faithful_fresh (accounts : List Account) (mint : Mint) (outages : List Outage) :
    (fresh accounts mint outages).Faithful where
  agree k _ :=
    { holds := fun d => ⟨fun ⟨_, hr, _⟩ => (by cases hr), fun hd => (by cases hd.1)⟩
      roles := fun _ _ hrole => by cases hrole }
  named _ _ hi := by cases hi

theorem Reachable.faithful {accounts : List Account} {mint : Mint}
    (hr : Reachable (fresh accounts mint []) h) : h.Faithful :=
  (hr.induct (P := fun h => h.Calm ∧ h.Faithful) ⟨rfl, faithful_fresh accounts mint []⟩
    (fun hfits hm hcalm hc hp => ⟨hcalm hp.1, hp.2.move hm hfits hc hp.1⟩)
    (coherent_fresh accounts mint [])).1.2

/-- **Live rooms mirror the store.** In every state that a hub reaches from one without rooms, while
the store is in reach, a public room is live exactly if a member is connected, with the connections
of its members and their roles. -/
theorem mirrors_of_reachable {accounts : List Account} {mint : Mint}
    (hr : Reachable (fresh accounts mint []) h) (hk : h.Public k) : h.Mirrors k :=
  (hr.faithful.agree k hk).mirrors (hr.coherent (coherent_fresh accounts mint []))

/-- Here `den` was just made. -/
theorem mirrors_den : ∃ h, Reachable (lobby []) h ∧ h.Public den ∧
    (h.rooms.get? den).isSome = true ∧ h.Mirrors den := by
  have hr : Reachable (lobby []) ((lobby []).run meeting).1 :=
    Reachable.start.run (by decide +kernel)
  have hk : ((lobby []).run meeting).1.Public den := by decide +kernel
  exact ⟨_, hr, hk, by decide +kernel, mirrors_of_reachable hr hk⟩

end GroupChat.Hub
