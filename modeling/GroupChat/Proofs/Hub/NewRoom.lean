import GroupChat.Hub.NewRoom
import GroupChat.Proofs.Hub.Membership

/-!
# New rooms

A room that was put into the store with all of its members becomes live with their connections. If a
member could not be added, the room is deleted again, or it is reported that it was not.

## Main definitions

- `CreateRequest.Names`, `Store.Admits`: a request for a new room, and what it needs.
- `Founding.Fits`: what a new room can be.
- `Hub.Founds`: a new room was put into the store and became live.
- `Hub.admission`: the checks of the request, which end with the name of the room.

## Main statements

- `persist_gives`, `openRoom_gives`: the two halves.
- `admission_gives`: the checks let those requests pass that the store admits.
- `createRoom_gives`: the request.
-/

namespace GroupChat

/-- The `name` that a new room gets on the request `r` of `account`: if it is private, the
`privateName` of the account and its only other member, and else the one that is asked for, which is
neither blank nor like that of a private room. -/
structure CreateRequest.Names (r : CreateRequest) (account name : String) : Prop where
  /-- A private room has one other member, which makes its name. -/
  isPrivate : r.isPrivate = true →
    ∃ m, (∀ x, x ∈ r.members ↔ x = m) ∧ name = privateName account m
  /-- The name of a public room is asked for. -/
  isPublic : r.isPrivate = false → r.name = some name ∧ Text.trimChars name.toList ≠ [] ∧
    privateMark.toList.isPrefixOf name.toList = false

/-- A new room with this `name` can be made on the request `r` of `account`. -/
structure Store.Admits (s : Store) (account : String) (r : CreateRequest) (name : String) :
    Prop where
  /-- The account is not listed. -/
  others : account ∉ r.members
  /-- Those that are listed exist. -/
  known : ∀ m ∈ r.members, (s.account? m).isSome = true
  /-- The room gets the name. -/
  names : r.Names account name
  /-- No room has it. -/
  unused : ∀ k info, s.rooms.get? k = some info → info.name ≠ name

namespace Hub

/-- A new room can be as `f` says. -/
structure Founding.Fits (f : Founding) : Prop where
  /-- The creator is not listed. -/
  others : f.creator ∉ f.members
  /-- Nobody is listed twice. -/
  nodup : f.members.Nodup
  /-- A private room is one of two accounts, and its name tells which ones. -/
  isPrivate : f.info.isPrivate = true → f.role = .user ∧
    ∃ m, f.members = [m] ∧ f.info.name = privateName f.creator m
  /-- The creator of a public room is an admin, and its name is not that of a private one. -/
  isPublic : f.info.isPrivate = false → f.role = .admin ∧
    privateMark.toList.isPrefixOf f.info.name.toList = false

/-- The `account` can make the new room that `f` founds. -/
structure Permits (h : Hub) (account : String) (f : Founding) : Prop where
  /-- The room is as it should be. -/
  fits : f.Fits
  /-- The account makes it. -/
  creator : f.creator = account
  /-- The other members exist. -/
  known : ∀ m ∈ f.members, (h.store.account? m).isSome = true
  /-- The name is new. -/
  named : ∀ k info, h.store.rooms.get? k = some info → info.name ≠ f.info.name

/-- A room that `account` can make, as `f` founds it, was left in the store with some of its
members, and that was reported. -/
def Turn.Abandons (t u : Turn) (account : String) (f : Founding) : Prop :=
  ∃ ms reports, t.hub.Permits account f ∧ t.Undoes u reports ∧ reports ≠ [] ∧ ¬ t.hub.Calm ∧
    t.hub.store.Founds f.info ms u.hub.store ∧ ∀ p ∈ ms, p ∈ f.initial

/-- The live room of the new room that `f` founds, with the connections of the `roster`. -/
def Founding.liveRoom (f : Founding) (roster : Roster) : LiveRoom :=
  ((LiveRoom.ofInfo f.info).joinAll (roster.connectionsOf f.creator) f.role).enroll roster .user
    f.members

/-- The new room that `f` founds was put into the store and became live. -/
structure Founds (h h' : Hub) (f : Founding) : Prop where
  /-- The connections stayed. -/
  roster : h'.roster = h.roster
  /-- The live room. -/
  rooms : h.rooms.Places h'.rooms (f.liveRoom h.roster)
  /-- The room and its members. -/
  store : h.store.Founds f.info f.initial h'.store

variable {h h' : Hub} {f : Founding} {t u : Turn}

/-! ### The live room -/

section LiveRoom

variable {roster : Roster} (hr : roster.Sound)
include hr

theorem Founding.within_liveRoom (f : Founding) : (f.liveRoom roster).Within roster := by
  apply LiveRoom.within_enroll hr
  apply LiveRoom.within_joinAll (LiveRoom.within_ofInfo _ _)
  exact LiveRoom.holds_of_mem_connectionsOf hr _

/-- `liveRoom` is `Sound`. -/
theorem Founding.sound_liveRoom (f : Founding) : (f.liveRoom roster).Sound := by
  have hcs := LiveRoom.holds_of_mem_connectionsOf hr f.creator
  apply LiveRoom.sound_enroll hr
  · exact LiveRoom.sound_joinAll (LiveRoom.sound_ofInfo _) (LiveRoom.within_ofInfo _ _) hcs _
  · exact LiveRoom.within_joinAll (LiveRoom.within_ofInfo _ _) hcs _

/-- `Founding.liveRoom` holds the registered connections of the creator and the members. -/
theorem Founding.holds_liveRoom (f : Founding) {d : Connection} :
    (f.liveRoom roster).Holds d ↔
      roster.Holds d ∧ (d.account = f.creator ∨ d.account ∈ f.members) := by
  have hcs := LiveRoom.holds_of_mem_connectionsOf hr f.creator
  have hw := LiveRoom.within_ofInfo f.info roster
  rw [liveRoom, LiveRoom.holds_enroll hr (LiveRoom.within_joinAll hw hcs _),
    LiveRoom.holds_joinAll hw hcs, hr.mem_connectionsOf, or_iff_left (LiveRoom.not_holds_ofInfo _ _)]
  tauto

/-- `Founding.liveRoom` has the roles of `initial`, for accounts with a registered connection. -/
theorem Founding.roleOf?_liveRoom (f : Founding) (a : String) : (f.liveRoom roster).roleOf? a =
    if roster.hasAccount a = true then f.initial.lookup a else none := by
  -- the creator joins first, with the role of `initial`; the members are enrolled after it
  have hcreator : (∃ c ∈ roster.connectionsOf f.creator, c.account = a) ↔
      roster.hasAccount a = true ∧ a = f.creator := by
    rw [hr.hasAccount_iff]
    constructor
    · rintro ⟨c, hc, rfl⟩
      obtain ⟨hc, hca⟩ := hr.mem_connectionsOf.1 hc
      exact ⟨⟨c, hc, rfl⟩, hca⟩
    · rintro ⟨⟨c, hc, hca⟩, rfl⟩
      exact ⟨c, hr.mem_connectionsOf.2 ⟨hc, hca⟩, hca⟩
  rw [liveRoom, LiveRoom.roleOf?_enroll hr, LiveRoom.roleOf?_joinAll, LiveRoom.roleOf?_ofInfo,
    Option.none_or, if_congr hcreator rfl rfl, initial, List.lookup_cons, Store.lookup_map_const]
  by_cases ha : roster.hasAccount a = true
  · by_cases hac : a = f.creator
    · subst hac
      simp [ha]
    · rw [beq_eq_false_iff_ne.2 hac]
      simp [ha, hac]
  · simp [ha]

end LiveRoom

theorem Founding.info_liveRoom (f : Founding) (roster : Roster) :
    (f.liveRoom roster).info = f.info := by
  rw [liveRoom, LiveRoom.info_enroll, LiveRoom.info_joinAll, LiveRoom.info_ofInfo]

theorem Founding.id_liveRoom (f : Founding) (roster : Roster) :
    (f.liveRoom roster).id = f.info.id := by
  rw [LiveRoom.id, f.info_liveRoom]

/-- A hub that `Founds` a room stays coherent. -/
theorem Founds.coherent (hf : h.Founds h' f) (hc : h.Coherent) : h'.Coherent := by
  have hid := f.id_liveRoom h.roster
  refine hc.place hf.roster hf.rooms (f.sound_liveRoom hc.roster) (f.within_liveRoom hc.roster)
    (hc.store.of_founds hf.store) ?_ ?_
  · intro k hk
    rw [hf.store.rooms, if_neg (hid ▸ hk)]
  · intro _
    rw [hf.store.rooms, if_pos hid, f.info_liveRoom]

/-- `Founds` adds the registered connections of creator and members, in the new room only. -/
theorem Founds.holds (hf : h.Founds h' f) (hc : h.Coherent) {k : String} {d : Connection} :
    h'.rooms.Holds k d ↔ if k = f.info.id then
      h.roster.Holds d ∧ (d.account = f.creator ∨ d.account ∈ f.members)
      else h.rooms.Holds k d := by
  rw [hf.rooms.holds (f.sound_liveRoom hc.roster), f.id_liveRoom, f.holds_liveRoom hc.roster]

/-- `Founds` adds the roles of `initial`, in the new room only. -/
theorem Founds.roleOf?_rooms (hf : h.Founds h' f) (hc : h.Coherent) (k a : String) :
    h'.rooms.roleOf? k a = if k = f.info.id then
      (if h.roster.hasAccount a = true then f.initial.lookup a else none)
      else h.rooms.roleOf? k a := by
  rw [hf.rooms.roleOf? (f.sound_liveRoom hc.roster), f.id_liveRoom, f.roleOf?_liveRoom hc.roster]

theorem Founding.isSome_lookup_initial (f : Founding) (a : String) :
    (f.initial.lookup a).isSome = true ↔ a = f.creator ∨ a ∈ f.members := by
  rw [Store.isSome_lookup_iff, initial]
  simp [eq_comm]

/-! ### Putting a room into the store -/

theorem Permits.congr {account : String} (h : t.hub.Permits account f)
    (hs : u.hub.store = t.hub.store) : u.hub.Permits account f :=
  ⟨h.fits, h.creator, hs ▸ h.known, hs ▸ h.named⟩

theorem Turn.Asks.abandons {v : Turn} {account : String} (h : t.Asks u)
    (h' : u.Abandons v account f) : t.Abandons v account f := by
  obtain ⟨ms, reports, hp, hu, hne, hstorm, hfounds, hms⟩ := h'
  exact ⟨ms, reports, hp.congr h.store.symm, h.undoes.trans hu, hne,
    fun hc => hstorm (h.calm hc), h.store ▸ hfounds, hms⟩

/-- After the room was opened, `addMember` would accept all of `initial`. -/
theorem Founding.Fits.accepts (hf : f.Fits) {s s' : Store} (hs : s.Sound)
    (hopens : s.Opens f.info s') : s'.Accepts f.info.id f.initial := by
  refine ⟨?_, fun p _ => ?_, f.info, by rw [hopens.rooms, if_pos rfl]⟩
  · rw [Founding.initial, List.map_cons, List.map_map, List.nodup_cons,
      show Prod.fst ∘ (fun m : String => (m, Role.user)) = id from rfl, List.map_id]
    exact ⟨hf.others, hf.nodup⟩
  · rw [hopens.roleOf?]
    exact hs.roleOf?_eq_none hopens.fresh

/-- Members are added until one fails, where `s₀` is the store before the first one. -/
theorem addMembers_gives (room : String) (added ms : List (String × Role)) {s₀ : Store}
    (h : s₀.Adds room added t.hub.store) :
    Step.Gives (addMembers room ms) t fun r u => t.Undoes u [] ∧
      ((r = .ok () ∧ s₀.Adds room (added ++ ms) u.hub.store) ∨
        ∃ e kept, r = .error e ∧ s₀.Adds room kept u.hub.store ∧ (∀ p ∈ kept, p ∈ added ++ ms) ∧
          (t.hub.Calm → ¬ t.hub.store.Accepts room ms)) := by
  induction ms generalizing added t with
  | nil =>
    rw [List.append_nil]
    exact Step.gives_pure ⟨Turn.Undoes.refl t, Or.inl ⟨rfl, h⟩⟩
  | cons p ms ih =>
    obtain ⟨a, role⟩ := p
    rw [addMembers]
    refine (tell_gives _ (Store.spares_addMember room a role) t).bind ?_
    rintro r s (⟨store, rfl, hs, hb⟩ | ⟨e, rfl, ha, hfail⟩)
    · -- the member joins those that were added
      have hone : t.hub.store.Adds room [(a, role)] s.hub.store := by
        rw [hb.store]
        exact Store.adds_of_addMember hs
      have happ : (added ++ [(a, role)]) ++ ms = added ++ (a, role) :: ms := by simp
      rw [← happ]
      refine (ih _ (h.trans hone)).mono ?_
      rintro r u ⟨hu, hr⟩
      refine ⟨Turn.Undoes.trans ⟨hb.again, by simp⟩ hu, hr.imp_right ?_⟩
      rintro ⟨e, kept, hr, hadds, hkept, hcalm⟩
      exact ⟨e, kept, hr, hadds, hkept, fun hc haccepts => hcalm (hb.calm hc) (haccepts.tail hone)⟩
    · -- the first failure ends it, and those that were added stay
      refine Step.gives_pure ⟨ha.undoes, Or.inr ⟨e, added, rfl, ha.store ▸ h, ?_, ?_⟩⟩
      · exact fun p hp => List.mem_append_left _ hp
      · intro hc haccepts
        obtain ⟨s', hs'⟩ := haccepts.addMember
        rw [hfail hc] at hs'
        cases hs'

/-- `persist` puts a room that the account `Permits` into the store. Otherwise it `Restores` the
store, or it `Abandons` the room there and reports so. Under calm only an identifier that is taken
makes it fail. -/
theorem persist_gives (hs : t.hub.store.Sound) {account : String}
    (hpermits : t.hub.Permits account f) :
    Request.Gives (persist f) t
      (fun _ u => (t.Restores u ∧ (t.hub.Calm → t.hub.store.rooms.get? f.info.id ≠ none)) ∨
        t.Abandons u account f)
      fun _ u => t.Undoes u [] ∧ t.hub.store.Founds f.info f.initial u.hub.store := by
  unfold persist
  refine (orFail_tell_gives _ (Store.spares_createRoom f.info) t).bind ?_ ?_
  · -- the room itself could not be stored
    rintro e u ⟨ha, cause, -, hfail⟩
    refine Or.inl ⟨ha.restores, fun hcalm hfree => ?_⟩
    obtain ⟨s', hs'⟩ := Store.createRoom_of_get? hfree
    rw [hfail hcalm] at hs'
    cases hs'
  rintro - s ⟨store, hcreate, hb⟩
  have hopens : t.hub.store.Opens f.info s.hub.store := by
    rw [hb.store]
    exact Store.opens_of_createRoom hcreate
  have hs' : t.Undoes s [] := ⟨hb.again, by simp⟩
  refine Request.Gives.lift_bind
    (addMembers_gives f.info.id [] f.initial (Store.Adds.refl _ s.hub.store)) ?_
  rintro r v ⟨hv, ⟨rfl, hadds⟩ | ⟨e, ms, rfl, hadds, hms, hfail⟩⟩
  · exact Request.gives_pure ⟨hs'.trans hv, s.hub.store, hopens, hadds⟩
  · -- a member could not be added, which takes an outage, and the room is deleted again
    have hstorm : ¬ t.hub.Calm := fun hcalm =>
      hfail (hb.calm hcalm) (hpermits.fits.accepts hs hopens)
    have hfounds : t.hub.store.Founds f.info ms v.hub.store := ⟨_, hopens, hadds⟩
    have hv := hs'.trans hv
    refine Request.Gives.lift_bind (orReport_deleteRoom_gives f.info.id _ v) ?_
    rintro - u (⟨store', news, hdelete, hu, -, hnews⟩ | ⟨e', hu, -⟩)
    · have hdrops : v.hub.store.Drops f.info.id u.hub.store := hu.store ▸ hdelete
      have hstored : v.hub.store.rooms.get? f.info.id ≠ none := by
        rw [hadds.rooms, hopens.rooms, if_pos rfl]
        exact Option.some_ne_none f.info
      obtain rfl := hnews hstored
      have hu' : v.Undoes u [] := ⟨hu.again, by simp⟩
      exact Request.gives_throw (Or.inl ⟨⟨hv.trans hu', hfounds.alike_of_drops hs hdrops⟩,
        fun hcalm => absurd hcalm hstorm⟩)
    · -- the room stays, which is reported
      have hu' : v.Undoes u [.report (.roomNotUndone f.info.id e')] :=
        ⟨hu.again, by simp [Effect.IsUndoFailure]⟩
      exact Request.gives_throw (Or.inr ⟨ms, _, hpermits, hv.trans hu', by simp, hstorm,
        hu.store ▸ hfounds, hms⟩)

/-! ### Making a room live -/

/-- `inviteDevices` lets in the devices of the members one after the other, which is what `enroll`
does, and tells each of them. -/
theorem inviteDevices_gives (invited : RoomInfo) (members : List String) (room : LiveRoom)
    (t : Turn) :
    Step.Gives (inviteDevices (.invited invited) members room) t fun room' u =>
      t.Speaks u ∧ room' = room.enroll t.hub.roster .user members := by
  induction members generalizing room t with
  | nil => exact Step.gives_pure ⟨(Turn.Asks.refl t).speaks, rfl⟩
  | cons member members ih =>
    rw [inviteDevices]
    refine (look_gives _ t).bind ?_
    rintro cs s ⟨rfl, rfl⟩
    refine Step.Gives.bind (sendAll_speaks _ ?_ s) fun _ v hv => ?_
    · exact fun _ => trivial
    refine (ih _ v).mono ?_
    rintro room' u ⟨hu, rfl⟩
    exact ⟨hv.trans hu, by rw [hv.roster]; rfl⟩

/-- `openRoom` makes the room live with everyone who is connected, and leaves the store as it is. -/
theorem openRoom_gives (f : Founding) (t : Turn) :
    Step.Gives (openRoom f) t fun room u => t.Informs u ∧ room = f.liveRoom t.hub.roster ∧
      u.hub.rooms = t.hub.rooms.enlist room ∧ u.hub.store = t.hub.store := by
  unfold openRoom
  refine (look_gives _ t).bind ?_
  rintro cs s ⟨rfl, rfl⟩
  refine (inviteDevices_gives f.info f.members _ s).bind ?_
  rintro room v ⟨hv, rfl⟩
  refine (enlistRoom_gives _ v).bind fun _ u hu => Step.gives_pure ⟨?_, rfl, ?_, ?_⟩
  · exact hv.informs.trans (hu.informs (by simp))
  · rw [hu.rooms, hv.rooms]
  · rw [hu.store, hv.store]

/-- `Founds` of the hub, from `Store.Founds` and `enlist`. -/
theorem founds_of_enlist (hc : h.Coherent) (hroster : h'.roster = h.roster)
    (hrooms : h'.rooms = h.rooms.enlist (f.liveRoom h.roster))
    (hstore : h.store.Founds f.info f.initial h'.store) : h.Founds h' f := by
  refine ⟨hroster, ?_, hstore⟩
  rw [hrooms]
  apply LiveRooms.places_enlist
  obtain ⟨s, hopens, -⟩ := hstore
  have hid := f.id_liveRoom h.roster
  cases hlive : h.rooms.get? (f.liveRoom h.roster).id with
  | none => rfl
  | some room =>
    have hstored := hc.stored _ room hlive
    rw [hid, hopens.fresh] at hstored
    cases hstored

/-! ### The request -/

/-- `checkMembers` lets pass a list without the creator, and of one other account if the room is
private. -/
theorem checkMembers_eq_ok_iff {creator : String} {isPrivate : Bool} {members : List String} :
    checkMembers creator isPrivate members = .ok () ↔
      creator ∉ members ∧ (isPrivate = true → members.length = 1) := by
  unfold checkMembers
  split_ifs with hm hp
  · rw [List.contains_iff_mem] at hm
    exact iff_of_false nofun fun h => h.1 hm
  · rw [Bool.and_eq_true, bne_iff_ne] at hp
    exact iff_of_false nofun fun h => hp.2 (h.2 hp.1)
  · rw [List.contains_iff_mem] at hm
    refine iff_of_true rfl ⟨hm, fun hprivate => ?_⟩
    rw [hprivate, Bool.true_and, bne_iff_ne, ne_eq, not_not] at hp
    exact hp

/-- `publicName` lets pass a name that is not blank and does not look like that of a private room.
-/
theorem publicName_eq_ok_iff {name? : Option String} {name : String} :
    publicName name? = .ok name ↔ name? = some name ∧ Text.trimChars name.toList ≠ [] ∧
      privateMark.toList.isPrefixOf name.toList = false := by
  unfold publicName
  split
  · -- no name is given, or a blank one
    rename_i hnone
    rw [Option.filter_eq_none_iff] at hnone
    refine iff_of_false nofun fun ⟨hname, hblank, _⟩ => hnone name hname ?_
    rwa [bne_iff_ne]
  · rename_i given hgiven
    rw [Option.filter_eq_some_iff, bne_iff_ne] at hgiven
    obtain ⟨rfl, hblank⟩ := hgiven
    split_ifs with hp
    · refine iff_of_false nofun fun ⟨hname, _, hpublic⟩ => ?_
      rw [Option.some.inj hname, hpublic] at hp
      cases hp
    · rw [Bool.not_eq_true] at hp
      constructor
      · intro hok
        obtain rfl := Except.ok.inj hok
        exact ⟨rfl, hblank, hp⟩
      · rintro ⟨hname, -⟩
        rw [Option.some.inj hname]

theorem distinct_eq_singleton_iff {ids : List String} {m : String} :
    distinct ids = [m] ↔ ∀ x, x ∈ ids ↔ x = m := by
  rw [← List.perm_singleton,
    List.perm_ext_iff_of_nodup (nodup_distinct ids) (List.nodup_singleton m)]
  simp only [mem_distinct, List.mem_singleton]

/-- The checks of `checkMembers` and `newName`, which do not need the store, tell whether the
request `Names` the room. -/
theorem names_iff {account name : String} {r : CreateRequest} :
    (checkMembers account r.isPrivate (distinct r.members) = .ok () ∧
        newName account r (distinct r.members) = .ok name) ↔
      account ∉ r.members ∧ r.Names account name := by
  rw [checkMembers_eq_ok_iff, mem_distinct, and_assoc]
  refine and_congr_right fun _ => ?_
  unfold newName
  cases hp : r.isPrivate with
  | false =>
    -- a public room has the name that is asked for
    rw [publicName_eq_ok_iff]
    constructor
    · rintro ⟨-, hname⟩
      exact ⟨by simp [hp], fun _ => hname⟩
    · exact fun hnames => ⟨nofun, hnames.isPublic hp⟩
  | true =>
    -- a private room has the name of the account and of its only member
    constructor
    · rintro ⟨hlen, hname⟩
      obtain ⟨m, hm⟩ := List.length_eq_one_iff.1 (hlen rfl)
      rw [hm] at hname
      obtain rfl := Except.ok.inj hname
      exact ⟨fun _ => ⟨m, distinct_eq_singleton_iff.1 hm, rfl⟩, by simp [hp]⟩
    · intro hnames
      obtain ⟨m, hm, rfl⟩ := hnames.isPrivate hp
      rw [distinct_eq_singleton_iff.2 hm]
      exact ⟨fun _ => rfl, rfl⟩

/-- The checks of the request `r` for a new room. What is left is the name of the room. -/
def admission (c : Connection) (r : CreateRequest) : Request String := do
  let members := distinct r.members
  checkMembers c.account r.isPrivate members
  knownAccounts members
  let name ← newName c.account r members
  if (← orFail (ask .roomByName (·.roomByName? name))).isSome then throw .roomNameTaken
  pure name

/-- What is made on the request `r` of `c` for a new room with this `name`. -/
def foundingOf (c : Connection) (r : CreateRequest) (name id : String) : Founding where
  info := ⟨id, name, r.description, r.inviteOnly, r.isPrivate⟩
  creator := c.account
  role := if r.isPrivate then .user else .admin
  members := distinct r.members

theorem refuse_bind {α β : Type} {p : Prop} [Decidable p] (e : ChatError) (a : α)
    (k : α → Request β) : ((if p then (throw e : Request Unit) >>= fun _ => pure a else pure a) >>=
      k) = if p then (throw e : Request Unit) >>= fun _ => k a else k a := by
  split
  · rfl
  · rfl

/-- `createRoom` is `admission`, and then the room is made. -/
theorem createRoom_eq (c : Connection) (r : CreateRequest) : createRoom c r = (do
    let name ← admission c r
    let id ← newRoomId
    persist (foundingOf c r name id)
    let _ ← openRoom (foundingOf c r name id)
    replyAndForward c "create-room" (infoResult (foundingOf c r name id).info)) := by
  unfold createRoom admission foundingOf
  simp only [bind_assoc]
  refine bind_congr fun _ => bind_congr fun _ => bind_congr fun name => bind_congr fun room? => ?_
  rw [refuse_bind]

/-- `admission` changes nothing, and under calm it passes exactly if the store `Admits` the request.
-/
theorem admission_gives (c : Connection) (r : CreateRequest) (t : Turn) :
    Request.Gives (admission c r) t
      (fun _ u => t.Asks u ∧
        (t.hub.Calm → ¬ ∃ name, t.hub.store.Admits c.account r name))
      fun name u => t.Asks u ∧ t.hub.store.Admits c.account r name := by
  unfold admission
  refine Request.Gives.except_bind (fun e he => ⟨Turn.Asks.refl t, fun _ => ?_⟩) ?_
  · rintro ⟨name, hadmits⟩
    rw [(names_iff.2 ⟨hadmits.others, hadmits.names⟩).1] at he
    cases he
  rintro ⟨⟩ hmembers
  refine (knownAccounts_gives _ t).bind ?_ ?_
  · rintro e s ⟨hs, hf⟩
    refine ⟨hs, fun hcalm ⟨name, hadmits⟩ => ?_⟩
    rcases hf with hf | ⟨m, hm, -, hnone⟩
    · exact hf.1 hcalm
    · have hknown := hadmits.known m (mem_distinct.1 hm)
      rw [hnone] at hknown
      cases hknown
  rintro - s ⟨hs, hknown⟩
  refine Request.Gives.except_bind (fun e he => ⟨hs, fun _ => ?_⟩) ?_
  · rintro ⟨name, hadmits⟩
    rw [(names_iff.2 ⟨hadmits.others, hadmits.names⟩).2] at he
    cases he
  intro name hname
  obtain ⟨hothers, hnames⟩ := names_iff.1 ⟨hmembers, hname⟩
  refine (orFail_ask_gives _ _ s).bind ?_ ?_
  · rintro e v ⟨hv, hf⟩
    exact ⟨hs.trans hv, fun hcalm => absurd (hs.calm hcalm) hf.1⟩
  rintro room? v ⟨hv, rfl⟩
  rw [hs.store]
  refine Request.Gives.refuse (fun htaken => ⟨hs.trans hv, fun _ => ?_⟩) fun hnew => ?_
  · rintro ⟨name', hadmits⟩
    -- the request gives no other name
    have hname' := (names_iff.2 ⟨hadmits.others, hadmits.names⟩).2
    obtain rfl : name = name' := Except.ok.inj (hname.symm.trans hname')
    rw [Store.roomByName?_eq_none_iff.2 hadmits.unused] at htaken
    cases htaken
  · rw [Option.not_isSome_iff_eq_none, Store.roomByName?_eq_none_iff] at hnew
    exact Request.gives_pure ⟨hs.trans hv, hothers,
      fun m hm => hknown m (mem_distinct.2 hm), hnames, hnew⟩

/-- What the store `Admits`, the hub `Permits`. -/
theorem permits_of_admits {c : Connection} {r : CreateRequest} {name : String}
    (ha : h.store.Admits c.account r name) (id : String) :
    h.Permits c.account (foundingOf c r name id) where
  fits := by
    refine ⟨fun hm => ha.others (mem_distinct.1 hm), nodup_distinct _, fun hp => ?_, fun hp => ?_⟩
    · obtain ⟨m, hm, hname⟩ := ha.names.isPrivate hp
      exact ⟨if_pos hp, m, distinct_eq_singleton_iff.2 hm, hname⟩
    · exact ⟨if_neg (Bool.eq_false_iff.1 hp), (ha.names.isPublic hp).2.2⟩
  creator := rfl
  known m hm := ha.known m (mem_distinct.1 hm)
  named := ha.unused

/-- `createRoom` that fails `Restores` the hub, or `Abandons` a room in the store and reports so.
One that is carried out `Founds` a room. -/
theorem createRoom_gives (hc : t.hub.Coherent) (c : Connection) (r : CreateRequest) :
    Request.Gives (createRoom c r) t
      (fun _ u => t.Restores u ∨ ∃ f, t.Abandons u c.account f)
      fun _ u => ∃ f, t.hub.Permits c.account f ∧ t.hub.Founds u.hub f ∧
        ∃ result, t.Answers u c "create-room" result := by
  rw [createRoom_eq]
  refine (admission_gives c r t).bind (fun _ _ hu => Or.inl hu.1.restores) ?_
  rintro name v ⟨hv, hadmits⟩
  refine Request.Gives.lift_bind (newRoomId_gives v) ?_
  rintro id w ⟨hw, -⟩
  have hw := hv.trans hw
  have hpermits := permits_of_admits hadmits id
  refine (persist_gives (hw.store ▸ hc.store) (hpermits.congr hw.store)).bind ?_ ?_
  · -- nothing is live yet, so what `persist` leaves is all that is left
    rintro e u (⟨hu, -⟩ | hu)
    · exact Or.inl (hw.restores_trans hu)
    · exact Or.inr ⟨_, hw.abandons hu⟩
  rintro - x ⟨hx, hfounds⟩
  have hx := (hw.undoes.trans hx).1
  refine Request.Gives.lift_bind (openRoom_gives _ x) ?_
  rintro room y ⟨hy, rfl, hrooms, hstore⟩
  have hy' : t.Informs y := (hx.informs (by simp)).trans hy
  refine Request.Gives.lift ((hy'.answers c _ _).mono ?_)
  rintro - u ⟨hu, hrooms', hstore'⟩
  refine ⟨_, hpermits, founds_of_enlist hc hu.roster ?_ ?_, _, hu⟩
  · rw [hrooms', hrooms, hx.rooms, hx.roster]
  · rw [hstore', hstore, ← hw.store]
    exact hfounds

end Hub

end GroupChat
