import GroupChat.Proofs.Hub.History
import GroupChat.Proofs.Hub.Replay
import GroupChat.Proofs.Hub.Replies
import GroupChat.Proofs.Hub.Told

/-!
# Which new rooms are made

A request for a new room passes several checks, and then the room is put into the store, where its
identifier must be new. As rooms get the identifiers of a source one after the other, where these
are all different the checks alone decide. The members that were put into the store are those whose
devices are let in, and all but the devices of the creator are invited.

## Main definitions

- `CreateRequest.roleOf?`: the role that an account gets in a new room.
- `Hub.Creates`: a new room was made as it was asked for, and its members were told.

## Main statements

- `Reachable.minted`: stored rooms have identifiers that were used.
- `createRoom_creates`: a request makes a room exactly if the store admits it.
- `creates_of_reachable`: the same, in all states.
-/

namespace GroupChat

open Hub (toldTo infoResult)

/-- The role that `account` gets in the new room that `creator` has asked for with `r`. -/
def CreateRequest.roleOf? (r : CreateRequest) (creator account : String) : Option Role :=
  if account = creator then some (if r.isPrivate then .user else .admin)
  else if account ∈ r.members then some .user else none

namespace Hub

/-- The hub `h` becomes `h'` as `c` has asked for with `r`: a room `info` with the registered
connections of its members was made, and the `effects` invite those who were listed. -/
structure Creates (h h' : Hub) (c : Connection) (r : CreateRequest) (effects : List Effect)
    (info : RoomInfo) : Prop where
  /-- The room is new. -/
  fresh : h.store.rooms.get? info.id = none
  /-- It is described as it was asked for. -/
  description : info.description = r.description
  /-- It is open as it was asked for. -/
  inviteOnly : info.inviteOnly = r.inviteOnly
  /-- It is private if that was asked for. -/
  isPrivate : info.isPrivate = r.isPrivate
  /-- It has the name that follows from the request. -/
  names : r.Names c.account info.name
  /-- It is stored, and the other rooms stayed. -/
  rooms : ∀ k, h'.store.rooms.get? k = if k = info.id then some info else h.store.rooms.get? k
  /-- Its members have their roles, and those of the other rooms stayed. -/
  roles : ∀ k a, h'.store.roleOf? k a =
    if k = info.id then r.roleOf? c.account a else h.store.roleOf? k a
  /-- The registered connections of its members are in it, and the other live rooms stayed. -/
  holds : ∀ k d, h'.rooms.Holds k d ↔
    if k = info.id then h.roster.Holds d ∧ (r.roleOf? c.account d.account).isSome = true
    else h.rooms.Holds k d
  /-- Their accounts have the same roles there. -/
  liveRoles : ∀ k a, h'.rooms.roleOf? k a =
    if k = info.id then (if h.roster.hasAccount a then r.roleOf? c.account a else none)
    else h.rooms.roleOf? k a
  /-- What clients are told, in order. -/
  told : ∀ d, toldTo d effects =
    (if h.roster.Holds d ∧ d.account ∈ r.members then [.invited info] else []) ++
      h.answerFor c "create-room" info.shown d

variable {h : Hub} {t : Turn} {c : Connection} {e : Envelope} {r : CreateRequest} {name : String}

/-! ### Identifiers -/

/-- From `fresh accounts mint []`, every stored room has an identifier that `mint.room` gave to a
number below `drawn.rooms`. -/
theorem Reachable.minted {accounts : List Account} {mint : Mint}
    (hr : Reachable (fresh accounts mint []) h) : h.mint = mint ∧
      ∀ k, (h.store.rooms.get? k).isSome = true → ∃ n < h.drawn.rooms, k = mint.room n := by
  induction hr with
  | start => exact ⟨rfl, nofun⟩
  | @step h item before fits ih =>
    obtain ⟨hmint, hused⟩ := ih
    have hstart := coherent_fresh accounts mint []
    have hdraws := handle_draws h item
    refine ⟨hdraws.mint.trans hmint, fun k hk => ?_⟩
    by_cases hold : (h.store.rooms.get? k).isSome = true
    · -- its number was below the count, which only grows
      obtain ⟨n, hn, hid⟩ := hused k hold
      exact ⟨n, Nat.lt_of_lt_of_le hn hdraws.rooms, hid⟩
    · -- the room was made by the item
      rw [Option.not_isSome_iff_eq_none] at hold
      have htallies := handle_tallies (before.coherent hstart) fits
      obtain ⟨n, hid, -, hn⟩ := htallies.mints (before.calm hstart rfl) k ⟨hold, hk⟩
      exact ⟨n, hn, hmint ▸ hid⟩

/-- If `mint.room` is injective, the identifiers that are yet to be drawn are the keys of no stored
room. -/
theorem Reachable.unused {accounts : List Account} {mint : Mint}
    (hr : Reachable (fresh accounts mint []) h) (hmint : Function.Injective mint.room) {n : Nat}
    (hn : h.drawn.rooms ≤ n) : h.store.rooms.get? (h.mint.room n) = none := by
  obtain ⟨hsame, hused⟩ := hr.minted
  rw [← Option.not_isSome_iff_eq_none]
  intro hsome
  obtain ⟨m, hm, hid⟩ := hused _ hsome
  rw [hsame] at hid
  have hnm : n = m := hmint hid
  omega

/-! ### Inviting devices -/

/-- `inviteDevices` tells each device of the `members` once. That the members are all different is
needed, since `roster.connectionsOf` is asked for each of them. -/
theorem inviteDevices_utters (invited : RoomInfo) (members : List String) (room : LiveRoom)
    (t : Turn) (hs : t.hub.roster.Sound) (hn : members.Nodup) :
    Step.Gives (inviteDevices (.invited invited) members room) t fun _ u => t.Utters u fun d =>
      if t.hub.roster.Holds d ∧ d.account ∈ members then [.invited invited] else [] := by
  induction members generalizing room t with
  | nil =>
    refine Step.gives_pure ((Turn.Asks.refl t).utters.congr fun d => ?_)
    simp
  | cons m members ih =>
    rw [List.nodup_cons] at hn
    rw [inviteDevices]
    -- the devices of the first member, and then those of the others
    refine (look_gives _ t).bind ?_
    rintro - s ⟨rfl, rfl⟩
    refine (sendAll_utters (hs.nodup_connectionsOf m) _ s).bind ?_
    rintro - v ⟨hv, hfirst⟩
    refine (ih _ v (hv.roster ▸ hs) hn.2).mono fun _ u hu => ?_
    refine (hfirst.trans hu).congr fun d => ?_
    rw [hv.roster]
    simp only [hs.mem_connectionsOf, List.mem_cons]
    by_cases hd : d.account = m
    · -- no later member has the same account
      have hlater : d.account ∉ members := hd ▸ hn.1
      simp [hd, hn.1]
    · simp [hd]

/-- `openRoom` makes a room live, and sends `.invited` to the devices of `Founding.members` only;
the devices of the creator, which join as well, are not told so. -/
theorem openRoom_utters (f : Founding) (t : Turn) (hs : t.hub.roster.Sound)
    (hn : f.members.Nodup) :
    Step.Gives (openRoom f) t fun _ u => t.Utters u fun d =>
      if t.hub.roster.Holds d ∧ d.account ∈ f.members then [.invited f.info] else [] := by
  unfold openRoom
  refine (look_gives _ t).bind ?_
  rintro - s ⟨rfl, rfl⟩
  refine (inviteDevices_utters f.info f.members _ s hs hn).bind fun room v hv => ?_
  refine (enlistRoom_gives room v).bind fun _ u hu => Step.gives_pure ?_
  exact (hv.trans hu.utters).congr fun d => List.append_nil _

/-! ### The request -/

/-- `Founding.initial` of a request gives each account the role that `CreateRequest.roleOf?` reads
off the request. -/
theorem lookup_initial_foundingOf (c : Connection) (r : CreateRequest) (name id a : String) :
    (foundingOf c r name id).initial.lookup a = r.roleOf? c.account a := by
  have hlisted := Store.lookup_map_const (distinct r.members) .user a
  rw [Founding.initial, List.lookup_cons, CreateRequest.roleOf?]
  by_cases ha : a = c.account
  · rw [if_pos ha, ha, foundingOf, beq_self_eq_true]
  · have hne : (a == c.account) = false := beq_eq_false_iff_ne.2 ha
    rw [if_neg ha, foundingOf]
    simp only [hne, hlisted, mem_distinct]

/-- `Founds` and what was told make `Creates`: the stored room, the roles, the live room and the
invitations are those that were asked for. -/
theorem Founds.creates {h' : Hub} {effects : List Effect} {id : String} (hc : h.Coherent)
    (hadmits : h.store.Admits c.account r name)
    (hf : h.Founds h' (foundingOf c r name id))
    (htold : ∀ d, toldTo d effects =
      (if h.roster.Holds d ∧ d.account ∈ r.members then
          [.invited (foundingOf c r name id).info] else []) ++
        h.answerFor c "create-room" (foundingOf c r name id).info.shown d) :
    h.Creates h' c r effects (foundingOf c r name id).info where
  fresh := hf.store.fresh
  description := rfl
  inviteOnly := rfl
  isPrivate := rfl
  names := hadmits.names
  rooms := hf.store.rooms
  roles k a := by rw [hf.store.roles hc.store, lookup_initial_foundingOf]
  holds k d := by
    have hmember := (foundingOf c r name id).isSome_lookup_initial d.account
    rw [lookup_initial_foundingOf] at hmember
    rw [hf.holds hc, hmember]
  liveRoles k a := by rw [hf.roleOf?_rooms hc, lookup_initial_foundingOf]
  told := htold

section Request

variable (hc : h.Coherent) (hcalm : h.Calm) (hreg : h.roster.Holds c)
  (hunused : ∀ n, h.drawn.rooms ≤ n → h.store.rooms.get? (h.mint.room n) = none)
include hc hcalm hreg hunused

/-- `createRoom` under calm: it succeeds exactly if `Store.Admits` the request, with `Creates` after
it, and a request that fails leaves `Unchanged` and tells nobody anything before the error. -/
theorem createRoom_creates (r : CreateRequest) :
    Request.Gives (createRoom c r) { hub := h }
      (fun _ u => (¬ ∃ name, h.store.Admits c.account r name) ∧ u.effects = [])
      fun _ u => (∃ name, h.store.Admits c.account r name) ∧
        (∃ reply, Effect.send c (.success reply) ∈ u.effects) ∧
        ∃ info, h.Creates u.hub c r u.effects info := by
  rw [createRoom_eq]
  refine ((admission_gives c r { hub := h }).and (admission_draws c r _)).bind ?_ ?_
  · rintro - u ⟨⟨hu, hnot⟩, -⟩
    exact ⟨hnot hcalm, hu.effects⟩
  rintro name v ⟨⟨hv, hadmits⟩, hdraws⟩
  refine Request.Gives.lift_bind (newRoomId_gives v) ?_
  rintro id w ⟨hw, hid⟩
  have hw := hv.trans hw
  have hpermits := permits_of_admits hadmits id
  -- the drawn identifier is the key of no stored room
  have hfresh : w.hub.store.rooms.get? id = none := by
    rw [hid, hw.store, hdraws.mint]
    exact hunused _ hdraws.rooms
  refine (persist_gives (hw.store ▸ hc.store) (hpermits.congr hw.store)).bind ?_ ?_
  · -- the identifier is not taken, and nothing else can fail
    rintro e u (⟨-, htaken⟩ | ⟨-, -, -, -, -, hstorm, -⟩)
    · exact absurd hfresh (htaken (hw.calm hcalm))
    · exact absurd (hw.calm hcalm) hstorm
  rintro - x ⟨hx, hfounds⟩
  have hx := (hw.undoes.trans hx).1
  have hroster : x.hub.roster = h.roster := hx.roster
  refine Request.Gives.lift_bind ((openRoom_gives _ x).and (openRoom_utters _ x
    (hroster ▸ hc.roster) (nodup_distinct r.members))) ?_
  rintro room y ⟨⟨-, rfl, hrooms, hstore⟩, hinvited⟩
  have hrest : y.hub.roster = h.roster := hinvited.roster.trans hroster
  refine Request.Gives.lift (((replyAndForward_gives c _ _ y).and
    (replyAndForward_utters hc.roster hreg (replyWith_infoResult ..) hrest)).mono ?_)
  rintro - u ⟨hu, hreply, htold⟩
  -- what follows the checks leaves the store as `persist` has made it
  have hlives : h.Founds u.hub (foundingOf c r name id) := by
    refine founds_of_enlist hc (hu.roster.trans hrest) ?_ ?_
    · rw [hu.rooms, hrooms, hx.rooms, hroster]
    · rw [hu.store, hstore]
      rw [hw.store] at hfounds
      exact hfounds
  -- first the invitations and then the answer
  have htells : ∀ d, toldTo d u.effects =
      (if h.roster.Holds d ∧ d.account ∈ r.members then
          [.invited (foundingOf c r name id).info] else []) ++
        h.answerFor c "create-room" (foundingOf c r name id).info.shown d := by
    intro d
    rw [htold.told, hinvited.told, hx.effects, hroster]
    simp only [foundingOf, mem_distinct]
    rfl
  exact ⟨⟨name, hadmits⟩, hreply, _, hlives.creates hc hadmits htells⟩

end Request

/-- **Exactly the valid requests for rooms are admitted.** In every state that a hub reaches from
one without rooms, while the store is in reach, and if rooms get different identifiers, a request of
a registered connection for a new room is carried out exactly if its account is not listed, those
who are listed exist, and the room gets a name that no room has: if it is private, that of the
account and of the only one that is listed, and else the one that is asked for, which is neither
blank nor like that of a private room. Then one room is added to the store with the account and
those who are listed as its members, and becomes live with their registered connections. Each
registered connection of those who are listed is invited once, and the devices of the account are
told the answer. Nobody else is told anything. -/
theorem creates_of_reachable {accounts : List Account} {mint : Mint}
    (hmint : Function.Injective mint.room) (hr : Reachable (fresh accounts mint []) h)
    (hreg : h.roster.get? c.id = some c) (he : ClientEvent.decode e = .ok (.createRoom r)) :
    ((∃ reply, Effect.send c (.success reply) ∈ (h.handle (.event c e)).2) ↔
        ∃ name, h.store.Admits c.account r name) ∧
      ((∃ name, h.store.Admits c.account r name) → ∃ info,
        h.Creates (h.handle (.event c e)).1 c r (h.handle (.event c e)).2 info) := by
  have hc := hr.coherent (coherent_fresh accounts mint [])
  have hcalm := hr.calm (coherent_fresh accounts mint []) rfl
  exact success_iff_of_gives (D := fun h' effects => ∃ info, h.Creates h' c r effects info) hreg
    (serve_gives he (createRoom_creates hc hcalm hreg (fun _ hn => hr.unused hmint hn) r))

/-- The envelope of `ann` with a request for the public room `den` and one other member, `bob`, who
is listed twice. -/
def invocation : Envelope :=
  ⟨"create-room", .object [("name", .text "den"), ("members", .list [.text "bob", .text "bob"])]⟩

/-- The room is made, and the device of the other member is told so once. -/
theorem creates_invocation : ∃ h r, Function.Injective (Mint.counting 0).room ∧
    Reachable (lobby []) h ∧ h.roster.get? ann.id = some ann ∧
    ClientEvent.decode invocation = .ok (.createRoom r) ∧
    (∃ name, h.store.Admits "ann" r name) ∧
    (∃ info, h.Creates (h.handle (.event ann invocation)).1 ann r
      (h.handle (.event ann invocation)).2 info) ∧
    (toldTo bob (h.handle (.event ann invocation)).2).length = 1 := by
  have hmint := Mint.injective_counting 0
  have hr : Reachable (lobby []) ((lobby []).run [.register ann, .register bob]).1 :=
    Reachable.start.run (by decide +kernel)
  have hreg : ((lobby []).run [.register ann, .register bob]).1.roster.get? ann.id = some ann := by
    decide +kernel
  have hdecode : ClientEvent.decode invocation =
      .ok (.createRoom ⟨some "den", "", false, false, ["bob", "bob"]⟩) := rfl
  have hok : ∃ reply, Effect.send ann (.success reply) ∈
      (((lobby []).run [.register ann, .register bob]).1.handle (.event ann invocation)).2 :=
    exists_isSuccessTo_iff.1 (by decide +kernel)
  obtain ⟨hiff, hcreates⟩ := creates_of_reachable hmint hr hreg hdecode
  have hadmits := hiff.1 hok
  exact ⟨_, _, hmint, hr, hreg, hdecode, hadmits, hcreates hadmits, by decide +kernel⟩

end Hub

end GroupChat
