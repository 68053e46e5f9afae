import GroupChat.Proofs.Hub.Mirror

/-!
# What references stand for

Live rooms are looked at before the store. As every live room is a stored one, and no two stored
rooms have the same name, the live rooms matter for one kind of reference only: one that is the
identifier of a stored room that is not live, and at once the name of another room that is live. All
other references are resolved as if there were the store alone.

## Main definitions

- `Hub.Resolves`, `Hub.Rejects`: what becomes of a reference.
- `Store.Means`: the stored room of an identifier, or else the one of a name.
- `Store.Ambiguous`: a reference is the identifier of one stored room and the name of another.
- `Hub.Shadows`: a live room that is found in the place of the one that the store means.
- `Hub.Distinct`: no two stored rooms have the same name.

## Main statements

- `Coherent.resolves_iff`, `Coherent.rejects_iff`: both, told by what is found.
- `Distinct.move`: a move preserves that names are different.
- `resolves_of_reachable`: what references stand for in all states.
-/

namespace GroupChat

/-- The stored room `info` is the one that `ref` means: the one of that identifier, or if there is
none, the one of that name. -/
def Store.Means (s : Store) (ref : String) (info : RoomInfo) : Prop :=
  s.rooms.get? info.id = some info ∧ (info.id = ref ∨ s.rooms.get? ref = none ∧ info.name = ref)

/-- `ref` is the identifier of one stored room and the name of another. -/
def Store.Ambiguous (s : Store) (ref : String) : Prop :=
  (s.rooms.get? ref).isSome = true ∧
    ∃ other : RoomInfo, s.rooms.get? other.id = some other ∧ other.id ≠ ref ∧ other.name = ref

/-- If `ref` is the identifier of a stored room, it `Means` that room. -/
theorem Store.Sound.means_iff_of_get? {s : Store} (hs : s.Sound) {ref : String}
    {info own : RoomInfo} (hown : s.rooms.get? ref = some own) : s.Means ref info ↔ own = info := by
  constructor
  · rintro ⟨hi, rfl | ⟨hnone, -⟩⟩
    · exact Option.some.inj (hown.symm.trans hi)
    · rw [hown] at hnone
      cases hnone
  · rintro rfl
    have hkey : own.id = ref := hs.keyed ref own hown
    exact ⟨hkey.symm ▸ hown, Or.inl hkey⟩

namespace Hub

/-- The hub finds the room `info` for `ref`, by `resolve`. -/
def Resolves (h : Hub) (ref : String) (info : RoomInfo) : Prop :=
  ∃ room, ((resolve ref).run { hub := h }).1 = .ok room ∧ room.info = info

/-- The hub finds no room for `ref`, for the reason `e`. -/
def Rejects (h : Hub) (ref : String) (e : ChatError) : Prop :=
  ((resolve ref).run { hub := h }).1 = .error e

/-- A live room has the name `ref`, which is the identifier of the stored room `other`, and the
latter is not live. -/
structure Shadows (h : Hub) (ref : String) (other : RoomInfo) : Prop where
  /-- There is a stored room of the identifier. -/
  identified : (h.store.rooms.get? ref).isSome = true
  /-- It is not live. -/
  idle : h.rooms.get? ref = none
  /-- The other room is live. -/
  live : ∃ room, h.rooms.get? other.id = some room ∧ room.info = other
  /-- Its name is the identifier. -/
  named : other.name = ref

/-- `ref` stands for the room `info`: a live room that `Shadows` what the store means, or if there
is none, what the store `Means`. -/
def Denotes (h : Hub) (ref : String) (info : RoomInfo) : Prop :=
  h.Shadows ref info ∨ (∀ other, ¬ h.Shadows ref other) ∧ h.store.Means ref info

/-- No two stored rooms have the same `RoomInfo.name`. -/
def Distinct (h : Hub) : Prop :=
  ∀ k k' info info', h.store.rooms.get? k = some info → h.store.rooms.get? k' = some info' →
    info.name = info'.name → k = k'

variable {h h' : Hub} {item : Inbound} {ref : String} {info : RoomInfo}

/-! ### What is found -/

/-- While the store is in reach, `resolve` finds what `resolved?` tells. -/
theorem Coherent.resolves_iff (hc : h.Coherent) (hcalm : h.Calm) :
    h.Resolves ref info ↔ h.resolved? ref = some info := by
  have hgives := resolve_gives (t := { hub := h }) hc ref
  rw [Resolves, show ((resolve ref).run { hub := h }).1 = (resolve ref { hub := h }).1 from rfl]
  rcases hx : resolve ref { hub := h } with ⟨e | room, u⟩
  · -- in calm weather there is no other error than that no room is found
    obtain ⟨-, ⟨hstorm, -⟩ | ⟨-, hnone⟩⟩ := hgives.of_error hx
    · exact absurd hcalm hstorm
    · rw [show h.resolved? ref = none from hnone]
      simp
  · obtain ⟨-, found, hfound, rfl⟩ := hgives.of_ok hx
    have hinfo : (h.rooms.roomOf found).info = found :=
      hc.info_roomOf (stored_of_resolved? hc hfound).1
    rw [show h.resolved? ref = some found from hfound]
    simp [hinfo]

/-- While the store is in reach, `resolve` fails only if `resolved?` tells nothing. -/
theorem Coherent.rejects_iff (hc : h.Coherent) (hcalm : h.Calm) {e : ChatError} :
    h.Rejects ref e ↔ e = .roomNotFound ∧ h.resolved? ref = none := by
  have hgives := resolve_gives (t := { hub := h }) hc ref
  rw [Rejects, show ((resolve ref).run { hub := h }).1 = (resolve ref { hub := h }).1 from rfl]
  rcases hx : resolve ref { hub := h } with ⟨e' | room, u⟩
  · obtain ⟨-, ⟨hstorm, -⟩ | ⟨rfl, hnone⟩⟩ := hgives.of_error hx
    · exact absurd hcalm hstorm
    · rw [show h.resolved? ref = none from hnone]
      simp [eq_comm]
  · obtain ⟨-, found, hfound, -⟩ := hgives.of_ok hx
    rw [show h.resolved? ref = some found from hfound]
    simp

/-! ### Names -/

/-- A room that is stored after a `Move` was stored before, or it is the only one that the move
made, and its name is new. -/
theorem Move.stored_or_made (hm : h.Move item h') {k : String} {info : RoomInfo}
    (hk : h'.store.rooms.get? k = some info) : h.store.rooms.get? k = some info ∨
      k = info.id ∧ (∀ k i, h.store.rooms.get? k = some i → i.name ≠ info.name) ∧
        ∀ k, h'.store.rooms.get? k = if k = info.id then some info else h.store.rooms.get? k := by
  -- what is known of a room that was put into the store
  have hmade : ∀ {c : Connection} {f : Founding}, h.Permits c.account f →
      (∀ k, h'.store.rooms.get? k = if k = f.info.id then some f.info else h.store.rooms.get? k) →
      h.store.rooms.get? k = some info ∨
        k = info.id ∧ (∀ k i, h.store.rooms.get? k = some i → i.name ≠ info.name) ∧
          ∀ k, h'.store.rooms.get? k = if k = info.id then some info else h.store.rooms.get? k := by
    intro c f permits hrooms
    have hkf := hk
    rw [hrooms] at hkf
    split_ifs at hkf with hid
    · obtain rfl := Option.some.inj hkf
      exact Or.inr ⟨hid, permits.named, hrooms⟩
    · exact Or.inl hkf
  cases hm with
  | still still => exact Or.inl (still.store.rooms k ▸ hk)
  | registered registers => exact Or.inl ((agrees_of_presence registers.store).rooms k ▸ hk)
  | unregistered unregisters => exact Or.inl ((agrees_of_presence unregisters.store).rooms k ▸ hk)
  | loaded _ _ _ loads still => exact Or.inl (loads.store ▸ still.store.rooms k ▸ hk)
  | founded permits founds still =>
    exact hmade permits fun k => by rw [still.store.rooms, founds.store.rooms]
  | halfFounded permits _ _ founds => exact hmade permits founds.rooms
  | grown _ _ grows => exact Or.inl (grows.stored ▸ hk)
  | halfGrown _ _ _ _ adds => exact Or.inl (adds.rooms ▸ hk)
  | shrunk _ _ shrinks => exact Or.inl (shrinks.stored_of_eq_some hk)
  | halfShrunk _ _ _ _ removes => exact Or.inl (removes.rooms ▸ hk)

/-- A `Move` preserves `Distinct`, whether the store is in reach or not: `persist` looks for the
name first. -/
theorem Distinct.move (hd : h.Distinct) (hm : h.Move item h') : h'.Distinct := by
  -- a room that was made has a new name, and it is the only one that was made
  have hmade : ∀ {k k' : String} {info info' : RoomInfo}, h'.store.rooms.get? k' = some info' →
      k = info.id → (∀ k i, h.store.rooms.get? k = some i → i.name ≠ info.name) →
      (∀ k, h'.store.rooms.get? k = if k = info.id then some info else h.store.rooms.get? k) →
      info'.name = info.name → k = k' := by
    rintro - k' info info' hk' rfl hnew hrooms hname
    rw [hrooms] at hk'
    split_ifs at hk' with hid
    · exact hid.symm
    · exact absurd hname (hnew k' info' hk')
  intro k k' info info' hk hk' hname
  rcases hm.stored_or_made hk with hold | ⟨hid, hnew, hrooms⟩
  · rcases hm.stored_or_made hk' with hold' | ⟨hid, hnew, hrooms⟩
    · exact hd k k' info info' hold hold' hname
    · exact (hmade hk hid hnew hrooms hname).symm
  · exact hmade hk' hid hnew hrooms hname.symm

theorem distinct_fresh (accounts : List Account) (mint : Mint) (outages : List Outage) :
    (fresh accounts mint outages).Distinct :=
  fun _ _ _ _ hk => by cases hk

theorem Reachable.distinct {accounts : List Account} {mint : Mint} {outages : List Outage}
    (hr : Reachable (fresh accounts mint outages) h) : h.Distinct :=
  (hr.induct (P := Distinct) (distinct_fresh accounts mint outages)
    (fun _ hm _ _ hd => hd.move hm) (coherent_fresh accounts mint outages)).1

/-! ### Shadows -/

theorem denotes_iff_means (hn : ∀ other, ¬ h.Shadows ref other) :
    h.Denotes ref info ↔ h.store.Means ref info := by
  rw [Denotes, or_iff_right (hn info), and_iff_right hn]

/-- If `liveByReference?` finds nothing, nothing `Shadows` the reference. -/
theorem not_shadows_of_liveByReference? (hlive : h.liveByReference? ref = none)
    (other : RoomInfo) : ¬ h.Shadows ref other := by
  have hnamed : h.rooms.named? ref = none := by
    unfold liveByReference? at hlive
    split at hlive
    · cases hlive
    · exact hlive
  rintro ⟨-, -, ⟨room, hroom, rfl⟩, hname⟩
  have hne := Table.find?_values_eq_none_iff.1 hnamed _ room hroom
  rw [hname, beq_self_eq_true] at hne
  cases hne

/-- If `liveByReference?` finds a room of another identifier, no room of the identifier `ref` is
live. -/
theorem get?_of_liveByReference?_of_ne {room : LiveRoom} (hlive : h.liveByReference? ref = some room)
    (hc : h.Coherent) (hkey : room.info.id ≠ ref) : h.rooms.get? ref = none := by
  unfold liveByReference? at hlive
  split at hlive
  · rename_i own hid
    cases hlive
    exact absurd (hc.rooms.keyed ref _ hid) hkey
  · assumption

/-- A reference that is shadowed is `Ambiguous`. -/
theorem Shadows.ambiguous {other : RoomInfo} (hs : h.Shadows ref other) (hc : h.Coherent) :
    h.store.Ambiguous ref := by
  obtain ⟨room, hroom, rfl⟩ := hs.live
  refine ⟨hs.identified, room.info, hc.stored _ room hroom, fun hkey => ?_, hs.named⟩
  have hidle := hs.idle
  rw [← hkey, hroom] at hidle
  cases hidle

theorem Coherent.denotes_iff (hc : h.Coherent) (hn : ¬ h.store.Ambiguous ref) :
    h.Denotes ref info ↔ h.store.Means ref info :=
  denotes_iff_means fun _ hs => hn (hs.ambiguous hc)

/-! ### What the store means -/

section Distinct

variable (hd : h.Distinct) (hc : h.Coherent)
include hd

/-- In a `Distinct` hub a stored room is the only one of its name. -/
theorem Distinct.eq_of_name_eq {other : RoomInfo} (hi : h.store.rooms.get? info.id = some info)
    (ho : h.store.rooms.get? other.id = some other) (hname : info.name = other.name) :
    info = other := by
  have hid : info.id = other.id := hd _ _ info other hi ho hname
  rw [hid, ho] at hi
  exact (Option.some.inj hi).symm

/-- If `ref` is the name of a stored room, and no identifier, it `Means` that room. -/
theorem Distinct.means_iff_of_name {own : RoomInfo} (hnone : h.store.rooms.get? ref = none)
    (hown : h.store.rooms.get? own.id = some own) (hname : own.name = ref) :
    h.store.Means ref info ↔ own = info := by
  constructor
  · rintro ⟨hi, rfl | ⟨-, hname'⟩⟩
    · rw [hnone] at hi
      cases hi
    · exact hd.eq_of_name_eq hown hi (hname.trans hname'.symm)
  · rintro rfl
    exact ⟨hown, Or.inr ⟨hnone, hname⟩⟩

include hc

/-- `Means` is what `roomById?`, or else `roomByName?`, finds. -/
theorem Distinct.means_iff : h.store.Means ref info ↔
    (h.store.roomById? ref).or (h.store.roomByName? ref) = some info := by
  cases hid : h.store.roomById? ref with
  -- identifiers come before names
  | some own => rw [hc.store.means_iff_of_get? hid, Option.some_or, Option.some_inj]
  | none =>
    rw [Option.none_or]
    cases hfound : h.store.roomByName? ref with
    | some found =>
      obtain ⟨hname, k, hk⟩ := Store.roomByName?_eq_some hfound
      have hkey : found.id = k := hc.store.keyed k found hk
      rw [hd.means_iff_of_name hid (hkey.symm ▸ hk) hname, Option.some_inj]
    | none =>
      refine iff_of_false ?_ nofun
      rintro ⟨hi, rfl | ⟨-, hname⟩⟩
      · rw [show h.store.rooms.get? info.id = none from hid] at hi
        cases hi
      · exact Store.roomByName?_eq_none_iff.1 hfound _ info hi hname

/-- `resolved?` finds exactly what the reference `Denotes`. -/
theorem Distinct.resolved?_eq_some_iff : h.resolved? ref = some info ↔ h.Denotes ref info := by
  unfold resolved?
  cases hlive : h.liveByReference? ref with
  | none =>
    -- no live room has that name, so that there is only the store
    rw [denotes_iff_means (not_shadows_of_liveByReference? hlive), hd.means_iff hc]
  | some room =>
    obtain ⟨hroom, href⟩ := get?_of_liveByReference? hc hlive
    have hstored : h.store.rooms.get? room.info.id = some room.info := hc.stored _ room hroom
    show some room.info = some info ↔ _
    rw [Option.some_inj]
    by_cases hkey : room.info.id = ref
    · -- the room of that identifier is live, and nothing shadows it
      have hshadows : ∀ other, ¬ h.Shadows ref other := by
        intro other hs
        have hidle := hs.idle
        rw [← hkey, show h.rooms.get? room.info.id = some room from hroom] at hidle
        cases hidle
      rw [denotes_iff_means hshadows, hc.store.means_iff_of_get? (hkey ▸ hstored)]
    · -- the live room was found by its name
      have hname : room.info.name = ref := href.resolve_left hkey
      have hidle : h.rooms.get? ref = none := get?_of_liveByReference?_of_ne hlive hc hkey
      cases hid : h.store.rooms.get? ref with
      | some own =>
        have hshadows : h.Shadows ref room.info :=
          ⟨by rw [hid]; rfl, hidle, ⟨room, hroom, rfl⟩, hname⟩
        constructor
        · rintro rfl
          exact Or.inl hshadows
        · rintro (⟨-, -, ⟨other, hother, rfl⟩, hname'⟩ | ⟨hnone, -⟩)
          · exact hd.eq_of_name_eq hstored (hc.stored _ other hother) (hname.trans hname'.symm)
          · exact absurd hshadows (hnone _)
      | none =>
        have hshadows : ∀ other, ¬ h.Shadows ref other := by
          intro other hs
          have hsome := hs.identified
          rw [hid] at hsome
          cases hsome
        rw [denotes_iff_means hshadows, hd.means_iff_of_name hid hstored hname]

/-- `resolved?` finds nothing exactly if the reference `Means` nothing. -/
theorem Distinct.resolved?_eq_none_iff :
    h.resolved? ref = none ↔ ∀ info, ¬ h.store.Means ref info := by
  constructor
  · intro hnone info hmeans
    by_cases hshadowed : ∃ other, h.Shadows ref other
    · obtain ⟨other, hs⟩ := hshadowed
      have hfound := (hd.resolved?_eq_some_iff hc).2 (Or.inl hs)
      rw [hnone] at hfound
      cases hfound
    · have hfound := (hd.resolved?_eq_some_iff hc).2 (Or.inr ⟨not_exists.1 hshadowed, hmeans⟩)
      rw [hnone] at hfound
      cases hfound
  · intro hmeans
    cases hfound : h.resolved? ref with
    | none => rfl
    | some info =>
      rcases (hd.resolved?_eq_some_iff hc).1 hfound with hs | ⟨-, hm⟩
      · -- what is shadowed is a room that the store means
        obtain ⟨own, hown⟩ := Option.isSome_iff_exists.1 hs.identified
        exact absurd ((hc.store.means_iff_of_get? hown).2 rfl) (hmeans own)
      · exact absurd hm (hmeans info)

end Distinct

/-- **What references stand for.** In every state that a hub reaches from one without rooms, while
the store is in reach, a reference is resolved to the stored room of that identifier, or else to
that of that name, or else it is not resolved, unless the room of that identifier is not live and
another live room has it for a name, which is found in its place. So references that are not
ambiguous are resolved alike in any two states with the same stored rooms, whoever is connected. -/
theorem resolves_of_reachable {accounts : List Account} {mint : Mint}
    (hr : Reachable (fresh accounts mint []) h) (ref : String) :
    (∀ info, h.Resolves ref info ↔ h.Denotes ref info) ∧
      (∀ e, h.Rejects ref e ↔ e = .roomNotFound ∧ ∀ info, ¬ h.store.Means ref info) ∧
      ∀ (accounts' : List Account) (mint' : Mint) (h' : Hub),
        Reachable (fresh accounts' mint' []) h' →
        (∀ k, h'.store.rooms.get? k = h.store.rooms.get? k) → ¬ h.store.Ambiguous ref →
        ∀ info, h'.Resolves ref info ↔ h.Resolves ref info := by
  -- this is needed of both hubs
  have hresolves : ∀ {accounts : List Account} {mint : Mint} {h : Hub},
      Reachable (fresh accounts mint []) h → ∀ info, h.Resolves ref info ↔ h.Denotes ref info := by
    intro accounts mint h hr info
    have hc := hr.coherent (coherent_fresh accounts mint [])
    have hcalm := hr.calm (coherent_fresh accounts mint []) rfl
    rw [hc.resolves_iff hcalm, hr.distinct.resolved?_eq_some_iff hc]
  have hc := hr.coherent (coherent_fresh accounts mint [])
  have hcalm := hr.calm (coherent_fresh accounts mint []) rfl
  refine ⟨hresolves hr, fun e => ?_, fun accounts' mint' h' hr' hsame hn info => ?_⟩
  · rw [hc.rejects_iff hcalm, hr.distinct.resolved?_eq_none_iff hc]
  · have hc' := hr'.coherent (coherent_fresh accounts' mint' [])
    -- `Ambiguous` and `Means` are about stored rooms only, which are the same
    have hn' : ¬ h'.store.Ambiguous ref := by
      simpa only [Store.Ambiguous, hsame] using hn
    rw [hresolves hr', hresolves hr, hc'.denotes_iff hn', hc.denotes_iff hn]
    simp only [Store.Means, hsame]

/-! ### A shadowed room -/

/-- `ann` makes a room and goes, and `bob` makes a room that has the identifier of the first one for
a name. -/
def takeover : List Inbound :=
  [.register ann, .event ann ⟨"create-room", .object [("name", .text "den")]⟩, .unregister ann,
    .register bob, .event bob ⟨"create-room", .object [("name", .text den)]⟩]

/-- The first room of `takeover`. -/
def denInfo : RoomInfo := ⟨den, "den", "", false, false⟩

/-- The second room of `takeover`. -/
def rivalInfo : RoomInfo := ⟨"00000000-0000-4000-8001-000000000001", den, "", false, false⟩

/-- While nobody is connected to the room of `denInfo`, its identifier stands for that of
`rivalInfo`, which has it for a name. As soon as its member comes back it stands for the first one
again, with the same rooms in the store. -/
theorem exists_reachable_shadowed : ∃ h h', Reachable (lobby []) h ∧ Reachable (lobby []) h' ∧
    h'.store.rooms = h.store.rooms ∧ h.store.Means den denInfo ∧ ¬ h.Resolves den denInfo ∧
    h.Resolves den rivalInfo ∧ h'.Resolves den denInfo := by
  have hr : Reachable (lobby []) ((lobby []).run takeover).1 :=
    Reachable.start.run (by decide +kernel)
  have hr' : Reachable (lobby []) (((lobby []).run takeover).1.handle (.register ann)).1 :=
    hr.step (by decide +kernel)
  have hc := hr.coherent (coherent_fresh _ _ _)
  have hcalm := hr.calm (coherent_fresh _ _ _) rfl
  have hc' := hr'.coherent (coherent_fresh _ _ _)
  have hcalm' := hr'.calm (coherent_fresh _ _ _) rfl
  refine ⟨_, _, hr, hr', by decide +kernel, ⟨by decide +kernel, Or.inl rfl⟩, ?_, ?_, ?_⟩
  · rw [hc.resolves_iff hcalm]
    decide +kernel
  · rw [hc.resolves_iff hcalm]
    decide +kernel
  · rw [hc'.resolves_iff hcalm']
    decide +kernel

/-- The name of `denInfo` is not `Ambiguous`, and stands for it though nobody is connected to it. -/
theorem resolves_den : ∃ h, Reachable (lobby []) h ∧ ¬ h.store.Ambiguous "den" ∧
    h.rooms.get? den = none ∧ h.store.Means "den" denInfo ∧ h.Resolves "den" denInfo := by
  have hr : Reachable (lobby []) ((lobby []).run takeover).1 :=
    Reachable.start.run (by decide +kernel)
  have hnone : ((lobby []).run takeover).1.store.rooms.get? "den" = none := by decide +kernel
  have hc := hr.coherent (coherent_fresh _ _ _)
  have hunambiguous : ¬ ((lobby []).run takeover).1.store.Ambiguous "den" := by
    rintro ⟨hsome, -⟩
    rw [hnone] at hsome
    cases hsome
  have hmeans : ((lobby []).run takeover).1.store.Means "den" denInfo :=
    ⟨by decide +kernel, Or.inr ⟨hnone, rfl⟩⟩
  refine ⟨_, hr, hunambiguous, by decide +kernel, hmeans, ?_⟩
  exact ((resolves_of_reachable hr "den").1 denInfo).2 ((hc.denotes_iff hunambiguous).2 hmeans)

end Hub

end GroupChat
