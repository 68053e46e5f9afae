import GroupChat.Proofs.Live.Room

/-!
# The directory of live rooms

In a sound directory every room stands under its own identifier, somebody is connected to it, and
everybody who is connected to it is registered. What is asked of the directory goes through
`LiveRooms.Holds` and `LiveRooms.roleOf?`.

## Main statements

- `LiveRooms.Sound`: the rooms are sound, and nobody is in a room who is not registered.
- `LiveRooms.Places`: one room is put in its place, or dropped if nobody is connected to it.
- `LiveRooms.places_keep`, `LiveRooms.places_enlist`, `LiveRooms.places_keep_remove`: the operations
  that do so.
- `LiveRooms.Enters`, `LiveRooms.Leaves`: a connection comes or goes.
- `LiveRooms.Places.sound`, `LiveRooms.Places.holds`, `LiveRooms.Places.roleOf?`: what it changes.
-/

namespace GroupChat.LiveRooms

/-- The connection `c` is in the live room under `k`. -/
def Holds (rs : LiveRooms) (k : String) (c : Connection) : Prop :=
  ∃ room, rs.get? k = some room ∧ room.Holds c

instance (rs : LiveRooms) (k : String) (c : Connection) : Decidable (rs.Holds k c) :=
  decidable_of_iff (∃ room ∈ rs.get? k, room.Holds c) Iff.rfl

/-- The role of the account `a` in the live room under `k`. -/
def roleOf? (rs : LiveRooms) (k a : String) : Option Role := (rs.get? k).bind (·.roleOf? a)

/-- The live room of the stored `info`, or one that nobody is connected to. -/
def roomOf (rs : LiveRooms) (info : RoomInfo) : LiveRoom := (rs.get? info.id).getD (.ofInfo info)

/-- Rooms stand under their identifiers, nobody is in them who is not in the `roster`, and none is
empty. -/
structure Sound (rs : LiveRooms) (roster : Roster) : Prop where
  /-- A room stands under its own identifier. -/
  keyed : ∀ k room, rs.get? k = some room → room.id = k
  /-- Connections and roles of a room agree. -/
  sound : ∀ k room, rs.get? k = some room → room.Sound
  /-- Who is in a room is registered. -/
  within : ∀ k room, rs.get? k = some room → room.Within roster
  /-- Somebody is in every room. -/
  occupied : ∀ k room, rs.get? k = some room → room.isEmpty = false

variable {rs rs' : LiveRooms} {roster : Roster} {room : LiveRoom} {k : String} {c : Connection}

theorem sound_empty (roster : Roster) : Sound {} roster where
  keyed _ _ h := by cases h
  sound _ _ h := by cases h
  within _ _ h := by cases h
  occupied _ _ h := by cases h

theorem Sound.mono {roster' : Roster} (hs : rs.Sound roster)
    (hsub : ∀ d, roster.Holds d → roster'.Holds d) : rs.Sound roster' :=
  { hs with within := fun k room hk d hd => hsub d (hs.within k room hk d hd) }

/-- `roleOf?` finds a role exactly if the room `Holds` a connection of the account. -/
theorem Sound.isSome_roleOf?_iff (hs : rs.Sound roster) {a : String} :
    (rs.roleOf? k a).isSome = true ↔ ∃ c, rs.Holds k c ∧ c.account = a := by
  rw [LiveRooms.roleOf?]
  cases h : rs.get? k with
  | none => simp [LiveRooms.Holds, h]
  | some room =>
    rw [Option.bind_some, (hs.sound k room h).role_iff]
    simp [LiveRooms.Holds, h]

/-- A room is live exactly if somebody is in it. -/
theorem Sound.get?_eq_none_iff (hs : rs.Sound roster) :
    rs.get? k = none ↔ ∀ c, ¬ rs.Holds k c := by
  constructor
  · rintro h c ⟨room, hr, -⟩
    rw [h] at hr
    cases hr
  · intro h
    cases hk : rs.get? k with
    | none => rfl
    | some room =>
      obtain ⟨c, hc⟩ : ∃ c, room.Holds c := by
        -- a live room is never empty
        by_contra hn
        have := ((hs.sound k room hk).isEmpty_iff).2 fun c hc => hn ⟨c, hc⟩
        rw [hs.occupied k room hk] at this
        cases this
      exact absurd ⟨room, hk, hc⟩ (h c)

/-- `rooms` lists exactly what `get?` finds. -/
theorem Sound.mem_rooms_iff (hs : rs.Sound roster) : room ∈ rs.rooms ↔ rs.get? room.id = some room := by
  rw [rooms, Table.mem_values_iff]
  constructor
  · rintro ⟨k, hk⟩
    rw [hs.keyed k room hk]
    exact hk
  · exact fun h => ⟨room.id, h⟩

theorem Sound.nodup_ids (hs : rs.Sound roster) : (rs.rooms.map LiveRoom.id).Nodup := by
  rw [rooms, Table.map_values hs.keyed]
  exact rs.byId.nodup

/-! ### The room of stored information -/

theorem Sound.id_roomOf (hs : rs.Sound roster) (info : RoomInfo) :
    (rs.roomOf info).id = info.id := by
  rw [roomOf]
  cases h : rs.get? info.id with
  | none => rfl
  | some room => exact hs.keyed _ room h

/-- `roomOf` gives a `Sound` room, be it live or made just now. -/
theorem Sound.sound_roomOf (hs : rs.Sound roster) (info : RoomInfo) : (rs.roomOf info).Sound := by
  rw [roomOf]
  cases h : rs.get? info.id with
  | none => exact LiveRoom.sound_ofInfo info
  | some room => exact hs.sound _ room h

theorem Sound.within_roomOf (hs : rs.Sound roster) (info : RoomInfo) :
    (rs.roomOf info).Within roster := by
  rw [roomOf]
  cases h : rs.get? info.id with
  | none => exact LiveRoom.within_ofInfo info roster
  | some room => exact hs.within _ room h

/-- `roomOf` holds whom the live room holds, and nobody if no room is live. -/
theorem holds_roomOf (rs : LiveRooms) (info : RoomInfo) :
    (rs.roomOf info).Holds c ↔ rs.Holds info.id c := by
  rw [roomOf, LiveRooms.Holds]
  cases h : rs.get? info.id with
  | none =>
    rw [Option.getD_none]
    exact ⟨fun hc => absurd hc (LiveRoom.not_holds_ofInfo info c), fun ⟨_, hr, _⟩ => by cases hr⟩
  | some room => simp

theorem roleOf?_roomOf (rs : LiveRooms) (info : RoomInfo) (a : String) :
    (rs.roomOf info).roleOf? a = rs.roleOf? info.id a := by
  rw [roomOf, LiveRooms.roleOf?]
  cases rs.get? info.id <;> rfl

theorem hasAccount_roomOf (rs : LiveRooms) (info : RoomInfo) (a : String) :
    (rs.roomOf info).hasAccount a = (rs.roleOf? info.id a).isSome := by
  rw [← roleOf?_roomOf]
  rfl

/-! ### Putting a room in its place -/

/-- The `room` is put in its place among `rs`, or dropped if nobody is connected to it. -/
def Places (rs rs' : LiveRooms) (room : LiveRoom) : Prop :=
  ∀ k, rs'.get? k = if k = room.id then (if room.isEmpty then none else some room) else rs.get? k

theorem get?_add (rs : LiveRooms) (room : LiveRoom) (k : String) :
    (rs.add room).get? k = if k = room.id then some room else rs.get? k :=
  Table.get?_insert ..

theorem get?_remove (rs : LiveRooms) (id k : String) :
    (rs.remove id).get? k = if k = id then none else rs.get? k :=
  Table.get?_erase ..

theorem places_add (h : room.isEmpty = false) : rs.Places (rs.add room) room := by
  intro k
  rw [get?_add, h]
  rfl

/-- `Places` of an empty room that is not live changes nothing. -/
theorem places_self (hn : rs.get? room.id = none) (h : room.isEmpty = true) :
    rs.Places rs room := by
  intro k
  rw [if_pos h]
  split
  · rename_i hk
    rw [hk, hn]
  · rfl

/-- `keep` `Places` the room, if it is not empty or was not live. -/
theorem places_keep (h : rs.get? room.id ≠ none → room.isEmpty = false) :
    rs.Places (rs.keep room) room := by
  rw [keep]
  cases he : room.isEmpty with
  | false =>
    rw [Bool.not_false, Bool.or_true, if_pos rfl]
    exact places_add he
  | true =>
    -- an empty room was not live before, so it is not made live
    have hn : rs.get? room.id = none := by
      by_contra hn
      rw [h hn] at he
      cases he
    rw [Table.contains_eq_false_iff.2 hn]
    exact places_self hn he

/-- `enlist` places a room that is not empty, if none is live under its identifier. -/
theorem places_enlist (hn : rs.get? room.id = none) : rs.Places (rs.enlist room) room := by
  rw [enlist, Table.contains_eq_false_iff.2 hn, Bool.false_or]
  cases he : room.isEmpty with
  | false => exact places_add he
  | true => exact places_self hn he

/-- `keep` concerns one identifier only. -/
theorem get?_keep_of_ne (h : k ≠ room.id) : (rs.keep room).get? k = rs.get? k := by
  rw [keep]
  split
  · rw [get?_add, if_neg h]
  · rfl

/-- `keep`, and then `remove` if nobody is connected, `Places` the room. -/
theorem places_keep_remove :
    rs.Places (if room.isEmpty then (rs.keep room).remove room.id else rs.keep room) room := by
  cases he : room.isEmpty with
  | false => exact places_keep fun _ => he
  | true =>
    intro k
    rw [if_pos rfl, get?_remove, he]
    split
    · rfl
    · rename_i hk
      exact get?_keep_of_ne hk

variable (hp : rs.Places rs' room)
include hp

theorem Places.get?_of_ne (h : k ≠ room.id) : rs'.get? k = rs.get? k := by
  rw [hp k, if_neg h]

/-- A room that is live after `Places` is the one that was placed, or it was live before. -/
theorem Places.eq_some {r : LiveRoom} (h : rs'.get? k = some r) :
    (k = room.id ∧ r = room ∧ room.isEmpty = false) ∨ (k ≠ room.id ∧ rs.get? k = some r) := by
  rw [hp k] at h
  split at h
  · rename_i hk
    split at h
    · cases h
    · rename_i he
      exact Or.inl ⟨hk, (Option.some.inj h).symm, Bool.not_eq_true _ ▸ he⟩
  · rename_i hk
    exact Or.inr ⟨hk, h⟩

/-- `Holds` after `Places`: in that room whoever it holds, and elsewhere the same as before. -/
theorem Places.holds (hr : room.Sound) :
    rs'.Holds k c ↔ if k = room.id then room.Holds c else rs.Holds k c := by
  rw [LiveRooms.Holds, hp k]
  split
  · cases he : room.isEmpty with
    | true => simpa using hr.isEmpty_iff.1 he c
    | false => simp
  · rfl

/-- `roleOf?` after `Places`: in that room its own, and elsewhere the same as before. -/
theorem Places.roleOf? (hr : room.Sound) (a : String) :
    rs'.roleOf? k a = if k = room.id then room.roleOf? a else rs.roleOf? k a := by
  rw [LiveRooms.roleOf?, hp k]
  split
  · cases he : room.isEmpty with
    | false => rfl
    | true =>
      rw [if_pos rfl, Option.bind_none, eq_comm, ← Option.not_isSome_iff_eq_none, hr.role_iff]
      rintro ⟨c, hc, -⟩
      exact hr.isEmpty_iff.1 he c hc
  · rfl

/-- Placing a sound room whose connections are registered keeps all rooms `Sound`. -/
theorem Places.sound (hs : rs.Sound roster) (hr : room.Sound) (hw : room.Within roster) :
    rs'.Sound roster where
  keyed k r h := by
    obtain ⟨rfl, rfl, -⟩ | ⟨-, h⟩ := hp.eq_some h
    · rfl
    · exact hs.keyed k r h
  sound k r h := by
    obtain ⟨-, rfl, -⟩ | ⟨-, h⟩ := hp.eq_some h
    · exact hr
    · exact hs.sound k r h
  within k r h := by
    obtain ⟨-, rfl, -⟩ | ⟨-, h⟩ := hp.eq_some h
    · exact hw
    · exact hs.within k r h
  occupied k r h := by
    obtain ⟨-, rfl, he⟩ | ⟨-, h⟩ := hp.eq_some h
    · exact he
    · exact hs.occupied k r h

omit hp

/-! ### A connection that comes -/

/-- The connection `c` came into the rooms of the memberships `ms`. -/
structure Enters (rs rs' : LiveRooms) (c : Connection) (ms : List Membership) : Prop where
  /-- A room of a membership is live, and the connection is in it. -/
  entered : ∀ m ∈ ms, rs'.get? m.room.id = some ((rs.roomOf m.room).join c m.role)
  /-- The other rooms stayed. -/
  others : ∀ k, (∀ m ∈ ms, m.room.id ≠ k) → rs'.get? k = rs.get? k

/-- `add` lets a connection into one room. -/
theorem enters_add {m : Membership} (hid : (rs.roomOf m.room).id = m.room.id) (c : Connection) :
    rs.Enters (rs.add ((rs.roomOf m.room).join c m.role)) c [m] := by
  have hget : ∀ k, (rs.add ((rs.roomOf m.room).join c m.role)).get? k =
      if k = m.room.id then some ((rs.roomOf m.room).join c m.role) else rs.get? k := fun k =>
    (get?_add ..).trans (if_congr (by rw [← hid]; rfl) rfl rfl)
  refine ⟨fun m' hm' => ?_, fun k hk => ?_⟩
  · rw [List.mem_singleton.1 hm', hget, if_pos rfl]
  · rw [hget, if_neg fun h => hk m (List.mem_singleton_self m) h.symm]

/-- A connection that came into one room and then into other rooms came into all of them. -/
theorem Enters.cons {rs'' : LiveRooms} {m : Membership} {ms : List Membership}
    (h : rs.Enters rs' c [m]) (h' : rs'.Enters rs'' c ms)
    (hothers : ∀ m' ∈ ms, m'.room.id ≠ m.room.id) : rs.Enters rs'' c (m :: ms) := by
  have hsame : ∀ k, k ≠ m.room.id → rs'.get? k = rs.get? k := fun k hk =>
    h.others k fun m' hm' => by rw [List.mem_singleton.1 hm']; exact hk.symm
  refine ⟨fun m' hm' => ?_, fun k hk => ?_⟩
  · rcases List.mem_cons.1 hm' with rfl | hm'
    · rw [h'.others _ hothers]
      exact h.entered m' (List.mem_singleton_self m')
    · rw [h'.entered m' hm', roomOf, hsame _ (hothers m' hm')]
      rfl
  · rw [h'.others k fun m' hm' => hk m' (List.mem_cons_of_mem _ hm'),
      hsame k fun h => hk m List.mem_cons_self h.symm]

section Enters

variable {ms : List Membership} (he : rs.Enters rs' c ms) (hs : rs.Sound roster)
  (hc : roster.Holds c)
include he hs hc

/-- A connection that `Enters` rooms is in these, and all others are where they were. -/
theorem Enters.holds {d : Connection} :
    rs'.Holds k d ↔ rs.Holds k d ∨ d = c ∧ ∃ m ∈ ms, m.room.id = k := by
  by_cases hk : ∃ m ∈ ms, m.room.id = k
  · obtain ⟨m, hm, rfl⟩ := hk
    have hget := he.entered m hm
    rw [LiveRooms.Holds, hget]
    simp only [Option.some.injEq, exists_eq_left']
    -- the room holds those of before and the connection that enters
    rw [LiveRoom.holds_join (hs.within_roomOf m.room) hc, holds_roomOf, or_comm]
    exact or_congr_right (and_iff_left ⟨m, hm, rfl⟩).symm
  · push Not at hk
    rw [LiveRooms.Holds, he.others k hk]
    constructor
    · exact Or.inl
    · rintro (h | ⟨-, m, hm, rfl⟩)
      · exact h
      · exact absurd rfl (hk m hm)

omit hs hc in
/-- A connection that `Enters` a room brings the role that the store has, unless its account has one
there already. -/
theorem Enters.roleOf?_of_mem {m : Membership} (hm : m ∈ ms) (a : String) :
    rs'.roleOf? m.room.id a =
      (rs.roleOf? m.room.id a).or (if a = c.account then some m.role else none) := by
  rw [LiveRooms.roleOf?, he.entered m hm, Option.bind_some, LiveRoom.roleOf?_join,
    roleOf?_roomOf]

omit hs hc in
theorem Enters.roleOf?_of_ne (hk : ∀ m ∈ ms, m.room.id ≠ k) (a : String) :
    rs'.roleOf? k a = rs.roleOf? k a := by
  rw [LiveRooms.roleOf?, he.others k hk]
  rfl

/-- A connection that `Enters` rooms keeps them `Sound`. -/
theorem Enters.sound : rs'.Sound roster := by
  -- a room is one that was entered, or it is as it was
  have hcases : ∀ k room, rs'.get? k = some room → (∃ m ∈ ms, k = m.room.id ∧
      room = (rs.roomOf m.room).join c m.role) ∨ rs.get? k = some room := by
    intro k room hroom
    by_cases hk : ∃ m ∈ ms, m.room.id = k
    · obtain ⟨m, hm, rfl⟩ := hk
      rw [he.entered m hm] at hroom
      exact Or.inl ⟨m, hm, rfl, (Option.some.inj hroom).symm⟩
    · push Not at hk
      rw [he.others k hk] at hroom
      exact Or.inr hroom
  refine ⟨fun k room h => ?_, fun k room h => ?_, fun k room h => ?_, fun k room h => ?_⟩
  all_goals obtain ⟨m, hm, rfl, rfl⟩ | h := hcases k room h
  · exact hs.id_roomOf m.room
  · exact hs.keyed k room h
  · exact LiveRoom.sound_join (hs.sound_roomOf _) (hs.within_roomOf _) hc _
  · exact hs.sound k room h
  · exact LiveRoom.within_join (hs.within_roomOf _) hc _
  · exact hs.within k room h
  · have hr := LiveRoom.sound_join (hs.sound_roomOf m.room) (hs.within_roomOf _) hc m.role
    by_contra hempty
    rw [Bool.not_eq_false, hr.isEmpty_iff] at hempty
    exact hempty c ((LiveRoom.holds_join (hs.within_roomOf _) hc _).2 (Or.inl rfl))
  · exact hs.occupied k room h

end Enters

/-! ### A connection that goes -/

/-- The connection `id` went out of all rooms of `rs`. -/
def Leaves (rs rs' : LiveRooms) (id : String) : Prop :=
  ∀ k, rs'.get? k = (rs.get? k).bind fun room => room.remains id

section Leaves

variable {id : String} (hl : rs.Leaves rs' id) (hs : rs.Sound roster)
include hl hs

omit hs in
/-- A room that is live after a connection `Leaves` was live before, and somebody is still in it. -/
theorem Leaves.eq_some {room : LiveRoom} (h : rs'.get? k = some room) :
    ∃ r, rs.get? k = some r ∧ room = (r.leave id).2 ∧ room.isEmpty = false := by
  rw [hl k, Option.bind_eq_some_iff] at h
  obtain ⟨r, hr, h⟩ := h
  rw [LiveRoom.remains] at h
  split_ifs at h with hempty
  cases h
  exact ⟨r, hr, rfl, Bool.not_eq_true _ ▸ hempty⟩

/-- A connection that `Leaves` is in no room, and all others are where they were. -/
theorem Leaves.holds {d : Connection} : rs'.Holds k d ↔ rs.Holds k d ∧ d.id ≠ id := by
  constructor
  · rintro ⟨room, hroom, hd⟩
    obtain ⟨r, hr, rfl, -⟩ := hl.eq_some hroom
    rw [LiveRoom.holds_leave_snd] at hd
    exact ⟨⟨r, hr, hd.1⟩, hd.2⟩
  · rintro ⟨⟨r, hr, hd⟩, hid⟩
    have hd' := (r.holds_leave_snd id).2 ⟨hd, hid⟩
    refine ⟨(r.leave id).2, ?_, hd'⟩
    -- somebody stays, so the room does
    have hempty : ¬ (r.leave id).2.isEmpty = true := fun h =>
      (LiveRoom.sound_leave_snd (hs.sound k r hr) id).isEmpty_iff.1 h d hd'
    rw [hl k, hr, Option.bind_some, LiveRoom.remains, if_neg hempty]

/-- A connection that `Leaves` keeps the rooms `Sound`. -/
theorem Leaves.sound {roster' : Roster} (hroster : ∀ d, roster.Holds d → d.id ≠ id →
    roster'.Holds d) : rs'.Sound roster' := by
  refine ⟨fun k room h => ?_, fun k room h => ?_, fun k room h => ?_, fun k room h => ?_⟩
  all_goals obtain ⟨r, hr, rfl, hempty⟩ := hl.eq_some h
  · rw [LiveRoom.id, LiveRoom.info_leave_snd]
    exact hs.keyed k r hr
  · exact LiveRoom.sound_leave_snd (hs.sound k r hr) id
  · intro d hd
    rw [LiveRoom.holds_leave_snd] at hd
    exact hroster d (hs.within k r hr d hd.1) hd.2
  · exact hempty

/-- `Leaves` takes no role from an account that still has a connection in the room. -/
theorem Leaves.roleOf? {d : Connection} (h : rs'.Holds k d) :
    rs'.roleOf? k d.account = rs.roleOf? k d.account := by
  obtain ⟨room, hroom, hd⟩ := h
  obtain ⟨r, hr, rfl, -⟩ := hl.eq_some hroom
  rw [LiveRooms.roleOf?, LiveRooms.roleOf?, hroom, hr]
  exact LiveRoom.roleOf?_leave_snd (hs.sound k r hr) hd

end Leaves

end GroupChat.LiveRooms
