import GroupChat.Proofs.Hub.Reference
import GroupChat.Proofs.Hub.Told

/-!
# The first and the last device

The others in the rooms of an account are told that it has come when its first device comes, and
that it has gone when its last one goes. Which device is the first or the last one is judged by the
directory of connections, before any room is entered or left, while the live rooms change from one
signal to the next: rooms of the store become live, and rooms that nobody is left in are dropped.

## Main definitions

- `Hub.signals`: the signals about an account in several rooms.
- `Store.Lists`: the rooms of an account in the order of their names.
- `Hub.TellsOfComing`, `Hub.TellsOfGoing`: who is told that a connection comes or goes.

## Main statements

- `enterRooms_utters`, `leaveRooms_utters`: who is told along several rooms.
- `register_utters`, `unregister_utters`: who is told when a connection comes or goes.
- `signals_of_reachable`: both, in all states.
-/

namespace GroupChat

open Hub (Turn toldTo)

/-- `infos` are the rooms in which `account` is a member, in the order of their names. -/
structure Store.Lists (s : Store) (account : String) (infos : List RoomInfo) : Prop where
  /-- The rooms are those in which the account is a member. -/
  mem_iff : ∀ info, info ∈ infos ↔
    s.rooms.get? info.id = some info ∧ (s.roleOf? info.id account).isSome = true
  /-- They are in the order of their names, which are all different. -/
  sorted : infos.Pairwise fun info info' => info.name < info'.name

namespace Hub

/-- The notification that the account of `c` comes to a `room` (`.online`) or goes (`.offline`). -/
def signalOf (kind : NotificationKind) (c : Connection) (room : String) (stamp : Stamp) :
    ServerEvent :=
  .notification ⟨⟨stamp.id, kind, c.account, room, stamp.time⟩, c.name⟩

/-- One notification `signalOf` for each of the `rooms`. -/
def signals (kind : NotificationKind) (c : Connection) (stamps : String → Stamp)
    (rooms : List String) : List ServerEvent :=
  rooms.map fun k => signalOf kind c k (stamps k)

/-- What the `effects` tell clients when the connection `c` comes: nothing if another device of its
account is connected, or else `signals` for the rooms of the account in which they are, in the order
of names, unless they are devices of the account themselves. -/
structure TellsOfComing (h : Hub) (c : Connection) (effects : List Effect) : Prop where
  /-- Another device is connected. -/
  again : (∃ d, h.roster.Holds d ∧ d.account = c.account) → ∀ d, toldTo d effects = []
  /-- The first device comes. -/
  first : (∀ d, h.roster.Holds d → d.account ≠ c.account) →
    ∃ infos stamps, h.store.Lists c.account infos ∧ ∀ d, toldTo d effects =
      signals .online c stamps ((infos.filter fun info =>
        h.rooms.Holds info.id d ∧ d.account ≠ c.account).map RoomInfo.id)

/-- What the `effects` tell clients when the connection `c` goes: nothing if it was not registered
or another device of its account stays, or else `signals` for the live rooms in which they were with
it. -/
structure TellsOfGoing (h : Hub) (c : Connection) (effects : List Effect) : Prop where
  /-- The connection was not registered. -/
  unknown : ¬ h.roster.Holds c → ∀ d, toldTo d effects = []
  /-- Another device stays. -/
  remains : (∃ d, h.roster.Holds d ∧ d ≠ c ∧ d.account = c.account) → ∀ d, toldTo d effects = []
  /-- The last device goes. -/
  last : h.roster.Holds c → (∀ d, h.roster.Holds d → d ≠ c → d.account ≠ c.account) →
    ∃ (ks : List String) (stamps : String → Stamp), ks.Nodup ∧ (∀ k, k ∈ ks ↔ h.rooms.Holds k c) ∧
      ∀ d, toldTo d effects =
        signals .offline c stamps (ks.filter fun k => h.rooms.Holds k d ∧ d ≠ c)

variable {h : Hub} {t : Turn} {c : Connection}

/-! ### One room more -/

theorem signal_eq_signalOf (kind : NotificationKind) (c : Connection) (room : String) (t : Turn) :
    Step.Gives (signal kind c room) t fun event u =>
      t.Asks u ∧ ∃ stamp, event = signalOf kind c room stamp := by
  unfold signal
  exact (newSignalStamp_gives t).bind fun stamp s hs => Step.gives_pure ⟨hs, stamp, rfl⟩

/-- `signals` of one more room are its signal and those of the others. -/
theorem signals_cons (kind : NotificationKind) (c : Connection) (stamp : Stamp)
    (stamps : String → Stamp) {α : Type} (f : α → String) {x : α} {xs : List α}
    (hx : f x ∉ xs.map f) (p : α → Prop) [DecidablePred p] :
    (if p x then [signalOf kind c (f x) stamp] else []) ++
        signals kind c stamps ((xs.filter p).map f) =
      signals kind c (Function.update stamps (f x) stamp) (((x :: xs).filter p).map f) := by
  -- the stamp of the first room is not asked for by the others
  have hothers : signals kind c stamps ((xs.filter p).map f) =
      signals kind c (Function.update stamps (f x) stamp) ((xs.filter p).map f) := by
    refine List.map_congr_left fun k hk => ?_
    obtain ⟨y, hy, rfl⟩ := List.mem_map.1 hk
    have hne : f y ≠ f x := fun h => hx (h ▸ List.mem_map_of_mem (List.mem_filter.1 hy).1)
    rw [Function.update_of_ne hne]
  rw [List.filter_cons]
  by_cases hp : p x
  · simp only [hp, decide_true, if_true]
    have hself : signalOf kind c (f x) stamp =
        signalOf kind c (f x) (Function.update stamps (f x) stamp (f x)) := by
      rw [Function.update_self]
    exact congrArg₂ List.cons hself hothers
  · simp only [hp, decide_false, if_false, Bool.false_eq_true]
    exact hothers

/-! ### Along the rooms -/

/-- `enterRooms` announces the connection to those who are in the rooms, room by room; by induction
on the rooms. -/
theorem enterRooms_utters (c : Connection) (first : Bool) (ms : List Membership) (t : Turn)
    (hn : (ms.map (·.room.id)).Nodup) (hs : t.hub.rooms.Sound t.hub.roster)
    (hreg : t.hub.roster.Holds c) :
    Step.Gives (enterRooms c first ms) t fun _ u => ∃ stamps, t.Utters u fun d =>
      if first then signals .online c stamps ((ms.filter fun m =>
        t.hub.rooms.Holds m.room.id d ∧ d.account ≠ c.account).map (·.room.id)) else [] := by
  induction ms generalizing t with
  | nil =>
    refine Step.gives_pure ⟨default, (Turn.Asks.refl t).utters.congr fun d => ?_⟩
    simp [signals]
  | cons m ms ih =>
    rw [List.map_cons, List.nodup_cons] at hn
    rw [enterRooms]
    refine (liveRoom_gives _ t).bind ?_
    rintro room s ⟨rfl, rfl⟩
    refine (addRoom_gives _ s).bind fun _ v hv => ?_
    -- the room is as it was, with the connection in it, and the other rooms stayed
    have hwithin := hs.within_roomOf m.room
    have hsound := LiveRoom.sound_join (hs.sound_roomOf m.room) hwithin hreg m.role
    have hid : ((s.hub.rooms.roomOf m.room).join c m.role).id = m.room.id := hs.id_roomOf m.room
    have henters : s.hub.rooms.Enters v.hub.rooms c [m] := by
      rw [hv.rooms]
      exact LiveRooms.enters_add (hs.id_roomOf m.room) c
    have hothers : ∀ d, ∀ m' ∈ ms,
        (v.hub.rooms.Holds m'.room.id d ↔ s.hub.rooms.Holds m'.room.id d) := by
      intro d m' hm'
      have hne : m.room.id ≠ m'.room.id := fun h => hn.1 (h ▸ List.mem_map_of_mem hm')
      rw [henters.holds hs hreg]
      simp [hne]
    have hrest : ∀ w, w.hub.roster = v.hub.roster → w.hub.rooms = v.hub.rooms →
        Step.Gives (enterRooms c first ms) w fun _ u => ∃ stamps, w.Utters u fun d =>
          if first then signals .online c stamps ((ms.filter fun m' =>
            s.hub.rooms.Holds m'.room.id d ∧ d.account ≠ c.account).map (·.room.id)) else [] := by
      intro w hroster hrooms
      rw [hv.roster] at hroster
      have hsound : w.hub.rooms.Sound w.hub.roster := by
        rw [hrooms, hroster]
        exact henters.sound hs hreg
      refine (ih w hn.2 hsound (hroster ▸ hreg)).mono ?_
      rintro - u ⟨stamps, hu⟩
      refine ⟨stamps, hu.congr fun d => ?_⟩
      rw [hrooms, List.filter_congr fun m' hm' =>
        decide_eq_decide.2 (and_congr_left' (hothers d m' hm'))]
    split
    · rename_i hfirst
      refine (signal_eq_signalOf _ c _ v).bind ?_
      rintro event w ⟨hw, stamp, rfl⟩
      refine (broadcastExcept_utters hsound _ c.account w).discard.bind ?_
      rintro - x ⟨hx, hutters⟩
      refine (hrest x (hx.roster.trans hw.roster) (hx.rooms.trans hw.rooms)).mono ?_
      rintro - u ⟨stamps, hu⟩
      refine ⟨Function.update stamps m.room.id stamp,
        (((hv.utters.trans hw.utters).trans hutters).trans hu).congr fun d => ?_⟩
      -- who is told in this room is who was in it before
      have haudience : d ∈ ((s.hub.rooms.roomOf m.room).join c m.role).audience c.account ↔
          s.hub.rooms.Holds m.room.id d ∧ d.account ≠ c.account := by
        rw [hsound.mem_audience, LiveRoom.holds_join hwithin hreg, LiveRooms.holds_roomOf]
        refine and_congr_left fun hother => or_iff_right fun hself => hother ?_
        rw [hself]
      rw [if_pos hfirst, ← signals_cons _ _ _ _ (fun m : Membership => m.room.id) hn.1, hid]
      simp only [haudience]
      rfl
    · rename_i hfirst
      refine (hrest v rfl rfl).mono ?_
      rintro - u ⟨stamps, hu⟩
      refine ⟨stamps, (hv.utters.trans hu).congr fun d => ?_⟩
      rw [if_neg hfirst]
      rfl

/-- `leaveRooms` announces that the connection is gone to those who are left, room by room. For this
nobody else in the rooms may stand under its identifier. -/
theorem leaveRooms_utters (c : Connection) (last : Bool) (rs : List LiveRoom) (t : Turn)
    (hn : (rs.map LiveRoom.id).Nodup) (hs : ∀ r ∈ rs, r.Sound)
    (hself : ∀ r ∈ rs, ∀ d, r.Holds d → d.id = c.id → d = c) :
    Step.Gives (leaveRooms c last rs) t fun _ u => ∃ stamps, t.Utters u fun d =>
      if last then signals .offline c stamps
        ((rs.filter fun r => r.Holds c ∧ r.Holds d ∧ d ≠ c).map LiveRoom.id) else [] := by
  induction rs generalizing t with
  | nil =>
    refine Step.gives_pure ⟨default, (Turn.Asks.refl t).utters.congr fun d => ?_⟩
    simp [signals]
  | cons r rs ih =>
    rw [List.map_cons, List.nodup_cons] at hn
    have hr := hs r List.mem_cons_self
    have hsame := hself r List.mem_cons_self
    have hrest := fun w => ih w hn.2 (fun r' hr' => hs r' (List.mem_cons_of_mem _ hr'))
      fun r' hr' => hself r' (List.mem_cons_of_mem _ hr')
    -- where nobody is told of this room, the others follow
    have hquiet : (∀ d, ¬ (r.Holds c ∧ r.Holds d ∧ d ≠ c)) → ∀ w, t.Utters w (fun _ => []) →
        Step.Gives (leaveRooms c last rs) w fun _ u => ∃ stamps, t.Utters u fun d =>
          if last then signals .offline c stamps
            (((r :: rs).filter fun r => r.Holds c ∧ r.Holds d ∧ d ≠ c).map LiveRoom.id)
          else [] := by
      intro hnobody w hw
      refine (hrest w).mono ?_
      rintro - u ⟨stamps, hu⟩
      refine ⟨stamps, (hw.trans hu).congr fun d => ?_⟩
      rw [List.filter_cons_of_neg (by simpa using hnobody d)]
      rfl
    rw [leaveRooms]
    rcases hleave : r.leave c.id with ⟨_ | c', r'⟩
    · -- the connection was not in the room
      refine hquiet (fun d hd => ?_) t (Turn.Asks.refl t).utters
      have hnone := LiveRoom.leave_eq_none hleave
      rw [show r.connections.get? c.id = some c from hd.1] at hnone
      cases hnone
    have hget := (LiveRoom.leave_eq_some hleave).1
    obtain rfl : c = c' := (hsame c' (hr.holds_of_get? hget) (hr.keyed _ _ hget)).symm
    have hr' := LiveRoom.sound_leave hr hleave
    have hid : r'.id = r.id := congrArg RoomInfo.id (LiveRoom.leave_eq_some hleave).2.1
    have hleft : ∀ d, r'.Holds d ↔ r.Holds c ∧ r.Holds d ∧ d ≠ c := by
      intro d
      rw [LiveRoom.holds_leave hleave]
      constructor
      · rintro ⟨hd, hne⟩
        exact ⟨hget, hd, fun h => hne (congrArg Connection.id h)⟩
      · rintro ⟨-, hd, hne⟩
        exact ⟨hd, fun h => hne (hsame d hd h)⟩
    dsimp only
    split
    · -- nobody is left
      rename_i hempty
      refine (dropRoom_gives _ t).bind fun _ w hw => hquiet (fun d => ?_) w hw.utters
      rw [← hleft]
      exact hr'.isEmpty_iff.1 hempty d
    refine (addRoom_gives _ t).bind fun _ v hv => ?_
    split
    · rename_i hlast
      refine (signal_eq_signalOf _ c _ v).bind ?_
      rintro event w ⟨hw, stamp, rfl⟩
      refine (broadcast_utters hr' _ w).discard.bind ?_
      rintro - x ⟨-, hutters⟩
      refine (hrest x).mono ?_
      rintro - u ⟨stamps, hu⟩
      refine ⟨Function.update stamps r.id stamp,
        (((hv.utters.trans hw.utters).trans hutters).trans hu).congr fun d => ?_⟩
      rw [if_pos hlast, ← signals_cons _ _ _ _ LiveRoom.id hn.1, hid]
      simp only [hr'.mem_everyone, hleft]
      rfl
    · rename_i hlast
      refine (hrest v).mono ?_
      rintro - u ⟨stamps, hu⟩
      refine ⟨stamps, (hv.utters.trans hu).congr fun d => ?_⟩
      rw [if_neg hlast]
      rfl

/-! ### A connection that comes or goes -/

/-- Under calm `storedRooms` is `roomsOf`, and nobody is told anything. -/
theorem storedRooms_asks (hcalm : t.hub.Calm) (account : String) :
    Step.Gives (storedRooms account) t fun ms u =>
      t.Asks u ∧ ms = t.hub.store.roomsOf account := by
  unfold storedRooms
  refine (ask_gives _ _ t).bind ?_
  rintro r s ⟨hs, rfl | ⟨e, rfl, hstorm⟩⟩
  · exact Step.gives_pure ⟨hs, rfl⟩
  · exact absurd hcalm hstorm

/-- `register` tells of the connection in the order of `roomsOf`, if it is the first one of its
account. -/
theorem register_utters (hc : t.hub.Coherent) (hcalm : t.hub.Calm)
    (hfits : ∀ d, t.hub.roster.get? c.id = some d → d = c) :
    Step.Gives (register c) t fun _ u => ∃ stamps, ∀ d, toldTo d u.effects =
      toldTo d t.effects ++ if t.hub.roster.hasAccount c.account then [] else
        signals .online c stamps (((t.hub.store.roomsOf c.account).filter fun m =>
          t.hub.rooms.Holds m.room.id d ∧ d.account ≠ c.account).map (·.room.id)) := by
  unfold register
  refine (look_gives _ t).bind ?_
  rintro connected s ⟨rfl, rfl⟩
  refine (change_gives _ s).bind fun _ v hv => ?_
  have hvcalm : v.hub.Calm := by
    rw [hv]
    exact hcalm
  refine (orReport_gives _ (Store.spares_ok _) _ v).bind ?_
  rintro - w (⟨store, hcounted, hw⟩ | ⟨e, -, hfail⟩)
  swap
  · cases hfail hvcalm
  cases hcounted
  refine (storedRooms_asks (hw.calm hvcalm) _).bind ?_
  rintro ms x ⟨hx, rfl⟩
  -- the rooms of the account are those that it had, as only its connections were counted
  have hrooms : x.hub.rooms = s.hub.rooms := by rw [hx.rooms, hw.rooms, hv]
  have hroster : x.hub.roster = s.hub.roster.add c := by rw [hx.roster, hw.roster, hv]
  have hms : w.hub.store.roomsOf c.account = s.hub.store.roomsOf c.account := by
    rw [hw.store, hv]
    rfl
  have hsound : x.hub.rooms.Sound x.hub.roster := by
    rw [hrooms, hroster]
    exact hc.rooms.mono fun _ hd => (Roster.holds_add hfits).2 (Or.inr hd)
  have hreg : x.hub.roster.Holds c := by
    rw [hroster]
    exact (Roster.holds_add hfits).2 (Or.inl rfl)
  rw [hms]
  refine (enterRooms_utters c _ _ x (Store.nodup_roomsOf hc.store c.account) hsound hreg).mono ?_
  rintro - u ⟨stamps, hu⟩
  refine ⟨stamps, fun d => ?_⟩
  have hbefore : toldTo d x.effects = toldTo d s.effects := by
    rw [hx.effects, hw.effects, hv, List.append_nil, List.append_nil]
  rw [hu.told, hbefore, hrooms]
  cases s.hub.roster.hasAccount c.account <;> rfl

/-- `unregister` tells those who were with the connection in live rooms, if it is the last one of
its account. -/
theorem unregister_utters (hc : t.hub.Coherent) (hreg : t.hub.roster.Holds c) :
    Step.Gives (unregister c) t fun _ u => ∃ stamps, ∀ d, toldTo d u.effects =
      toldTo d t.effects ++ if (t.hub.roster.remove c.id).2.hasAccount c.account then [] else
        signals .offline c stamps
          ((t.hub.rooms.rooms.filter fun r => r.Holds c ∧ r.Holds d ∧ d ≠ c).map LiveRoom.id) := by
  have hremove := Roster.remove_of_holds hreg
  unfold unregister
  refine (look_gives _ t).bind ?_
  rintro removed s ⟨rfl, rfl⟩
  rw [hremove]
  refine (change_gives _ s).bind fun _ v hv => ?_
  refine (act_gives (.close c) v).bind fun _ w hw => ?_
  refine (look_gives _ w).bind ?_
  rintro connected x ⟨rfl, rfl⟩
  refine (look_gives _ x).bind ?_
  rintro rooms y ⟨rfl, rfl⟩
  have hrooms : y.hub.rooms = s.hub.rooms := by rw [hw.rooms, hv]
  have hroster : y.hub.roster = (s.hub.roster.remove c.id).2 := by rw [hw.roster, hv]
  have hlive : ∀ r ∈ y.hub.rooms.rooms, s.hub.rooms.get? r.id = some r := by
    intro r hr
    rw [hrooms] at hr
    exact hc.rooms.mem_rooms_iff.1 hr
  have hself : ∀ r ∈ y.hub.rooms.rooms, ∀ d, r.Holds d → d.id = c.id → d = c :=
    fun r hr d hd hid => (hc.rooms.within _ r (hlive r hr) d hd).eq_of_id_eq hreg hid
  refine Step.Gives.bind (leaveRooms_utters c _ _ y (hrooms ▸ hc.rooms.nodup_ids)
    (fun r hr => hc.rooms.sound _ r (hlive r hr)) hself) ?_
  rintro - z ⟨stamps, hz⟩
  refine (orReport_gives _ (Store.spares_ok _) _ z).mono fun _ u hu => ⟨stamps, fun d => ?_⟩
  -- neither the end of the connection nor counting it is told to anybody
  have hafter : toldTo d u.effects = toldTo d z.effects := by
    rcases hu with ⟨_, -, hu⟩ | ⟨e, hu, -⟩
    · rw [hu.effects, List.append_nil]
    · rw [hu.effects, toldTo_append]
      exact List.append_nil _
  have hbefore : toldTo d y.effects = toldTo d s.effects := by
    rw [hw.effects, hv, toldTo_append]
    exact List.append_nil _
  rw [hafter, hz.told, hbefore, hrooms, hroster]
  cases (s.hub.roster.remove c.id).2.hasAccount c.account <;> rfl

/-! ### All states -/

/-- `roomsOf` `Lists` the rooms of an account in the order of their names. -/
theorem lists_roomsOf (hs : h.store.Sound) (hd : h.Distinct) (account : String) :
    h.store.Lists account ((h.store.roomsOf account).map Membership.room) where
  mem_iff info := by
    rw [List.mem_map]
    constructor
    · rintro ⟨m, hm, rfl⟩
      obtain ⟨hstored, hrole⟩ := (Store.mem_roomsOf hs).1 hm
      exact ⟨hstored, by rw [hrole]; rfl⟩
    · rintro ⟨hstored, hmember⟩
      obtain ⟨role, hrole⟩ := Option.isSome_iff_exists.1 hmember
      exact ⟨⟨info, role⟩, (Store.mem_roomsOf hs).2 ⟨hstored, hrole⟩, rfl⟩
  sorted := by
    have hn := Store.nodup_roomsOf hs account
    have hle := Store.pairwise_roomsOf h.store account
    rw [List.pairwise_map]
    rw [List.Nodup, List.pairwise_map] at hn
    refine (hle.and hn).imp_of_mem fun {m m'} hm hm' ⟨hle, hne⟩ => ?_
    -- rooms of one name would be one room
    have hname : m.room.name ≠ m'.room.name := fun hname =>
      hne (hd _ _ _ _ ((Store.mem_roomsOf hs).1 hm).1 ((Store.mem_roomsOf hs).1 hm').1 hname)
    have hle := Store.beforeByRoom_iff.1 hle
    exact String.not_le.1 fun hge => hname (String.le_antisymm hle hge)

/-- `handle` of `.register` `TellsOfComing`. -/
theorem Coherent.tellsOfComing (hc : h.Coherent) (hcalm : h.Calm) (hd : h.Distinct)
    (hfits : (Inbound.register c).Fits h) : h.TellsOfComing c (h.handle (.register c)).2 := by
  obtain ⟨stamps, htold⟩ : ∃ stamps, ∀ d, toldTo d (h.handle (.register c)).2 =
      toldTo d [] ++ if h.roster.hasAccount c.account then [] else
        signals .online c stamps (((h.store.roomsOf c.account).filter fun m =>
          h.rooms.Holds m.room.id d ∧ d.account ≠ c.account).map (·.room.id)) :=
    register_utters (t := { hub := h }) hc hcalm hfits
  refine ⟨fun hother d => ?_, fun hfirst => ?_⟩
  · rw [htold, if_pos (hc.roster.hasAccount_iff.2 hother)]
    rfl
  · -- no other device of the account is registered
    have hnone : ¬ h.roster.hasAccount c.account = true := by
      rw [hc.roster.hasAccount_iff]
      rintro ⟨d, hd, hda⟩
      exact hfirst d hd hda
    refine ⟨_, stamps, lists_roomsOf hc.store hd c.account, fun d => ?_⟩
    rw [htold, if_neg hnone, List.filter_map, List.map_map]
    rfl

/-- `handle` of `.unregister` `TellsOfGoing`. -/
theorem Coherent.tellsOfGoing (hc : h.Coherent) (hfits : (Inbound.unregister c).Fits h) :
    h.TellsOfGoing c (h.handle (.unregister c)).2 := by
  by_cases hreg : h.roster.Holds c
  swap
  · have hquiet : (h.handle (.unregister c)).2 = [] := by
      rcases handle_unregister hc hfits with ⟨-, hsame⟩ | ⟨hgone, -⟩
      · rw [hsame]
      · exact absurd (Roster.remove_eq_some hgone.roster).1 hreg
    rw [hquiet]
    exact ⟨fun _ _ => rfl, fun _ _ => rfl, fun hreg' => absurd hreg' hreg⟩
  obtain ⟨stamps, htold⟩ : ∃ stamps, ∀ d, toldTo d (h.handle (.unregister c)).2 =
      toldTo d [] ++ if (h.roster.remove c.id).2.hasAccount c.account then [] else
        signals .offline c stamps
          ((h.rooms.rooms.filter fun r => r.Holds c ∧ r.Holds d ∧ d ≠ c).map LiveRoom.id) :=
    unregister_utters (t := { hub := h }) hc hreg
  have hstays : (h.roster.remove c.id).2.hasAccount c.account = true ↔
      ∃ d, h.roster.Holds d ∧ d ≠ c ∧ d.account = c.account := by
    have hremove := Roster.remove_of_holds hreg
    rw [(hc.roster.remove hremove).hasAccount_iff]
    simp only [Roster.holds_remove hremove, and_assoc]
  refine ⟨fun hunknown => absurd hreg hunknown, fun hother d => ?_, fun _ hlast => ?_⟩
  · rw [htold, if_pos (hstays.2 hother)]
    rfl
  have hnone : ¬ (h.roster.remove c.id).2.hasAccount c.account = true := by
    rw [hstays]
    rintro ⟨d, hd, hne, hda⟩
    exact hlast d hd hne hda
  -- a live room is the one of its identifier
  have hholds : ∀ r ∈ h.rooms.rooms, ∀ d, h.rooms.Holds r.id d ↔ r.Holds d := by
    intro r hr d
    rw [LiveRooms.Holds, hc.rooms.mem_rooms_iff.1 hr]
    simp
  refine ⟨(h.rooms.rooms.filter fun r => r.Holds c).map LiveRoom.id, stamps, ?_, ?_, fun d => ?_⟩
  · exact hc.rooms.nodup_ids.sublist (List.filter_sublist.map _)
  · intro k
    simp only [List.mem_map, List.mem_filter, decide_eq_true_iff]
    constructor
    · rintro ⟨r, ⟨hr, hrc⟩, rfl⟩
      exact (hholds r hr c).2 hrc
    · rintro ⟨r, hr, hrc⟩
      have hid := hc.rooms.keyed k r hr
      exact ⟨r, ⟨hc.rooms.mem_rooms_iff.2 (hid.symm ▸ hr), hrc⟩, hid⟩
  · have hfilter : (h.rooms.rooms.filter fun r => r.Holds c ∧ r.Holds d ∧ d ≠ c) =
        (h.rooms.rooms.filter fun r => r.Holds c).filter fun r =>
          h.rooms.Holds r.id d ∧ d ≠ c := by
      rw [List.filter_filter]
      refine List.filter_congr fun r hr => ?_
      rw [← Bool.decide_and, decide_eq_decide, hholds r hr]
      exact and_comm
    rw [htold, if_neg hnone, hfilter, List.filter_map]
    rfl

/-- **Signals mark the first and the last device.** In every state that a hub reaches from one
without rooms, while the store is in reach, a connection that comes is announced to the others in
the rooms of its account if it is the first one of that account, and one that goes is missed by the
others in its live rooms if it is the last one. Each of them is told once for each room, and nobody
else is told anything. -/
theorem signals_of_reachable {accounts : List Account} {mint : Mint}
    (hr : Reachable (fresh accounts mint []) h) (hfits : (Inbound.register c).Fits h) :
    h.TellsOfComing c (h.handle (.register c)).2 ∧
      h.TellsOfGoing c (h.handle (.unregister c)).2 := by
  have hc := hr.coherent (coherent_fresh accounts mint [])
  have hcalm := hr.calm (coherent_fresh accounts mint []) rfl
  exact ⟨hc.tellsOfComing hcalm hr.distinct hfits, hc.tellsOfGoing hfits⟩

/-- The only device of `bob` goes, and `ann` is told so once. -/
theorem signals_farewell : ∃ h, Reachable (lobby []) h ∧ (Inbound.register bob).Fits h ∧
    h.TellsOfComing bob (h.handle (.register bob)).2 ∧
    h.TellsOfGoing bob (h.handle (.unregister bob)).2 ∧
    (toldTo ann (h.handle (.unregister bob)).2).length = 1 := by
  have hr : Reachable (lobby []) ((lobby []).run meeting).1 :=
    Reachable.start.run (by decide +kernel)
  have hfits : (Inbound.register bob).Fits ((lobby []).run meeting).1 := by decide +kernel
  obtain ⟨hcoming, hgoing⟩ := signals_of_reachable hr hfits
  exact ⟨_, hr, hfits, hcoming, hgoing, by decide +kernel⟩

end Hub

end GroupChat
