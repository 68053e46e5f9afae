import GroupChat.Hub.Presence
import GroupChat.Proofs.Hub.Answer
import GroupChat.Proofs.Hub.Lookup

/-!
# Coming and going

A connection that comes enters the live rooms of the memberships of its account, and one that goes
leaves all rooms. The store only counts.

## Main definitions

- `Hub.Registers`, `Hub.Unregisters`: a connection came or went.

## Main statements

- `register_gives`, `unregister_gives`: what a connection that comes or goes does to the hub.
- `Registers.coherent`, `Unregisters.coherent`: connections, live rooms and store still fit
  together.
-/

namespace GroupChat.Hub

/-- The connection `c` came, and entered the rooms of its account (`LiveRooms.Enters`), as far as
they are known. -/
structure Registers (h h' : Hub) (c : Connection) : Prop where
  /-- The connection is registered. -/
  roster : h'.roster = h.roster.add c
  /-- It entered the rooms of its account, or none if the store was out of reach. -/
  rooms : ∃ ms, (ms = h.store.roomsOf c.account ∨ ¬ h.Calm ∧ ms = []) ∧
    h.rooms.Enters h'.rooms c ms
  /-- It may have been counted. -/
  store : h'.store = { h.store with presence := h'.store.presence }
  /-- It was counted if the store was in reach. -/
  counted : h.Calm → h'.store = h.store.markOnline c.account

/-- The connection `c` went, and left all rooms (`LiveRooms.Leaves`). -/
structure Unregisters (h h' : Hub) (c : Connection) : Prop where
  /-- The connection was registered, and is not any more. -/
  roster : h.roster.remove c.id = (some c, h'.roster)
  /-- It left all rooms. -/
  rooms : h.rooms.Leaves h'.rooms c.id
  /-- Its end may have been counted. -/
  store : h'.store = { h.store with presence := h'.store.presence }
  /-- It was counted if the store was in reach. -/
  counted : h.Calm → h'.store = h.store.markOffline c.account

variable {h h' : Hub} {c : Connection} {t u : Turn}

/-- A store that differs in `presence` only has the same rooms and roles. -/
theorem agrees_of_presence {s s' : Store} (h : s' = { s with presence := s'.presence }) :
    s.Agrees s' := by
  rw [h]
  exact ⟨fun _ => rfl, fun _ _ => rfl, rfl⟩

/-- `Registers` keeps a hub `Coherent`. -/
theorem Registers.coherent (hr : h.Registers h' c) (hc : h.Coherent)
    (hnew : ∀ d, h.roster.get? c.id = some d → d = c) : h'.Coherent := by
  have hagrees := agrees_of_presence hr.store
  have hroster := hc.roster.add hnew
  have hrooms : h.rooms.Sound (h.roster.add c) :=
    hc.rooms.mono fun _ hd => (Roster.holds_add hnew).2 (Or.inr hd)
  have hself : (h.roster.add c).Holds c := (Roster.holds_add hnew).2 (Or.inl rfl)
  obtain ⟨ms, hms, henters⟩ := hr.rooms
  refine ⟨hr.roster ▸ hroster, ?_, hc.store.of_agrees hagrees, fun k room hk => ?_⟩
  · rw [hr.roster]
    exact henters.sound hrooms hself
  · rw [hagrees.rooms]
    -- a room that was entered has the information that the store gave for it
    by_cases hm : ∃ m ∈ ms, m.room.id = k
    · obtain ⟨m, hm, rfl⟩ := hm
      have hstored : h.store.rooms.get? m.room.id = some m.room := by
        rcases hms with rfl | ⟨-, rfl⟩
        · exact ((Store.mem_roomsOf hc.store).1 hm).1
        · cases hm
      rw [henters.entered m hm] at hk
      cases hk
      rw [LiveRoom.info_join, hc.info_roomOf hstored, hstored]
    · push Not at hm
      rw [henters.others k hm] at hk
      exact hc.stored k room hk

/-- `Unregisters` keeps a hub `Coherent`. -/
theorem Unregisters.coherent (hr : h.Unregisters h' c) (hc : h.Coherent) : h'.Coherent := by
  have hagrees := agrees_of_presence hr.store
  refine ⟨hc.roster.remove hr.roster, ?_, hc.store.of_agrees hagrees, fun k room hk => ?_⟩
  · refine hr.rooms.sound hc.rooms fun d hd hid => (Roster.holds_remove hr.roster).2 ⟨hd, ?_⟩
    rintro rfl
    exact hid rfl
  · rw [hagrees.rooms]
    obtain ⟨r, hr', rfl, -⟩ := hr.rooms.eq_some hk
    rw [LiveRoom.info_leave_snd]
    exact hc.stored k r hr'

/-! ### Counting -/

/-- `orReport` of a call that counts connections changes `presence` only, whether it succeeds or
not; it succeeds under calm. -/
theorem orReport_presence_gives (kind : StoreCall) {f : Store → Store}
    {incident : StoreError → Incident} (hf : ∀ s, f s = { s with presence := (f s).presence })
    (hnews : ∀ e, (Effect.report (incident e)).IsNews) (t : Turn) :
    Step.Gives (orReport (tell kind fun s => (.ok (), f s)) incident) t fun _ u =>
      t.Informs u ∧ u.hub.rooms = t.hub.rooms ∧
        u.hub.store = { t.hub.store with presence := u.hub.store.presence } ∧
        (t.hub.Calm → u.hub.store = f t.hub.store) := by
  refine (orReport_gives kind (Store.spares_ok f) _ t).mono fun _ u hu => ?_
  rcases hu with ⟨store, hmark, hb⟩ | ⟨e, hb, hfail⟩
  · cases hmark
    refine ⟨hb.informs (by simp), hb.rooms, ?_, fun _ => hb.store⟩
    rw [hb.store]
    exact hf _
  · refine ⟨hb.informs fun e' he => ?_, hb.rooms, by rw [hb.store], fun hcalm => by cases hfail hcalm⟩
    rw [List.mem_singleton.1 he]
    exact hnews e

/-! ### A connection that comes -/

/-- `storedRooms` gives the rooms of an account, or none if the store is out of reach. -/
theorem storedRooms_gives (account : String) (t : Turn) :
    Step.Gives (storedRooms account) t fun ms u => t.Speaks u ∧
      (ms = t.hub.store.roomsOf account ∨ ¬ t.hub.Calm ∧ ms = []) := by
  unfold storedRooms
  refine (ask_gives _ _ t).bind ?_
  rintro r s ⟨hs, rfl | ⟨e, rfl, hcalm⟩⟩
  · exact Step.gives_pure ⟨hs.speaks, Or.inl rfl⟩
  · refine (act_gives _ s).bind fun _ u hu => Step.gives_pure ⟨?_, Or.inr ⟨hcalm, rfl⟩⟩
    exact hs.speaks.trans (hu.speaks (by simp [Effect.IsNews, Effect.IsUndoFailure]))

theorem liveRoom_gives (info : RoomInfo) (t : Turn) :
    Step.Gives (liveRoom info) t fun room u => room = t.hub.rooms.roomOf info ∧ u = t :=
  ⟨rfl, rfl⟩

/-- `enterRooms`, by induction on the rooms, which have different identifiers, so that a later step
does not touch an earlier room. -/
theorem enterRooms_gives (c : Connection) (first : Bool) (ms : List Membership) (t : Turn)
    (hn : (ms.map (·.room.id)).Nodup)
    (hid : ∀ m ∈ ms, (t.hub.rooms.roomOf m.room).id = m.room.id) :
    Step.Gives (enterRooms c first ms) t fun _ u =>
      t.Informs u ∧ u.hub.store = t.hub.store ∧ t.hub.rooms.Enters u.hub.rooms c ms := by
  induction ms generalizing t with
  | nil => exact Step.gives_pure ⟨(Turn.Asks.refl t).informs, rfl, by simp, fun _ _ => rfl⟩
  | cons m ms ih =>
    rw [List.map_cons, List.nodup_cons] at hn
    rw [enterRooms]
    refine (liveRoom_gives _ t).bind ?_
    rintro room s ⟨rfl, rfl⟩
    refine (addRoom_gives _ s).bind fun _ v hv => ?_
    have henters : s.hub.rooms.Enters v.hub.rooms c [m] := by
      rw [hv.rooms]
      exact LiveRooms.enters_add (hid m List.mem_cons_self) c
    -- the rooms that are left to enter are other rooms
    have hothers : ∀ m' ∈ ms, m'.room.id ≠ m.room.id := fun m' hm' h =>
      hn.1 (h ▸ List.mem_map_of_mem hm')
    have hrest : ∀ w, v.Speaks w → Step.Gives (enterRooms c first ms) w fun _ u =>
        s.Informs u ∧ u.hub.store = s.hub.store ∧
          s.hub.rooms.Enters u.hub.rooms c (m :: ms) := by
      intro w hw
      have hid' : ∀ m' ∈ ms, (w.hub.rooms.roomOf m'.room).id = m'.room.id := by
        intro m' hm'
        have hsame : v.hub.rooms.get? m'.room.id = s.hub.rooms.get? m'.room.id :=
          henters.others _ fun m'' hm'' => by
            rw [List.mem_singleton.1 hm'']
            exact (hothers m' hm').symm
        rw [hw.rooms, LiveRooms.roomOf, hsame]
        exact hid m' (List.mem_cons_of_mem _ hm')
      refine (ih w hn.2 hid').mono ?_
      rintro - u ⟨hu, hstore, hrest⟩
      rw [hw.rooms] at hrest
      refine ⟨((hv.informs (by simp)).trans hw.informs).trans hu, ?_,
        henters.cons hrest hothers⟩
      rw [hstore, hw.store, hv.store]
    split
    · refine (signal_gives _ _ _ v).bind ?_
      rintro event w ⟨hw, n, rfl, -⟩
      refine Step.Gives.bind (Step.Gives.discard (broadcastExcept_speaks _ _ ?_ w)) ?_
      · exact fun _ => trivial
      · exact fun _ x hx => hrest x (hw.speaks.trans hx)
    · exact hrest v (Turn.Asks.refl v).speaks

/-- `register` makes the hub one that `Registers` the connection, and all that it sends is news. -/
theorem register_gives (hc : t.hub.Coherent) (c : Connection) :
    Step.Gives (register c) t fun _ u => t.hub.Registers u.hub c ∧ (t.hub.Calm → u.hub.Calm) ∧
      ∃ news, u.effects = t.effects ++ news ∧ ∀ e ∈ news, e.IsNews := by
  unfold register
  refine (look_gives _ t).bind ?_
  rintro connected s ⟨rfl, rfl⟩
  refine (change_gives _ s).bind fun _ v hv => ?_
  have hrooms : v.hub.rooms = s.hub.rooms := by rw [hv]
  have hstore : v.hub.store = s.hub.store := by rw [hv]
  refine (orReport_presence_gives _ (fun _ => rfl)
    (fun _ => by simp [Effect.IsNews, Effect.IsUndoFailure]) v).bind ?_
  rintro - w ⟨hinf, hwrooms, hwstore, hcounted⟩
  refine (storedRooms_gives c.account w).bind fun ms x hx => ?_
  have hvcalm : s.hub.Calm → v.hub.Calm := fun h => by rw [hv]; exact h
  have hcalm : s.hub.Calm → w.hub.Calm := fun h => hinf.calm (hvcalm h)
  -- counting the connection has not changed the rooms of the account
  have hms : ms = s.hub.store.roomsOf c.account ∨ ¬ s.hub.Calm ∧ ms = [] := by
    refine hx.2.imp (fun h => ?_) fun h => ⟨fun hc => h.1 (hcalm hc), h.2⟩
    rw [h, hwstore, hstore]
    rfl
  have hxrooms : x.hub.rooms = s.hub.rooms := by rw [hx.1.rooms, hwrooms, hrooms]
  refine (enterRooms_gives c _ ms x ?_ ?_).mono ?_
  · rcases hms with rfl | ⟨-, rfl⟩
    · exact Store.nodup_roomsOf hc.store c.account
    · exact List.nodup_nil
  · intro m _
    rw [hxrooms]
    exact hc.rooms.id_roomOf m.room
  rintro - u ⟨hu, hustore, henters⟩
  rw [hxrooms] at henters
  -- a report, the question for the rooms, and the signals are all news
  have hall := (hinf.trans hx.1.informs).trans hu
  refine ⟨⟨?_, ⟨ms, hms, henters⟩, ?_, fun h => ?_⟩,
    fun h => hu.calm (hx.1.informs.calm (hcalm h)), ?_⟩
  · rw [hall.roster, hv]
  · rw [hustore, hx.1.store, hwstore, hstore]
  · rw [hustore, hx.1.store, hcounted (hvcalm h), hstore]
  · obtain ⟨news, hb, hnews⟩ := hall
    exact ⟨news, by rw [hb.effects, hv], hnews⟩

/-! ### A connection that goes -/

/-- `leaveRooms`, by induction on the rooms, which have different identifiers. -/
theorem leaveRooms_gives (c : Connection) (last : Bool) (rs : List LiveRoom) (t : Turn)
    (hn : (rs.map LiveRoom.id).Nodup)
    (hlive : ∀ r ∈ rs, t.hub.rooms.get? r.id = some r ∧ r.isEmpty = false) :
    Step.Gives (leaveRooms c last rs) t fun _ u =>
      t.Informs u ∧ u.hub.store = t.hub.store ∧
        (∀ r ∈ rs, u.hub.rooms.get? r.id = r.remains c.id) ∧
        ∀ k, (∀ r ∈ rs, r.id ≠ k) → u.hub.rooms.get? k = t.hub.rooms.get? k := by
  induction rs generalizing t with
  | nil => exact Step.gives_pure ⟨(Turn.Asks.refl t).informs, rfl, by simp, fun _ _ => rfl⟩
  | cons r rs ih =>
    rw [List.map_cons, List.nodup_cons] at hn
    have hothers : ∀ r' ∈ rs, r'.id ≠ r.id := fun r' hr' h => hn.1 (h ▸ List.mem_map_of_mem hr')
    -- once the room is in its place, the other rooms follow
    have hrest : ∀ w, t.Informs w → w.hub.store = t.hub.store →
        (∀ k, w.hub.rooms.get? k = if k = r.id then r.remains c.id else t.hub.rooms.get? k) →
        Step.Gives (leaveRooms c last rs) w fun _ u =>
          t.Informs u ∧ u.hub.store = t.hub.store ∧
            (∀ r' ∈ r :: rs, u.hub.rooms.get? r'.id = r'.remains c.id) ∧
            ∀ k, (∀ r' ∈ r :: rs, r'.id ≠ k) → u.hub.rooms.get? k = t.hub.rooms.get? k := by
      intro w hw hstore hget
      refine (ih w hn.2 fun r' hr' => ?_).mono ?_
      · rw [hget, if_neg (hothers r' hr')]
        exact hlive r' (List.mem_cons_of_mem _ hr')
      rintro - u ⟨hu, hustore, hleft, hsame⟩
      refine ⟨hw.trans hu, hustore.trans hstore, fun r' hr' => ?_, fun k hk => ?_⟩
      · rcases List.mem_cons.1 hr' with rfl | hr'
        · rw [hsame _ hothers, hget, if_pos rfl]
        · exact hleft r' hr'
      · have hne : k ≠ r.id := fun h => hk r List.mem_cons_self h.symm
        rw [hsame k fun r' hr' => hk r' (List.mem_cons_of_mem _ hr'), hget, if_neg hne]
    obtain ⟨hr, hoccupied⟩ := hlive r List.mem_cons_self
    have hid : (r.leave c.id).2.id = r.id := by rw [LiveRoom.id, LiveRoom.info_leave_snd]; rfl
    rw [leaveRooms]
    rcases hleave : r.leave c.id with ⟨_ | d, r'⟩
    · -- the connection was not in the room
      have hr' : r' = r := LiveRoom.leave_snd_of_eq_none hleave
      refine hrest t (Turn.Asks.refl t).informs rfl fun k => ?_
      rw [LiveRoom.remains, hleave, hr', hoccupied]
      split
      · rename_i hk
        rw [hk, hr]
        rfl
      · rfl
    · rw [hleave] at hid
      dsimp only at hid ⊢
      have hremains : r.remains c.id = if r'.isEmpty then none else some r' := by
        rw [LiveRoom.remains, hleave]
      split
      · rename_i hempty
        refine (dropRoom_gives _ t).bind fun _ w hw => hrest w (hw.informs (by simp)) hw.store ?_
        intro k
        rw [hw.rooms, LiveRooms.get?_remove, hid, hremains, if_pos hempty]
      · rename_i hempty
        refine (addRoom_gives _ t).bind fun _ v hv => ?_
        have hget : ∀ k, v.hub.rooms.get? k =
            if k = r.id then r.remains c.id else t.hub.rooms.get? k := by
          intro k
          rw [hv.rooms, LiveRooms.get?_add, hid, hremains, if_neg hempty]
        split
        · refine (signal_gives _ _ _ v).bind ?_
          rintro event w ⟨hw, n, rfl, -⟩
          refine Step.Gives.bind (Step.Gives.discard (broadcast_speaks _ ?_ w)) fun _ x hx =>
            hrest x ?_ ?_ ?_
          · exact fun _ => trivial
          · exact (hv.informs (by simp)).trans (hw.speaks.trans hx).informs
          · rw [hx.store, hw.store, hv.store]
          · intro k
            rw [hx.rooms, hw.rooms, hget]
        · exact hrest v (hv.informs (by simp)) hv.store hget

/-- `unregister` does nothing to a connection that is not registered; otherwise the hub
`Unregisters` it. -/
theorem unregister_gives (hc : t.hub.Coherent) (c : Connection)
    (hfits : ∀ d, t.hub.roster.get? c.id = some d → d = c) :
    Step.Gives (unregister c) t fun _ u => (t.hub.roster.get? c.id = none ∧ u = t) ∨
      t.hub.Unregisters u.hub c ∧ (t.hub.Calm → u.hub.Calm) ∧
        ∃ news, u.effects = t.effects ++ .close c :: news ∧ ∀ e ∈ news, e.IsNews := by
  unfold unregister
  refine (look_gives _ t).bind ?_
  rintro ⟨_ | d, roster⟩ s ⟨hremove, rfl⟩
  · -- the identifier is not registered
    exact Step.gives_pure (Or.inl ⟨(Roster.remove_eq_none hremove.symm).1, rfl⟩)
  obtain rfl := hfits d (Roster.remove_eq_some hremove.symm).1
  refine (change_gives _ s).bind fun _ v hv => ?_
  refine (act_gives (.close d) v).bind fun _ w hw => ?_
  have hrooms : w.hub.rooms = s.hub.rooms := by rw [hw.rooms, hv]
  have hstore : w.hub.store = s.hub.store := by rw [hw.store, hv]
  refine (look_gives _ w).bind ?_
  rintro connected x ⟨rfl, rfl⟩
  refine (look_gives _ x).bind ?_
  rintro rooms y ⟨rfl, rfl⟩
  rw [hrooms]
  refine (leaveRooms_gives d _ _ y hc.rooms.nodup_ids fun r hr => ?_).bind ?_
  · rw [hrooms]
    rw [hc.rooms.mem_rooms_iff] at hr
    exact ⟨hr, hc.rooms.occupied _ r hr⟩
  rintro - z ⟨hz, hzstore, hleft, hothers⟩
  -- each live room was gone through once, so it was left or never entered
  have hleaves : s.hub.rooms.Leaves z.hub.rooms d.id := by
    intro k
    cases hk : s.hub.rooms.get? k with
    | some r =>
      have hid := hc.rooms.keyed k r hk
      rw [← hid, hleft r (hc.rooms.mem_rooms_iff.2 (hid.symm ▸ hk)), Option.bind_some]
    | none =>
      refine (hothers k fun r hr h => ?_).trans ((congrArg (·.get? k) hrooms).trans hk)
      rw [hc.rooms.mem_rooms_iff, h, hk] at hr
      cases hr
  refine (orReport_presence_gives _ (fun s => s.markOffline_eq d.account)
    (fun _ => by simp [Effect.IsNews, Effect.IsUndoFailure]) z).mono ?_
  rintro - u ⟨hinf, hurooms, hustore, hcounted⟩
  have hall := hz.trans hinf
  have hycalm : s.hub.Calm → y.hub.Calm := fun h => hw.calm (by rw [hv]; exact h)
  refine Or.inr ⟨⟨?_, ?_, ?_, fun h => ?_⟩, fun h => hall.calm (hycalm h), ?_⟩
  · rw [hall.roster, hw.roster, hv]
    exact hremove.symm
  · rw [hurooms]
    exact hleaves
  · rw [hustore, hzstore, hstore]
  · rw [hcounted (hz.calm (hycalm h)), hzstore, hstore]
  · obtain ⟨news, hb, hnews⟩ := hall
    exact ⟨news, by rw [hb.effects, hw.effects, hv, List.append_assoc]; rfl, hnews⟩

end GroupChat.Hub
