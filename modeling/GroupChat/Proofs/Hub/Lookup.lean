import GroupChat.Hub.Lookup
import GroupChat.Proofs.Hub.Turn

/-!
# Finding rooms and accounts

In a coherent hub the live rooms are rooms of the store, and what is found is the live room of
stored information, whichever of the two was looked at.

## Main definitions

- `Hub.Coherent`: connections, live rooms and store fit together.
- `Hub.resolved?`: the information of the room that a reference is resolved to.

## Main statements

- `resolve_gives`, `memberRoom_gives`: the room of a reference, and when there is none.
- `knownAccount_gives`, `knownAccounts_gives`: accounts that must exist.
- `distinct_eq_eraseDups`, `nodup_distinct`, `mem_distinct`: the elements of a list, each of them
  once.
-/

namespace GroupChat.Hub

/-- `roster`, live `rooms` and `store` of a hub fit together. -/
structure Coherent (h : Hub) : Prop where
  /-- The directory of connections is sound. -/
  roster : h.roster.Sound
  /-- The live rooms are sound, and who is in them is registered. -/
  rooms : h.rooms.Sound h.roster
  /-- The store is sound. -/
  store : h.store.Sound
  /-- A live room is a room of the store. -/
  stored : ∀ k room, h.rooms.get? k = some room → h.store.rooms.get? k = some room.info

variable {h : Hub} {t u : Turn}

/-- `roomOf` gives a room with the stored data, be it live or made just now. -/
theorem Coherent.info_roomOf (hc : h.Coherent) {info : RoomInfo}
    (hs : h.store.rooms.get? info.id = some info) : (h.rooms.roomOf info).info = info := by
  rw [LiveRooms.roomOf]
  cases hr : h.rooms.get? info.id with
  | none => rfl
  | some room => exact Option.some.inj ((hc.stored _ room hr).symm.trans hs)

theorem Coherent.id_roomOf (hc : h.Coherent) {info : RoomInfo}
    (hs : h.store.rooms.get? info.id = some info) : (h.rooms.roomOf info).id = info.id := by
  rw [LiveRoom.id, hc.info_roomOf hs]

theorem Coherent.roomOf_of_get? (hc : h.Coherent) {k : String} {room : LiveRoom}
    (hr : h.rooms.get? k = some room) : h.rooms.roomOf room.info = room := by
  have hk : room.info.id = k := hc.rooms.keyed k room hr
  rw [LiveRooms.roomOf, hk, hr, Option.getD_some]

/-- `Places` keeps a hub `Coherent` if the room is `Sound`, its connections are registered, and the
store has it whenever somebody is connected to it. -/
theorem Coherent.place {h' : Hub} {room : LiveRoom} (hc : h.Coherent)
    (hroster : h'.roster = h.roster) (hp : h.rooms.Places h'.rooms room) (hr : room.Sound)
    (hw : room.Within h.roster) (hstore : h'.store.Sound)
    (hsame : ∀ k, k ≠ room.id → h'.store.rooms.get? k = h.store.rooms.get? k)
    (hroom : room.isEmpty = false → h'.store.rooms.get? room.id = some room.info) :
    h'.Coherent where
  roster := hroster ▸ hc.roster
  rooms := by
    rw [hroster]
    exact hp.sound hc.rooms hr hw
  store := hstore
  stored k r hk := by
    obtain ⟨rfl, rfl, he⟩ | ⟨hne, hk⟩ := hp.eq_some hk
    · exact hroom he
    · rw [hsame k hne]
      exact hc.stored k r hk

/-! ### References -/

/-- The information of the room that `liveByReference?` finds, or that the store has. -/
def resolved? (h : Hub) (reference : String) : Option RoomInfo :=
  match h.liveByReference? reference with
  | some room => some room.info
  | none => (h.store.roomById? reference).or (h.store.roomByName? reference)

/-- `liveByReference?` finds a live room by its identifier or by its name. -/
theorem get?_of_liveByReference? (hc : h.Coherent) {reference : String} {room : LiveRoom}
    (hr : h.liveByReference? reference = some room) :
    h.rooms.get? room.id = some room ∧ (room.id = reference ∨ room.info.name = reference) := by
  unfold liveByReference? at hr
  split at hr
  · rename_i room' hid
    cases hr
    have hk := hc.rooms.keyed _ _ hid
    exact ⟨by rw [hk, hid], Or.inl hk⟩
  · obtain ⟨hn, k, hk⟩ := Table.find?_values_eq_some hr
    have hid : room.id = k := hc.rooms.keyed k room hk
    exact ⟨by rw [hid]; exact hk, Or.inr (beq_iff_eq.1 hn)⟩

/-- What `resolved?` finds is stored under its identifier, and the reference is that identifier or
its name. -/
theorem stored_of_resolved? (hc : h.Coherent) {reference : String} {info : RoomInfo}
    (hr : h.resolved? reference = some info) :
    h.store.rooms.get? info.id = some info ∧ (info.id = reference ∨ info.name = reference) := by
  unfold resolved? at hr
  split at hr
  · rename_i room hl
    cases hr
    obtain ⟨hk, href⟩ := get?_of_liveByReference? hc hl
    exact ⟨hc.stored _ room hk, href⟩
  · rcases Option.or_eq_some_iff.1 hr with hid | ⟨-, hname⟩
    · have hk := hc.store.keyed _ _ hid
      exact ⟨hk.symm ▸ hid, Or.inl hk⟩
    · obtain ⟨hn, k, hk⟩ := Store.roomByName?_eq_some hname
      exact ⟨hc.store.keyed k info hk ▸ hk, Or.inr hn⟩

/-- `storedRoom` looks for the identifier first, and then for the name. -/
theorem storedRoom_gives (reference : String) (t : Turn) :
    Request.Gives (storedRoom reference) t
      (fun e u => t.Asks u ∧ t.hub.Fails e)
      (fun info? u => t.Asks u ∧
        info? = (t.hub.store.roomById? reference).or (t.hub.store.roomByName? reference)) := by
  unfold storedRoom
  refine (orFail_ask_gives _ _ t).bind (fun _ _ h => h) ?_
  rintro info? s ⟨ha, rfl⟩
  split
  · rename_i info hid
    exact Request.gives_pure ⟨ha, by rw [hid, Option.some_or]⟩
  · rename_i hid
    refine (orFail_ask_gives _ _ s).mono (fun e u hu => ⟨ha.trans hu.1, ha.fails hu.2⟩) ?_
    rintro info? u ⟨hu, rfl⟩
    exact ⟨ha.trans hu, by rw [hid, Option.none_or, ha.store]⟩

/-- `resolve` gives `roomOf` the information that `resolved?` finds, or `.roomNotFound` if there is
none. -/
theorem resolve_gives (hc : t.hub.Coherent) (reference : String) :
    Request.Gives (resolve reference) t
      (fun e u => t.Asks u ∧
        (t.hub.Fails e ∨ (e = .roomNotFound ∧ t.hub.resolved? reference = none)))
      (fun room u => t.Asks u ∧
        ∃ info, t.hub.resolved? reference = some info ∧ room = t.hub.rooms.roomOf info) := by
  unfold resolve
  refine (see_gives _ t).bind (fun _ _ h => h.elim) ?_
  rintro live s ⟨rfl, rfl⟩
  split
  · rename_i room hl
    -- the reference stands for a live room
    refine Request.gives_pure ⟨Turn.Asks.refl s, room.info, by rw [resolved?, hl], ?_⟩
    exact (hc.roomOf_of_get? (get?_of_liveByReference? hc hl).1).symm
  · rename_i hl
    -- it does not, and the store is asked
    refine (storedRoom_gives reference s).bind (fun e u h => ⟨h.1, Or.inl h.2⟩) ?_
    rintro info? u ⟨ha, hi⟩
    split
    · refine Request.gives_throw ⟨ha, Or.inr ⟨rfl, ?_⟩⟩
      rw [resolved?, hl]
      exact hi.symm
    · rename_i info
      refine Request.gives_see ⟨ha, info, ?_, ?_⟩
      · rw [resolved?, hl]
        exact hi.symm
      · rw [ha.rooms]
        rfl

/-- `memberRoom` finds the room of a reference, if the account has a role in the live room. -/
theorem memberRoom_gives (hc : t.hub.Coherent) (c : Connection) (reference : String) :
    Request.Gives (memberRoom c reference) t
      (fun e u => t.Asks u ∧
        (t.hub.Fails e ∨ (e = .roomNotFound ∧ t.hub.resolved? reference = none) ∨
          (e = .notMember ∧ ∃ info, t.hub.resolved? reference = some info ∧
            t.hub.rooms.roleOf? info.id c.account = none)))
      (fun room u => t.Asks u ∧
        ∃ info, t.hub.resolved? reference = some info ∧ room = t.hub.rooms.roomOf info ∧
          (t.hub.rooms.roleOf? info.id c.account).isSome = true) := by
  unfold memberRoom
  refine (resolve_gives hc reference).bind
    (fun e u h => ⟨h.1, h.2.elim Or.inl fun h => Or.inr (Or.inl h)⟩) ?_
  rintro room s ⟨ha, info, hi, rfl⟩
  have hm := LiveRooms.hasAccount_roomOf t.hub.rooms info c.account
  split
  · rename_i hm'
    exact Request.gives_pure ⟨ha, info, hi, rfl, hm ▸ hm'⟩
  · rename_i hm'
    rw [hm, Option.not_isSome_iff_eq_none] at hm'
    exact Request.gives_throw ⟨ha, Or.inr (Or.inr ⟨rfl, info, hi, hm'⟩)⟩

/-! ### Accounts -/

/-- `knownAccount` finds an account, or fails with its identifier. -/
theorem knownAccount_gives (id : String) (t : Turn) :
    Request.Gives (knownAccount id) t
      (fun e u => t.Asks u ∧
        (t.hub.Fails e ∨ (e = .userNotFound id ∧ t.hub.store.account? id = none)))
      (fun account u => t.Asks u ∧ t.hub.store.account? id = some account) := by
  unfold knownAccount
  refine (orFail_ask_gives _ _ t).bind (fun e u h => ⟨h.1, Or.inl h.2⟩) ?_
  rintro account? s ⟨ha, h⟩
  split
  · exact Request.gives_pure ⟨ha, h.symm⟩
  · exact Request.gives_throw ⟨ha, Or.inr ⟨rfl, h.symm⟩⟩

/-- `knownAccounts` fails with the identifier of an account that is not known, if there is one. -/
theorem knownAccounts_gives (ids : List String) (t : Turn) :
    Request.Gives (knownAccounts ids) t
      (fun e u => t.Asks u ∧
        (t.hub.Fails e ∨
          ∃ id ∈ ids, e = .userNotFound id ∧ t.hub.store.account? id = none))
      (fun _ u => t.Asks u ∧ ∀ id ∈ ids, (t.hub.store.account? id).isSome = true) := by
  induction ids generalizing t with
  | nil => exact Request.gives_pure ⟨Turn.Asks.refl t, by simp⟩
  | cons id ids ih =>
    rw [knownAccounts]
    refine (knownAccount_gives id t).bind (fun e u h => ⟨h.1, h.2.imp_right fun h =>
      ⟨id, List.mem_cons_self, h⟩⟩) ?_
    rintro account s ⟨ha, hid⟩
    refine (ih s).mono (fun e u h => ⟨ha.trans h.1, ?_⟩) (fun _ u h => ⟨ha.trans h.1, ?_⟩)
    · -- the first account is known, so one of the others is not
      rcases h.2 with hf | ⟨x, hx, he, hn⟩
      · exact Or.inl (ha.fails hf)
      · exact Or.inr ⟨x, List.mem_cons_of_mem _ hx, he, ha.store ▸ hn⟩
    · intro x hx
      rcases List.mem_cons.1 hx with rfl | hx
      · rw [hid]
        rfl
      · rw [← ha.store]
        exact h.2 x hx

/-! ### Distinct elements -/

theorem distinct_concat (ids : List String) (id : String) :
    distinct (ids ++ [id]) =
      if (distinct ids).contains id then distinct ids else distinct ids ++ [id] := by
  rw [distinct, List.foldl_append]
  rfl

/-- `distinct` keeps the first occurrence of each element, as `List.eraseDups` does. -/
theorem distinct_eq_eraseDups (ids : List String) : distinct ids = ids.eraseDups := by
  induction ids using List.reverseRecOn with
  | nil => rfl
  | append_singleton ids id ih =>
    rw [distinct_concat, ih, List.eraseDups_append]
    by_cases hseen : id ∈ ids
    · simp [List.removeAll, hseen]
    · simp [List.removeAll, hseen, List.eraseDups_cons]

/-- `distinct` lists the same identifiers. -/
theorem mem_distinct {ids : List String} {x : String} : x ∈ distinct ids ↔ x ∈ ids := by
  rw [distinct_eq_eraseDups, List.mem_eraseDups]

/-- `distinct` lists each identifier once. -/
theorem nodup_distinct (ids : List String) : (distinct ids).Nodup := by
  induction ids using List.reverseRecOn with
  | nil => exact List.nodup_nil
  | append_singleton ids id ih =>
    rw [distinct_concat]
    split
    · exact ih
    · rename_i hnew
      rw [List.contains_iff_mem] at hnew
      exact List.nodup_append.2 ⟨ih, List.nodup_singleton id, fun a ha b hb hab =>
        hnew (List.mem_singleton.1 hb ▸ hab ▸ ha)⟩

end GroupChat.Hub
