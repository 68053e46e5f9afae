import GroupChat.Proofs.Hub.Reference

/-!
# Names of rooms

The store takes any name. That no two rooms have the same one is due to the requests that make
rooms, which look for the name first, and to the mark in the names of private rooms. It holds even
after changes that were not taken back. So what is found by a name is the only room of that name,
and the rooms of an account are in the only order of their names, in whichever order a table keeps
them.

## Main definitions

- `Store.Reorders`: a store that keeps the same rooms and members in another order.
- `Hub.DistinctLive`: no two live rooms have the same name.

## Main statements

- `Distinct.live`: live rooms have different names, as stored ones have.
- `Distinct.roomByName?_congr`, `Distinct.roomsOf_congr`, `DistinctLive.named?_congr`: what does not
  depend on the order of tables.
- `distinct_of_reachable`: all of this, in all states.
-/

namespace GroupChat

/-- The store `s'` keeps the rooms and members of `s`, but the order of its tables may be another
one. -/
structure Store.Reorders (s s' : Store) : Prop where
  /-- The rooms. -/
  rooms : s.rooms.entries.Perm s'.rooms.entries
  /-- The members of each room. -/
  members : s.members.entries.Perm s'.members.entries

namespace Store

variable {s s' : Store} {a : String}

/-! ### Stores in another order -/

theorem Reorders.membership?_congr (h : s.Reorders s') (k : String) (roles : Table String Role) :
    s'.membership? a k roles = s.membership? a k roles := by
  rw [membership?, membership?, Table.get?_congr h.rooms k]

/-- `roomsOf` is the same up to order in a store that is reordered. -/
theorem Reorders.perm_roomsOf (h : s.Reorders s') (a : String) :
    (s'.roomsOf a).Perm (s.roomsOf a) := by
  have hmembers : (s'.members.entries.filterMap fun e => s'.membership? a e.1 e.2).Perm
      (s.members.entries.filterMap fun e => s.membership? a e.1 e.2) := by
    simp only [h.membership?_congr]
    exact h.members.symm.filterMap _
  exact ((List.mergeSort_perm _ _).trans hmembers).trans (List.mergeSort_perm _ _).symm

end Store

namespace Hub

/-- No two live rooms have the same `RoomInfo.name`. -/
def DistinctLive (h : Hub) : Prop :=
  ∀ k k' room room', h.rooms.get? k = some room → h.rooms.get? k' = some room' →
    room.info.name = room'.info.name → k = k'

variable {h : Hub} {s' : Store}

/-- `DistinctLive` follows from `Distinct`, as live rooms are stored under the same names. -/
theorem Distinct.live (hd : h.Distinct) (hc : h.Coherent) : h.DistinctLive :=
  fun k k' room room' hk hk' =>
    hd k k' room.info room'.info (hc.stored k room hk) (hc.stored k' room' hk')

/-! ### Any order -/

/-- `roomByName?` finds the same room in any order of the entries. -/
theorem Distinct.roomByName?_congr (hd : h.Distinct) (hs : h.store.Reorders s') (name : String) :
    s'.roomByName? name = h.store.roomByName? name :=
  Table.find?_values_beq_congr hs.rooms hd name

/-- `named?` finds the same live room in any order of the entries. -/
theorem DistinctLive.named?_congr (hd : h.DistinctLive) {rs : LiveRooms}
    (hrs : h.rooms.byId.entries.Perm rs.byId.entries) (name : String) :
    rs.named? name = h.rooms.named? name :=
  Table.find?_values_beq_congr hrs hd name

/-- `roomsOf` lists in the same order, as names are different and there is one sorted order of them.
-/
theorem Distinct.roomsOf_congr (hd : h.Distinct) (hc : h.Coherent) (hs : h.store.Reorders s')
    (a : String) : s'.roomsOf a = h.store.roomsOf a := by
  have hperm := hs.perm_roomsOf a
  refine List.Perm.eq_of_pairwise ?_ (s'.pairwise_roomsOf a) (h.store.pairwise_roomsOf a) hperm
  rintro ⟨info, role⟩ ⟨info', role'⟩ hm hm' hle hle'
  obtain ⟨hinfo, hrole⟩ := (Store.mem_roomsOf hc.store).1 (hperm.mem_iff.1 hm)
  obtain ⟨hinfo', hrole'⟩ := (Store.mem_roomsOf hc.store).1 hm'
  -- two rooms neither of which comes after the other have the same name
  have hname : info.name = info'.name :=
    String.le_antisymm (Store.beforeByRoom_iff.1 hle) (Store.beforeByRoom_iff.1 hle')
  obtain rfl : info = info' := hd.eq_of_name_eq hinfo hinfo' hname
  obtain rfl : role = role' := Option.some.inj (hrole.symm.trans hrole')
  rfl

/-! ### All states -/

/-- **Names of rooms are unique.** In every state that a hub reaches from one without rooms,
whichever calls to the store fail, no two stored rooms and no two live rooms have the same name.
Which room is found by a name, in the store or among the live rooms, and the order in which the
rooms of an account are listed do not depend on the order in which the tables keep their entries. -/
theorem distinct_of_reachable {accounts : List Account} {mint : Mint} {outages : List Outage}
    (hr : Reachable (fresh accounts mint outages) h) :
    h.Distinct ∧ h.DistinctLive ∧
    (∀ s', h.store.Reorders s' → (∀ name, s'.roomByName? name = h.store.roomByName? name) ∧
      ∀ a, s'.roomsOf a = h.store.roomsOf a) ∧
    ∀ rs : LiveRooms, h.rooms.byId.entries.Perm rs.byId.entries →
      ∀ name, rs.named? name = h.rooms.named? name := by
  have hd := hr.distinct
  have hc := hr.coherent (coherent_fresh accounts mint outages)
  exact ⟨hd, hd.live hc, fun s' hs => ⟨hd.roomByName?_congr hs, hd.roomsOf_congr hc hs⟩,
    fun rs hrs => (hd.live hc).named?_congr hrs⟩

/-- After `meeting`, `ann` has asked for the room a second time, and `bob` asks for another room. -/
def insistence : List Inbound :=
  meeting ++ [.event ann ⟨"create-room", .object [("name", .text "den")]⟩,
    .event bob ⟨"create-room", .object [("name", .text "attic")]⟩]

/-- A hub whose first room cannot be filled, and cannot be deleted again, after `insistence`. -/
def stranding : Hub :=
  ((lobby [⟨.addMember, 1, 1, .conflict⟩, ⟨.deleteRoom, 0, 1, .backend "down"⟩]).run insistence).1

/-- The table of rooms of `stranding`, read from the other end. -/
def turned : Table String RoomInfo :=
  ⟨stranding.store.rooms.entries.reverse, by
    rw [List.map_reverse, List.nodup_reverse]
    exact stranding.store.rooms.nodup⟩

/-- The room that was left in the store was not made a second time, and is found from either end. -/
theorem distinct_stranding :
    Reachable (lobby [⟨.addMember, 1, 1, .conflict⟩, ⟨.deleteRoom, 0, 1, .backend "down"⟩])
      stranding ∧ stranding.rooms.get? den = none ∧ stranding.store.rooms.size = 2 ∧
    stranding.store.Reorders { stranding.store with rooms := turned } ∧
    turned ≠ stranding.store.rooms ∧ stranding.Distinct ∧
    ({ stranding.store with rooms := turned } : Store).roomByName? "den" = some denInfo := by
  have hr : Reachable (lobby [⟨.addMember, 1, 1, .conflict⟩,
      ⟨.deleteRoom, 0, 1, .backend "down"⟩]) stranding := Reachable.start.run (by decide +kernel)
  have hs : stranding.store.Reorders { stranding.store with rooms := turned } :=
    ⟨(List.reverse_perm _).symm, List.Perm.refl _⟩
  obtain ⟨hd, -, hany, -⟩ := distinct_of_reachable hr
  refine ⟨hr, by decide +kernel, by decide +kernel, hs, by decide +kernel, hd, ?_⟩
  rw [(hany _ hs).1]
  decide +kernel

end Hub

end GroupChat
