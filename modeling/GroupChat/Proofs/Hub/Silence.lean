import GroupChat.Hub.Delivery
import GroupChat.Proofs.Hub.Audience

/-!
# Silence after a connection has gone

Live rooms never keep a connection that is not registered, and never stay when nobody is connected
to them. So once a connection has gone, nothing is sent to it, and what still arrives from it is
ignored, until a connection of its identifier comes again.

## Main definitions

- `Hub.Tidy`: nothing is left in the directories that should not be there.
- `Inbound.Admits`: an item lets a connection of an identifier come.
- `Hub.Mutes`: after items, an identifier has no part in what goes on.

## Main statements

- `Coherent.tidy`: what fits together is tidy.
- `mutes_run`: an identifier that is not registered has no part in what goes on.
- `tidy_and_silent_of_reachable`: all states are tidy, and silent about connections that have gone.
-/

namespace GroupChat

/-- The `item` lets a connection with the identifier `k` come. -/
def Inbound.Admits (item : Inbound) (k : String) : Prop :=
  match item with
  | .register c => c.id = k
  | _ => False

instance (item : Inbound) (k : String) : Decidable (item.Admits k) :=
  match item with
  | .register c => inferInstanceAs (Decidable (c.id = k))
  | .event _ _ | .malformed _ _ | .unregister _ => inferInstanceAs (Decidable False)

namespace Lines

variable {l : Lines} {k : String}

/-- `deliverOne` concerns the outbox of its own client only. -/
theorem get?_deliverOne {e : Effect} (h : ∀ d ∈ e.client?, d.id ≠ k) :
    (l.deliverOne e).get? k = l.get? k := by
  cases e with
  | send d event => exact get?_modify_of_ne (h d rfl) _
  | close d => exact get?_modify_of_ne (h d rfl) _
  | report i => rfl

/-- `deliver` of effects on others leaves an outbox as it is. -/
theorem get?_deliver {es : List Effect} (h : ∀ e ∈ es, ∀ d ∈ e.client?, d.id ≠ k) :
    (l.deliver es).get? k = l.get? k := by
  induction es generalizing l with
  | nil => rfl
  | cons e es ih =>
    rw [deliver_cons, ih fun e' he' => h e' (List.mem_cons_of_mem _ he')]
    exact get?_deliverOne (h e List.mem_cons_self)

end Lines

namespace Hub

/-- Live rooms are stored ones and stand under their identifiers, somebody is connected to each of
them, and whoever is connected to one is in the `roster`. Without connections, nothing is left. -/
structure Tidy (h : Hub) : Prop where
  /-- A live room stands under its own identifier. -/
  keyed : ∀ k room, h.rooms.get? k = some room → room.id = k
  /-- It is in the store. -/
  stored : ∀ k room, h.rooms.get? k = some room → h.store.rooms.get? k = some room.info
  /-- Somebody is connected to it. -/
  occupied : ∀ k room, h.rooms.get? k = some room → 0 < room.size
  /-- Whoever is connected to it is registered, under the same identifier. -/
  registered : ∀ k room x d, h.rooms.get? k = some room → room.connections.get? x = some d →
    d.id = x ∧ h.roster.get? x = some d
  /-- Without connections, no room is live and no account is listed. -/
  vacant : h.roster.size = 0 → h.rooms.size = 0 ∧ h.roster.byAccount.size = 0

/-- The identifier `k` had no part in what was done up to `after`, and has none in what comes next
unless an item `Admits` it. -/
structure Mutes (after : Hub × List Effect) (k : String) : Prop where
  /-- Nothing was done to a connection of the identifier. -/
  untold : ∀ e ∈ after.2, ∀ d ∈ e.client?, d.id ≠ k
  /-- What waits in its outbox stayed. -/
  queue : ∀ lines : Lines, (lines.deliver after.2).get? k = lines.get? k
  /-- What else comes from it changes nothing and does nothing. -/
  ignored : ∀ item : Inbound, item.connection.id = k → ¬ item.Admits k →
    after.1.handle item = (after.1, [])

variable {h : Hub} {item : Inbound} {k : String}

/-- A coherent hub is `Tidy`. -/
theorem Coherent.tidy (hc : h.Coherent) : h.Tidy where
  keyed := hc.rooms.keyed
  stored := hc.stored
  occupied k room hk := by
    rw [Nat.pos_iff_ne_zero, ne_eq, LiveRoom.size, Table.size_eq_zero_iff, ← Table.isEmpty_iff]
    have hoccupied : room.connections.isEmpty = false := hc.rooms.occupied k room hk
    rw [hoccupied]
    exact Bool.false_ne_true
  registered k room x d hk hd := by
    have hid : d.id = x := (hc.rooms.sound k room hk).keyed x d hd
    have hin : room.Holds d := (hc.rooms.sound k room hk).holds_of_get? hd
    exact ⟨hid, hid ▸ hc.rooms.within k room hk d hin⟩
  vacant hzero := by
    -- without connections nobody is in a room, and no account has a device
    have hnobody : ∀ d, ¬ h.roster.Holds d := by
      intro d hd
      have hnone : h.roster.get? d.id = none := Table.size_eq_zero_iff.1 hzero d.id
      rw [Roster.Holds, hnone] at hd
      cases hd
    constructor
    · refine Table.size_eq_zero_iff.2 fun k => hc.rooms.get?_eq_none_iff.2 ?_
      rintro d ⟨room, hk, hd⟩
      exact hnobody d (hc.rooms.within k room hk d hd)
    · refine Table.size_eq_zero_iff.2 fun a => ?_
      have hlisted : ¬ h.roster.hasAccount a = true := by
        rw [hc.roster.hasAccount_iff]
        rintro ⟨d, hd, -⟩
        exact hnobody d hd
      rw [Bool.not_eq_true] at hlisted
      exact Table.contains_eq_false_iff.1 hlisted

/-! ### Identifiers that are not registered -/

theorem fromClient_of_get?_eq_none {t : Turn} {c : Connection}
    (hn : t.hub.roster.get? c.id = none) (request : Request Unit) :
    fromClient c request t = ((), t) := by
  show (if (t.hub.roster.get? c.id).isSome then answering c request else pure ()) t = _
  rw [hn]
  rfl

/-- `handle` ignores what comes from a client that is not registered, unless it is its `.register`.
-/
theorem handle_of_get?_eq_none (hc : h.Coherent) (hn : h.roster.get? item.connection.id = none)
    (ha : ¬ item.Admits item.connection.id) : h.handle item = (h, []) := by
  have hignored : ∀ c : Connection, h.roster.get? c.id = none → ∀ request : Request Unit,
      ((fromClient c request { hub := h }).2.hub, (fromClient c request { hub := h }).2.effects) =
        (h, []) :=
    fun c hc request => by rw [fromClient_of_get?_eq_none hc]
  cases item with
  | register c => exact absurd rfl ha
  | event c e => exact hignored c hn (serve c e)
  | malformed c err => exact hignored c hn (throw err)
  | unregister c =>
    have hfits : (Inbound.unregister c).Fits h := fun d hd => by
      rw [hn] at hd
      cases hd
    rcases handle_unregister hc hfits with ⟨-, hsame⟩ | ⟨hgone, -⟩
    · exact hsame
    · -- it cannot go, as it is not there
      have hthere : h.roster.get? c.id = some c := (Roster.remove_eq_some hgone.roster).1
      rw [show h.roster.get? c.id = none from hn] at hthere
      cases hthere

/-- An identifier that is not registered stays so under `handle` of items that do not admit it, and
no effect is for it. -/
theorem absent_of_handle (hc : h.Coherent) (hf : item.Fits h) (hn : h.roster.get? k = none)
    (ha : ¬ item.Admits k) : (h.handle item).1.roster.get? k = none ∧
      ∀ e ∈ (h.handle item).2, ∀ d ∈ e.client?, d.id ≠ k := by
  -- whoever is told something or registered then was registered before, or comes by this item
  have hother : ∀ d : Connection, h.roster.Holds d ∨ item = .register d → d.id ≠ k := by
    rintro d (hd | rfl) rfl
    · rw [Roster.Holds, hn] at hd
      cases hd
    · exact ha rfl
  have hmove := (handle_moves hc hf).1
  constructor
  · cases hk : (h.handle item).1.roster.get? k with
    | none => rfl
    | some d =>
      have hsound := (hmove.coherent hf hc).roster
      have hd := hmove.connected hf (hsound.holds_of_get? hk)
      exact absurd (hsound.keyed k d hk) (hother d hd)
  · exact fun e he d hd => hother d (holds_of_mem_handle hc hf he hd)

/-- As long as no item `Admits` the identifier, `run` `Mutes` it; by induction on the items. -/
theorem mutes_run (hc : h.Coherent) (hn : h.roster.get? k = none) {items : List Inbound}
    (hf : h.Follows items) (ha : ∀ item ∈ items, ¬ item.Admits k) : Mutes (h.run items) k := by
  -- along the items, the hub fits together and the identifier stays absent
  suffices hrun : (h.run items).1.Coherent ∧ (h.run items).1.roster.get? k = none ∧
      ∀ e ∈ (h.run items).2, ∀ d ∈ e.client?, d.id ≠ k by
    obtain ⟨hc', hn', huntold⟩ := hrun
    refine ⟨huntold, fun lines => Lines.get?_deliver huntold, ?_⟩
    rintro item rfl hitem
    exact handle_of_get?_eq_none hc' hn' hitem
  induction items generalizing h with
  | nil => exact ⟨hc, hn, by simp [run]⟩
  | cons item items ih =>
    have hitem := ha item List.mem_cons_self
    obtain ⟨hn', huntold⟩ := absent_of_handle hc hf.1 hn hitem
    have hc' := (handle_moves hc hf.1).1.coherent hf.1 hc
    obtain ⟨hc'', hn'', hrest⟩ :=
      ih hc' hn' hf.2 fun item' h' => ha item' (List.mem_cons_of_mem _ h')
    refine ⟨hc'', hn'', fun e he => ?_⟩
    rcases List.mem_append.1 he with he | he
    · exact huntold e he
    · exact hrest e he

/-- After `handle` of `.unregister`, the identifier is free. -/
theorem get?_of_unregister (hc : h.Coherent) {c : Connection} (hf : (Inbound.unregister c).Fits h) :
    (h.handle (.unregister c)).1.roster.get? c.id = none := by
  rcases handle_unregister hc hf with ⟨hn, hsame⟩ | ⟨hgone, -⟩
  · rw [hsame]
    exact hn
  · have hsound := hc.roster.remove hgone.roster
    cases hk : (h.handle (.unregister c)).1.roster.get? c.id with
    | none => rfl
    | some d =>
      obtain ⟨hd, hne⟩ := (Roster.holds_remove hgone.roster).1 (hsound.holds_of_get? hk)
      have hself : h.roster.Holds c := (Roster.remove_eq_some hgone.roster).1
      exact absurd (hd.eq_of_id_eq hself (hsound.keyed _ d hk)) hne

/-! ### All states -/

/-- **Nothing is left of a connection that has gone.** In every state that a hub reaches from one
without rooms, whichever calls to the store fail, the directories hold nothing that should not be
there. From the moment a connection has gone until one of its identifier comes again, nothing is
sent to it, and what arrives from it is ignored. -/
theorem tidy_and_silent_of_reachable {accounts : List Account} {mint : Mint}
    {outages : List Outage} (hr : Reachable (fresh accounts mint outages) h) :
    h.Tidy ∧ ∀ c : Connection, (Inbound.unregister c).Fits h → ∀ items : List Inbound,
      (h.handle (.unregister c)).1.Follows items → (∀ item ∈ items, ¬ item.Admits c.id) →
        Mutes ((h.handle (.unregister c)).1.run items) c.id := by
  have hc := hr.coherent (coherent_fresh accounts mint outages)
  refine ⟨hc.tidy, fun c hf items hitems hadmits => ?_⟩
  have hc' := (handle_moves hc hf).1.coherent hf hc
  exact mutes_run hc' (get?_of_unregister hc hf) hitems hadmits

/-- What goes on after `bob` has gone: `ann` writes to him, and what is under way from him still
arrives. -/
def aftermath : List Inbound :=
  [.event ann ⟨"chat", .object [("user_id", .text "bob"), ("message", .text "hello")]⟩,
    .event bob ⟨"leave-room", .object [("room_id", .text "den")]⟩, .unregister bob]

/-- The room is live, and `bob`, who has gone, hears nothing of the `aftermath`. -/
theorem tidy_and_silent_aftermath : ∃ h, Reachable (lobby [⟨.roomByName, 1, 1, .conflict⟩]) h ∧
    (h.rooms.get? den).isSome = true ∧ (Inbound.unregister bob).Fits h ∧
    (h.handle (.unregister bob)).1.Follows aftermath ∧
    (∀ item ∈ aftermath, ¬ item.Admits bob.id) ∧ h.Tidy ∧
    Mutes ((h.handle (.unregister bob)).1.run aftermath) bob.id := by
  have hr : Reachable (lobby [⟨.roomByName, 1, 1, .conflict⟩])
      ((lobby [⟨.roomByName, 1, 1, .conflict⟩]).run meeting).1 :=
    Reachable.start.run (by decide +kernel)
  have hfits : (Inbound.unregister bob).Fits
      ((lobby [⟨.roomByName, 1, 1, .conflict⟩]).run meeting).1 := by decide +kernel
  have hfollows : (((lobby [⟨.roomByName, 1, 1, .conflict⟩]).run meeting).1.handle
      (.unregister bob)).1.Follows aftermath := by decide +kernel
  have hadmits : ∀ item ∈ aftermath, ¬ item.Admits bob.id := by decide
  obtain ⟨htidy, hsilent⟩ := tidy_and_silent_of_reachable hr
  exact ⟨_, hr, by decide +kernel, hfits, hfollows, hadmits, htidy,
    hsilent bob hfits aftermath hfollows hadmits⟩

end Hub

end GroupChat
