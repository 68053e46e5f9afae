import GroupChat.Proofs.Hub.Drawing
import GroupChat.Proofs.Hub.Notices
import GroupChat.Proofs.Hub.Response

/-!
# The notifications tell who is a member

As long as the store is in reach, whoever was listed when a room was made and every notification
that somebody came or went add up to the members of the room. The balance of these changes by an
item only where a room is made: a notification is kept for each account that becomes a member or
stops being one, and for nobody else.

## Main definitions

- `Store.excess`: how far the notifications and the members of a room are apart.
- `Inbound.listed`: who is listed by an item that makes a room.
- `Hub.charter`: who was listed when a room was made.
- `Hub.Tallies`: what an item did to notifications and members.

## Main statements

- `handle_tallies`: every item tallies.
- `excess_run`: in all runs, the excess is due to those who were listed.
- `charter_eq_nil_of_makes`: a room is made once.
- `replayed_of_run`: the notifications tell who is a member.
-/

namespace GroupChat

namespace Store

/-- What the notifications about `account` in a `room` make of its membership (`noticed`), less the
membership. -/
def excess (s : Store) (room account : String) : Int :=
  s.noticed .join room account - s.noticed .leave room account -
    if (s.roleOf? room account).isSome then 1 else 0

/-- The `room` is stored in `s'`, and was not in `s`. -/
def Makes (s s' : Store) (room : String) : Prop :=
  s.rooms.get? room = none ∧ (s'.rooms.get? room).isSome = true

instance (s s' : Store) (room : String) : Decidable (s.Makes s' room) :=
  inferInstanceAs (Decidable (_ ∧ _))

variable {s s' : Store}

/-- `noticed` depends on the notifications only. -/
theorem noticed_congr (h : s'.notifications = s.notifications) (kind : NotificationKind)
    (room account : String) : s'.noticed kind room account = s.noticed kind room account := by
  rw [noticed, noticed, h]

theorem not_makes_of_rooms (h : ∀ k, s.rooms.get? k = none → s'.rooms.get? k = none)
    (room : String) : ¬ s.Makes s' room := by
  rintro ⟨hnone, hsome⟩
  rw [h room hnone] at hsome
  cases hsome

end Store

/-- Who is listed by an event of `account` that makes a room, `account` included. -/
def ClientEvent.listed (account : String) : ClientEvent → List String
  | .createRoom r => account :: r.members
  | .chat r => account :: r.user.toList
  | _ => []

/-- Who is listed by an item that makes a room, as `ClientEvent.listed` says. -/
def Inbound.listed : Inbound → List String
  | .event c e =>
    match ClientEvent.decode e with
    | .ok request => request.listed c.account
    | .error _ => []
  | _ => []

namespace Hub

/-- Who is listed by items when they make the `room` (`Makes`), in order. -/
def charter (h : Hub) (room : String) : List Inbound → List String
  | [] => []
  | item :: rest =>
    (if h.store.Makes (h.handle item).1.store room then item.listed else []) ++
      (h.handle item).1.charter room rest

/-- The membership of `account` that is told by its listing when the `room` was made (`charter`),
and by the notifications since (`noticed`). -/
def replayed (h : Hub) (items : List Inbound) (room account : String) : Int :=
  (if account ∈ h.charter room items then 1 else 0) +
    (h.run items).1.store.noticed .join room account -
    (h.run items).1.store.noticed .leave room account

/-- What was done between `h` and `h'` to notifications and members, where a room that was made has
the `listed` accounts. -/
structure Tallies (h h' : Hub) (listed : List String) : Prop where
  /-- All notifications that are kept say that somebody came or went. -/
  kinds : ∀ n ∈ h'.store.notifications,
    n ∈ h.store.notifications ∨ n.kind = .join ∨ n.kind = .leave
  /-- In calm weather, a room that is made has a new identifier. -/
  mints : h.Calm → ∀ k, h.store.Makes h'.store k → h.Mints h' k
  /-- In calm weather, the excess falls by one for those who are listed. -/
  excess : h.Calm → ∀ k x, h'.store.excess k x +
    (if h.store.Makes h'.store k ∧ x ∈ listed then 1 else 0) = h.store.excess k x

variable {h h' : Hub} {t s u : Turn} {c : Connection} {item : Inbound} {items : List Inbound}
  {listed : List String} {info : RoomInfo} {accounts : List String} {kind : NotificationKind}

/-! ### What tallies -/

/-- `Tallies` where `notifications` stay, and under calm rooms and roles do. -/
theorem Tallies.of_agrees (hn : h'.store.notifications = h.store.notifications)
    (ha : h.Calm → h.store.Agrees h'.store) : h.Tallies h' listed := by
  have hrooms : h.Calm → ∀ k, ¬ h.store.Makes h'.store k := fun hcalm =>
    Store.not_makes_of_rooms fun k hk => ((ha hcalm).rooms k).trans hk
  refine ⟨fun n hmem => Or.inl (hn ▸ hmem), fun hcalm k hk => absurd hk (hrooms hcalm k),
    fun hcalm k x => ?_⟩
  rw [if_neg (not_and_of_not_left _ (hrooms hcalm k)), Store.excess, Store.excess,
    Store.noticed_congr hn, Store.noticed_congr hn, (ha hcalm).roles]
  exact Int.add_zero _

/-- `Tallies` depends on who is listed, not on how often or in which order. -/
theorem Tallies.of_mem_iff {listed' : List String} (ht : h.Tallies h' listed)
    (hl : ∀ x, x ∈ listed ↔ x ∈ listed') : h.Tallies h' listed' where
  kinds := ht.kinds
  mints := ht.mints
  excess hcalm k x := by
    rw [← ht.excess hcalm k x, if_congr (and_congr_right fun _ => hl x) rfl rfl]

theorem Tallies.refl (h : Hub) : h.Tallies h listed :=
  .of_agrees rfl fun _ => Store.Agrees.refl _

theorem Turn.Asks.tallies (ha : t.Asks u) : t.hub.Tallies u.hub listed :=
  .of_agrees (by rw [ha.store]) fun _ => ha.still.store

theorem Turn.Restores.tallies (hr : t.Restores u) : t.hub.Tallies u.hub listed :=
  .of_agrees (by rw [hr.2.rest]) fun _ => hr.2.agrees

theorem Turn.Abandons.tallies {account : String} {f : Founding} (ha : t.Abandons u account f) :
    t.hub.Tallies u.hub listed := by
  obtain ⟨ms, reports, -, -, -, hstorm, hfounds, -⟩ := ha
  exact .of_agrees (by rw [hfounds.rest]) fun hcalm => absurd hcalm hstorm

/-- `Logs` keeps notifications of the kinds `.join` and `.leave` only. -/
theorem Turn.Logs.kinds {room : String} (hl : t.Logs u kind room accounts)
    (hkind : kind = .join ∨ kind = .leave) : ∀ n ∈ u.hub.store.notifications,
      n ∈ t.hub.store.notifications ∨ n.kind = .join ∨ n.kind = .leave := by
  obtain ⟨ns, hns, hall, -⟩ := hl.kept
  intro n hn
  rw [hns, List.mem_append] at hn
  refine hn.imp_right fun hn => ?_
  rw [(hall n hn).1]
  exact hkind

/-- `Grows`, with a `.join` notification for each of the accounts, `Tallies`: one more came, and one
more is a member. -/
theorem Turn.Logs.grown (hl : t.Logs u .join info.id accounts) (hg : t.hub.Grows u.hub info accounts)
    (hn : accounts.Nodup) : t.hub.Tallies u.hub listed := by
  have hrooms := Store.not_makes_of_rooms fun k hk =>
    (congrArg (fun rooms => rooms.get? k) hg.stored).trans hk
  refine ⟨hl.kinds (Or.inl rfl), fun _ k hk => absurd hk (hrooms k), fun hcalm k x => ?_⟩
  rw [if_neg (not_and_of_not_left _ (hrooms k)), Store.excess, Store.excess, hl.noticed hcalm,
    hl.noticed hcalm, hg.roles, hn.count]
  by_cases hx : k = info.id ∧ x ∈ accounts
  · obtain ⟨rfl, hx⟩ := hx
    rw [hg.fresh hx]
    simp [hx]
    omega
  · simp only [if_neg hx]
    by_cases hk : k = info.id <;> simp_all

/-- `Shrinks`, with a `.leave` notification for each of the accounts, `Tallies`. -/
theorem Turn.Logs.shrunk (hl : t.Logs u .leave info.id accounts)
    (hg : t.hub.Shrinks u.hub info accounts) (hn : accounts.Nodup) :
    t.hub.Tallies u.hub listed := by
  -- no room is made, and one may be deleted
  have hrooms : ∀ k, ¬ t.hub.store.Makes u.hub.store k := by
    refine Store.not_makes_of_rooms fun k hk => ?_
    rcases hg.stored k with hsame | ⟨-, hnone⟩
    · rw [hsame, hk]
    · exact hnone
  refine ⟨hl.kinds (Or.inr rfl), fun _ k hk => absurd hk (hrooms k), fun hcalm k x => ?_⟩
  obtain ⟨store, hremoves, -⟩ := hg.store
  rw [if_neg (not_and_of_not_left _ (hrooms k)), Store.excess, Store.excess, hl.noticed hcalm,
    hl.noticed hcalm, hg.roles, hn.count]
  -- one who is removed: one more has gone, and one less is a member
  by_cases hx : k = info.id ∧ x ∈ accounts
  · obtain ⟨rfl, hx⟩ := hx
    rw [if_pos (hremoves.members x hx)]
    simp [hx]
    omega
  · simp only [if_neg hx]
    by_cases hk : k = info.id <;> simp_all

/-- `Opened` makes a room for those who are listed, without notifications, and `Tallies` with that
list. -/
theorem Opened.tallies {creator : String} {members : List String} {f : Founding}
    (ho : h.Opened h' creator members f) (hs : h.store.Sound) :
    h.Tallies h' (creator :: members) := by
  obtain ⟨s, hfounds, htalks⟩ := ho.store
  have hnotes : h'.store.notifications = h.store.notifications := by rw [htalks, hfounds.rest]
  have hrooms : ∀ k, h'.store.rooms.get? k =
      if k = f.info.id then some f.info else h.store.rooms.get? k := fun k => by
    rw [htalks]
    exact hfounds.rooms k
  have hroles : ∀ k x, h'.store.roleOf? k x =
      if k = f.info.id then f.initial.lookup x else h.store.roleOf? k x := fun k x => by
    rw [htalks]
    exact hfounds.roles hs k x
  -- the new room is the only one that becomes stored
  have hmakes : ∀ k, h.store.Makes h'.store k ↔ k = f.info.id := by
    intro k
    rw [Store.Makes, hrooms]
    constructor
    · rintro ⟨hnone, hsome⟩
      by_contra hk
      rw [if_neg hk, hnone] at hsome
      cases hsome
    · rintro rfl
      exact ⟨hfounds.fresh, by rw [if_pos rfl]; rfl⟩
  refine ⟨fun n hmem => Or.inl (hnotes ▸ hmem), fun _ k hk => ?_, fun _ k x => ?_⟩
  · rw [(hmakes k).1 hk]
    exact ho.mints
  · rw [Store.excess, Store.excess, Store.noticed_congr hnotes, Store.noticed_congr hnotes, hroles]
    by_cases hk : k = f.info.id
    · -- in the new room, who is listed is a member, and nothing was kept of it yet
      have hmember : (f.initial.lookup x).isSome = true ↔ x ∈ creator :: members := by
        rw [f.isSome_lookup_initial, ho.creator, ho.members, List.mem_cons]
      have hmade : h.store.Makes h'.store k ∧ x ∈ creator :: members ↔ x ∈ creator :: members :=
        and_iff_right ((hmakes k).2 hk)
      rw [if_congr hmade rfl rfl, if_pos hk, if_congr hmember rfl rfl, hk,
        hs.roleOf?_eq_none hfounds.fresh]
      by_cases hx : x ∈ creator :: members <;> simp [hx]
    · have hnot : ¬ (h.store.Makes h'.store k ∧ x ∈ creator :: members) :=
        fun hm => hk ((hmakes k).1 hm.1)
      rw [if_neg hk, if_neg hnot]
      exact Int.add_zero _

/-! ### Every item tallies -/

/-- `Reaches` leaves the store as it is. -/
theorem Turn.Reaches.store {room? user? : Option String} {room : LiveRoom}
    (hr : t.Reaches u c room? user? room) : u.hub.store = t.hub.store := by
  cases hr with
  | reference asks => exact asks.store
  | receiver other stored named finds =>
    rcases finds with ⟨asks, -⟩ | ⟨-, loads, -⟩
    · exact asks.store
    · exact loads.store

theorem Turn.Opens.notifications {room? user? : Option String} {room : LiveRoom}
    (ho : t.Opens u c room? user? room) :
    u.hub.store.notifications = t.hub.store.notifications := by
  rcases ho with hr | ⟨receiver, f, -, -, hp, -⟩
  · rw [hr.store]
  · rw [hp.founds.store.rest]

theorem Turn.Replies.tallies {event : String} (hr : t.Replies u c event) :
    t.hub.Tallies u.hub listed := by
  have hstill := hr.still
  obtain ⟨result, hb⟩ := hr
  exact .of_agrees (by rw [hb.store]) fun _ => hstill.store

/-- `typing` notes nothing, and no membership changes. -/
theorem typing_tallies (hc : t.hub.Coherent) (c : Connection) (r : TypingRequest) :
    Request.Gives (typing c r) t (fun _ u => t.hub.Tallies u.hub listed)
      fun _ u => t.hub.Tallies u.hub listed := by
  refine (typing_gives hc c r).mono (fun _ _ h => h.tallies) ?_
  rintro - u ⟨room, s, hr, view, result, hb⟩
  have hstore : u.hub.store = t.hub.store := hb.store.trans hr.store
  exact .of_agrees (by rw [hstore]) fun _ => by rw [hstore]; exact Store.Agrees.refl _

/-- `chat` may make a room for two, who are its members then. -/
theorem chat_tallies (hc : t.hub.Coherent) (c : Connection) (r : ChatRequest) :
    Request.Gives (chat c r) t (fun _ u => t.hub.Tallies u.hub (c.account :: r.user.toList))
      fun _ u => t.hub.Tallies u.hub (c.account :: r.user.toList) := by
  refine ((chat_gives hc c r).and (chat_opens hc c r)).mono ?_ ?_
  · rintro err u ⟨⟨h, -⟩ | ⟨f, -, h⟩ | ⟨room, s, ho, hu, hstorm⟩, -⟩
    · exact h.tallies
    · exact h.tallies
    · -- a room that was made stays, which takes an outage
      refine .of_agrees ?_ fun hcalm => absurd (ho.calm hcalm) hstorm
      rw [hu.store, ho.notifications]
  · rintro - u ⟨-, htalks | ⟨receiver, f, huser, ho⟩⟩
    · refine .of_agrees (by rw [htalks]) fun _ => ?_
      rw [htalks]
      exact ⟨fun _ => rfl, fun _ _ => rfl, rfl⟩
    · rw [huser]
      exact ho.tallies hc.store

/-- `createRoom` makes a room whose members are those who are listed. -/
theorem createRoom_tallies (hc : t.hub.Coherent) (c : Connection) (r : CreateRequest) :
    Request.Gives (createRoom c r) t (fun _ u => t.hub.Tallies u.hub (c.account :: r.members))
      fun _ u => t.hub.Tallies u.hub (c.account :: r.members) := by
  refine ((createRoom_gives hc c r).and (createRoom_opens c r t)).mono ?_ ?_
  · rintro err u ⟨h | ⟨f, h⟩, -⟩
    · exact h.tallies
    · exact h.tallies
  · rintro - u ⟨-, f, ho⟩
    exact (ho.tallies hc.store).of_mem_iff fun x => by
      rw [List.mem_cons, mem_distinct, List.mem_cons]

/-- `joinRoom` notes that the account came, which it did. -/
theorem joinRoom_tallies (hc : t.hub.Coherent) (c : Connection) (r : RoomRequest) :
    Request.Gives (joinRoom c r) t (fun _ u => t.hub.Tallies u.hub listed)
      fun _ u => t.hub.Tallies u.hub listed := by
  refine ((joinRoom_gives hc c r).and (joinRoom_logs hc c r)).mono ?_ ?_
  · exact fun _ _ h => h.1.1.tallies
  · rintro - u ⟨⟨info, hi, -, -, hg, -⟩, info', hi', hl⟩
    obtain rfl : info' = info := Option.some.inj (hi'.symm.trans hi)
    exact hl.grown hg (List.nodup_singleton _)

/-- `leaveRoom` notes that the account went, which it did. -/
theorem leaveRoom_tallies (hc : t.hub.Coherent) (c : Connection) (r : RoomRequest) :
    Request.Gives (leaveRoom c r) t (fun _ u => t.hub.Tallies u.hub listed)
      fun _ u => t.hub.Tallies u.hub listed := by
  refine ((leaveRoom_gives hc c r).and (leaveRoom_logs hc c r)).mono ?_ ?_
  · exact fun _ _ h => h.1.1.tallies
  · rintro - u ⟨⟨info, hi, -, -, hg, -⟩, info', hi', hl⟩
    obtain rfl : info' = info := Option.some.inj (hi'.symm.trans hi)
    exact hl.shrunk hg (List.nodup_singleton _)

/-- `inviteRoom` notes each account that came, and those who were members already are not noted. -/
theorem inviteRoom_tallies (hc : t.hub.Coherent) (c : Connection) (r : MembersRequest) :
    Request.Gives (inviteRoom c r) t (fun _ u => t.hub.Tallies u.hub listed)
      fun _ u => t.hub.Tallies u.hub listed := by
  refine ((inviteRoom_gives hc c r).and (inviteRoom_logs hc c r)).mono ?_ ?_
  · rintro err u ⟨⟨h | ⟨info, kept, reports, -, -, hadds, -, hnone, hcalm⟩, -⟩, -⟩
    · exact h.tallies
    · -- in calm weather everything is taken back
      refine .of_agrees (by rw [hadds.rest]) fun hc => ?_
      rw [hnone (hcalm hc)] at hadds
      exact hadds.alike.agrees
  · rintro - u ⟨⟨info, hgov, -, hg, -⟩, info', hgov', hl⟩
    obtain rfl : info' = info := Option.some.inj (hgov'.resolved.symm.trans hgov.resolved)
    exact hl.grown hg ((nodup_distinct r.users).filter _)

/-- `kickRoom` notes each account that went, once even if it is listed twice. -/
theorem kickRoom_tallies (hc : t.hub.Coherent) (c : Connection) (r : MembersRequest) :
    Request.Gives (kickRoom c r) t (fun _ u => t.hub.Tallies u.hub listed)
      fun _ u => t.hub.Tallies u.hub listed := by
  refine ((kickRoom_gives hc c r).and (kickRoom_logs hc c r)).mono ?_ ?_
  · rintro err u ⟨⟨h | ⟨info, lost, reports, -, -, hremoves, -, hnone, hcalm⟩, -⟩, -⟩
    · exact h.tallies
    · -- in calm weather everybody becomes a member again
      refine .of_agrees (by rw [hremoves.rest]) fun hc => ?_
      rw [hnone (hcalm hc)] at hremoves
      exact hremoves.alike.agrees
  · rintro - u ⟨⟨info, hgov, -, hg, -⟩, info', hgov', hl⟩
    obtain rfl : info' = info := Option.some.inj (hgov'.resolved.symm.trans hgov.resolved)
    exact hl.shrunk hg (nodup_distinct r.users)

/-- `dispatch` `Tallies` with the accounts that the event has `listed`, whether it is carried out or
fails. -/
theorem dispatch_tallies (hc : t.hub.Coherent) (c : Connection) (event : ClientEvent) :
    Request.Gives (dispatch c event) t (fun _ u => t.hub.Tallies u.hub (event.listed c.account))
      fun _ u => t.hub.Tallies u.hub (event.listed c.account) := by
  cases event with
  | typing r => exact typing_tallies hc c r
  | chat r => exact chat_tallies hc c r
  | createRoom r => exact createRoom_tallies hc c r
  | joinRoom r => exact joinRoom_tallies hc c r
  | leaveRoom r => exact leaveRoom_tallies hc c r
  | inviteRoom r => exact inviteRoom_tallies hc c r
  | kickRoom r => exact kickRoom_tallies hc c r
  | getUsers r =>
    exact (getUsers_gives c r t).mono (fun _ _ h => h.tallies) fun _ _ h => h.tallies
  | getChats r =>
    exact (getChats_gives hc c r).mono (fun _ _ h => h.tallies) fun _ _ h => h.tallies
  | getNotifications r =>
    exact (getNotifications_gives hc c r).mono (fun _ _ h => h.tallies) fun _ _ h => h.tallies
  | userRooms => exact (userRooms_gives c t).mono (fun _ _ h => h.tallies) fun _ _ h => h.tallies

theorem serve_tallies (hc : t.hub.Coherent) (c : Connection) (e : Envelope) :
    Request.Gives (serve c e) t (fun _ u => t.hub.Tallies u.hub (Inbound.event c e).listed)
      fun _ u => t.hub.Tallies u.hub (Inbound.event c e).listed := by
  unfold serve
  refine Request.Gives.except_bind (fun _ _ => Tallies.refl _) fun event he => ?_
  rw [Inbound.listed, he]
  exact dispatch_tallies hc c event

/-- `handle` of every item that `Fits` `Tallies` with what it has `listed`. -/
theorem handle_tallies (hc : h.Coherent) (hf : item.Fits h) :
    h.Tallies (h.handle item).1 item.listed := by
  cases item with
  | register c =>
    have hr := handle_register hc c
    exact .of_agrees (by rw [hr.store]) fun _ => agrees_of_presence hr.store
  | unregister c =>
    rcases handle_unregister hc hf with ⟨-, hsame⟩ | ⟨hu, -⟩
    · rw [hsame]
      exact Tallies.refl h
    · exact .of_agrees (by rw [hu.store]) fun _ => agrees_of_presence hu.store
  | malformed c e =>
    rw [handle_malformed_fst]
    exact Tallies.refl h
  | event c e =>
    -- ignored, carried out, or answered with its error
    rcases handle_event (serve_tallies (t := { hub := h }) hc c e) with ⟨-, hh⟩ | ⟨u, hu, hh⟩ |
      ⟨err, s, hs, hh⟩
    · rw [hh]
      exact Tallies.refl h
    · rw [hh]
      exact hu
    · rw [hh]
      exact hs

/-! ### Runs -/

section Run

variable (hc : h.Coherent) (hf : h.Follows items)
include hc hf

/-- Along `run`, whatever the store does, only `.join` and `.leave` notifications are kept. -/
theorem kinds_run (hk : ∀ n ∈ h.store.notifications, n.kind = .join ∨ n.kind = .leave) :
    ∀ n ∈ (h.run items).1.store.notifications, n.kind = .join ∨ n.kind = .leave := by
  induction items generalizing h with
  | nil => exact hk
  | cons item items ih =>
    have hnext := (handle_moves hc hf.1).1.coherent hf.1 hc
    refine ih hnext hf.2 fun n hn => ?_
    exact ((handle_tallies hc hf.1).kinds n hn).elim (hk n) id

variable (hcalm : h.Calm)
include hcalm

/-- A room of `charter` has an identifier that `mint.room` gives to a number that was not drawn yet.
-/
theorem exists_of_mem_charter {k x : String} (hx : x ∈ h.charter k items) :
    ∃ n, k = h.mint.room n ∧ h.drawn.rooms ≤ n := by
  induction items generalizing h with
  | nil => cases hx
  | cons item items ih =>
    obtain ⟨hmove, hstill⟩ := handle_moves hc hf.1
    have hdraws := handle_draws h item
    rw [charter, List.mem_append] at hx
    rcases hx with hx | hx
    · split at hx
      · rename_i hmakes
        obtain ⟨n, hk, hn, -⟩ := (handle_tallies hc hf.1).mints hcalm k hmakes
        exact ⟨n, hk, hn⟩
      · cases hx
    · obtain ⟨n, hk, hn⟩ := ih (hmove.coherent hf.1 hc) hf.2 (hstill hcalm) hx
      exact ⟨n, by rw [hk, hdraws.mint], Nat.le_trans hdraws.rooms hn⟩

end Run

/-- If `mint.room` is injective, a room that an item `Makes` is made by no later one. -/
theorem charter_eq_nil_of_makes (hc : h.Coherent) (hcalm : h.Calm)
    (hmint : Function.Injective h.mint.room) (hfits : item.Fits h)
    (hrest : (h.handle item).1.Follows items) {k : String}
    (hmakes : h.store.Makes (h.handle item).1.store k) :
    (h.handle item).1.charter k items = [] := by
  obtain ⟨hmove, hstill⟩ := handle_moves hc hfits
  have hdraws := handle_draws h item
  obtain ⟨n, hk, -, hn⟩ := (handle_tallies hc hfits).mints hcalm k hmakes
  rw [List.eq_nil_iff_forall_not_mem]
  intro x hx
  obtain ⟨m, hm, hle⟩ := exists_of_mem_charter (hmove.coherent hfits hc) hrest (hstill hcalm) hx
  rw [hk, hdraws.mint] at hm
  have hmn : n = m := hmint hm
  omega

/-- `excess` at the end is `excess` at the beginning less the listing in `charter`; by induction on
the items, with `handle_tallies` for each of them. -/
theorem excess_run (hc : h.Coherent) (hf : h.Follows items) (hcalm : h.Calm)
    (hmint : Function.Injective h.mint.room) (k x : String) : (h.run items).1.store.excess k x +
      (if x ∈ h.charter k items then 1 else 0) = h.store.excess k x := by
  induction items generalizing h with
  | nil => exact Int.add_zero _
  | cons item items ih =>
    obtain ⟨hmove, hstill⟩ := handle_moves hc hf.1
    have hmint' : Function.Injective (h.handle item).1.mint.room :=
      (handle_draws h item).mint ▸ hmint
    have hrest := ih (hmove.coherent hf.1 hc) hf.2 (hstill hcalm) hmint'
    have hitem := (handle_tallies hc hf.1).excess hcalm k x
    rw [← hitem, ← hrest, charter]
    show ((h.handle item).1.run items).1.store.excess k x + _ = _
    by_cases hmakes : h.store.Makes (h.handle item).1.store k
    · -- the listing is that of this item, since no later one makes the room
      rw [charter_eq_nil_of_makes hc hcalm hmint hf.1 hf.2 hmakes, if_pos hmakes, List.append_nil]
      simp [hmakes]
    · simp [hmakes]

/-- **The notifications tell who is a member.** In every state that a hub reaches from one without
rooms, all notifications that are kept say that somebody came or went, whatever the store did. If
the store never failed and all identifiers of rooms are different, then for each room and account
the listing of the account when the room was made, and the notifications that it came, less those
that it went, make none or one: one exactly if the account is a member. -/
theorem replayed_of_run {accounts : List Account} {mint : Mint} {outages : List Outage}
    {items : List Inbound} (hmint : Function.Injective mint.room)
    (hf : (fresh accounts mint outages).Follows items) :
    let start := fresh accounts mint outages
    let s := (start.run items).1.store
    (∀ n ∈ s.notifications, n.kind ≠ .typing ∧ n.kind ≠ .online ∧ n.kind ≠ .offline) ∧
      (outages = [] → ∀ room account,
        (start.replayed items room account = 0 ∨ start.replayed items room account = 1) ∧
          (start.replayed items room account = 1 ↔ (s.roleOf? room account).isSome = true)) := by
  intro start s
  have hc := coherent_fresh accounts mint outages
  refine ⟨fun n hn => ?_, fun hcalm room account => ?_⟩
  · have hnone : ∀ n ∈ start.store.notifications, n.kind = .join ∨ n.kind = .leave :=
      fun n hn => absurd hn List.not_mem_nil
    rcases kinds_run hc hf hnone n hn with hk | hk
    · simp [hk]
    · simp [hk]
  · have hexcess : s.excess room account +
        (if account ∈ start.charter room items then 1 else 0) = 0 :=
      excess_run hc hf hcalm hmint room account
    rw [Store.excess] at hexcess
    -- the excess is zero, so the balance is that of membership
    have hmember : start.replayed items room account =
        if (s.roleOf? room account).isSome then 1 else 0 := by
      rw [replayed, show (start.run items).1.store = s from rfl]
      omega
    rw [hmember]
    split
    · rename_i hsome
      exact ⟨Or.inr rfl, iff_of_true rfl hsome⟩
    · rename_i hnone
      exact ⟨Or.inl rfl, iff_of_false (by decide) hnone⟩

/-- After `meeting`, two accounts get the `invitation`, and `bob` gets the `dismissal`. -/
def turnover : List Inbound := meeting ++ [.event ann invitation, dismissal]

/-- `bob`, who was removed, was listed when `den` was made, and those that were invited were not. -/
theorem replayed_of_turnover : Function.Injective (Mint.counting 0).room ∧
    (lobby []).Follows turnover ∧
    (lobby []).charter den turnover = ["ann", "bob"] ∧
    let s := ((lobby []).run turnover).1.store
    (∀ n ∈ s.notifications, n.kind ≠ .typing ∧ n.kind ≠ .online ∧ n.kind ≠ .offline) ∧
      (([] : List Outage) = [] → ∀ room account,
        ((lobby []).replayed turnover room account = 0 ∨
            (lobby []).replayed turnover room account = 1) ∧
          ((lobby []).replayed turnover room account = 1 ↔
            (s.roleOf? room account).isSome = true)) := by
  have hfollows : (lobby []).Follows turnover := by decide +kernel
  have hmint := Mint.injective_counting 0
  exact ⟨hmint, hfollows, by decide +kernel, replayed_of_run hmint hfollows⟩

end Hub

end GroupChat
