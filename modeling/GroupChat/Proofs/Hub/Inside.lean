import GroupChat.Hub.Lookup
import GroupChat.Proofs.Hub.Turn

/-!
# Staying inside a directory

In the middle of an item, everyone who is registered, is in a live room or was told something is in
a directory of connections. A computation that takes those whom it tells something from there
preserves this, and so do computations that are put together from such ones.

## Main definitions

- `Effect.client?`: the client to which something is done.
- `Turn.Inside`: everyone who is told something or is in a live room is in a directory.
- `Step.Keeps`, `Request.Keeps`: computations that preserve this, and what holds of their results.

## Main statements

- `Step.Keeps.bind`, `Request.Keeps.bind`: computations that follow each other.
- `sendAll_keeps`, `addRoom_keeps`, `call_keeps`: what a handler is made of.
-/

namespace GroupChat

/-- The client to which something is done; `none` for a `.report`. -/
def Effect.client? : Effect → Option Connection
  | .send d _ => some d
  | .close d => some d
  | .report _ => none

/-- Everyone in the `room` is in the directory `R`. -/
def LiveRoom.Inside (room : LiveRoom) (R : Roster) : Prop := ∀ d ∈ room.everyone, R.Holds d

namespace LiveRoom

variable {room : LiveRoom} {R : Roster}

theorem inside_ofInfo (info : RoomInfo) (R : Roster) : (ofInfo info).Inside R :=
  fun _ hd => absurd hd List.not_mem_nil

/-- `join` keeps a room `Inside` if the connection is registered. -/
theorem Inside.join (hr : room.Inside R) {c : Connection} (hc : R.Holds c) (role : Role) :
    (room.join c role).Inside R := by
  intro d hd
  obtain ⟨k, hk⟩ := Table.mem_values_iff.1 hd
  rw [get?_join] at hk
  split at hk
  · cases hk
    exact hc
  · exact hr d (Table.mem_values_iff.2 ⟨k, hk⟩)

theorem Inside.joinAll (hr : room.Inside R) {cs : List Connection} (hcs : ∀ c ∈ cs, R.Holds c)
    (role : Role) : (room.joinAll cs role).Inside R := by
  induction cs generalizing room with
  | nil => exact hr
  | cons c cs ih =>
    have hjoined : (room.join c role).Inside R := hr.join (hcs c List.mem_cons_self) role
    exact ih hjoined fun d hd => hcs d (List.mem_cons_of_mem _ hd)

/-- `leave` keeps a room `Inside`, as it lets nobody in. -/
theorem Inside.leave (hr : room.Inside R) (k : String) : (room.leave k).2.Inside R := by
  unfold LiveRoom.leave
  split
  · exact hr
  · -- the account may lose its role, but the connections are the same either way
    have hout : ∀ roles, ({ room with connections := room.connections.erase k, roles } :
        LiveRoom).Inside R := by
      intro roles d hd
      obtain ⟨x, hx⟩ := Table.mem_values_iff.1 hd
      rw [Table.get?_erase] at hx
      split at hx
      · cases hx
      · exact hr d (Table.mem_values_iff.2 ⟨x, hx⟩)
    dsimp only
    split
    · exact hout _
    · exact hout _

/-- `removeAccount` keeps a room `Inside`, as it lets nobody in. -/
theorem Inside.removeAccount (hr : room.Inside R) (a : String) :
    (room.removeAccount a).2.Inside R := by
  intro d hd
  obtain ⟨k, hk⟩ := Table.mem_values_iff.1 hd
  rw [get?_removeAccount, Option.filter_eq_some_iff] at hk
  exact hr d (Table.mem_values_iff.2 ⟨k, hk.1⟩)

theorem Inside.holds_of_mem_connectionsOf (hr : room.Inside R) {a : String} {d : Connection}
    (hd : d ∈ room.connectionsOf a) : R.Holds d :=
  hr d (List.mem_filter.1 hd).1

theorem Inside.holds_of_mem_audience (hr : room.Inside R) {a : String} {d : Connection}
    (hd : d ∈ room.audience a) : R.Holds d :=
  hr d (List.mem_filter.1 hd).1

end LiveRoom

namespace Hub

variable {α β : Type} {R : Roster}

/-- In the middle of an item, everyone who is registered, is in a live room or was told something is
in the directory `R`. -/
structure Turn.Inside (t : Turn) (R : Roster) : Prop where
  /-- The connections are a sound directory. -/
  sound : t.hub.roster.Sound
  /-- Who is registered is in the directory. -/
  registered : ∀ d, t.hub.roster.Holds d → R.Holds d
  /-- Who is in a live room is in the directory. -/
  rooms : ∀ k room, t.hub.rooms.get? k = some room → room.Inside R
  /-- Who was told something is in the directory. -/
  told : ∀ e ∈ t.effects, ∀ d ∈ e.client?, R.Holds d

/-- A computation `x` that begins inside a directory (`Turn.Inside`) stays there, and `P` holds of
its result. -/
def Step.Keeps (x : Step α) (R : Roster) (P : α → Prop) : Prop :=
  ∀ t : Turn, t.Inside R → Step.Gives x t fun a u => u.Inside R ∧ P a

/-- A request `x` that begins inside a directory (`Turn.Inside`) stays there, whether it is carried
out or fails. -/
def Request.Keeps (x : Request α) (R : Roster) (P : α → Prop) : Prop :=
  ∀ t : Turn, t.Inside R → Request.Gives x t (fun _ u => u.Inside R) fun a u => u.Inside R ∧ P a

/-- The property for `Step.Keeps` where nothing matters about a result. -/
abbrev Anything : α → Prop := fun _ => True

section Combinators

variable {P : α → Prop} {Q : β → Prop}

/-- A turn stays `Inside` if its new rooms do and only registered connections are told something. -/
theorem Turn.Inside.becomes {t u : Turn} {rooms : LiveRooms} {store : Store}
    {effects : List Effect} (ht : t.Inside R) (hb : t.Becomes u rooms store effects)
    (hrooms : ∀ k room, rooms.get? k = some room → room.Inside R)
    (htold : ∀ e ∈ effects, ∀ d ∈ e.client?, R.Holds d) : u.Inside R where
  sound := hb.roster ▸ ht.sound
  registered := hb.roster ▸ ht.registered
  rooms := hb.rooms ▸ hrooms
  told e he := by
    rw [hb.effects] at he
    rcases List.mem_append.1 he with he | he
    · exact ht.told e he
    · exact htold e he

theorem Turn.Inside.asks {t u : Turn} (ht : t.Inside R) (ha : t.Asks u) : u.Inside R :=
  ht.becomes ha ht.rooms (by simp)

theorem Step.keeps_pure {a : α} (ha : P a) : Step.Keeps (pure a) R P :=
  fun _ ht => Step.gives_pure ⟨ht, ha⟩

/-- A step and the one that follows it keep a turn `Inside` if each of them does. The second one may
use what is known of the result of the first one. -/
theorem Step.Keeps.bind {x : Step α} {f : α → Step β} (hx : Step.Keeps x R P)
    (hf : ∀ a, P a → Step.Keeps (f a) R Q) : Step.Keeps (x >>= f) R Q :=
  fun t ht => (hx t ht).bind fun a s hs => hf a hs.2 s hs.1

theorem Request.keeps_pure {a : α} (ha : P a) : Request.Keeps (pure a) R P :=
  fun _ ht => Request.gives_pure ⟨ht, ha⟩

theorem Request.keeps_throw (e : ChatError) : Request.Keeps (throw e : Request α) R P :=
  fun _ ht => Request.gives_throw ht

/-- `Step.Keeps.bind` for requests, which may fail in between. -/
theorem Request.Keeps.bind {x : Request α} {f : α → Request β} (hx : Request.Keeps x R P)
    (hf : ∀ a, P a → Request.Keeps (f a) R Q) : Request.Keeps (x >>= f) R Q :=
  fun t ht => (hx t ht).bind (fun _ _ hu => hu) fun a s hs => hf a hs.2 s hs.1

theorem Request.Keeps.lift {x : Step α} (hx : Step.Keeps x R P) :
    Request.Keeps (liftM x : Request α) R P :=
  fun t ht => Request.Gives.lift (hx t ht)

theorem Request.Keeps.lift_bind {x : Step α} {f : α → Request β} (hx : Step.Keeps x R P)
    (hf : ∀ a, P a → Request.Keeps (f a) R Q) :
    Request.Keeps ((liftM x : Request α) >>= f) R Q :=
  (Request.Keeps.lift hx).bind hf

theorem Request.Keeps.refuse {c : Prop} [Decidable c] {e : ChatError} {k : Unit → Request β}
    (hk : Request.Keeps (k ()) R Q) :
    Request.Keeps (if c then (throw e : Request Unit) >>= k else k ()) R Q :=
  fun t ht => Request.Gives.refuse (fun _ => ht) fun _ => hk t ht

theorem Request.Keeps.except_bind {x : Except ChatError α} {f : α → Request β}
    (hf : ∀ a, Request.Keeps (f a) R Q) : Request.Keeps ((liftM x : Request α) >>= f) R Q :=
  fun t ht => Request.Gives.except_bind (fun _ _ => ht) fun a _ => hf a t ht

end Combinators

/-! ### Looking, acting and calling the store -/

theorem look_keeps {f : Hub → α} {P : α → Prop} (hf : ∀ t : Turn, t.Inside R → P (f t.hub)) :
    Step.Keeps (look f) R P :=
  fun t ht => ⟨ht, hf t ht⟩

theorem see_keeps {f : Hub → α} {P : α → Prop} (hf : ∀ t : Turn, t.Inside R → P (f t.hub)) :
    Request.Keeps (see f) R P :=
  Request.Keeps.lift (look_keeps hf)

theorem Turn.Inside.connectionsOf {t : Turn} (ht : t.Inside R) (a : String) :
    ∀ d ∈ t.hub.roster.connectionsOf a, R.Holds d :=
  fun d hd => ht.registered d (ht.sound.mem_connectionsOf.1 hd).1

/-- An effect keeps a turn `Inside` if the client that it concerns is registered. -/
theorem act_keeps {e : Effect} (he : ∀ d ∈ e.client?, R.Holds d) :
    Step.Keeps (act e) R Anything := by
  intro t ht
  refine (act_gives e t).mono fun _ u hu => ⟨ht.becomes hu ht.rooms fun x hx => ?_, trivial⟩
  rw [List.mem_singleton.1 hx]
  exact he

/-- `send` to a registered connection keeps a turn `Inside`. -/
theorem send_keeps {c : Connection} (hc : R.Holds c) (event : ServerEvent) :
    Step.Keeps (send c event) R Anything := by
  intro t ht
  refine (send_gives c event t).mono fun _ u hu => ⟨ht.becomes hu ht.rooms fun x hx => ?_, trivial⟩
  rw [List.mem_singleton.1 hx]
  exact fun _ hd => Option.some.inj hd ▸ hc

theorem report_keeps (i : Incident) : Step.Keeps (report i) R Anything :=
  act_keeps fun _ hd => by cases hd

theorem sendAll_keeps {cs : List Connection} (hcs : ∀ d ∈ cs, R.Holds d) (event : ServerEvent) :
    Step.Keeps (sendAll cs event) R Anything := by
  intro t ht
  refine (sendAll_gives cs event t).mono fun _ u hu => ⟨ht.becomes hu ht.rooms ?_, trivial⟩
  intro e he d hd
  obtain ⟨c, hc, rfl⟩ := List.mem_map.1 he
  exact Option.some.inj hd ▸ hcs c hc

theorem Step.Keeps.discard {x : Step α} (hx : Step.Keeps x R Anything) :
    Step.Keeps (discard x) R Anything :=
  fun t ht => hx t ht

/-- `broadcast` keeps a turn `Inside` if all in the room are registered. -/
theorem broadcast_keeps {room : LiveRoom} (hr : room.Inside R) (event : ServerEvent) :
    Step.Keeps (broadcast room event []) R Anything := by
  intro t ht
  refine (broadcast_gives room event t).mono fun _ u hu => ⟨ht.becomes hu ht.rooms ?_, trivial⟩
  intro e he d hd
  obtain ⟨c, hc, rfl⟩ := List.mem_map.1 he
  exact Option.some.inj hd ▸ hr c hc

theorem broadcastExcept_keeps {room : LiveRoom} (hr : room.Inside R) (event : ServerEvent)
    (a : String) : Step.Keeps (broadcastExcept room event a) R Anything := by
  intro t ht
  refine (broadcastExcept_gives room event a t).mono fun _ u hu =>
    ⟨ht.becomes hu ht.rooms ?_, trivial⟩
  intro e he d hd
  obtain ⟨c, hc, rfl⟩ := List.mem_map.1 he
  exact Option.some.inj hd ▸ hr.holds_of_mem_audience hc

/-- `call` keeps a turn `Inside`, whatever the store does, as rooms and connections stay. -/
theorem call_keeps (kind : StoreCall) (f : Store → Except StoreError α × Store) :
    Step.Keeps (call kind f) R Anything := by
  intro t ht
  refine (call_gives kind f t).mono ?_
  rintro r u (⟨s, -, hb⟩ | ⟨e, -, ha, -⟩)
  · exact ⟨ht.becomes hb ht.rooms (by simp), trivial⟩
  · exact ⟨ht.asks ha, trivial⟩

theorem ask_keeps (kind : StoreCall) (f : Store → α) : Step.Keeps (ask kind f) R Anything :=
  call_keeps _ _

theorem tell_keeps (kind : StoreCall) (f : Store → Except StoreError Unit × Store) :
    Step.Keeps (tell kind f) R Anything :=
  call_keeps _ _

theorem orFail_keeps {x : Step (Except StoreError α)} (hx : Step.Keeps x R Anything) :
    Request.Keeps (orFail x) R Anything := by
  unfold orFail
  refine Request.Keeps.lift_bind hx fun r _ => ?_
  split
  · exact Request.keeps_pure trivial
  · exact Request.keeps_throw _

theorem orReport_keeps {x : Step (Except StoreError Unit)} (hx : Step.Keeps x R Anything)
    (incident : StoreError → Incident) : Step.Keeps (orReport x incident) R Anything := by
  unfold orReport
  refine hx.bind fun r _ => ?_
  split
  · exact Step.keeps_pure trivial
  · exact report_keeps _

theorem newRoomId_keeps : Step.Keeps newRoomId R Anything :=
  fun t ht => (newRoomId_gives t).mono fun _ _ hu => ⟨ht.asks hu.1, trivial⟩

theorem newMessageStamp_keeps : Step.Keeps newMessageStamp R Anything :=
  fun t ht => (newMessageStamp_gives t).mono fun _ _ hu => ⟨ht.asks hu, trivial⟩

theorem newNoticeStamp_keeps : Step.Keeps newNoticeStamp R Anything :=
  fun t ht => (newNoticeStamp_gives t).mono fun _ _ hu => ⟨ht.asks hu, trivial⟩

theorem newSignalStamp_keeps : Step.Keeps newSignalStamp R Anything :=
  fun t ht => (newSignalStamp_gives t).mono fun _ _ hu => ⟨ht.asks hu, trivial⟩

/-! ### Live rooms -/

section LiveRooms

variable {room : LiveRoom} (hr : room.Inside R)
include hr

theorem Turn.Inside.add {t : Turn} (ht : t.Inside R) {k : String} {r : LiveRoom}
    (hk : (t.hub.rooms.add room).get? k = some r) : r.Inside R := by
  rw [LiveRooms.get?_add] at hk
  split at hk
  · cases hk
    exact hr
  · exact ht.rooms k r hk

theorem addRoom_keeps : Step.Keeps (addRoom room) R Anything :=
  fun t ht => (addRoom_gives room t).mono fun _ _ hu =>
    ⟨ht.becomes hu (fun _ _ hk => ht.add hr hk) (by simp), trivial⟩

theorem keepRoom_keeps : Step.Keeps (keepRoom room) R Anything := by
  intro t ht
  refine (keepRoom_gives room t).mono fun _ u hu => ⟨ht.becomes hu ?_ (by simp), trivial⟩
  intro k r hk
  unfold LiveRooms.keep at hk
  split at hk
  · exact ht.add hr hk
  · exact ht.rooms k r hk

theorem enlistRoom_keeps : Step.Keeps (enlistRoom room) R Anything := by
  intro t ht
  refine (enlistRoom_gives room t).mono fun _ u hu => ⟨ht.becomes hu ?_ (by simp), trivial⟩
  intro k r hk
  unfold LiveRooms.enlist at hk
  split at hk
  · exact ht.rooms k r hk
  · exact ht.add hr hk

end LiveRooms

theorem dropRoom_keeps (id : String) : Step.Keeps (dropRoom id) R Anything := by
  intro t ht
  refine (dropRoom_gives id t).mono fun _ u hu => ⟨ht.becomes hu ?_ (by simp), trivial⟩
  intro k r hk
  rw [LiveRooms.get?_remove] at hk
  split at hk
  · cases hk
  · exact ht.rooms k r hk

theorem Turn.Inside.roomOf {t : Turn} (ht : t.Inside R) (info : RoomInfo) :
    ((t.hub.rooms.get? info.id).getD (.ofInfo info)).Inside R := by
  cases hk : t.hub.rooms.get? info.id with
  | none => exact LiveRoom.inside_ofInfo info R
  | some room => exact ht.rooms _ room hk

theorem Turn.Inside.named {t : Turn} (ht : t.Inside R) {name : String} {room : LiveRoom}
    (hr : t.hub.rooms.named? name = some room) : room.Inside R := by
  obtain ⟨-, k, hk⟩ := Table.find?_values_eq_some hr
  exact ht.rooms k room hk

theorem Turn.Inside.liveByReference {t : Turn} (ht : t.Inside R) {reference : String}
    {room : LiveRoom} (hr : t.hub.liveByReference? reference = some room) : room.Inside R := by
  unfold liveByReference? at hr
  split at hr
  · rename_i room' hk
    cases hr
    exact ht.rooms _ _ hk
  · exact ht.named hr

end Hub

end GroupChat
