import GroupChat.Hub.Basic
import GroupChat.Proofs.Live.Rooms
import GroupChat.Proofs.Store.Rooms

/-!
# Reasoning about the computations of the hub

A computation is described by what holds of its result and of the turn it ends with. A description
is put together from those of the parts. The store may be out of reach at any call, so each
description covers both outcomes of a call, and speaks which of them is left in calm weather.

## Main definitions

- `Hub.Calm`: no call to the store will fail.
- `Turn.Becomes`: what a turn became, apart from new identifiers and outages.
- `Step.Gives`, `Request.Gives`: what holds after a computation.

## Main statements

- `Step.Gives.bind`, `Request.Gives.bind`, `Request.Gives.refuse`: parts that follow each other.
- `tell_gives`, `ask_gives`, `orFail_ask_gives`, `orFail_tell_gives`, `orReport_gives`: calls to the
  store.
-/

namespace GroupChat.Hub

variable {α β : Type}

/-- No call to the store will fail: there are no `outages`. -/
def Calm (h : Hub) : Prop := h.outages = []

/-- The hub is not `Calm`, and the error `e` is due to the store. -/
def Fails (h : Hub) (e : ChatError) : Prop := ¬ h.Calm ∧ ∃ cause, e = .store cause

/-- The turn `t` became `u`: live rooms and store are now `rooms` and `store`, and `effects` were
added, while the connections stayed. New identifiers may have been drawn, and outages may be over.
-/
structure Turn.Becomes (t u : Turn) (rooms : LiveRooms) (store : Store) (effects : List Effect) :
    Prop where
  /-- The connections stayed. -/
  roster : u.hub.roster = t.hub.roster
  /-- New identifiers come from the same source. -/
  mint : u.hub.mint = t.hub.mint
  /-- The live rooms. -/
  rooms : u.hub.rooms = rooms
  /-- The store. -/
  store : u.hub.store = store
  /-- What was done is added at the end. -/
  effects : u.effects = t.effects ++ effects
  /-- Calm weather lasts. -/
  calm : t.hub.Calm → u.hub.Calm

/-- Nothing happened between `t` and `u` but that the store was asked. -/
def Turn.Asks (t u : Turn) : Prop := t.Becomes u t.hub.rooms t.hub.store []

namespace Turn

variable {t u v : Turn} {rooms rooms' : LiveRooms} {store store' : Store}
  {effects effects' : List Effect}

/-- `Becomes` of two steps, with the effects of both. -/
theorem Becomes.trans (h : t.Becomes u rooms store effects)
    (h' : u.Becomes v rooms' store' effects') :
    t.Becomes v rooms' store' (effects ++ effects') where
  roster := h'.roster.trans h.roster
  mint := h'.mint.trans h.mint
  rooms := h'.rooms
  store := h'.store
  effects := by rw [h'.effects, h.effects, List.append_assoc]
  calm := h'.calm ∘ h.calm

/-- `Becomes`, with the store that the turn has. -/
theorem Becomes.again (h : t.Becomes u rooms store effects) :
    t.Becomes u rooms u.hub.store effects where
  roster := h.roster
  mint := h.mint
  rooms := h.rooms
  store := rfl
  effects := h.effects
  calm := h.calm

theorem Asks.refl (t : Turn) : t.Asks t where
  roster := rfl
  mint := rfl
  rooms := rfl
  store := rfl
  effects := (List.append_nil _).symm
  calm := id

theorem Asks.becomes (h : t.Asks u) (h' : u.Becomes v rooms store effects) :
    t.Becomes v rooms store effects :=
  Becomes.trans h h'

theorem Becomes.asks (h : t.Becomes u rooms store effects) (h' : u.Asks v) :
    t.Becomes v rooms store effects where
  roster := h'.roster.trans h.roster
  mint := h'.mint.trans h.mint
  rooms := h'.rooms.trans h.rooms
  store := h'.store.trans h.store
  effects := by rw [h'.effects, h.effects, List.append_nil]
  calm := h'.calm ∘ h.calm

theorem Asks.trans (h : t.Asks u) (h' : u.Asks v) : t.Asks v := Becomes.asks h h'

theorem Asks.fails {e : ChatError} (h : t.Asks u) (hf : u.hub.Fails e) : t.hub.Fails e :=
  ⟨fun hc => hf.1 (h.calm hc), hf.2⟩

end Turn

/-! ### What holds after a computation -/

/-- `post` holds of the result of the computation `x` that begins in `t`, and of the turn it ends
with. -/
def Step.Gives (x : Step α) (t : Turn) (post : α → Turn → Prop) : Prop := post (x t).1 (x t).2

/-- `failed` holds of the error, or `done` of the result, of the request `x` that begins in `t`, and
of the turn it ends with. -/
def Request.Gives (x : Request α) (t : Turn) (failed : ChatError → Turn → Prop)
    (done : α → Turn → Prop) : Prop :=
  match x t with
  | (.error e, u) => failed e u
  | (.ok a, u) => done a u

section Step

variable {x : Step α} {t : Turn} {P P' : α → Turn → Prop}

theorem Step.Gives.mono (h : Step.Gives x t P) (hp : ∀ a u, P a u → P' a u) :
    Step.Gives x t P' :=
  hp _ _ h

/-- `Step.Gives` of one step and another one that begins where the first one ended. -/
theorem Step.Gives.bind {f : α → Step β} {Q : β → Turn → Prop} (h : Step.Gives x t P)
    (hf : ∀ a s, P a s → Step.Gives (f a) s Q) : Step.Gives (x >>= f) t Q :=
  hf _ _ h

theorem Step.Gives.and (h : Step.Gives x t P) (h' : Step.Gives x t P') :
    Step.Gives x t fun a u => P a u ∧ P' a u :=
  ⟨h, h'⟩

theorem Step.gives_pure {a : α} (h : P a t) : Step.Gives (pure a) t P := h

theorem Step.Gives.discard {Q : Turn → Prop} (h : Step.Gives x t fun _ u => Q u) :
    Step.Gives (discard x) t fun _ u => Q u :=
  h

end Step

section Request

variable {x : Request α} {t : Turn} {F F' : ChatError → Turn → Prop} {D D' : α → Turn → Prop}

theorem Request.Gives.of_error (h : Request.Gives x t F D) {e : ChatError} {u : Turn}
    (hx : x t = (.error e, u)) : F e u := by
  rw [Request.Gives, hx] at h
  exact h

theorem Request.Gives.of_ok (h : Request.Gives x t F D) {a : α} {u : Turn}
    (hx : x t = (.ok a, u)) : D a u := by
  rw [Request.Gives, hx] at h
  exact h

/-- `Request.Gives` is monotone in what is said of failure and of success. -/
theorem Request.Gives.mono (h : Request.Gives x t F D) (hF : ∀ e u, F e u → F' e u)
    (hD : ∀ a u, D a u → D' a u) : Request.Gives x t F' D' := by
  unfold Request.Gives at h ⊢
  split at h
  · exact hF _ _ h
  · exact hD _ _ h

theorem Request.Gives.and (h : Request.Gives x t F D) (h' : Request.Gives x t F' D') :
    Request.Gives x t (fun e u => F e u ∧ F' e u) fun a u => D a u ∧ D' a u := by
  unfold Request.Gives
  split
  · exact ⟨h.of_error ‹_›, h'.of_error ‹_›⟩
  · exact ⟨h.of_ok ‹_›, h'.of_ok ‹_›⟩

/-- `Request.Gives` together with the run that gives it, for a postcondition that mentions the
request itself. -/
theorem Request.Gives.with_run (h : Request.Gives x t F D) :
    Request.Gives x t (fun e u => F e u ∧ x t = (.error e, u))
      fun a u => D a u ∧ x t = (.ok a, u) := by
  unfold Request.Gives
  split
  · exact ⟨h.of_error ‹_›, ‹_›⟩
  · exact ⟨h.of_ok ‹_›, ‹_›⟩

/-- `Request.Gives` of one request and another one, which is not begun if the first one fails. -/
theorem Request.Gives.bind {f : α → Request β} {E : β → Turn → Prop} (h : Request.Gives x t F D)
    (hF : ∀ e s, F e s → F' e s) (hf : ∀ a s, D a s → Request.Gives (f a) s F' E) :
    Request.Gives (x >>= f) t F' E := by
  have hb : (x >>= f) t = ExceptT.bindCont f (x t).1 (x t).2 := rfl
  unfold Request.Gives at h ⊢
  rw [hb]
  split at h <;> rename_i hx
  · rw [hx]
    exact hF _ _ h
  · rw [hx]
    exact hf _ _ h

theorem Request.Gives.lift_bind {x : Step α} {f : α → Request β} {E : β → Turn → Prop}
    {P : α → Turn → Prop} (h : Step.Gives x t P)
    (hf : ∀ a s, P a s → Request.Gives (f a) s F E) :
    Request.Gives ((liftM x : Request α) >>= f) t F E :=
  hf _ _ h

theorem Request.Gives.lift {x : Step α} {P : α → Turn → Prop} (h : Step.Gives x t P) :
    Request.Gives (liftM x : Request α) t F P :=
  h

theorem Request.gives_pure {a : α} (h : D a t) : Request.Gives (pure a) t F D := h

theorem Request.gives_throw {e : ChatError} (h : F e t) :
    Request.Gives (throw e : Request α) t F D :=
  h

theorem Request.gives_see {f : Hub → α} (h : D (f t.hub) t) : Request.Gives (see f) t F D := h

/-- `Request.Gives` of a request that is refused under a condition. -/
theorem Request.Gives.refuse {c : Prop} [Decidable c] {e : ChatError} {k : Unit → Request β}
    {E : β → Turn → Prop} (hc : c → F e t) (hk : ¬ c → Request.Gives (k ()) t F E) :
    Request.Gives (if c then (throw e : Request Unit) >>= k else k ()) t F E := by
  split
  · exact hc ‹_›
  · exact hk ‹_›

theorem Request.Gives.except_bind {x : Except ChatError α} {f : α → Request β}
    {E : β → Turn → Prop} (hF : ∀ e, x = .error e → F e t)
    (hf : ∀ a, x = .ok a → Request.Gives (f a) t F E) :
    Request.Gives ((liftM x : Request α) >>= f) t F E := by
  cases x with
  | error e => exact hF e rfl
  | ok a => exact hf a rfl

end Request

/-! ### Looking and acting -/

/-- `look` reads the hub and leaves the turn as it is. -/
theorem look_gives (f : Hub → α) (t : Turn) :
    Step.Gives (look f) t fun a u => a = f t.hub ∧ u = t :=
  ⟨rfl, rfl⟩

theorem see_gives (f : Hub → α) (t : Turn) :
    Request.Gives (see f) t (fun _ _ => False) fun a u => a = f t.hub ∧ u = t :=
  Request.gives_see ⟨rfl, rfl⟩

theorem change_gives (f : Hub → Hub) (t : Turn) :
    Step.Gives (change f) t fun _ u => u = { t with hub := f t.hub } :=
  rfl

theorem act_gives (e : Effect) (t : Turn) :
    Step.Gives (act e) t fun _ u => t.Becomes u t.hub.rooms t.hub.store [e] :=
  ⟨rfl, rfl, rfl, rfl, rfl, id⟩

theorem send_gives (c : Connection) (event : ServerEvent) (t : Turn) :
    Step.Gives (send c event) t fun _ u =>
      t.Becomes u t.hub.rooms t.hub.store [.send c event] :=
  ⟨rfl, rfl, rfl, rfl, rfl, id⟩

/-- One `send` and then those to other clients, as one list of effects. -/
theorem Turn.Becomes.sends {t u v : Turn} {c : Connection} {cs : List Connection}
    {event : ServerEvent} (h : t.Becomes u t.hub.rooms t.hub.store [.send c event])
    (h' : u.Becomes v u.hub.rooms u.hub.store (cs.map fun c => .send c event)) :
    t.Becomes v t.hub.rooms t.hub.store ((c :: cs).map fun c => .send c event) := by
  rw [h.rooms, h.store] at h'
  exact h.trans h'

/-- `sendAll` sends the same to all of the connections, in their order. -/
theorem sendAll_gives (cs : List Connection) (event : ServerEvent) (t : Turn) :
    Step.Gives (sendAll cs event) t fun _ u =>
      t.Becomes u t.hub.rooms t.hub.store (cs.map fun c => .send c event) := by
  induction cs generalizing t with
  | nil => exact Step.gives_pure (Turn.Asks.refl t)
  | cons c cs ih =>
    rw [sendAll]
    exact (send_gives c event t).bind fun _ s hs => (ih s).mono fun _ _ hu => hs.sends hu

/-- `countAccepting` over `send` adds one effect for each client, whatever it counts. -/
theorem countAccepting_gives (cs : List Connection) (event : ServerEvent) (t : Turn) :
    Step.Gives (countAccepting (fun c => send c event) cs) t fun _ u =>
      t.Becomes u t.hub.rooms t.hub.store (cs.map fun c => .send c event) := by
  induction cs generalizing t with
  | nil => exact Step.gives_pure (Turn.Asks.refl t)
  | cons c cs ih =>
    rw [countAccepting]
    refine (send_gives c event t).bind fun accepted s hs => ?_
    exact (ih s).bind fun count _ hu => Step.gives_pure (hs.sends hu)

theorem broadcast_gives (room : LiveRoom) (event : ServerEvent) (t : Turn) :
    Step.Gives (broadcast room event []) t fun _ u =>
      t.Becomes u t.hub.rooms t.hub.store (room.everyone.map fun c => .send c event) := by
  rw [broadcast, LiveRoom.broadcastBy, LiveRoom.recipients_nil]
  exact countAccepting_gives room.everyone event t

theorem broadcastExcept_gives (room : LiveRoom) (event : ServerEvent) (a : String) (t : Turn) :
    Step.Gives (broadcastExcept room event a) t fun _ u =>
      t.Becomes u t.hub.rooms t.hub.store ((room.audience a).map fun c => .send c event) :=
  countAccepting_gives (room.audience a) event t

theorem keepRoom_gives (room : LiveRoom) (t : Turn) :
    Step.Gives (keepRoom room) t fun _ u =>
      t.Becomes u (t.hub.rooms.keep room) t.hub.store [] :=
  ⟨rfl, rfl, rfl, rfl, (List.append_nil _).symm, id⟩

theorem enlistRoom_gives (room : LiveRoom) (t : Turn) :
    Step.Gives (enlistRoom room) t fun _ u =>
      t.Becomes u (t.hub.rooms.enlist room) t.hub.store [] :=
  ⟨rfl, rfl, rfl, rfl, (List.append_nil _).symm, id⟩

theorem dropRoom_gives (id : String) (t : Turn) :
    Step.Gives (dropRoom id) t fun _ u =>
      t.Becomes u (t.hub.rooms.remove id) t.hub.store [] :=
  ⟨rfl, rfl, rfl, rfl, (List.append_nil _).symm, fun h => h⟩

theorem addRoom_gives (room : LiveRoom) (t : Turn) :
    Step.Gives (addRoom room) t fun _ u =>
      t.Becomes u (t.hub.rooms.add room) t.hub.store [] :=
  ⟨rfl, rfl, rfl, rfl, (List.append_nil _).symm, id⟩

theorem newRoomId_gives (t : Turn) : Step.Gives newRoomId t fun id u =>
    t.Asks u ∧ id = t.hub.mint.room t.hub.drawn.rooms :=
  ⟨⟨rfl, rfl, rfl, rfl, (List.append_nil _).symm, id⟩, rfl⟩

theorem newMessageStamp_gives (t : Turn) : Step.Gives newMessageStamp t fun _ u => t.Asks u :=
  ⟨rfl, rfl, rfl, rfl, (List.append_nil _).symm, id⟩

theorem newNoticeStamp_gives (t : Turn) : Step.Gives newNoticeStamp t fun _ u => t.Asks u :=
  ⟨rfl, rfl, rfl, rfl, (List.append_nil _).symm, id⟩

theorem newSignalStamp_gives (t : Turn) : Step.Gives newSignalStamp t fun _ u => t.Asks u :=
  ⟨rfl, rfl, rfl, rfl, (List.append_nil _).symm, id⟩

/-! ### Calling the store -/

/-- `call` does what the store does with it, or there is an outage, the turn only `Asks`, and the
weather is not calm. -/
theorem call_gives (kind : StoreCall) (f : Store → Except StoreError α × Store) (t : Turn) :
    Step.Gives (call kind f) t fun r u =>
      (∃ s, f t.hub.store = (r, s) ∧ t.Becomes u t.hub.rooms s []) ∨
      (∃ e, r = .error e ∧ t.Asks u ∧ ¬ t.hub.Calm) := by
  have hcalm : t.hub.Calm → Outage.meet kind t.hub.outages = (none, []) := fun h => by
    rw [h, Outage.meet_nil]
  unfold Step.Gives call
  rcases hm : Outage.meet kind t.hub.outages with ⟨_ | e, outages⟩
  · -- no outage is met, and the store does its part
    have hout : t.hub.Calm → outages = [] := fun h =>
      congrArg Prod.snd (hm.symm.trans (hcalm h))
    exact Or.inl ⟨_, rfl, rfl, rfl, rfl, rfl, (List.append_nil _).symm, hout⟩
  · -- an outage is met, and nothing happens
    have hstorm : ¬ t.hub.Calm := by
      intro h
      have hnone := congrArg Prod.fst (hm.symm.trans (hcalm h))
      cases hnone
    exact Or.inr ⟨e, rfl, ⟨rfl, rfl, rfl, rfl, (List.append_nil _).symm,
      fun h => absurd h hstorm⟩, hstorm⟩

/-- `ask` gives what the store has, unless there is an outage. Without one it never fails. -/
theorem ask_gives (kind : StoreCall) (f : Store → α) (t : Turn) :
    Step.Gives (ask kind f) t fun r u =>
      t.Asks u ∧ (r = .ok (f t.hub.store) ∨ ∃ e, r = .error e ∧ ¬ t.hub.Calm) := by
  refine (call_gives kind (fun s => (.ok (f s), s)) t).mono ?_
  rintro r u (⟨s, hs, hb⟩ | ⟨e, rfl, ha, hc⟩)
  · cases hs
    exact ⟨hb, Or.inl rfl⟩
  · exact ⟨ha, Or.inr ⟨e, rfl, hc⟩⟩

/-- `tell` makes a change, or fails and nothing has happened; the latter is `Store.Spares`. -/
theorem tell_gives (kind : StoreCall) {f : Store → Except StoreError Unit × Store}
    (hf : Store.Spares f) (t : Turn) :
    Step.Gives (tell kind f) t fun r u =>
      (∃ s, r = .ok () ∧ f t.hub.store = (.ok (), s) ∧ t.Becomes u t.hub.rooms s []) ∨
      (∃ e, r = .error e ∧ t.Asks u ∧
        (t.hub.Calm → f t.hub.store = (.error e, t.hub.store))) := by
  refine (call_gives kind f t).mono ?_
  rintro r u (⟨s, hs, hb⟩ | ⟨e, rfl, ha, hstorm⟩)
  · rcases r with e | ⟨⟩
    · -- the store refuses the change
      obtain rfl := hf hs
      exact Or.inr ⟨e, rfl, hb, fun _ => hs⟩
    · exact Or.inl ⟨s, rfl, hs, hb⟩
  · exact Or.inr ⟨e, rfl, ha, fun hc => absurd hc hstorm⟩

/-- `orFail` of `ask` fails for an outage only. -/
theorem orFail_ask_gives (kind : StoreCall) (f : Store → α) (t : Turn) :
    Request.Gives (orFail (ask kind f)) t
      (fun e u => t.Asks u ∧ t.hub.Fails e)
      (fun a u => t.Asks u ∧ a = f t.hub.store) := by
  unfold orFail
  refine Request.Gives.lift_bind (ask_gives kind f t) ?_
  rintro r u ⟨ha, rfl | ⟨e, rfl, hc⟩⟩
  · exact Request.gives_pure ⟨ha, rfl⟩
  · exact Request.gives_throw ⟨ha, hc, e, rfl⟩

/-- `orFail` of `tell`: if it fails, the turn only `Asks`, as the store refused the change or there
is an outage. -/
theorem orFail_tell_gives (kind : StoreCall) {f : Store → Except StoreError Unit × Store}
    (hf : Store.Spares f) (t : Turn) :
    Request.Gives (orFail (tell kind f)) t
      (fun e u => t.Asks u ∧ ∃ cause, e = .store cause ∧
        (t.hub.Calm → f t.hub.store = (.error cause, t.hub.store)))
      (fun _ u => ∃ s, f t.hub.store = (.ok (), s) ∧ t.Becomes u t.hub.rooms s []) := by
  unfold orFail
  refine Request.Gives.lift_bind (tell_gives kind hf t) ?_
  rintro r u (⟨s, rfl, hs, hb⟩ | ⟨e, rfl, ha, hc⟩)
  · exact Request.gives_pure ⟨s, hs, hb⟩
  · exact Request.gives_throw ⟨ha, e, rfl, hc⟩

/-- `orReport` of `tell`: a failure becomes a report, and that is all that happens then. -/
theorem orReport_gives (kind : StoreCall) {f : Store → Except StoreError Unit × Store}
    (hf : Store.Spares f) (incident : StoreError → Incident) (t : Turn) :
    Step.Gives (orReport (tell kind f) incident) t fun _ u =>
      (∃ s, f t.hub.store = (.ok (), s) ∧ t.Becomes u t.hub.rooms s []) ∨
      (∃ e, t.Becomes u t.hub.rooms t.hub.store [.report (incident e)] ∧
        (t.hub.Calm → f t.hub.store = (.error e, t.hub.store))) := by
  unfold orReport
  refine (tell_gives kind hf t).bind ?_
  rintro r u (⟨s, rfl, hs, hb⟩ | ⟨e, rfl, ha, hc⟩)
  · exact Step.gives_pure (Or.inl ⟨s, hs, hb⟩)
  · refine (act_gives _ u).mono fun _ v hv => Or.inr ⟨e, ?_, hc⟩
    rw [ha.rooms, ha.store] at hv
    exact ha.becomes hv

/-- `orReport` of `deleteRoom`, which does not meet `Store.Spares`: it takes the members of a room
away before it looks for the room. The room is gone afterwards, unless there is an outage. -/
theorem orReport_deleteRoom_gives (room : String) (incident : StoreError → Incident) (t : Turn) :
    Step.Gives (orReport (tell .deleteRoom (·.deleteRoom room)) incident) t fun _ u =>
      (∃ s news, t.hub.store.Drops room s ∧ t.Becomes u t.hub.rooms s news ∧
        (∀ x ∈ news, ∃ e, x = .report (incident e)) ∧
        (t.hub.store.rooms.get? room ≠ none → news = [])) ∨
      (∃ e, t.Becomes u t.hub.rooms t.hub.store [.report (incident e)] ∧ ¬ t.hub.Calm) := by
  unfold orReport
  refine (call_gives .deleteRoom (·.deleteRoom room) t).bind ?_
  rintro r u (⟨s, hs, hb⟩ | ⟨e, rfl, ha, hstorm⟩)
  · -- the store was reached, and the room is gone whatever it answers
    have hdrops : t.hub.store.Drops room s := by
      have hdrops := Store.drops_deleteRoom t.hub.store room
      rwa [hs] at hdrops
    rcases r with e | ⟨⟩
    · refine (act_gives _ u).mono fun _ v hv =>
        Or.inl ⟨s, [.report (incident e)], hdrops, ?_, List.forall_mem_singleton.2 ⟨e, rfl⟩, ?_⟩
      · rw [hb.rooms, hb.store] at hv
        exact hb.trans hv
      · -- it answers with an error only if there was no such room
        intro hstored
        obtain ⟨s', hs'⟩ := Store.exists_deleteRoom hstored
        cases hs.symm.trans hs'
    · exact Step.gives_pure (Or.inl ⟨s, [], hdrops, hb, List.forall_mem_nil _, fun _ => rfl⟩)
  · refine (act_gives _ u).mono fun _ v hv => Or.inr ⟨e, ?_, hstorm⟩
    rw [ha.rooms, ha.store] at hv
    exact ha.becomes hv

end GroupChat.Hub
