import GroupChat.Proofs.Hub.Answer

/-!
# What a connection is told

What a hub does is a list of effects, of which a connection notices those that are sent to it, in
their order. A computation is described by what it tells each connection, and a description is put
together from those of the parts.

## Main definitions

- `Hub.toldTo`: what a connection is told, in order.
- `Hub.answerFor`: what a connection is told when a frame was carried out.
- `Turn.Utters`: what connections were told in a turn.

## Main statements

- `toldTo_sendAll`: several clients are told something, each of them once.
- `toldTo_answers`: the origin of a frame is answered, and its other devices are told.
- `Turn.Utters.trans`: what connections are told in one turn and then in another one.
-/

namespace GroupChat

open Json

/-- What the connection `d` is told, if that is what an effect does. -/
def Effect.toldTo? (d : Connection) : Effect → Option ServerEvent
  | .send c event => if c = d then some event else none
  | .close _ | .report _ => none

namespace Hub

/-- What the connection `d` is told by `effects`, in order. -/
def toldTo (d : Connection) (effects : List Effect) : List ServerEvent :=
  effects.filterMap (Effect.toldTo? d)

/-- What a connection `d` is told when a frame of a connection was carried out: the name of the
event and the result are sent to the origin, and forwarded to the other devices of its account. -/
def answerFor (h : Hub) (origin : Connection) (event : String) (result : Json) (d : Connection) :
    List ServerEvent :=
  if d = origin then [.success ⟨event, some result⟩]
  else if h.roster.Holds d ∧ d.account = origin.account then [.forward ⟨event, some result⟩]
  else []

/-- Connections stayed, and each connection `d` was told `told d`. -/
structure Turn.Utters (t u : Turn) (told : Connection → List ServerEvent) : Prop where
  /-- The connections stayed. -/
  roster : u.hub.roster = t.hub.roster
  /-- What each of them was told. -/
  told : ∀ d, toldTo d u.effects = toldTo d t.effects ++ told d

variable {h : Hub} {t u v : Turn} {c d : Connection} {event : ServerEvent} {es fs : List Effect}

/-! ### Effects -/

theorem toldTo_append (d : Connection) (es fs : List Effect) :
    toldTo d (es ++ fs) = toldTo d es ++ toldTo d fs :=
  List.filterMap_append

theorem toldTo_cons (d : Connection) (e : Effect) (es : List Effect) :
    toldTo d (e :: es) = toldTo d [e] ++ toldTo d es :=
  toldTo_append d [e] es

theorem toldTo_send (d c : Connection) (event : ServerEvent) :
    toldTo d [.send c event] = if d = c then [event] else [] := by
  by_cases hd : d = c
  · simp [toldTo, Effect.toldTo?, hd]
  · simp [toldTo, Effect.toldTo?, hd, Ne.symm hd]

/-- `toldTo` of one event for several clients has it once, if the clients are different. -/
theorem toldTo_sendAll {cs : List Connection} (hn : cs.Nodup) (d : Connection)
    (event : ServerEvent) :
    toldTo d (cs.map fun c => .send c event) = if d ∈ cs then [event] else [] := by
  induction cs with
  | nil => rfl
  | cons c cs ih =>
    rw [List.nodup_cons] at hn
    rw [List.map_cons, toldTo_cons, toldTo_send, ih hn.2]
    by_cases hd : d = c
    · -- the first of them is not among the others
      subst hd
      simp [hn.1]
    · simp [hd]

/-! ### Answers -/

/-- The answer with a result that is shown as `shown`. -/
theorem toldTo_answers (hs : h.roster.Sound) (hreg : h.roster.Holds c) {kind : String}
    {result shown : Json} (hshown : replyWith kind result = ⟨kind, some shown⟩) (d : Connection) :
    toldTo d (answers h.roster c kind result) = h.answerFor c kind shown d := by
  rw [answers, hshown, toldTo_cons, toldTo_send, toldTo_sendAll (hs.nodup_othersOf c), answerFor]
  by_cases hd : d = c
  · -- the origin is none of its other devices
    have hself : d ∉ h.roster.othersOf c := fun hm => ((hs.mem_othersOf hreg).1 hm).1 hd
    rw [if_pos hd, if_pos hd, if_neg hself, List.append_nil]
  · rw [if_neg hd, if_neg hd, List.nil_append]
    refine if_congr ?_ rfl rfl
    rw [hs.mem_othersOf hreg, and_iff_right hd]

/-! ### Turns -/

namespace Turn

variable {told told' : Connection → List ServerEvent} {rooms : LiveRooms} {store : Store}

theorem Becomes.utters (hb : t.Becomes u rooms store es) : t.Utters u fun d => toldTo d es where
  roster := hb.roster
  told d := by rw [hb.effects, toldTo_append]

theorem Asks.utters (ha : t.Asks u) : t.Utters u fun _ => [] := Becomes.utters ha

theorem Utters.congr (hu : t.Utters u told) (h : ∀ d, told d = told' d) : t.Utters u told' where
  roster := hu.roster
  told d := by rw [hu.told, h]

/-- `Utters` of two turns, one after the other, is both told to each connection in this order. -/
theorem Utters.trans (hu : t.Utters u told) (hv : u.Utters v told') :
    t.Utters v fun d => told d ++ told' d where
  roster := hv.roster.trans hu.roster
  told d := by rw [hv.told, hu.told, List.append_assoc]

end Turn

theorem sendAll_utters {cs : List Connection} (hn : cs.Nodup) (event : ServerEvent) (t : Turn) :
    Step.Gives (sendAll cs event) t fun _ u =>
      t.Becomes u t.hub.rooms t.hub.store (cs.map fun c => .send c event) ∧
        t.Utters u fun d => if d ∈ cs then [event] else [] :=
  (sendAll_gives cs event t).mono fun _ _ hu =>
    ⟨hu, hu.utters.congr fun d => toldTo_sendAll hn d event⟩

theorem broadcast_utters {room : LiveRoom} (hr : room.Sound) (event : ServerEvent) (t : Turn) :
    Step.Gives (broadcast room event []) t fun _ u =>
      t.Becomes u t.hub.rooms t.hub.store (room.everyone.map fun c => .send c event) ∧
        t.Utters u fun d => if d ∈ room.everyone then [event] else [] :=
  (broadcast_gives room event t).mono fun _ _ hu =>
    ⟨hu, hu.utters.congr fun d => toldTo_sendAll hr.nodup_everyone d event⟩

theorem broadcastExcept_utters {room : LiveRoom} (hr : room.Sound) (event : ServerEvent)
    (a : String) (t : Turn) :
    Step.Gives (broadcastExcept room event a) t fun _ u =>
      t.Becomes u t.hub.rooms t.hub.store ((room.audience a).map fun c => .send c event) ∧
        t.Utters u fun d => if d ∈ room.audience a then [event] else [] :=
  (broadcastExcept_gives room event a t).mono fun _ _ hu =>
    ⟨hu, hu.utters.congr fun d => toldTo_sendAll (hr.nodup_audience a) d event⟩

/-- `replyAndForward` answers a frame, and forwards the answer to the other devices of its account.
-/
theorem replyAndForward_utters (hs : h.roster.Sound) (hreg : h.roster.Holds c) {kind : String}
    {result shown : Json} (hshown : replyWith kind result = ⟨kind, some shown⟩)
    (hroster : t.hub.roster = h.roster) :
    Step.Gives (replyAndForward c kind result) t fun _ u =>
      (∃ reply, Effect.send c (.success reply) ∈ u.effects) ∧
        t.Utters u (h.answerFor c kind shown) := by
  refine (replyAndForward_gives c kind result t).mono fun _ u hu => ?_
  rw [hroster] at hu
  refine ⟨⟨replyWith kind result, ?_⟩, hu.utters.congr (toldTo_answers hs hreg hshown)⟩
  rw [hu.effects]
  exact List.mem_append_right _ List.mem_cons_self

end Hub

end GroupChat
