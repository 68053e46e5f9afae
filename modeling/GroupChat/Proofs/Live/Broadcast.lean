import GroupChat.Live.Broadcast
import GroupChat.Proofs.Live.Room

/-!
# Whom broadcasts reach

A broadcast to a room offers its text once to each connection that it is for, and counts those that
had room for it. Those it is not for are found by their identifiers, so this needs that no two
connections in the room have the same one, which is what `LiveRoom.Sound` says.

## Main definitions

- `Outbox.Gains`: a text was put into an outbox.
- `Lines.Spreads`: a text was put into the outboxes of some connections, as far as they had room.

## Main statements

- `Lines.spreads_countAccepting`: what is offered to several connections reaches each of them once.
- `LiveRoom.Sound.spreads_broadcastExcept`: a broadcast that leaves out an account.
-/

namespace GroupChat

/-- The `text` was put behind what waits in `o`, and nothing else was done to it. -/
structure Outbox.Gains (o : Outbox) (text : String) (o' : Outbox) : Prop where
  /-- The text is the last one that waits. -/
  queue : o'.queue = o.queue ++ [text]
  /-- As many texts may wait as before. -/
  capacity : o'.capacity = o.capacity
  /-- The client listens as before. -/
  listening : o'.listening = o.listening
  /-- The connection is to be closed as before. -/
  closing : o'.closing = o.closing
  /-- It is to be closed with the hub as before. -/
  dependent : o'.dependent = o.dependent

/-- A text was put once into the outbox of each connection of which `p` holds, as far as it was open
and had room, and into no other one. These were counted. -/
structure Lines.Spreads (l : Lines) (text : String) (p : Connection → Prop) (count : Nat)
    (l' : Lines) : Prop where
  /-- An open outbox with room gains the text. -/
  gains {c : Connection} {o : Outbox} (hc : p c) (ho : l.get? c.id = some o)
    (listening : o.listening = true) (room : o.queue.length < o.capacity) :
    ∃ o', l'.get? c.id = some o' ∧ o.Gains text o'
  /-- One that is closed or full stays as it is. -/
  misses {c : Connection} {o : Outbox} (hc : p c) (ho : l.get? c.id = some o)
    (shut : o.listening = false ∨ o.capacity ≤ o.queue.length) : l'.get? c.id = some o
  /-- So do the outboxes of all others. -/
  others {k : String} (hk : ∀ c, p c → c.id ≠ k) : l'.get? k = l.get? k
  /-- The connections that had room are counted. -/
  counted : ∃ cs : List Connection, cs.Nodup ∧ count = cs.length ∧ ∀ c, c ∈ cs ↔ p c ∧
    ∃ o, l.get? c.id = some o ∧ o.listening = true ∧ o.queue.length < o.capacity

namespace Outbox

variable {o : Outbox}

/-- An outbox that accepts a text has it at the end after `offer`. -/
theorem gains_offer (h : o.accepts = true) (text : String) : o.Gains text (o.offer text) where
  queue := (queue_offer o text).trans (if_pos h)
  capacity := capacity_offer o text
  listening := listening_offer o text
  closing := closing_offer o text
  dependent := by rw [offer, dif_pos h]

theorem offer_of_not_accepts (h : ¬ o.accepts = true) (text : String) : o.offer text = o :=
  dif_neg h

end Outbox

namespace Lines

variable {l : Lines} {text : String} {cs : List Connection} {k : String}

/-! ### Several connections -/

theorem countAccepting_post_cons (l : Lines) (text : String) (c : Connection)
    (cs : List Connection) :
    countAccepting (fun c => post c.id text) (c :: cs) l =
      let (count, l') := countAccepting (fun c => post c.id text) cs (l.offer c.id text)
      (if l.accepts c.id then count + 1 else count, l') := rfl

/-- `countAccepting` over `post` offers the text once to each outbox, if the identifiers are
different. -/
theorem get?_countAccepting (hn : (cs.map Connection.id).Nodup) (k : String) :
    (countAccepting (fun c => post c.id text) cs l).2.get? k =
      if k ∈ cs.map Connection.id then (l.get? k).map (·.offer text) else l.get? k := by
  induction cs generalizing l with
  | nil => rfl
  | cons c cs ih =>
    obtain ⟨hc, hcs⟩ := List.nodup_cons.1 hn
    rw [countAccepting_post_cons]
    show (countAccepting (fun c => post c.id text) cs (l.offer c.id text)).2.get? k = _
    rw [ih hcs, offer, get?_modify, List.map_cons]
    by_cases hk : k = c.id
    · -- the outbox is not offered the text again, as nobody behind has this identifier
      rw [if_pos hk, if_neg (hk ▸ hc), if_pos (hk ▸ List.mem_cons_self)]
    · rw [if_neg hk]
      exact if_congr (by rw [List.mem_cons, or_iff_right hk]) rfl rfl

theorem accepts_offer_of_ne {id : String} (h : id ≠ k) (text : String) :
    (l.offer id text).accepts k = l.accepts k := by
  rw [accepts, offer, get?_modify_of_ne h, accepts]

/-- `countAccepting` counts those that have room at the beginning; as nobody is sent to twice, one
send does not affect another. -/
theorem countAccepting_fst (hn : (cs.map Connection.id).Nodup) :
    (countAccepting (fun c => post c.id text) cs l).1 =
      (cs.filter fun c => l.accepts c.id).length := by
  induction cs generalizing l with
  | nil => rfl
  | cons c cs ih =>
    obtain ⟨hc, hcs⟩ := List.nodup_cons.1 hn
    -- an offer to one connection changes nothing for the others
    have hrest : (cs.filter fun d => (l.offer c.id text).accepts d.id) =
        cs.filter fun d => l.accepts d.id := by
      refine List.filter_congr fun d hd => accepts_offer_of_ne (fun hid => hc ?_) text
      exact hid ▸ List.mem_map_of_mem hd
    rw [countAccepting_post_cons]
    show (if l.accepts c.id then _ + 1 else _) = _
    rw [ih hcs, hrest, List.filter_cons]
    split <;> rfl

theorem accepts_iff {l : Lines} : l.accepts k = true ↔
    ∃ o, l.get? k = some o ∧ o.listening = true ∧ o.queue.length < o.capacity := by
  rw [accepts, Option.any_eq_true]
  simp only [Outbox.accepts_iff]

/-- `countAccepting` over `post` `Spreads` the text among the connections. -/
theorem spreads_countAccepting (hn : (cs.map Connection.id).Nodup) :
    l.Spreads text (· ∈ cs) (countAccepting (fun c => post c.id text) cs l).1
      (countAccepting (fun c => post c.id text) cs l).2 where
  gains {c o} hc ho listening room := by
    refine ⟨o.offer text, ?_, Outbox.gains_offer (Outbox.accepts_iff.2 ⟨listening, room⟩) text⟩
    rw [get?_countAccepting hn, if_pos (List.mem_map_of_mem hc), ho, Option.map_some]
  misses {c o} hc ho shut := by
    -- an outbox that is shut misses the event, and so does one that is full
    have hshut : ¬ o.accepts = true := by
      rw [Outbox.accepts_iff]
      rintro ⟨listening, room⟩
      rcases shut with shut | full
      · exact Bool.false_ne_true (shut.symm.trans listening)
      · exact Nat.not_lt.2 full room
    rw [get?_countAccepting hn, if_pos (List.mem_map_of_mem hc), ho, Option.map_some,
      Outbox.offer_of_not_accepts hshut]
  others {k} hk := by
    rw [get?_countAccepting hn, if_neg]
    intro hmem
    obtain ⟨c, hc, hid⟩ := List.mem_map.1 hmem
    exact hk c hc hid
  counted := by
    refine ⟨cs.filter fun c => l.accepts c.id, (hn.of_map _).filter _, countAccepting_fst hn,
      fun c => ?_⟩
    rw [List.mem_filter, accepts_iff]

end Lines

namespace LiveRoom

variable {r : LiveRoom} {c d : Connection} {a : String}

/-! ### Everyone in a room but an account -/

theorem Sound.nodup_ids_audience (hr : r.Sound) (a : String) :
    ((r.audience a).map Connection.id).Nodup := by
  have hkeys : (r.everyone.map Connection.id).Nodup :=
    Table.map_values hr.keyed ▸ r.connections.nodup
  exact hkeys.sublist (List.filter_sublist.map _)

/-- `broadcastExcept` `Spreads` the event among the connections of all other accounts. -/
theorem Sound.spreads_broadcastExcept (hr : r.Sound) (event : ServerEvent) (a : String) (l : Lines) :
    l.Spreads event.encode (fun c => r.Holds c ∧ c.account ≠ a) (r.broadcastExcept event a l).1
      (r.broadcastExcept event a l).2 := by
  have haudience : (fun c => r.Holds c ∧ c.account ≠ a) = (· ∈ r.audience a) :=
    funext fun c => propext hr.mem_audience.symm
  rw [haudience]
  exact Lines.spreads_countAccepting (hr.nodup_ids_audience a)

end LiveRoom

end GroupChat
