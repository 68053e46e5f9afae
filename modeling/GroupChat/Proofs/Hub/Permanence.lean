import GroupChat.Proofs.Hub.Reference
import GroupChat.Proofs.Hub.Trace

/-!
# Private rooms last

A private room is made with both of its members, and nothing that is asked of it later changes who
they are or lets it go. While the store is in reach, it is made only if no room has its name, so
that two accounts never have two of them.

## Main definitions

- `Hub.Private`: a stored private room.
- `Hub.Keeps`: a room and its members are as they were.

## Main statements

- `Move.keeps`, `Reachable.keeps`: private rooms last, whatever the store does.
- `Distinct.eq_of_members`: two accounts have one private room at most.
- `private_of_reachable`: all that holds of private rooms, in all states.
-/

namespace GroupChat.Hub

/-- `info` is a stored private room under `k`. -/
structure Private (h : Hub) (k : String) (info : RoomInfo) : Prop where
  /-- The room is stored under the identifier. -/
  stored : h.store.rooms.get? k = some info
  /-- It is private. -/
  isPrivate : info.isPrivate = true

/-- The room `k` and its members are in `h'` as they were in `h`. -/
structure Keeps (h h' : Hub) (k : String) : Prop where
  /-- The room. -/
  stored : h'.store.rooms.get? k = h.store.rooms.get? k
  /-- Its members with their roles. -/
  roles : ∀ a, h'.store.roleOf? k a = h.store.roleOf? k a

variable {h h' : Hub} {item : Inbound} {k k' : String} {info info' : RoomInfo} {a b a' b' : String}

/-! ### Nothing changes -/

theorem Keeps.trans {h'' : Hub} (hk : h.Keeps h' k) (hk' : h'.Keeps h'' k) : h.Keeps h'' k where
  stored := hk'.stored.trans hk.stored
  roles a := (hk'.roles a).trans (hk.roles a)

/-- A `Move` `Keeps` every private room as it is. -/
theorem Move.keeps (hm : h.Move item h') (hc : h.Coherent) (hp : h.Private k info) :
    h.Keeps h' k where
  stored := (hm.stored_of_isPrivate hc hp.stored hp.isPrivate).trans hp.stored.symm
  roles a := hm.roleOf?_of_isPrivate hc hp.stored hp.isPrivate a

/-- So does every run: `Keeps`, by induction over `Reachable`. -/
theorem Reachable.keeps (hr : Reachable h h') (hc : h.Coherent) (hp : h.Private k info) :
    h.Keeps h' k := by
  refine (hr.induct (P := fun h₁ => h.Keeps h₁ k) ⟨rfl, fun _ => rfl⟩ ?_ hc).1
  intro h₁ h₂ item _ hm _ hc₁ hkept
  have hp₁ : h₁.Private k info := ⟨hkept.stored.trans hp.stored, hp.isPrivate⟩
  exact hkept.trans (hm.keeps hc₁ hp₁)

/-! ### Rooms of two -/

/-- The room of a `Pair` has two members. -/
theorem Pair.countMembers (hp : h.Pair info a b) : h.store.countMembers info.id = 2 := by
  have hn : [a, b].Nodup := by simpa using hp.other.symm
  refine Store.countMembers_eq_length hn fun x => ?_
  rw [hp.isSome_roleOf?_iff]
  simp

/-- Two rooms that are each a `Pair` with the same members have the same name, since `privateName`
does not depend on the order. -/
theorem Pair.name_eq (hp : h.Pair info a b) (hp' : h.Pair info' a' b')
    (hsame : ∀ x, (h.store.roleOf? info.id x).isSome = true ↔
      (h.store.roleOf? info'.id x).isSome = true) : info.name = info'.name := by
  have hiff : ∀ x, x = a ∨ x = b ↔ x = a' ∨ x = b' := fun x => by
    rw [← hp.isSome_roleOf?_iff, hsame, hp'.isSome_roleOf?_iff]
  -- each of the two is one of the others, and they are different
  rcases (hiff a).1 (Or.inl rfl) with rfl | rfl
  · rcases (hiff b).1 (Or.inr rfl) with rfl | rfl
    · exact absurd rfl hp.other
    · rw [hp.name, hp'.name]
  · rcases (hiff b).1 (Or.inr rfl) with rfl | rfl
    · rw [hp.name, hp'.name, privateName_comm]
    · exact absurd rfl hp.other

theorem Reachable.visits {start : Hub} (hr : Reachable start h) : Visits (fun _ => True) start h := by
  induction hr with
  | start => exact .start
  | step _ fits ih => exact ih.step fits trivial

/-! ### All states -/

/-- **Private rooms are exactly pairs, forever.** In every state that a hub reaches from one without
rooms, while the store is in reach, a private room has two members, which are different accounts
without a special role and of which its name tells. No two private rooms have the same members.
Items that come later change neither the room nor its members. -/
theorem private_of_reachable {accounts : List Account} {mint : Mint}
    (hr : Reachable (fresh accounts mint []) h) :
    (∀ k info, h.Private k info →
      info.id = k ∧ h.store.countMembers k = 2 ∧ ∃ a b, h.Pair info a b) ∧
    (∀ k k' info info', h.Private k info → h.Private k' info' →
      (∀ a, (h.store.roleOf? k a).isSome = true ↔ (h.store.roleOf? k' a).isSome = true) → k = k') ∧
    ∀ h', Reachable h h' → ∀ k info, h.Private k info → h.Keeps h' k := by
  have hc := hr.coherent (coherent_fresh accounts mint [])
  have hpair : ∀ k info, h.Private k info → ∃ a b, h.Pair info a b := by
    intro k info hp
    obtain ⟨a, b, -, -, hpair⟩ := hr.visits.paired.pairs k info hp.stored hp.isPrivate
    exact ⟨a, b, hpair⟩
  refine ⟨fun k info hp => ?_, fun k k' info info' hp hp' hsame => ?_, fun h' hr' k info hp => ?_⟩
  · obtain rfl := hc.store.keyed k info hp.stored
    obtain ⟨a, b, htwo⟩ := hpair info.id info hp
    exact ⟨rfl, htwo.countMembers, a, b, htwo⟩
  · obtain rfl := hc.store.keyed k info hp.stored
    obtain rfl := hc.store.keyed k' info' hp'.stored
    -- rooms with the same two members have one name, and names are distinct
    obtain ⟨a, b, htwo⟩ := hpair info.id info hp
    obtain ⟨a', b', htwo'⟩ := hpair info'.id info' hp'
    exact hr.distinct _ _ info info' hp.stored hp'.stored (htwo.name_eq htwo' hsame)
  · exact hr'.keeps hc hp

/-- The private room of `ann` and `bob`, which a first message has made. -/
def nook : RoomInfo := ⟨den, privateName "ann" "bob", "", false, true⟩

/-- Both try to end the `nook`: `bob` leaves and `ann` removes him, and somebody else wants to join.
-/
def discord : List Inbound :=
  [.event bob ⟨"leave-room", .object [("room_id", .text den)]⟩,
    .event ann ⟨"kick-room", .object [("room_id", .text nook.name),
      ("user_ids", .list [.text "bob"])]⟩,
    .register ⟨"3", "cleo", "Cleo", .user⟩,
    .event ⟨"3", "cleo", "Cleo", .user⟩ ⟨"join-room", .object [("room_id", .text nook.name)]⟩,
    .event bob (direct "ann"), .unregister ann, .unregister bob]

/-- `nook` is what it was after `discord`, in which one of the two tries to leave it, the other one
to remove that one, and a third account to join. -/
theorem private_nook : ∃ h, Reachable (lobby []) h ∧ h.Private den nook ∧ h.Follows discord ∧
    h.store.countMembers den = 2 ∧ (∃ a b, h.Pair nook a b) ∧
    h.Keeps (h.run discord).1 den := by
  have hr : Reachable (lobby []) ((lobby []).run (arrival ++ [.event ann (direct "bob")])).1 :=
    Reachable.start.run (by decide +kernel)
  have hp : ((lobby []).run (arrival ++ [.event ann (direct "bob")])).1.Private den nook :=
    ⟨by decide +kernel, rfl⟩
  have hf : ((lobby []).run (arrival ++ [.event ann (direct "bob")])).1.Follows discord := by
    decide +kernel
  obtain ⟨hpairs, -, hlast⟩ := private_of_reachable hr
  obtain ⟨-, htwo, hpair⟩ := hpairs den nook hp
  exact ⟨_, hr, hp, hf, htwo, hpair, hlast _ (Reachable.start.run hf) den nook hp⟩

end GroupChat.Hub
