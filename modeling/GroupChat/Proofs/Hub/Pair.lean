import GroupChat.Proofs.Hub.Authority
import GroupChat.Proofs.Hub.Mirror

/-!
# Private rooms are rooms of two

As long as the store is in reach, a private room has exactly the two members that it was made with,
and its name was put together from them. One of the two made the room, so it was connected, and the
other one is an account of the store.

## Main definitions

- `Hub.Visits`: the states that a hub reaches on behalf of some accounts.
- `Hub.Pair`: the members of a room are two accounts, from which its name was put together.
- `Hub.Paired`: the invariant.

## Main statements

- `Paired.move`: a move preserves the invariant.
- `Visits.paired`: in all states, private rooms are rooms of two.
-/

namespace GroupChat.Hub

/-- The states of a hub between items, all of which come from connections of accounts in `A`. -/
inductive Visits (A : String → Prop) (start : Hub) : Hub → Prop where
  /-- The state before the first item. -/
  | start : Visits A start start
  /-- The state after an item. -/
  | step {h : Hub} {item : Inbound} (before : Visits A start h) (fits : item.Fits h)
      (allowed : A item.connection.account) : Visits A start (h.handle item).1

/-- The members of the room `info` are the accounts `a` and `b`, from which its `privateName` was
put together. -/
structure Pair (h : Hub) (info : RoomInfo) (a b : String) : Prop where
  /-- They are different. -/
  other : b ≠ a
  /-- The name of the room. -/
  name : info.name = privateName a b
  /-- The members of the room. -/
  roles : ∀ x, h.store.roleOf? info.id x = if x = a ∨ x = b then some .user else none

/-- Every private room is the room of a `Pair`, one of whom is in `A`. -/
structure Paired (A : String → Prop) (h : Hub) : Prop where
  /-- Who is connected has such an account. -/
  allowed : ∀ d, h.roster.Holds d → A d.account
  /-- A private room was made by such an account together with one of the store. -/
  pairs : ∀ k info, h.store.rooms.get? k = some info → info.isPrivate = true →
    ∃ a b, A a ∧ (h.store.account? b).isSome = true ∧ h.Pair info a b

variable {A : String → Prop} {h h' start : Hub} {item : Inbound} {k : String} {info : RoomInfo}
  {a b : String}

/-! ### Pairs -/

/-- The two of a `Pair` are all who have a role in the room. -/
theorem Pair.isSome_roleOf?_iff (hp : h.Pair info a b) {x : String} :
    (h.store.roleOf? info.id x).isSome = true ↔ x = a ∨ x = b := by
  rw [hp.roles]
  split_ifs with hx
  · exact iff_of_true rfl hx
  · exact iff_of_false Bool.false_ne_true hx

theorem Pair.symm (hp : h.Pair info a b) : h.Pair info b a where
  other := hp.other.symm
  name := by rw [hp.name, privateName_comm]
  roles x := by rw [hp.roles, if_congr or_comm rfl rfl]

theorem Pair.congr (hp : h.Pair info a b)
    (hr : ∀ x, h'.store.roleOf? info.id x = h.store.roleOf? info.id x) : h'.Pair info a b :=
  ⟨hp.other, hp.name, fun x => (hr x).trans (hp.roles x)⟩

/-- A private room that was made by `Founds` is a `Pair` of its creator and the only other member.
-/
theorem Founds.pair {f : Founding} (hf : h.Founds h' f) (hc : h.Coherent) (hfits : f.Fits)
    (hp : f.info.isPrivate = true) : ∃ m, f.members = [m] ∧ h'.Pair f.info f.creator m := by
  obtain ⟨hrole, m, hm, hname⟩ := hfits.isPrivate hp
  refine ⟨m, hm, ?_, hname, fun x => ?_⟩
  · rintro rfl
    exact hfits.others (hm ▸ List.mem_singleton_self _)
  · have hinitial : f.initial = asUsers [f.creator, m] := by
      rw [Founding.initial, hrole, hm]
      rfl
    rw [hf.store.roles hc.store, if_pos rfl, hinitial, asUsers, Store.lookup_map_const]
    exact if_congr (by simp) rfl rfl

/-- A `Move` leaves `roleOf?` in private rooms as it is. -/
theorem Move.roleOf?_of_isPrivate (hm : h.Move item h') (hc : h.Coherent)
    (hk : h.store.rooms.get? k = some info) (hp : info.isPrivate = true) (x : String) :
    h'.store.roleOf? k x = h.store.roleOf? k x := by
  -- only the members of public rooms change
  have hother : ∀ {i : RoomInfo}, h.store.rooms.get? i.id = some i → i.isPrivate = false →
      k ≠ i.id := by
    rintro i hi hpublic rfl
    rw [hi] at hk
    cases hk
    rw [hpublic] at hp
    cases hp
  cases hm.reroles hc with
  | same roles => exact roles k x
  | founded _ fresh _ _ roles =>
    rw [roles, if_neg]
    rintro rfl
    rw [fresh] at hk
    cases hk
  | added _ may _ roles =>
    rw [roles, if_neg fun hx => hother (may.stored hc) may.isPublic hx.1]
  | removed _ may roles =>
    rw [roles, if_neg fun hx => hother (may.stored hc) may.isPublic hx.1]

/-! ### All states -/

/-- A `Move` on behalf of one of the accounts of `A` preserves `Paired A`. -/
theorem Paired.move (hp : h.Paired A) (hm : h.Move item h') (hfits : item.Fits h)
    (ha : A item.connection.account) (hc : h.Coherent) (hcalm : h.Calm) : h'.Paired A := by
  have hknown : ∀ b, h'.store.account? b = h.store.account? b := fun b => by
    rw [Store.account?, hm.accounts]
    rfl
  refine ⟨fun d hd => ?_, fun k info hk hprivate => ?_⟩
  · rcases hm.connected hfits hd with hd | rfl
    · exact hp.allowed d hd
    · exact ha
  · rcases hm.stored hcalm hk with hold | ⟨c, e, f, h₁, rfl, rfl, rfl, permits, founds, still⟩
    · -- the room was there, and its members stay
      obtain ⟨a, b, haa, hb, hpair⟩ := hp.pairs k info hold hprivate
      obtain rfl := hc.store.keyed k info hold
      refine ⟨a, b, haa, (hknown b).symm ▸ hb, hpair.congr fun x => ?_⟩
      exact hm.roleOf?_of_isPrivate hc hold hprivate x
    · -- the room was made, by one of the accounts
      obtain ⟨m, hmembers, hpair⟩ := founds.pair hc permits.fits hprivate
      refine ⟨f.creator, m, permits.creator ▸ ha, ?_, hpair.congr (still.store.roles _)⟩
      rw [hknown]
      exact permits.known m (hmembers ▸ List.mem_singleton_self m)

theorem paired_fresh (A : String → Prop) (accounts : List Account) (mint : Mint)
    (outages : List Outage) : (fresh accounts mint outages).Paired A where
  allowed _ hd := by cases hd
  pairs _ _ hk := by cases hk

theorem Visits.reachable (hv : Visits A start h) : Reachable start h := by
  induction hv with
  | start => exact .start
  | step _ fits _ ih => exact ih.step fits

/-- Induction over `Visits` by `Move`: what holds at the start and is preserved by every move on
behalf of `A` holds in all states. -/
theorem Visits.induct {P : Hub → Prop} (hv : Visits A start h) (hstart : P start)
    (hstep : ∀ {h h' : Hub} {item : Inbound}, item.Fits h → A item.connection.account →
      h.Move item h' → h.Coherent → h.Calm → P h → P h')
    (hc : start.Coherent) (hcalm : start.Calm) : P h := by
  induction hv with
  | start => exact hstart
  | step before fits allowed ih =>
    have hcoherent := before.reachable.coherent hc
    exact hstep fits allowed (handle_moves hcoherent fits).1 hcoherent
      (before.reachable.calm hc hcalm) ih

/-- All states that are visited from `fresh accounts mint []` are `Paired`. -/
theorem Visits.paired {accounts : List Account} {mint : Mint}
    (hv : Visits A (fresh accounts mint []) h) : h.Paired A :=
  hv.induct (paired_fresh A accounts mint [])
    (fun hfits ha hm hc hcalm hp => hp.move hm hfits ha hc hcalm)
    (coherent_fresh accounts mint []) rfl

/-- `Visits` leaves `Store.accounts` as they are. -/
theorem Visits.accounts (hv : Visits A start h) (hc : start.Coherent) (hcalm : start.Calm) :
    h.store.accounts = start.store.accounts :=
  hv.induct (P := fun h => h.store.accounts = start.store.accounts) rfl
    (fun _ _ hm _ _ hp => hm.accounts.trans hp) hc hcalm

end GroupChat.Hub
