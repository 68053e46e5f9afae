import GroupChat.Proofs.Hub.Record
import GroupChat.Proofs.Hub.Replies
import GroupChat.Proofs.Hub.Response

/-!
# Who is online

The store counts how often each account is connected. Its counts know nothing of the connections
themselves, stop at zero, and come back to zero behind the largest number of 32 bits. Still they are
the numbers of registered connections, as long as the store is in reach, nobody is registered a
second time and no account has 2³² connections: a connection that goes is counted out only when it
is registered, however often it is told to go, and nothing else is counted.

## Main definitions

- `Roster.countOf`: the number of connections of an account.
- `Inbound.Anew`: an item registers nobody who is registered, and no account beyond what can be
  counted.
- `Hub.Orderly`: the states that a hub reaches by such items.
- `Hub.Counted`: the counts of the store are the numbers of connections.

## Main statements

- `Counted.handle`: an item preserves that the counts are right.
- `counted_of_orderly`: the counts, and what is answered about them, in all states.
-/

namespace GroupChat

/-- The number of connections of `account` in the roster `r`. -/
def Roster.countOf (r : Roster) (account : String) : Nat :=
  r.connections.countP fun c => c.account == account

/-- The `item` registers nobody who is registered in `h`, and the connections of an account stay
below `2 ^ 32`. -/
def Inbound.Anew (item : Inbound) (h : Hub) : Prop :=
  match item with
  | .register c => h.roster.get? c.id = none ∧ h.roster.countOf c.account + 1 < 2 ^ 32
  | .event _ _ | .malformed _ _ | .unregister _ => True

instance (item : Inbound) (h : Hub) : Decidable (item.Anew h) :=
  match item with
  | .register c => inferInstanceAs
      (Decidable (h.roster.get? c.id = none ∧ h.roster.countOf c.account + 1 < 2 ^ 32))
  | .event _ _ | .malformed _ _ | .unregister _ => inferInstanceAs (Decidable True)

/-! ### Counting -/

namespace Roster

variable {r r' : Roster} {c : Connection}

/-- `countOf` after a connection was added under an unused identifier. -/
theorem countOf_cons (hk : r.get? c.id = none)
    (h : ∀ k, r'.get? k = if k = c.id then some c else r.get? k) (a : String) :
    r'.countOf a = r.countOf a + if c.account = a then 1 else 0 := by
  have hperm : r'.connections.Perm (c :: r.connections) :=
    (Table.perm_entries_cons hk h).map Prod.snd
  rw [countOf, hperm.countP_eq, List.countP_cons, countOf]
  simp only [beq_iff_eq]

theorem countOf_add (hk : r.get? c.id = none) (a : String) :
    (r.add c).countOf a = r.countOf a + if c.account = a then 1 else 0 :=
  countOf_cons hk (get?_add r c) a

/-- `remove` counts one connection less for its account. -/
theorem countOf_remove (h : r.remove c.id = (some c, r')) (a : String) :
    r.countOf a = r'.countOf a + if c.account = a then 1 else 0 := by
  obtain ⟨hc, rfl⟩ := remove_eq_some h
  have hget : ∀ k, get? ⟨r.byId.erase c.id, r.forget c.account c.id⟩ k =
      if k = c.id then none else r.get? k := Table.get?_erase _ _
  refine countOf_cons (by rw [hget, if_pos rfl]) (fun k => ?_) a
  rw [hget]
  split_ifs with hk
  · rw [hk, hc]
  · rfl

end Roster

namespace Store

/-- `markOnline` counts one more, as long as the number fits into 32 bits. -/
theorem onlineCount_markOnline {s : Store} {a : String}
    (hfits : (s.onlineCount a).toNat + 1 < 2 ^ 32) (b : String) :
    ((s.markOnline a).onlineCount b).toNat =
      (s.onlineCount b).toNat + if a = b then 1 else 0 := by
  rw [onlineCount, markOnline, Table.get?_insert]
  by_cases hb : b = a
  · subst hb
    rw [if_pos rfl, if_pos rfl, Option.getD_some, UInt32.toNat_add]
    exact Nat.mod_eq_of_lt hfits
  · rw [if_neg hb, if_neg (Ne.symm hb)]
    rfl

/-- `markOffline` counts one less. A count that is zero stays zero. -/
theorem onlineCount_markOffline (s : Store) (a b : String) :
    ((s.markOffline a).onlineCount b).toNat =
      (s.onlineCount b).toNat - if a = b then 1 else 0 := by
  by_cases hb : a = b
  · subst hb
    rw [if_pos rfl, markOffline, onlineCount, onlineCount]
    cases hn : s.presence.get? a with
    | none => simp [hn]
    | some n =>
      by_cases hone : n ≤ 1
      · -- the entry goes, and what has no entry counts as zero
        have hle : n.toNat ≤ 1 := UInt32.le_iff_toNat_le.mp hone
        simp only [if_pos hone, Table.get?_erase_self, Option.getD_none, Option.getD_some]
        exact (Nat.sub_eq_zero_of_le hle).symm
      · simp only [if_neg hone, Table.get?_insert_self, Option.getD_some]
        exact UInt32.toNat_sub_of_le n 1 (UInt32.le_of_lt (UInt32.not_le.mp hone))
  · have hother : ∀ {p : Table String UInt32}, p.get? b = s.presence.get? b →
        onlineCount { s with presence := p } b = s.onlineCount b := fun hp => by
      rw [onlineCount, onlineCount, hp]
    rw [if_neg hb, Nat.sub_zero, markOffline]
    split
    · rfl
    · split
      · exact congrArg _ (hother (Table.get?_erase_of_ne (Ne.symm hb)))
      · exact congrArg _ (hother (Table.get?_insert_of_ne (Ne.symm hb)))

end Store

namespace Hub

/-- The states that a hub reaches from `start` while each item is `Inbound.Anew`: nobody is
registered a second time, and no account has as many connections as cannot be counted. -/
inductive Orderly (start : Hub) : Hub → Prop where
  /-- The state before the first item. -/
  | start : Orderly start start
  /-- The state after an item. -/
  | step {h : Hub} {item : Inbound} (before : Orderly start h) (fits : item.Fits h)
      (anew : item.Anew h) : Orderly start (h.handle item).1

/-- The counts of the store are the numbers of connections, `Roster.countOf`. -/
def Counted (h : Hub) : Prop := ∀ a, (h.store.onlineCount a).toNat = h.roster.countOf a

variable {h : Hub} {item : Inbound} {c : Connection} {e : Envelope}

theorem Orderly.reachable {start : Hub} (ho : Orderly start h) : Reachable start h := by
  induction ho with
  | start => exact .start
  | step _ fits _ ih => exact ih.step fits

/-! ### One item -/

/-- `handle` of an event changes neither `roster` nor `presence`. -/
theorem Coherent.presence_event (hc : h.Coherent) (c : Connection) (e : Envelope) :
    (h.handle (.event c e)).1.roster = h.roster ∧
      (h.handle (.event c e)).1.store.presence = h.store.presence := by
  have hgives := (serve_records (t := { hub := h }) hc c e).and (serve_responds hc c e)
  rcases handle_event hgives with
    ⟨-, hh⟩ | ⟨u, ⟨⟨event, -, hu⟩, ⟨result, hr⟩⟩, hh⟩ | ⟨err, s, ⟨hs, hr⟩, hh⟩
  · rw [hh]
    exact ⟨rfl, rfl⟩
  · obtain ⟨ms, hrecords⟩ := hu.records
    rw [hh]
    exact ⟨hr.roster, hrecords.presence⟩
  · rw [hh]
    exact ⟨hr.roster, hs.presence⟩

/-- `handle` preserves `Counted` under calm, if the item is `Anew`, that is, registers nobody a
second time. -/
theorem Counted.handle (hcount : h.Counted) (hc : h.Coherent) (hcalm : h.Calm) (hf : item.Fits h)
    (hanew : item.Anew h) : (h.handle item).1.Counted := by
  intro a
  cases item with
  | register c =>
    have hregisters := handle_register hc c
    have hfits : (h.store.onlineCount c.account).toNat + 1 < 2 ^ 32 := by
      rw [hcount]
      exact hanew.2
    rw [hregisters.counted hcalm, Store.onlineCount_markOnline hfits, hcount, hregisters.roster,
      Roster.countOf_add hanew.1]
  | unregister c =>
    rcases handle_unregister hc hf with ⟨-, hsame⟩ | ⟨hunregisters, -⟩
    · -- nobody has gone, and nobody is counted out
      rw [hsame]
      exact hcount a
    · rw [hunregisters.counted hcalm, Store.onlineCount_markOffline, hcount,
        Roster.countOf_remove hunregisters.roster, Nat.add_sub_cancel]
  | malformed c err =>
    rw [handle_malformed_fst]
    exact hcount a
  | event c e =>
    obtain ⟨hroster, hpresence⟩ := hc.presence_event c e
    rw [Store.onlineCount, hpresence, hroster]
    exact hcount a

/-! ### All states -/

theorem counted_fresh (accounts : List Account) (mint : Mint) (outages : List Outage) :
    (fresh accounts mint outages).Counted :=
  fun _ => rfl

/-- All `Orderly` states are `Counted`. -/
theorem Orderly.counted {accounts : List Account} {mint : Mint}
    (ho : Orderly (fresh accounts mint []) h) : h.Counted := by
  have hstart := coherent_fresh accounts mint []
  induction ho with
  | start => exact counted_fresh accounts mint []
  | step before fits anew ih =>
    have hcalm := before.reachable.calm hstart rfl
    exact ih.handle (before.reachable.coherent hstart) hcalm fits anew

/-- The answer about accounts shows who of them is connected, if the counts are right. -/
theorem Counted.replyWith_usersResult (hcount : h.Counted) (name : String) :
    replyWith "get-users" (usersResult h.store name) = ⟨"get-users", some (.object
      [("users", .list ((h.store.accountsNamed name).map fun a =>
        a.shown (h.roster.connections.any fun d => d.account == a.id)))])⟩ := by
  have honline : ∀ a : Account, decide (0 < h.store.onlineCount a.id) =
      h.roster.connections.any fun d => d.account == a.id := fun a => by
    rw [Bool.eq_iff_iff, decide_eq_true_iff, UInt32.lt_iff_toNat_lt, UInt32.toNat_zero, hcount,
      Roster.countOf, List.countP_pos_iff, List.any_eq_true]
  simp only [usersResult, honline]
  exact replyWith_users _ _ _

/-- **Who is online is who is connected.** In every state that a hub reaches from one without rooms,
while the store is in reach, nobody is registered a second time and no account has 2³² connections,
the store has counted exactly the registered connections of each account. So a registered connection
that asks for accounts is shown each of them with its identifier, its name and its role, and as
online exactly if it has a registered connection. -/
theorem counted_of_orderly {accounts : List Account} {mint : Mint}
    (ho : Orderly (fresh accounts mint []) h) :
    (∀ a, (h.store.onlineCount a).toNat = h.roster.countOf a) ∧
    ∀ c e r, h.roster.get? c.id = some c → ClientEvent.decode e = .ok (.getUsers r) →
      (h.handle (.event c e)).2 = [.send c (.success ⟨"get-users", some (.object
        [("users", .list ((h.store.accountsNamed r.name).map fun a => .object
          [("id", .text a.id), ("name", .text a.name),
            ("online", .bool (h.roster.connections.any fun d => d.account == a.id)),
            ("role", .text a.role.name)]))])⟩)] := by
  have hstart := coherent_fresh accounts mint []
  refine ⟨ho.counted, fun c e r hreg he => ?_⟩
  rcases handle_event (serve_gives he (getUsers_shows c r { hub := h })) with
    ⟨hnone, -⟩ | ⟨u, hu, hh⟩ | ⟨err, s, ⟨-, hstorm⟩, -⟩
  · rw [hreg] at hnone
    cases hnone
  · rw [hh, hu.effects, ho.counted.replyWith_usersResult]
    rfl
  · exact absurd (ho.reachable.calm hstart rfl) hstorm

/-- `ann` connects two devices, of which the `tablet` goes and is told to go once more. -/
def parting : List Inbound :=
  [.register ann, .register tablet, .unregister tablet, .unregister tablet]

/-- One of two devices of `ann` goes. The other one is still counted, and `ann` is shown online. -/
theorem counted_parting : Orderly (lobby []) ((lobby []).run parting).1 ∧
    (((lobby []).run parting).1.store.onlineCount "ann").toNat = 1 ∧
    ((lobby []).run parting).1.roster.countOf "ann" = 1 ∧
    (((lobby []).run parting).1.handle
      (.event ann ⟨"get-users", .object [("name", .text "ann")]⟩)).2 =
      [.send ann (.success ⟨"get-users", some (.object [("users", .list
        [.object [("id", .text "ann"), ("name", .text "Ann"), ("online", .bool true),
          ("role", .text "user")]])])⟩)] := by
  have ho : Orderly (lobby []) ((lobby []).run parting).1 := by
    show Orderly (lobby []) (((((lobby []).handle (.register ann)).1.handle
      (.register tablet)).1.handle (.unregister tablet)).1.handle (.unregister tablet)).1
    refine .step (.step (.step (.step .start ?_ ?_) ?_ ?_) ?_ trivial) ?_ trivial
    all_goals decide +kernel
  obtain ⟨hcount, hshows⟩ := counted_of_orderly ho
  have hone : ((lobby []).run parting).1.roster.countOf "ann" = 1 := by decide +kernel
  refine ⟨ho, (hcount "ann").trans hone, hone, ?_⟩
  rw [hshows ann _ ⟨"ann"⟩ (by decide +kernel) rfl]
  -- `mergeSort` does not compute in the kernel, so what it sorts is computed first
  have haccounts : (((lobby []).run parting).1.store.accounts.values.filter
      fun a => Store.nameMatches "ann" a.name) = [⟨"ann", "Ann", .user⟩] := by decide +kernel
  have honline : ((lobby []).run parting).1.roster.connections = [ann] := by decide +kernel
  rw [Store.accountsNamed, haccounts, List.mergeSort_singleton, honline]
  rfl

end Hub

end GroupChat
