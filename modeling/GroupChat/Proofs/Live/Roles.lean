import GroupChat.Proofs.Live.Broadcast
import GroupChat.Proofs.Since

/-!
# Who is in a live room, and with which role

However connections come into a room and go, the room holds those that came and did not go since, as
long as an identifier always denotes the same connection. An account has a role while one of its
connections is there, namely the one with which it came when none of them was there: a device that
joins the others of its account changes nothing, and one that comes back after all of them have gone
brings its role along.

## Main definitions

- `LiveRoom.Change`: what can be done to a live room.
- `LiveRoom.Attends`, `LiveRoom.Present`: a connection, and an account, came and did not go since.
- `LiveRoom.Entered`: the role with which an account came last when it was not there.
- `LiveRoom.Hosts`: a room holds those who attend, with the roles with which they entered.

## Main statements

- `Sound.change`: what one change does to a sound room.
- `tracks_afterChanges`: what any changes lead to.
- `hosts_of_changes`: after any changes a room hosts those who attend.
-/

namespace GroupChat.LiveRoom

/-- What can be done to a `LiveRoom`. -/
inductive Change where
  /-- Lets a connection in, with a role for its account. -/
  | join (c : Connection) (role : Role)
  /-- Lets the connection of an identifier out. -/
  | leave (id : String)
  /-- Lets the connections of an account out. -/
  | removeAccount (account : String)
  deriving DecidableEq, Repr

/-- The connections that a `Change` hands back, and the room after it. -/
def change (r : LiveRoom) : Change → List Connection × LiveRoom
  | .join c role => ([], r.join c role)
  | .leave id => ((r.leave id).1.toList, (r.leave id).2)
  | .removeAccount a => r.removeAccount a

/-- The room `info` after `changes`, when nobody was connected to it at first. -/
def afterChanges (info : RoomInfo) (changes : List Change) : LiveRoom :=
  changes.foldl (fun r ch => (r.change ch).2) (ofInfo info)

namespace Change

/-- The change `ch` lets the connection `c` in. -/
def Admits (ch : Change) (c : Connection) : Prop := ∃ role, ch = .join c role

/-- A `Change` lets a connection out, if it is there. -/
def Removes : Change → Connection → Prop
  | .join _ _, _ => False
  | .leave id, c => c.id = id
  | .removeAccount a, c => c.account = a

/-- The role with which a `Change` lets a connection of an account in, if it does. -/
def roleFor? : Change → String → Option Role
  | .join c role, a => if a = c.account then some role else none
  | .leave _, _ => none
  | .removeAccount _, _ => none

end Change

/-- The connection `c` came and did not go `Since`. -/
def Attends (changes : List Change) (c : Connection) : Prop :=
  Since (fun _ ch => ch.Admits c) (fun _ ch => ch.Removes c) changes

/-- Some connection of the account `a` `Attends`. -/
def Present (changes : List Change) (a : String) : Prop := ∃ c, Attends changes c ∧ c.account = a

/-- When the account `a` was not `Present` and a connection of it came, for the last time, it came
with this `role`. -/
def Entered (changes : List Change) (a : String) (role : Role) : Prop :=
  Since (fun before ch => ¬ Present before a ∧ ch.roleFor? a = some role)
    (fun before ch => ¬ Present before a ∧ (ch.roleFor? a).isSome = true) changes

/-- An identifier always denotes the same connection among the `changes`. -/
def Unmistakable (changes : List Change) : Prop :=
  ∀ c role d role', .join c role ∈ changes → .join d role' ∈ changes → d.id = c.id → d = c

/-- The room `r` holds those who attend after the `changes` (`Attends`), with the roles with which
their accounts entered (`Entered`), and broadcasts to them. -/
structure Hosts (r : LiveRoom) (changes : List Change) : Prop where
  /-- The connections are those that came and did not go since. -/
  mem_everyone : ∀ c, c ∈ r.everyone ↔ Attends changes c
  /-- No connection is listed twice. -/
  nodup_everyone : r.everyone.Nodup
  /-- An account has a role if one of its connections is there. -/
  hasAccount_iff : ∀ a, r.hasAccount a = true ↔ ∃ c ∈ r.everyone, c.account = a
  /-- The role is the one with which it came last when none of them was there. -/
  roleOf?_eq_some_iff : ∀ a role,
    r.roleOf? a = some role ↔ (∃ c ∈ r.everyone, c.account = a) ∧ Entered changes a role
  /-- When a connection is let out, it is handed back. -/
  leave_eq_some_iff : ∀ id c, (r.leave id).1 = some c ↔ c ∈ r.everyone ∧ c.id = id
  /-- When an account is let out, its connections are handed back. -/
  mem_removeAccount : ∀ a c, c ∈ (r.removeAccount a).1 ↔ c ∈ r.everyone ∧ c.account = a
  /-- None of them is handed back twice. -/
  nodup_removeAccount : ∀ a, (r.removeAccount a).1.Nodup
  /-- A broadcast that leaves out an account reaches each other connection once, and nobody else. -/
  spreads : ∀ event a l,
    Lines.Spreads l event.encode (fun c => c ∈ r.everyone ∧ c.account ≠ a)
      (r.broadcastExcept event a l).1 (r.broadcastExcept event a l).2

variable {r : LiveRoom} {c : Connection} {changes : List Change} {ch : Change} {a : String}

/-! ### One change -/

/-- `change` lets in and out whom it names, if a connection comes in under an identifier of its own.
-/
theorem Sound.change (hr : r.Sound)
    (hown : ∀ c, ch.Admits c → ∀ d, r.Holds d → d.id = c.id → d = c) :
    (r.change ch).2.Sound ∧
      ∀ c, (r.change ch).2.Holds c ↔ ch.Admits c ∨ r.Holds c ∧ ¬ ch.Removes c := by
  cases ch with
  | join c role =>
    have hc := hown c ⟨role, rfl⟩
    refine ⟨sound_join_of_forall hr hc role, fun d => ?_⟩
    refine (holds_join_of_forall hc role).trans (or_congr ?_ (and_iff_left not_false).symm)
    constructor
    · rintro rfl
      exact ⟨role, rfl⟩
    · rintro ⟨_, h⟩
      cases h
      rfl
  | leave id =>
    refine ⟨sound_leave_snd hr id, fun d => (r.holds_leave_snd id).trans (or_iff_right ?_).symm⟩
    exact fun ⟨_, h⟩ => Change.noConfusion h
  | removeAccount b =>
    refine ⟨sound_removeAccount hr b, fun d => (r.holds_removeAccount b).trans (or_iff_right ?_).symm⟩
    exact fun ⟨_, h⟩ => Change.noConfusion h

/-- After `change`, an account that is there has the role that it had, or else the one with which it
came. -/
theorem Sound.roleOf?_change (hr : r.Sound) (hc : (r.change ch).2.Holds c) :
    (r.change ch).2.roleOf? c.account = (r.roleOf? c.account).or (ch.roleFor? c.account) := by
  cases ch with
  | join d role => exact roleOf?_join r d role c.account
  | leave id => exact (roleOf?_leave_snd hr hc).trans (Option.or_none).symm
  | removeAccount b =>
    have hb : c.account ≠ b := ((r.holds_removeAccount b).1 hc).2
    exact ((roleOf?_removeAccount r b c.account).trans (if_neg hb)).trans (Option.or_none).symm

/-- `leave` hands back the connection that has the identifier. -/
theorem Sound.leave_fst_eq_some_iff (hr : r.Sound) {id : String} :
    (r.leave id).1 = some c ↔ r.Holds c ∧ c.id = id := by
  constructor
  · intro h
    have hk : r.connections.get? id = some c := (leave_eq_some (Prod.ext h rfl)).1
    exact ⟨hr.holds_of_get? hk, hr.keyed id c hk⟩
  · rintro ⟨hc, rfl⟩
    cases h : r.leave c.id with
    | mk gone r' =>
      cases gone with
      | none => cases (leave_eq_none h).symm.trans hc
      | some d => exact (leave_eq_some h).1.symm.trans hc

theorem Change.roleFor?_of_admits (h : ch.Admits c) : (ch.roleFor? c.account).isSome = true := by
  obtain ⟨role, rfl⟩ := h
  rw [roleFor?, if_pos rfl, Option.isSome_some]

/-! ### Sequences of changes -/

theorem attends_concat :
    Attends (changes ++ [ch]) c ↔ ch.Admits c ∨ Attends changes c ∧ ¬ ch.Removes c :=
  since_concat

theorem Attends.join_mem (h : Attends changes c) : ∃ role, .join c role ∈ changes := by
  obtain ⟨before, _, after, rfl, ⟨role, rfl⟩, -⟩ := h
  exact ⟨role, List.mem_append_right before List.mem_cons_self⟩

/-- `Entered` of an account that is there does not change, whoever else of it comes. -/
theorem entered_concat_of_present {role : Role} (h : Present changes a) :
    Entered (changes ++ [ch]) a role ↔ Entered changes a role := by
  rw [Entered, since_concat, ← Entered]
  constructor
  · rintro (⟨hnot, -⟩ | ⟨hentered, -⟩)
    · exact absurd h hnot
    · exact hentered
  · exact fun hentered => Or.inr ⟨hentered, fun hnot => hnot.1 h⟩

theorem entered_concat_of_not_present {role : Role} (h : ¬ Present changes a)
    (hcame : (ch.roleFor? a).isSome = true) :
    Entered (changes ++ [ch]) a role ↔ ch.roleFor? a = some role := by
  rw [Entered, since_concat, and_iff_right h]
  exact or_iff_left fun hentered => hentered.2 ⟨h, hcame⟩

theorem Unmistakable.of_append {more : List Change} (h : Unmistakable (changes ++ more)) :
    Unmistakable changes :=
  fun c role d role' hc hd =>
    h c role d role' (List.mem_append_left more hc) (List.mem_append_left more hd)

/-- The room `r` is `Sound`, holds those who attend, and knows the roles of those who are `Present`.
-/
structure Tracks (r : LiveRoom) (changes : List Change) : Prop where
  /-- Connections and roles agree. -/
  sound : r.Sound
  /-- The connections are those who attend. -/
  holds_iff : ∀ c, r.Holds c ↔ Attends changes c
  /-- The roles are those with which the accounts entered. -/
  roleOf?_iff : ∀ a role, r.roleOf? a = some role ↔ Present changes a ∧ Entered changes a role

/-- In a room that `Tracks` the changes, an account is `Present` exactly if a connection of it is in
the room. -/
theorem Tracks.present_iff (hr : r.Tracks changes) :
    Present changes a ↔ ∃ c, r.Holds c ∧ c.account = a :=
  exists_congr fun c => and_congr_left fun _ => (hr.holds_iff c).symm

theorem Tracks.roleOf?_eq_none (hr : r.Tracks changes) (h : ¬ Present changes a) :
    r.roleOf? a = none := by
  rw [← Option.not_isSome_iff_eq_none, hr.sound.role_iff, ← hr.present_iff]
  exact h

/-- If the changes are `Unmistakable`, who comes in has an identifier of its own. -/
theorem Tracks.eq_of_admits (hr : r.Tracks changes) (h : Unmistakable (changes ++ [ch])) :
    ∀ c, ch.Admits c → ∀ d, r.Holds d → d.id = c.id → d = c := by
  rintro c ⟨role, rfl⟩ d hd
  obtain ⟨role', hmem⟩ := ((hr.holds_iff d).1 hd).join_mem
  exact h c role d role' (List.mem_append_right changes List.mem_cons_self)
    (List.mem_append_left _ hmem)

/-- After `change`, an account that is there has the role with which it `Entered`. -/
theorem Tracks.roleOf?_change (hr : r.Tracks changes) (hc : (r.change ch).2.Holds c)
    (hcame : ch.Admits c ∨ r.Holds c) {role : Role} :
    (r.change ch).2.roleOf? c.account = some role ↔ Entered (changes ++ [ch]) c.account role := by
  rw [hr.sound.roleOf?_change hc]
  by_cases hbefore : Present changes c.account
  · obtain ⟨role', hrole'⟩ := Option.isSome_iff_exists.1
      ((hr.sound.role_iff c.account).2 (hr.present_iff.1 hbefore))
    rw [entered_concat_of_present hbefore, hrole', Option.some_or, ← hrole', hr.roleOf?_iff,
      and_iff_right hbefore]
  · have hadmits : ch.Admits c :=
      hcame.resolve_right fun hc => hbefore ⟨c, (hr.holds_iff c).1 hc, rfl⟩
    rw [entered_concat_of_not_present hbefore (Change.roleFor?_of_admits hadmits),
      hr.roleOf?_eq_none hbefore, Option.none_or]

/-- `change` leads to a room that `Tracks` one change more. -/
theorem Tracks.change (hr : r.Tracks changes) (h : Unmistakable (changes ++ [ch])) :
    (r.change ch).2.Tracks (changes ++ [ch]) := by
  obtain ⟨hsound, hholds⟩ := hr.sound.change (hr.eq_of_admits h)
  have hattends : ∀ c, (r.change ch).2.Holds c ↔ Attends (changes ++ [ch]) c := by
    intro c
    rw [hholds, hr.holds_iff, attends_concat]
  refine ⟨hsound, hattends, fun a role => ?_⟩
  have hpresent : Present (changes ++ [ch]) a ↔ ∃ c, (r.change ch).2.Holds c ∧ c.account = a :=
    exists_congr fun c => and_congr_left fun _ => (hattends c).symm
  -- who is not there after the change has no role any more
  by_cases hafter : Present (changes ++ [ch]) a
  · obtain ⟨c, hc, rfl⟩ := hpresent.1 hafter
    rw [and_iff_right hafter]
    exact hr.roleOf?_change hc (((hholds c).1 hc).imp_right And.left)
  · refine iff_of_false (fun hrole => hafter (hpresent.2 ?_)) fun hentered => hafter hentered.1
    exact (hsound.role_iff a).1 (Option.isSome_iff_exists.2 ⟨role, hrole⟩)

/-- `afterChanges` `Tracks` the changes; by induction from the end of the list. -/
theorem tracks_afterChanges (info : RoomInfo) (h : Unmistakable changes) :
    (afterChanges info changes).Tracks changes := by
  induction changes using List.reverseRecOn with
  | nil =>
    have hnobody : ∀ c, ¬ Attends [] c := fun c => not_since_nil
    refine ⟨sound_ofInfo info, fun c => ?_, fun a role => ?_⟩
    · exact iff_of_false (not_holds_ofInfo info c) (hnobody c)
    · refine iff_of_false (Option.some_ne_none role).symm ?_
      rintro ⟨⟨c, hc, -⟩, -⟩
      exact hnobody c hc
  | append_singleton changes ch ih =>
    rw [afterChanges, List.foldl_concat, ← afterChanges]
    exact (ih h.of_append).change h

/-- **Roles follow connections.** Whoever comes and goes, as long as an identifier always denotes
the same connection, a room holds those who came and did not go since, an account has a role exactly
while one of its connections is there, and this is the one with which it came when none was. -/
theorem hosts_of_changes (info : RoomInfo) (changes : List Change) (h : Unmistakable changes) :
    (afterChanges info changes).Hosts changes := by
  have hr := tracks_afterChanges info h
  -- an account is present with one of its connections
  have hthere : ∀ a, (∃ c ∈ (afterChanges info changes).everyone, c.account = a) ↔
      Present changes a := by
    intro a
    simp only [hr.sound.mem_everyone, hr.present_iff]
  constructor
  case mem_everyone => exact fun c => hr.sound.mem_everyone.trans (hr.holds_iff c)
  case nodup_everyone => exact hr.sound.nodup_everyone
  case hasAccount_iff =>
    intro a
    rw [hthere, hr.present_iff]
    exact hr.sound.role_iff a
  case roleOf?_eq_some_iff =>
    intro a role
    rw [hthere, hr.roleOf?_iff]
  case leave_eq_some_iff =>
    intro id c
    rw [hr.sound.leave_fst_eq_some_iff, hr.sound.mem_everyone]
  case mem_removeAccount =>
    exact fun a c => hr.sound.mem_connectionsOf.trans (and_congr_left' hr.sound.mem_everyone.symm)
  case nodup_removeAccount => exact fun a => hr.sound.nodup_connectionsOf a
  case spreads =>
    intro event a l
    simp only [hr.sound.mem_everyone]
    exact hr.sound.spreads_broadcastExcept event a l

/-- Two devices of `ann` and one of `bob` come. The first one goes, the second one does too, and
then the first one comes back with another role. -/
def comeback : List Change :=
  [.join ⟨"1", "ann", "Ann", .user⟩ .admin, .join ⟨"2", "ann", "Ann", .user⟩ .user,
    .join ⟨"3", "bob", "Bob", .user⟩ .user, .leave "1", .leave "2",
    .join ⟨"1", "ann", "Ann", .user⟩ .user, .join ⟨"2", "ann", "Ann", .user⟩ .admin]

/-- The account that had gone has the role with which it came back, and `broadcastExcept` reaches
the one of the others that has room for the event. -/
theorem hosts_of_comeback :
    Unmistakable comeback ∧ (afterChanges default comeback).Hosts comeback ∧
      (afterChanges default (comeback.take 4)).roleOf? "ann" = some .admin ∧
      (afterChanges default (comeback.take 5)).roleOf? "ann" = none ∧
      (afterChanges default comeback).roleOf? "ann" = some .user ∧
      ((afterChanges default comeback).removeAccount "ann").1.map Connection.id = ["1", "2"] ∧
      ((afterChanges default comeback).broadcastExcept default "ann"
        (({} : Lines).connect "3" (.new 1 false))).1 = 1 := by
  have h : Unmistakable comeback := by
    intro c role d role' hc hd hid
    simp only [comeback, List.mem_cons, Change.join.injEq, reduceCtorEq, List.not_mem_nil, or_false,
      false_or] at hc hd
    rcases hc with ⟨rfl, -⟩ | ⟨rfl, -⟩ | ⟨rfl, -⟩ | ⟨rfl, -⟩ | ⟨rfl, -⟩ <;>
      rcases hd with ⟨rfl, -⟩ | ⟨rfl, -⟩ | ⟨rfl, -⟩ | ⟨rfl, -⟩ | ⟨rfl, -⟩ <;> simp at hid ⊢
  exact ⟨h, hosts_of_changes default comeback h, by decide, by decide, by decide, by decide,
    by decide⟩

end GroupChat.LiveRoom
