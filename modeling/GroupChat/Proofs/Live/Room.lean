import GroupChat.Live.Room
import GroupChat.Proofs.Live.Roster

/-!
# Live rooms

In a sound live room an account has a role exactly if one of its connections is in the room. All
that is asked of a room goes through `LiveRoom.Holds` and `LiveRoom.roleOf?`, and each operation is
described by what it does to these two.

## Main statements

- `LiveRoom.Sound`: connections and roles agree.
- `LiveRoom.sound_join`, `LiveRoom.holds_join`, `LiveRoom.roleOf?_join`: a connection that comes.
- `LiveRoom.holds_enroll`, `LiveRoom.roleOf?_enroll`: all connections of accounts that come.
- `LiveRoom.sound_leave`, `LiveRoom.holds_leave`, `LiveRoom.roleOf?_leave_of_holds`: a connection
  that goes.
- `LiveRoom.holds_dismiss`, `LiveRoom.roleOf?_dismiss`: accounts that go.
-/

namespace GroupChat.LiveRoom

/-- The connection `c` is in the room `r`, under its own identifier. -/
def Holds (r : LiveRoom) (c : Connection) : Prop := r.connections.get? c.id = some c

instance (r : LiveRoom) (c : Connection) : Decidable (r.Holds c) :=
  inferInstanceAs (Decidable (r.connections.get? c.id = some c))

/-- Connections stand under their own identifiers in `r`, and the accounts with a role are those
that are connected. -/
structure Sound (r : LiveRoom) : Prop where
  /-- A connection stands under its own identifier. -/
  keyed : ∀ k c, r.connections.get? k = some c → c.id = k
  /-- An account has a role if one of its connections is in the room. -/
  role_iff : ∀ a, (r.roleOf? a).isSome = true ↔ ∃ c, r.Holds c ∧ c.account = a

/-- All connections in the room `r` are in the `roster`. -/
def Within (r : LiveRoom) (roster : Roster) : Prop := ∀ c, r.Holds c → roster.Holds c

variable {r : LiveRoom} {roster : Roster} {c d : Connection} {a : String}

theorem Sound.holds_of_get? (hr : r.Sound) {k : String} (h : r.connections.get? k = some c) :
    r.Holds c := by
  rw [Holds, hr.keyed k c h, h]

theorem Sound.mem_everyone (hr : r.Sound) : c ∈ r.everyone ↔ r.Holds c := by
  rw [everyone, Table.mem_values_iff]
  exact ⟨fun ⟨_, h⟩ => hr.holds_of_get? h, fun h => ⟨c.id, h⟩⟩

theorem Sound.mem_connectionsOf (hr : r.Sound) :
    c ∈ r.connectionsOf a ↔ r.Holds c ∧ c.account = a := by
  rw [connectionsOf, List.mem_filter, beq_iff_eq, ← hr.mem_everyone]
  rfl

theorem Holds.eq_of_id_eq (hc : r.Holds c) (hd : r.Holds d) (h : c.id = d.id) : c = d :=
  Option.some.inj (hc.symm.trans ((congrArg r.connections.get? h).trans hd))

/-- `connectionsOf` an account can be told by their identifiers. -/
theorem Sound.id_mem_iff (hr : r.Sound) (hc : r.Holds c) :
    c.id ∈ (r.connectionsOf a).map Connection.id ↔ c.account = a := by
  rw [List.mem_map]
  constructor
  · rintro ⟨d, hd, hid⟩
    obtain ⟨hd, ha⟩ := hr.mem_connectionsOf.1 hd
    rwa [← hd.eq_of_id_eq hc hid]
  · exact fun ha => ⟨c, hr.mem_connectionsOf.2 ⟨hc, ha⟩, rfl⟩

/-- Nobody in the `audience` has the account that is left out, whatever the identifiers are. -/
theorem account_ne_of_mem_audience (h : c ∈ r.audience a) : c.account ≠ a := by
  rintro rfl
  obtain ⟨hc, hother⟩ := List.mem_filter.1 h
  have hown : c ∈ r.connectionsOf c.account := List.mem_filter.2 ⟨hc, beq_self_eq_true _⟩
  rw [Bool.not_eq_true', ← Bool.not_eq_true, List.contains_iff_mem] at hother
  exact hother (List.mem_map_of_mem hown)

/-- The `audience` leaves out identifiers, and so exactly the connections of the account. -/
theorem Sound.mem_audience (hr : r.Sound) : c ∈ r.audience a ↔ r.Holds c ∧ c.account ≠ a := by
  rw [audience, recipients, List.mem_filter, hr.mem_everyone]
  refine and_congr_right fun hc => ?_
  rw [Bool.not_eq_true', ← Bool.not_eq_true, List.contains_iff_mem, hr.id_mem_iff hc]

@[simp]
theorem recipients_nil (r : LiveRoom) : r.recipients [] = r.everyone :=
  List.filter_eq_self.2 fun _ _ => rfl

theorem Sound.nodup_everyone (hr : r.Sound) : r.everyone.Nodup := Table.nodup_values hr.keyed

theorem Sound.nodup_audience (hr : r.Sound) (a : String) : (r.audience a).Nodup :=
  hr.nodup_everyone.filter _

theorem Sound.nodup_connectionsOf (hr : r.Sound) (a : String) : (r.connectionsOf a).Nodup :=
  hr.nodup_everyone.filter _

/-- `isEmpty` is true exactly if the room `Holds` no connection. -/
theorem Sound.isEmpty_iff (hr : r.Sound) : r.isEmpty = true ↔ ∀ c, ¬ r.Holds c := by
  rw [isEmpty, Table.isEmpty_iff]
  constructor
  · intro h c hc
    rw [Holds, h] at hc
    cases hc
  · intro h k
    cases hk : r.connections.get? k with
    | none => rfl
    | some c => exact absurd (hr.holds_of_get? hk) (h c)

/-! ### A room without connections -/

theorem not_holds_ofInfo (info : RoomInfo) (c : Connection) : ¬ (ofInfo info).Holds c :=
  fun h => by cases h

@[simp]
theorem roleOf?_ofInfo (info : RoomInfo) (a : String) : (ofInfo info).roleOf? a = none := rfl

@[simp]
theorem info_ofInfo (info : RoomInfo) : (ofInfo info).info = info := rfl

/-- A room that was just made by `ofInfo` is `Sound`, as nobody is in it. -/
theorem sound_ofInfo (info : RoomInfo) : (ofInfo info).Sound where
  keyed _ _ h := by cases h
  role_iff a := by
    rw [roleOf?_ofInfo]
    exact ⟨fun h => (by cases h), fun ⟨c, hc, _⟩ => absurd hc (not_holds_ofInfo info c)⟩

theorem within_ofInfo (info : RoomInfo) (roster : Roster) : (ofInfo info).Within roster :=
  fun c h => absurd h (not_holds_ofInfo info c)

/-! ### Joining -/

@[simp]
theorem info_join (r : LiveRoom) (c : Connection) (role : Role) : (r.join c role).info = r.info :=
  rfl

theorem get?_join (r : LiveRoom) (c : Connection) (role : Role) (k : String) :
    (r.join c role).connections.get? k = if k = c.id then some c else r.connections.get? k :=
  Table.get?_insert ..

/-- `join` leaves an account the role that it has. -/
theorem roleOf?_join (r : LiveRoom) (c : Connection) (role : Role) (a : String) :
    (r.join c role).roleOf? a = (r.roleOf? a).or (if a = c.account then some role else none) := by
  show Table.get? (if r.roles.contains c.account then r.roles else r.roles.insert c.account role) a
    = (r.roles.get? a).or _
  -- a role that an account has is kept
  by_cases hc : r.roles.contains c.account = true
  · rw [if_pos hc]
    by_cases ha : a = c.account
    · obtain ⟨role', h⟩ := Table.contains_iff.1 hc
      rw [ha, h, Option.some_or]
    · rw [if_neg ha, Option.or_none]
  · rw [if_neg hc, Table.get?_insert]
    by_cases ha : a = c.account
    · rw [if_pos ha, if_pos ha, ha, Table.contains_eq_false_iff.1 (Bool.not_eq_true _ ▸ hc),
        Option.none_or]
    · rw [if_neg ha, if_neg ha, Option.or_none]

/-- `join` lets one connection in, if no other one has its identifier. -/
theorem holds_join_of_forall (hown : ∀ d, r.Holds d → d.id = c.id → d = c) (role : Role) :
    (r.join c role).Holds d ↔ d = c ∨ r.Holds d := by
  rw [Holds, get?_join]
  split
  · rename_i hid
    constructor
    · intro h
      exact Or.inl (Option.some.inj h).symm
    · rintro (rfl | h)
      · rfl
      · rw [hown d h hid]
  · rename_i hid
    exact ⟨Or.inr, fun h => h.resolve_left fun hd => hid (congrArg Connection.id hd)⟩

/-- `join` keeps `Sound` if no other connection in the room has the identifier. -/
theorem sound_join_of_forall (hr : r.Sound) (hown : ∀ d, r.Holds d → d.id = c.id → d = c)
    (role : Role) : (r.join c role).Sound where
  keyed k d h := by
    rw [get?_join] at h
    split at h
    · rename_i hk
      cases h
      exact hk.symm
    · exact hr.keyed k d h
  role_iff a := by
    rw [roleOf?_join, Option.isSome_or, Bool.or_eq_true, hr.role_iff]
    constructor
    · rintro (⟨d, hd, ha⟩ | h)
      · exact ⟨d, (holds_join_of_forall hown role).2 (Or.inr hd), ha⟩
      · split at h
        · rename_i ha
          exact ⟨c, (holds_join_of_forall hown role).2 (Or.inl rfl), ha.symm⟩
        · cases h
    · rintro ⟨d, hd, ha⟩
      -- the connection that joins has a role, and so have the others as before
      rcases (holds_join_of_forall hown role).1 hd with rfl | hd
      · exact Or.inr (by rw [if_pos ha.symm]; rfl)
      · exact Or.inl ⟨d, hd, ha⟩

theorem Within.eq_of_id_eq (hw : r.Within roster) (hc : roster.Holds c) :
    ∀ d, r.Holds d → d.id = c.id → d = c :=
  fun d hd hid => (hw d hd).eq_of_id_eq hc hid

/-- `join` lets one registered connection in, as registered connections have different identifiers.
-/
theorem holds_join (hw : r.Within roster) (hc : roster.Holds c) (role : Role) :
    (r.join c role).Holds d ↔ d = c ∨ r.Holds d :=
  holds_join_of_forall (hw.eq_of_id_eq hc) role

/-- `join` keeps a room `Sound`. -/
theorem sound_join (hr : r.Sound) (hw : r.Within roster) (hc : roster.Holds c) (role : Role) :
    (r.join c role).Sound :=
  sound_join_of_forall hr (hw.eq_of_id_eq hc) role

/-- `join` keeps a room `Within` the directory. -/
theorem within_join (hw : r.Within roster) (hc : roster.Holds c) (role : Role) :
    (r.join c role).Within roster := by
  intro d hd
  rcases (holds_join hw hc role).1 hd with rfl | hd
  · exact hc
  · exact hw d hd

/-! ### Several connections that join -/

@[simp]
theorem info_joinAll (r : LiveRoom) (cs : List Connection) (role : Role) :
    (r.joinAll cs role).info = r.info := by
  induction cs generalizing r with
  | nil => rfl
  | cons c cs ih => exact (ih (r.join c role)).trans rfl

theorem within_joinAll {cs : List Connection} (hw : r.Within roster)
    (hcs : ∀ c ∈ cs, roster.Holds c) (role : Role) : (r.joinAll cs role).Within roster := by
  induction cs generalizing r with
  | nil => exact hw
  | cons c cs ih =>
    exact ih (within_join hw (hcs c List.mem_cons_self) role)
      fun d hd => hcs d (List.mem_cons_of_mem _ hd)

/-- `joinAll` keeps a room `Sound`. -/
theorem sound_joinAll {cs : List Connection} (hr : r.Sound) (hw : r.Within roster)
    (hcs : ∀ c ∈ cs, roster.Holds c) (role : Role) : (r.joinAll cs role).Sound := by
  induction cs generalizing r with
  | nil => exact hr
  | cons c cs ih =>
    have hc := hcs c List.mem_cons_self
    exact ih (sound_join hr hw hc role) (within_join hw hc role)
      fun d hd => hcs d (List.mem_cons_of_mem _ hd)

/-- `joinAll` lets exactly the listed connections in. -/
theorem holds_joinAll {cs : List Connection} (hw : r.Within roster)
    (hcs : ∀ c ∈ cs, roster.Holds c) (role : Role) :
    (r.joinAll cs role).Holds d ↔ d ∈ cs ∨ r.Holds d := by
  induction cs generalizing r with
  | nil => simp [joinAll]
  | cons c cs ih =>
    have hc := hcs c List.mem_cons_self
    show ((r.join c role).joinAll cs role).Holds d ↔ _
    rw [ih (within_join hw hc role) fun d hd => hcs d (List.mem_cons_of_mem _ hd),
      holds_join hw hc, List.mem_cons]
    tauto

/-- `joinAll` gives the role to the accounts of the listed connections, unless they have one in the
room already. -/
theorem roleOf?_joinAll (r : LiveRoom) (cs : List Connection) (role : Role) (a : String) :
    (r.joinAll cs role).roleOf? a =
      (r.roleOf? a).or (if ∃ c ∈ cs, c.account = a then some role else none) := by
  induction cs generalizing r with
  | nil => simp [joinAll]
  | cons c cs ih =>
    show ((r.join c role).joinAll cs role).roleOf? a = _
    rw [ih, roleOf?_join, Option.or_assoc]
    congr 1
    by_cases ha : a = c.account
    · have hm : ∃ d ∈ c :: cs, d.account = a := ⟨c, List.mem_cons_self, ha.symm⟩
      rw [if_pos ha, if_pos hm, Option.some_or]
    · rw [if_neg ha, Option.none_or]
      refine if_congr ?_ rfl rfl
      simp [Ne.symm ha]

/-! ### Accounts that come -/

/-- The room `r` after all connections of the `accounts` came in with this `role`. -/
def enroll (r : LiveRoom) (roster : Roster) (role : Role) (accounts : List String) : LiveRoom :=
  accounts.foldl (fun r a => r.joinAll (roster.connectionsOf a) role) r

theorem enroll_cons (r : LiveRoom) (roster : Roster) (role : Role) (a : String)
    (accounts : List String) : r.enroll roster role (a :: accounts) =
      (r.joinAll (roster.connectionsOf a) role).enroll roster role accounts := rfl

theorem holds_of_mem_connectionsOf (hs : roster.Sound) (a : String) :
    ∀ c ∈ roster.connectionsOf a, roster.Holds c :=
  fun _ hc => (hs.mem_connectionsOf.1 hc).1

@[simp]
theorem info_enroll (r : LiveRoom) (roster : Roster) (role : Role) (accounts : List String) :
    (r.enroll roster role accounts).info = r.info := by
  induction accounts generalizing r with
  | nil => rfl
  | cons a accounts ih => rw [enroll_cons, ih, info_joinAll]

theorem within_enroll (hs : roster.Sound) (hw : r.Within roster) (role : Role)
    (accounts : List String) : (r.enroll roster role accounts).Within roster := by
  induction accounts generalizing r with
  | nil => exact hw
  | cons a accounts ih => exact ih (within_joinAll hw (holds_of_mem_connectionsOf hs a) role)

/-- `enroll` keeps a room `Sound`. -/
theorem sound_enroll (hs : roster.Sound) (hr : r.Sound) (hw : r.Within roster) (role : Role)
    (accounts : List String) : (r.enroll roster role accounts).Sound := by
  induction accounts generalizing r with
  | nil => exact hr
  | cons a accounts ih =>
    have ha := holds_of_mem_connectionsOf hs a
    exact ih (sound_joinAll hr hw ha role) (within_joinAll hw ha role)

/-- `enroll` lets in the registered connections of the listed accounts. -/
theorem holds_enroll (hs : roster.Sound) (hw : r.Within roster) (role : Role)
    (accounts : List String) : (r.enroll roster role accounts).Holds d ↔
      r.Holds d ∨ roster.Holds d ∧ d.account ∈ accounts := by
  induction accounts generalizing r with
  | nil => simp [enroll]
  | cons a accounts ih =>
    have ha := holds_of_mem_connectionsOf hs a
    rw [enroll_cons, ih (within_joinAll hw ha role), holds_joinAll hw ha, hs.mem_connectionsOf,
      List.mem_cons]
    tauto

/-- `enroll` gives the role to those of the listed accounts that are connected, unless they have one
already. -/
theorem roleOf?_enroll (hs : roster.Sound) (r : LiveRoom) (role : Role) (accounts : List String)
    (a : String) : (r.enroll roster role accounts).roleOf? a = (r.roleOf? a).or
      (if roster.hasAccount a = true ∧ a ∈ accounts then some role else none) := by
  induction accounts generalizing r with
  | nil => simp [enroll]
  | cons b accounts ih =>
    -- the connections of `b` give a role to `b` alone, and only if it is connected
    have hb : (∃ c ∈ roster.connectionsOf b, c.account = a) ↔
        roster.hasAccount a = true ∧ a = b := by
      rw [hs.hasAccount_iff]
      constructor
      · rintro ⟨c, hc, rfl⟩
        obtain ⟨h, hcb⟩ := hs.mem_connectionsOf.1 hc
        exact ⟨⟨c, h, rfl⟩, hcb⟩
      · rintro ⟨⟨c, h, hca⟩, rfl⟩
        exact ⟨c, hs.mem_connectionsOf.2 ⟨h, hca⟩, hca⟩
    rw [enroll_cons, ih, roleOf?_joinAll, Option.or_assoc, if_congr hb rfl rfl]
    congr 1
    by_cases hab : a = b
    · subst hab
      by_cases h : roster.hasAccount a = true <;> simp [h]
    · simp [hab]

/-! ### A connection that goes -/

/-- `leave` finds nobody exactly when no connection has the identifier. -/
theorem leave_eq_none {r' : LiveRoom} {k : String} (h : r.leave k = (none, r')) :
    r.connections.get? k = none := by
  unfold leave at h
  split at h
  · assumption
  · dsimp only at h
    split at h <;> cases h

/-- `leave` takes out the connection, and the role of its account if no other connection of it
stays. -/
theorem leave_eq_some {r' : LiveRoom} {k : String} (h : r.leave k = (some c, r')) :
    r.connections.get? k = some c ∧ r'.info = r.info ∧
      r'.connections = r.connections.erase k ∧
      r'.roles = if (r'.connectionsOf c.account).isEmpty then r.roles.erase c.account
        else r.roles := by
  unfold leave at h
  split at h
  · cases h
  · rename_i d hd
    dsimp only at h
    split at h
    · rename_i he
      cases h
      exact ⟨hd, rfl, rfl, (if_pos he).symm⟩
    · rename_i he
      cases h
      exact ⟨hd, rfl, rfl, (if_neg he).symm⟩

/-- `leave` lets out one connection. -/
theorem holds_leave {r' : LiveRoom} {k : String} (h : r.leave k = (some c, r')) :
    r'.Holds d ↔ r.Holds d ∧ d.id ≠ k := by
  obtain ⟨-, -, hc, -⟩ := leave_eq_some h
  rw [Holds, hc, Table.get?_erase]
  split
  · rename_i hid
    simp [hid]
  · rename_i hid
    exact ⟨fun hd => ⟨hd, hid⟩, And.left⟩

theorem keyed_leave (hr : r.Sound) {r' : LiveRoom} {k : String} (h : r.leave k = (some c, r'))
    {x : String} (hd : r'.connections.get? x = some d) : d.id = x := by
  obtain ⟨-, -, hcs, -⟩ := leave_eq_some h
  rw [hcs, Table.get?_erase] at hd
  split at hd
  · cases hd
  · exact hr.keyed x d hd

/-- `connectionsOf` is empty exactly if no connection in the room is one of the account. -/
theorem isEmpty_connectionsOf_iff (hk : ∀ k c, r.connections.get? k = some c → c.id = k) :
    (r.connectionsOf a).isEmpty = true ↔ ∀ d, r.Holds d → d.account ≠ a := by
  rw [List.isEmpty_iff, connectionsOf, List.filter_eq_nil_iff]
  constructor
  · intro h d hd
    simpa using h d (Table.mem_values_iff.2 ⟨d.id, hd⟩)
  · intro h d hd
    obtain ⟨k, hd⟩ := Table.mem_values_iff.1 hd
    obtain rfl := hk k d hd
    simpa using h d hd

/-- `leave` takes no role from an account that still has a connection in the room. -/
theorem roleOf?_leave_of_holds (hr : r.Sound) {r' : LiveRoom} {k : String}
    (h : r.leave k = (some c, r')) (hd : r'.Holds d) :
    r'.roleOf? d.account = r.roleOf? d.account := by
  obtain ⟨-, -, -, hroles⟩ := leave_eq_some h
  show r'.roles.get? d.account = r.roles.get? d.account
  rw [hroles]
  split
  · rename_i he
    rw [isEmpty_connectionsOf_iff fun _ _ => keyed_leave hr h] at he
    exact Table.get?_erase_of_ne (he d hd)
  · rfl

/-- `leave` of the last connection of an account takes its role. -/
theorem roleOf?_leave_of_forall (hr : r.Sound) {r' : LiveRoom} {k : String}
    (h : r.leave k = (some c, r')) (ha : ∀ d, r'.Holds d → d.account ≠ a) :
    r'.roleOf? a = none := by
  obtain ⟨hk, -, -, hroles⟩ := leave_eq_some h
  show r'.roles.get? a = none
  by_cases hac : a = c.account
  · subst hac
    rw [hroles, if_pos ((isEmpty_connectionsOf_iff fun _ _ => keyed_leave hr h).2 ha),
      Table.get?_erase_self]
  · -- the account had no other connection in the room before
    have hnone : r.roles.get? a = none := by
      rw [← Option.not_isSome_iff_eq_none]
      intro hs
      obtain ⟨d, hd, rfl⟩ := (hr.role_iff a).1 hs
      by_cases hid : d.id = k
      · exact hac (congrArg Connection.account (Option.some.inj (hd.symm.trans (hid ▸ hk))))
      · exact ha d ((holds_leave h).2 ⟨hd, hid⟩) rfl
    rw [hroles]
    split
    · rw [Table.get?_erase_of_ne hac, hnone]
    · exact hnone

/-- `leave` keeps a room `Sound`, since a role goes with the last connection of its account. -/
theorem sound_leave (hr : r.Sound) {r' : LiveRoom} {k : String}
    (h : r.leave k = (some c, r')) : r'.Sound where
  keyed _ _ := keyed_leave hr h
  role_iff a := by
    constructor
    · intro hs
      by_contra hn
      rw [roleOf?_leave_of_forall hr h fun d hd hda => hn ⟨d, hd, hda⟩] at hs
      cases hs
    · rintro ⟨d, hd, rfl⟩
      rw [roleOf?_leave_of_holds hr h hd, hr.role_iff]
      exact ⟨d, ((holds_leave h).1 hd).1, rfl⟩

/-- What is left of the room `r` when the connection `k` goes; `none` if nobody is left. -/
def remains (r : LiveRoom) (k : String) : Option LiveRoom :=
  if (r.leave k).2.isEmpty then none else some (r.leave k).2

theorem leave_snd_of_eq_none {r' : LiveRoom} {k : String} (h : r.leave k = (none, r')) :
    r' = r := by
  unfold leave at h
  split at h
  · exact (congrArg Prod.snd h).symm
  · dsimp only at h
    split at h <;> cases h

theorem info_leave_snd (r : LiveRoom) (k : String) : (r.leave k).2.info = r.info := by
  rcases h : r.leave k with ⟨_ | c, r'⟩
  · rw [leave_snd_of_eq_none h]
  · exact (leave_eq_some h).2.1

/-- The room after `leave` holds all connections but those of the identifier, if there were any. -/
theorem holds_leave_snd (r : LiveRoom) (k : String) :
    (r.leave k).2.Holds d ↔ r.Holds d ∧ d.id ≠ k := by
  rcases h : r.leave k with ⟨_ | c, r'⟩
  · rw [leave_snd_of_eq_none h]
    refine ⟨fun hd => ⟨hd, fun hid => ?_⟩, And.left⟩
    have := leave_eq_none h
    rw [← hid, hd] at this
    cases this
  · exact holds_leave h

theorem sound_leave_snd (hr : r.Sound) (k : String) : (r.leave k).2.Sound := by
  rcases h : r.leave k with ⟨_ | c, r'⟩
  · rw [leave_snd_of_eq_none h]
    exact hr
  · exact sound_leave hr h

/-- Whoever stays in the room after `leave` has the same role there. -/
theorem roleOf?_leave_snd (hr : r.Sound) {k : String} (hd : (r.leave k).2.Holds d) :
    (r.leave k).2.roleOf? d.account = r.roleOf? d.account := by
  rcases h : r.leave k with ⟨_ | c, r'⟩
  · rw [leave_snd_of_eq_none h]
  · rw [h] at hd
    exact roleOf?_leave_of_holds hr h hd

/-! ### Accounts that go -/

/-- The room `r` after all connections of the `accounts` went out. -/
def dismiss (r : LiveRoom) (accounts : List String) : LiveRoom :=
  accounts.foldl (fun r a => (r.removeAccount a).2) r

theorem dismiss_cons (r : LiveRoom) (a : String) (accounts : List String) :
    r.dismiss (a :: accounts) = (r.removeAccount a).2.dismiss accounts := rfl

theorem roleOf?_removeAccount (r : LiveRoom) (a x : String) :
    (r.removeAccount a).2.roleOf? x = if x = a then none else r.roleOf? x :=
  Table.get?_erase ..

theorem get?_removeAccount (r : LiveRoom) (a k : String) :
    (r.removeAccount a).2.connections.get? k =
      (r.connections.get? k).filter fun c => c.account != a :=
  Table.get?_filterValues ..

theorem holds_removeAccount (r : LiveRoom) (a : String) :
    (r.removeAccount a).2.Holds d ↔ r.Holds d ∧ d.account ≠ a := by
  rw [Holds, get?_removeAccount, Option.filter_eq_some_iff, bne_iff_ne]
  rfl

/-- `removeAccount` keeps a room `Sound`. -/
theorem sound_removeAccount (hr : r.Sound) (a : String) : (r.removeAccount a).2.Sound where
  keyed k c h := by
    rw [get?_removeAccount, Option.filter_eq_some_iff] at h
    exact hr.keyed k c h.1
  role_iff x := by
    rw [roleOf?_removeAccount]
    simp only [holds_removeAccount]
    split
    · rename_i hx
      simp [hx]
    · rename_i hx
      rw [hr.role_iff]
      exact ⟨fun ⟨d, hd, hda⟩ => ⟨d, ⟨hd, hda ▸ hx⟩, hda⟩, fun ⟨d, hd, hda⟩ => ⟨d, hd.1, hda⟩⟩

@[simp]
theorem info_dismiss (r : LiveRoom) (accounts : List String) :
    (r.dismiss accounts).info = r.info := by
  induction accounts generalizing r with
  | nil => rfl
  | cons a accounts ih => rw [dismiss_cons, ih]; rfl

theorem sound_dismiss (hr : r.Sound) (accounts : List String) : (r.dismiss accounts).Sound := by
  induction accounts generalizing r with
  | nil => exact hr
  | cons a accounts ih => exact ih (sound_removeAccount hr a)

/-- `dismiss` lets out the connections of the listed accounts. -/
theorem holds_dismiss (r : LiveRoom) (accounts : List String) :
    (r.dismiss accounts).Holds d ↔ r.Holds d ∧ d.account ∉ accounts := by
  induction accounts generalizing r with
  | nil => simp [dismiss]
  | cons a accounts ih =>
    rw [dismiss_cons, ih, holds_removeAccount, List.mem_cons]
    tauto

/-- `dismiss` takes the roles of the listed accounts. -/
theorem roleOf?_dismiss (r : LiveRoom) (accounts : List String) (a : String) :
    (r.dismiss accounts).roleOf? a = if a ∈ accounts then none else r.roleOf? a := by
  induction accounts generalizing r with
  | nil => simp [dismiss]
  | cons b accounts ih =>
    rw [dismiss_cons, ih, roleOf?_removeAccount]
    by_cases hb : a = b <;> by_cases ha : a ∈ accounts <;> simp [hb, ha]

end GroupChat.LiveRoom
