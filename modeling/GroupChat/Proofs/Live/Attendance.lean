import GroupChat.Proofs.Live.Roster
import GroupChat.Proofs.Since

/-!
# Who is in the directory

However connections come and go, the directory holds those that were added and not removed since, as
long as an identifier always denotes the same connection. The table of accounts follows, so that the
devices of an account can be asked for at any time.

## Main definitions

- `Change`: what can be done to a directory.
- `Roster.change`: what a change hands back, and the directory after it.
- `Attends`: a connection was added and not removed since.
- `Unmistakable`: an identifier always denotes the same connection.
- `Roster.Attended`: the directory holds those who attend, and says so in whichever way it is asked.

## Main statements

- `Sound.change`: what one change does to a sound directory.
- `sound_afterChanges`: what any changes lead to.
- `attended_of_changes`: a directory is attended after any changes.
-/

namespace GroupChat.Roster

/-- What can be done to a `Roster`. -/
inductive Change where
  /-- Adds a connection. -/
  | add (c : Connection)
  /-- Removes the connection of an identifier. -/
  | remove (id : String)
  /-- Removes the connections of an account. -/
  | removeAccount (account : String)
  /-- Removes all connections. -/
  | removeAll
  deriving DecidableEq, Repr

/-- The connections that a `Change` hands back, and the directory after it. -/
def change (r : Roster) : Change → List Connection × Roster
  | .add c => ([], r.add c)
  | .remove id => ((r.remove id).1.toList, (r.remove id).2)
  | .removeAccount a => r.removeAccount a
  | .removeAll => r.removeAll

/-- The directory after `changes`, when it was empty at first. -/
def afterChanges (changes : List Change) : Roster :=
  changes.foldl (fun r ch => (r.change ch).2) {}

/-- A `Change` removes a connection, if it is there. -/
def Change.Removes : Change → Connection → Prop
  | .add _, _ => False
  | .remove id, c => c.id = id
  | .removeAccount a, c => c.account = a
  | .removeAll, _ => True

/-- Among the `changes` the connection `c` was added and not removed since. -/
def Attends (changes : List Change) (c : Connection) : Prop :=
  ∃ before after, changes = before ++ .add c :: after ∧ ∀ ch ∈ after, ¬ ch.Removes c

/-- No connection but `c` is ever added under the identifier of `c`. -/
def Denotes (changes : List Change) (c : Connection) : Prop :=
  ∀ d, .add d ∈ changes → d.id = c.id → d = c

/-- An identifier always denotes the same connection among the `changes`. -/
def Unmistakable (changes : List Change) : Prop := ∀ c, .add c ∈ changes → Denotes changes c

/-- The directory `r` holds those who attend after the `changes` (`Attends`), and says so in
whichever way it is asked. -/
structure Attended (r : Roster) (changes : List Change) : Prop where
  /-- The index of accounts lists exactly the identifiers of the connections. -/
  sound : r.Sound
  /-- The connections are those that were added and not removed since. -/
  mem_connections : ∀ c, c ∈ r.connections ↔ Attends changes c
  /-- No connection is listed twice. -/
  nodup_connections : r.connections.Nodup
  /-- The connections of an account are those with that account. -/
  mem_connectionsOf : ∀ a c, c ∈ r.connectionsOf a ↔ Attends changes c ∧ c.account = a
  /-- No connection of an account is listed twice. -/
  nodup_connectionsOf : ∀ a, (r.connectionsOf a).Nodup
  /-- The other connections of an account are all but the one that asks. -/
  othersOf_eq : ∀ c, Denotes changes c → r.othersOf c = (r.connectionsOf c.account).filter (· ≠ c)
  /-- An account is connected if it has connections. -/
  hasAccount_iff : ∀ a, r.hasAccount a = true ↔ r.connectionsOf a ≠ []
  /-- A further change hands back exactly the connections that are no longer there after it. -/
  mem_change : ∀ ch, Unmistakable (changes ++ [ch]) → ∀ c,
    c ∈ (r.change ch).1 ↔ c ∈ r.connections ∧ c ∉ (r.change ch).2.connections
  /-- No connection is handed back twice. -/
  nodup_change : ∀ ch, (r.change ch).1.Nodup

variable {r : Roster} {c : Connection} {changes : List Change} {ch : Change}

/-! ### One change -/

/-- `change` adds and removes whom it names, if a connection is added under an identifier of its
own. -/
theorem Sound.change (hr : r.Sound)
    (hadd : ∀ c, ch = .add c → ∀ d, r.get? c.id = some d → d = c) :
    (r.change ch).2.Sound ∧
      ∀ c, (r.change ch).2.Holds c ↔ ch = .add c ∨ r.Holds c ∧ ¬ ch.Removes c := by
  cases ch with
  | add c =>
    have hc := hadd c rfl
    refine ⟨hr.add hc, fun d => (holds_add hc).trans (or_congr ?_ ?_)⟩
    · rw [Change.add.injEq, eq_comm]
    · exact (and_iff_left not_false).symm
  | remove id =>
    obtain ⟨hsound, -, hleft⟩ := hr.removeId id
    exact ⟨hsound, fun c => (hleft c).trans (or_iff_right Change.noConfusion).symm⟩
  | removeAccount a =>
    obtain ⟨hsound, -, -, hleft⟩ := hr.removeAccount a
    exact ⟨hsound, fun c => (hleft c).trans (or_iff_right Change.noConfusion).symm⟩
  | removeAll =>
    refine ⟨sound_empty, fun c => ?_⟩
    rw [or_iff_right Change.noConfusion]
    exact iff_of_false (Option.some_ne_none c).symm fun h => h.2 trivial

/-- `change` hands back what it removes, each connection once. -/
theorem Sound.change_fst (hr : r.Sound) (ch : Change) :
    (r.change ch).1.Nodup ∧ ∀ c, c ∈ (r.change ch).1 ↔ r.Holds c ∧ ch.Removes c := by
  cases ch with
  | add c => exact ⟨List.nodup_nil, fun d => iff_of_false List.not_mem_nil fun h => h.2⟩
  | remove id =>
    obtain ⟨-, hgone, -⟩ := hr.removeId id
    exact ⟨Option.toList_nodup _, fun c => Option.mem_toList.trans (hgone c)⟩
  | removeAccount a =>
    obtain ⟨-, hnodup, hgone, -⟩ := hr.removeAccount a
    exact ⟨hnodup, hgone⟩
  | removeAll =>
    exact ⟨hr.nodup_connections, fun c => hr.mem_connections.trans (and_iff_left trivial).symm⟩

/-- What `change` hands back is what is there before it and not after it. -/
theorem Sound.mem_change_fst_iff (hr : r.Sound)
    (hadd : ∀ c, ch = .add c → ∀ d, r.get? c.id = some d → d = c) :
    c ∈ (r.change ch).1 ↔ c ∈ r.connections ∧ c ∉ (r.change ch).2.connections := by
  obtain ⟨hsound, hholds⟩ := hr.change hadd
  rw [(hr.change_fst ch).2, hr.mem_connections, hsound.mem_connections, hholds]
  refine and_congr_right fun hc => ?_
  constructor
  · rintro hremoves (rfl | ⟨-, hnot⟩)
    · exact hremoves
    · exact hnot hremoves
  · intro hnot
    by_contra hremoves
    exact hnot (Or.inr ⟨hc, hremoves⟩)

/-- Where an account has no other connection under the identifier of `c`, the others are all but
`c`. -/
theorem othersOf_eq_filter (h : ∀ d ∈ r.connectionsOf c.account, d.id = c.id → d = c) :
    r.othersOf c = (r.connectionsOf c.account).filter (· ≠ c) := by
  refine List.filter_congr fun d hd => ?_
  rw [Bool.eq_iff_iff, bne_iff_ne, decide_eq_true_iff]
  exact not_congr ⟨h d hd, congrArg Connection.id⟩

/-! ### Sequences of changes -/

/-- A connection attends if it was added and not removed `Since`. -/
theorem attends_iff_since :
    Attends changes c ↔ Since (fun _ ch => ch = .add c) (fun _ ch => ch.Removes c) changes := by
  rw [since_iff_forall_mem]
  constructor
  · rintro ⟨before, after, rfl, hafter⟩
    exact ⟨before, .add c, after, rfl, rfl, hafter⟩
  · rintro ⟨before, _, after, rfl, rfl, hafter⟩
    exact ⟨before, after, rfl, hafter⟩

theorem attends_concat :
    Attends (changes ++ [ch]) c ↔ ch = .add c ∨ Attends changes c ∧ ¬ ch.Removes c := by
  rw [attends_iff_since, attends_iff_since, since_concat]

theorem Attends.add_mem (h : Attends changes c) : .add c ∈ changes := by
  obtain ⟨before, after, rfl, -⟩ := h
  exact List.mem_append_right before List.mem_cons_self

theorem Unmistakable.of_append {more : List Change} (h : Unmistakable (changes ++ more)) :
    Unmistakable changes :=
  fun c hc d hd => h c (List.mem_append_left more hc) d (List.mem_append_left more hd)

/-- If the changes are `Unmistakable`, the next connection is added under an identifier of its own.
-/
theorem eq_of_add (hr : r.Sound) (hholds : ∀ c, r.Holds c ↔ Attends changes c)
    (h : Unmistakable (changes ++ [ch])) :
    ∀ c, ch = .add c → ∀ d, r.get? c.id = some d → d = c := by
  rintro c rfl d hd
  have hmem : .add d ∈ changes := ((hholds d).1 (hr.holds_of_get? hd)).add_mem
  exact h c (List.mem_append_right changes List.mem_cons_self) d
    (List.mem_append_left _ hmem) (hr.keyed _ d hd)

/-- `afterChanges` is `Sound`, and holds those who attend. The induction is from the end of the
list, as `Attends` is about the last change of each connection. -/
theorem sound_afterChanges (h : Unmistakable changes) :
    (afterChanges changes).Sound ∧ ∀ c, (afterChanges changes).Holds c ↔ Attends changes c := by
  induction changes using List.reverseRecOn with
  | nil =>
    refine ⟨sound_empty, fun c => iff_of_false nofun ?_⟩
    exact fun h => List.not_mem_nil h.add_mem
  | append_singleton changes ch ih =>
    obtain ⟨hsound, hholds⟩ := ih h.of_append
    obtain ⟨hsound', hholds'⟩ := hsound.change (eq_of_add hsound hholds h)
    rw [afterChanges, List.foldl_concat, ← afterChanges]
    refine ⟨hsound', fun c => ?_⟩
    rw [hholds', hholds, attends_concat]

/-- **The directory holds those who attend.** Whatever is added and removed, as long as an
identifier always denotes the same connection, the index of accounts agrees with the connections,
these are the ones that were added and not removed since, and a removal hands back what it removes.
-/
theorem attended_of_changes (changes : List Change) (h : Unmistakable changes) :
    (afterChanges changes).Attended changes := by
  obtain ⟨hsound, hholds⟩ := sound_afterChanges h
  constructor
  case sound => exact hsound
  case mem_connections => exact fun c => hsound.mem_connections.trans (hholds c)
  case nodup_connections => exact hsound.nodup_connections
  case mem_connectionsOf =>
    exact fun a c => hsound.mem_connectionsOf.trans (and_congr_left fun _ => hholds c)
  case nodup_connectionsOf => exact hsound.nodup_connectionsOf
  case othersOf_eq =>
    intro c hc
    -- two connections of one account with one identifier are the same
    refine othersOf_eq_filter fun d hd => hc d ?_
    exact ((hholds d).1 (hsound.mem_connectionsOf.1 hd).1).add_mem
  case hasAccount_iff =>
    intro a
    rw [hsound.hasAccount_iff]
    simp only [← hsound.mem_connectionsOf]
    exact ⟨fun ⟨_, hc⟩ => List.ne_nil_of_mem hc, List.exists_mem_of_ne_nil _⟩
  case mem_change =>
    exact fun ch hch c => hsound.mem_change_fst_iff (eq_of_add hsound hholds hch)
  case nodup_change => exact fun ch => (hsound.change_fst ch).1

/-- Two devices of `ann` and one of `bob` come; the first one goes and comes back, and `bob` is
shown out. -/
def bustle : List Change :=
  [.add ⟨"1", "ann", "Ann", .user⟩, .add ⟨"2", "ann", "Ann", .user⟩, .add ⟨"3", "bob", "Bob", .user⟩,
    .remove "1", .add ⟨"1", "ann", "Ann", .user⟩, .removeAccount "bob"]

/-- Who went and came back during `bustle` is there once, and goes with the other device of the
account. -/
theorem attended_of_bustle :
    Unmistakable bustle ∧ (afterChanges bustle).Attended bustle ∧
      (afterChanges bustle).othersOf ⟨"1", "ann", "Ann", .user⟩ = [⟨"2", "ann", "Ann", .user⟩] ∧
      (afterChanges bustle).hasAccount "bob" = false ∧
      ((afterChanges bustle).change (.removeAccount "ann")).1 =
        [⟨"1", "ann", "Ann", .user⟩, ⟨"2", "ann", "Ann", .user⟩] := by
  have h : Unmistakable bustle := by
    intro c hc d hd hid
    simp only [bustle, List.mem_cons, Change.add.injEq, reduceCtorEq, List.not_mem_nil, or_false,
      false_or] at hc hd
    rcases hc with rfl | rfl | rfl | rfl <;> rcases hd with rfl | rfl | rfl | rfl <;>
      simp at hid ⊢
  exact ⟨h, attended_of_changes bustle h, by decide, by decide, by decide⟩

end GroupChat.Roster
