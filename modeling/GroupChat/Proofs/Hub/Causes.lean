import GroupChat.Proofs.Hub.Response
import GroupChat.Proofs.Hub.Told
import GroupChat.Proofs.Hub.Uniform
import GroupChat.Proofs.Store.Outage

/-!
# Why the store failed is told to nobody

A client whose request fails because of the store is told that this happened, and not why. So hubs
whose stores fail at the same calls end up alike, and their clients are told the same, whatever the
reasons were.

## Main definitions

- `Hub.Resembles`, `Turn.Resembles`: hubs and turns that differ in the reasons of failures only.

## Main statements

- `lockstep_resembles`: the parts of computations do not tell such turns apart.
- `Resembles.run`: hubs that differ in reasons only stay so, and clients notice the same.
- `told_alike_of_run`: in all runs, clients are told the same.
-/

namespace GroupChat

namespace Hub

/-- What clients notice of `effects`: all but those without an `Effect.client?`. -/
def heard (effects : List Effect) : List Effect := effects.filter fun e => e.client?.isSome

/-- `h` and `h'` are in the same state, and their outages fail the same calls (`Outage.SameCalls`).
-/
def Resembles (h h' : Hub) : Prop :=
  ∃ outages, h' = { h with outages } ∧ Outage.SameCalls h.outages outages

/-- In the middle of an item, the hubs of `t` and `u` are alike (`Hub.Resembles`), and what was
`heard` of their effects is the same. -/
structure Turn.Resembles (t u : Turn) : Prop where
  /-- The states. -/
  hub : t.hub.Resembles u.hub
  /-- What clients noticed. -/
  heard : Hub.heard t.effects = Hub.heard u.effects

variable {h h' : Hub}

/-- `Resembles` allows the states to differ in the outages only. -/
theorem Resembles.same (hr : h.Resembles h') :
    h'.roster = h.roster ∧ h'.rooms = h.rooms ∧ h'.store = h.store := by
  obtain ⟨outages, rfl, -⟩ := hr
  exact ⟨rfl, rfl, rfl⟩

theorem heard_append (es fs : List Effect) : heard (es ++ fs) = heard es ++ heard fs :=
  List.filter_append _ _

/-- Effects that are `Like` each other are the same after `heard`, which leaves the reports out. -/
theorem heard_of_like {κ : StoreError → StoreError → Prop} {e f : Effect} (h : e.Like κ f) :
    heard [e] = heard [f] := by
  cases h with
  | refl => rfl
  | report => rfl

/-- `Turn.Resembles` is a `Lockstep` relation for errors that are related to all errors. -/
theorem lockstep_resembles : Lockstep (fun _ _ => True) Turn.Resembles where
  refl _ := trivial
  same := by
    rintro t u ⟨⟨outages, hu, -⟩, -⟩
    exact ⟨outages, hu⟩
  act := by
    intro t u hr e f he
    exact ⟨hr.hub, by rw [Turn.doing, Turn.doing, heard_append, heard_append, hr.heard, heard_of_like he]⟩
  live := by
    rintro t ⟨_, effects, post⟩ ⟨⟨outages, rfl, hsame⟩, he⟩ roster rooms
    exact ⟨⟨outages, rfl, hsame⟩, he⟩
  draw := by
    rintro t ⟨_, effects, post⟩ ⟨⟨outages, rfl, hsame⟩, he⟩ drawn -
    exact ⟨⟨outages, rfl, hsame⟩, he⟩
  call := by
    rintro t ⟨_, effects, post⟩ ⟨⟨outages, rfl, hsame⟩, he⟩ kind
    obtain ⟨hfails, hleft⟩ := hsame.meet kind
    refine ⟨?_, fun store => ⟨⟨_, rfl, hleft⟩, he⟩⟩
    -- a call that fails on both sides does so for any two reasons
    revert hfails
    show _ → Option.Rel _ (Outage.meet kind t.hub.outages).1 (Outage.meet kind outages).1
    rcases (Outage.meet kind t.hub.outages).1 with - | e
    · rcases (Outage.meet kind outages).1 with - | e'
      · exact fun _ => .none
      · nofun
    · rcases (Outage.meet kind outages).1 with - | e'
      · nofun
      · exact fun _ => .some trivial

theorem Resembles.handle (hr : h.Resembles h') (item : Inbound) :
    (h.handle item).1.Resembles (h'.handle item).1 ∧
      heard (h.handle item).2 = heard (h'.handle item).2 := by
  have hturn : Turn.Resembles { hub := h } { hub := h' } := ⟨hr, rfl⟩
  obtain ⟨-, hhub, hheard⟩ := take_uniform lockstep_resembles item hturn
  exact ⟨hhub, hheard⟩

/-- `run` keeps `Resembles`, by induction on the items. -/
theorem Resembles.run (hr : h.Resembles h') (items : List Inbound) :
    (h.run items).1.Resembles (h'.run items).1 ∧
      heard (h.run items).2 = heard (h'.run items).2 := by
  induction items generalizing h h' with
  | nil => exact ⟨hr, rfl⟩
  | cons item items ih =>
    obtain ⟨hnext, hitem⟩ := hr.handle item
    obtain ⟨hend, hrest⟩ := ih hnext
    refine ⟨hend, ?_⟩
    rw [run_cons, run_cons, heard_append, heard_append, hitem, hrest]

/-- `toldTo` does not see reports, so `heard` can be left out. -/
theorem toldTo_heard (d : Connection) (effects : List Effect) :
    toldTo d (heard effects) = toldTo d effects := by
  rw [toldTo, toldTo, heard, List.filterMap_filter]
  refine List.filterMap_congr fun e _ => ?_
  cases e with
  | send c event => rfl
  | close c => rfl
  | report i => rfl

/-- **Why the store failed is told to nobody.** Two hubs in the same state, whose stores fail at the
same calls for whatever reasons, are given the same items. After any of them connections, live rooms
and store are the same, and each connection has been told the same events in the same order. -/
theorem told_alike_of_run {outages outages' : List Outage} (h : Hub)
    (hsame : Outage.SameCalls outages outages') (items : List Inbound) :
    let one := { h with outages }.run items
    let other := { h with outages := outages' }.run items
    (other.1.roster = one.1.roster ∧ other.1.rooms = one.1.rooms ∧ other.1.store = one.1.store) ∧
      ∀ d, toldTo d other.2 = toldTo d one.2 := by
  intro one other
  have hr : Resembles { h with outages } { h with outages := outages' } := ⟨outages', rfl, hsame⟩
  obtain ⟨hend, hheard⟩ := hr.run items
  refine ⟨hend.same, fun d => ?_⟩
  rw [← toldTo_heard d other.2, ← toldTo_heard d one.2]
  exact congrArg (toldTo d) hheard.symm

/-- `Hub.meeting` makes a room, and then its creator sends the `invitation`. -/
def invitations : List Inbound := meeting ++ [Inbound.event ann invitation]

/-- The third `addMember` fails with a backend error in one hub, and with a conflict in the other.
-/
theorem told_alike_of_invitations :
    Outage.SameCalls [⟨.addMember, 3, 1, .backend "disk full"⟩] [⟨.addMember, 3, 1, .conflict⟩] ∧
    let one := { lobby [] with outages := [⟨.addMember, 3, 1, .backend "disk full"⟩] }.run
      invitations
    let other := { lobby [] with outages := [⟨.addMember, 3, 1, .conflict⟩] }.run invitations
    (other.1.roster = one.1.roster ∧ other.1.rooms = one.1.rooms ∧ other.1.store = one.1.store) ∧
      ∀ d, toldTo d other.2 = toldTo d one.2 := by
  have hsame : Outage.SameCalls [⟨.addMember, 3, 1, .backend "disk full"⟩]
      [⟨.addMember, 3, 1, .conflict⟩] := Outage.sameCalls_of_hits (.cons rfl .nil)
  exact ⟨hsame, told_alike_of_run (lobby []) hsame invitations⟩

end Hub

end GroupChat
