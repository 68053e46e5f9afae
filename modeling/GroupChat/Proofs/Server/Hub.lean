import GroupChat.Proofs.Hub.Handle
import GroupChat.Proofs.Server.Course

/-!
# The hub of a server

All that is known of a hub is about items of which each comes from the connection that is registered
under its identifier. The hub of a server is given such items only, since a client keeps its
connection and nobody else gets its identifier.

## Main definitions

- `Course.Attends`: the hub is in the state that the items lead to, and knows clients only.

## Main statements

- `Course.Attends.step`: every step preserves this.
- `hub_of_run?`: the hub of a server follows the items that it was given, until it is emptied.
- `hub_of_reachable`: the states of the hub are among those that hubs reach.
-/

namespace GroupChat

namespace Server

/-- `d` is the connection of a client that has a session. -/
def Serves (s : Server) (d : Connection) : Prop :=
  ∃ session, s.sessions.get? d.id = some session ∧ session.connection = d

/-- The hub is in the state that the `given` items lead to from `start`, until it is emptied, and it
knows connections of clients only (`Serves`). -/
structure Course.Attends (start : Hub) (c : Course) : Prop where
  /-- The items come from the connections that are registered. -/
  follows : start.Follows c.given
  /-- They lead to the hub. -/
  hub (kept : c.server.stage.isEmptied = false) : c.server.hub = (start.run c.given).1
  /-- It takes items only while the server has not come far in stopping. -/
  busy (busy : c.server.handling = true) : c.server.stage ≠ .handled ∧
    c.server.stage.isEmptied = false
  /-- The registered connections are those of clients. -/
  known {d : Connection} (holds : (start.run c.given).1.roster.Holds d) : c.server.Serves d

variable {s t : Server} {a : Action} {start : Hub} {c d : Course}

/-- A server that `Serves` a connection does so after every step, and gives its identifier to nobody
else. -/
theorem Serves.moves {x : Connection} (hx : s.Serves x) (hm : s.Moves a t) (hs : s.Shut) :
    t.Serves x := by
  obtain ⟨session, hsession, hconnection⟩ := hx
  cases hm with
  | rest rests => exact ⟨session, rests.sessions ▸ hsession, hconnection⟩
  | arrival new =>
    refine ⟨session, ?_, hconnection⟩
    rw [Table.get?_insert_of_ne, hsession]
    intro hid
    rw [hid, new] at hsession
    cases hsession
  | @session a id old new frames items queue lines writers here moves queued taken sender =>
    -- only the session of one client changes, and it stays that of the connection
    by_cases hid : x.id = id
    · subst hid
      cases here.symm.trans hsession
      exact ⟨new, Table.get?_insert_self .., moves.connection.trans hconnection⟩
    · exact ⟨session, (Table.get?_insert_of_ne hid).trans hsession, hconnection⟩
  | giveUp here sender closed => cases (hs.handling here sender).symm.trans closed

/-- The server `Serves` the connection of every item in the queue. -/
theorem Course.Sound.serves_of_mem_queue {item : Inbound} (hc : c.Sound)
    (h : item ∈ c.server.queue) : c.server.Serves item.connection := by
  -- what is in the queue was fed by its client, so it has a session
  have hfed : item ∈ c.fed item.connection.id :=
    List.mem_filter.2 ⟨List.mem_append_right _ h, beq_self_eq_true _⟩
  have hfits : c.Fits item.connection.id := hc.fits item.connection.id
  cases hsession : c.server.sessions.get? item.connection.id with
  | none =>
    rw [(hfits.absent hsession).2.1] at hfed
    cases hfed
  | some session =>
    obtain ⟨-, -, -, hstands⟩ := hfits.session hsession
    have hfeed := hstands.feed.resolve_left (List.ne_nil_of_mem hfed)
    exact ⟨session, hsession, (hfeed.connection hfed).symm⟩

namespace Course.Attends

variable {accounts : List Account} {mint : Mint} {outages : List Outage}

theorem coherent (h : c.Attends (.fresh accounts mint outages)) :
    ((Hub.fresh accounts mint outages).run c.given).1.Coherent :=
  (Hub.Reachable.start.run h.follows).coherent (Hub.coherent_fresh accounts mint outages)

/-- `Attends` stays after a step that gives the hub nothing, unless it empties the hub. -/
theorem kept (h : c.Attends start) (hserves : ∀ x, c.server.Serves x → t.Serves x)
    (htaken : c.server.taken a = [])
    (hhub : t.stage.isEmptied = false → c.server.stage.isEmptied = false ∧ t.hub = c.server.hub)
    (hbusy : t.handling = true → t.stage ≠ .handled ∧ t.stage.isEmptied = false) :
    (c.after a t).Attends start := by
  have hgiven : (c.after a t).given = c.given := by
    show c.given ++ c.server.taken a = c.given
    rw [htaken, List.append_nil]
  constructor
  · rw [hgiven]
    exact h.follows
  · intro hkept
    obtain ⟨hbefore, hsame⟩ := hhub hkept
    rw [hgiven]
    exact hsame.trans (h.hub hbefore)
  · exact hbusy
  · intro x hx
    rw [hgiven] at hx
    exact hserves x (h.known hx)

/-- An item of the queue `Fits` the hub that handled those before it, and that hub knows only
connections that the server `Serves`. -/
theorem fits {item : Inbound} (h : c.Attends (.fresh accounts mint outages)) (hc : c.Sound)
    (hitem : item ∈ c.server.queue) :
    (Hub.fresh accounts mint outages).Follows (c.given ++ [item]) ∧
      ∀ {x : Connection},
        ((Hub.fresh accounts mint outages).run (c.given ++ [item])).1.roster.Holds x →
          c.server.Serves x := by
  obtain ⟨session, hsession, hconnection⟩ := hc.serves_of_mem_queue hitem
  -- two connections with one identifier would have one session
  have hfits : item.Fits ((Hub.fresh accounts mint outages).run c.given).1 := by
    intro x hx
    have hid : x.id = item.connection.id := h.coherent.roster.keyed _ _ hx
    obtain ⟨other, hother, hx'⟩ := h.known (h.coherent.roster.holds_of_get? hx)
    rw [hid] at hother
    cases hother.symm.trans hsession
    exact hx'.symm.trans hconnection
  refine ⟨Hub.follows_append.2 ⟨h.follows, hfits, trivial⟩, fun {x} hx => ?_⟩
  rw [Hub.run_append] at hx
  obtain ⟨hmove, -⟩ := Hub.handle_moves h.coherent hfits
  rcases hmove.connected hfits hx with hx | rfl
  · exact h.known hx
  · exact ⟨session, hsession, hconnection⟩

/-- `Course.step?` preserves `Attends`. -/
theorem step (h : c.Attends (.fresh accounts mint outages)) (hc : c.Sound)
    (hd : c.step? a = some d) : d.Attends (.fresh accounts mint outages) := by
  obtain ⟨t, ht, rfl⟩ := Option.map_eq_some_iff.1 hd
  have hmoves : c.server.Moves a t := act?_moves ht
  have hserves : ∀ x, c.server.Serves x → t.Serves x := fun x hx => hx.moves hmoves hc.shut
  cases hmoves with
  | rest rests =>
    cases rests with
    | idle taken nothing => exact h.kept hserves taken (fun hkept => ⟨hkept, rfl⟩) h.busy
    -- the only step that gives the hub something
    | @handle item rest lines busy queue =>
      have htaken : c.server.taken .handle = [item] := by
        rw [taken, queue]
        rfl
      obtain ⟨hfollows, hknown⟩ := h.fits hc (queue ▸ List.mem_cons_self)
      constructor
      · show (Hub.fresh accounts mint outages).Follows (c.given ++ c.server.taken .handle)
        rw [htaken]
        exact hfollows
      · intro hkept
        show (c.server.hub.handle item).1 =
          ((Hub.fresh accounts mint outages).run (c.given ++ c.server.taken .handle)).1
        rw [htaken, Hub.run_append, ← h.hub hkept]
        rfl
      · exact h.busy
      · intro x hx
        refine hserves x (hknown ?_)
        rw [← htaken]
        exact hx
    | retire queue alone =>
      exact h.kept hserves rfl (fun hkept => ⟨hkept, rfl⟩) fun hbusy => by cases hbusy
    -- a server that is stopped has not emptied its hub yet
    | stop running =>
      refine h.kept hserves rfl (fun _ => ⟨?_, rfl⟩) fun _ => ⟨?_, rfl⟩
      · rw [running]
        rfl
      · exact Stage.noConfusion
    | proceed next done same =>
      refine h.kept hserves rfl (fun hkept => ⟨?_, same hkept⟩) fun hbusy => ⟨?_, ?_⟩
      · exact Stage.isEmptied_of_next? next hkept
      · intro hhandled
        cases hbusy.symm.trans (done hhandled)
      · obtain ⟨hhandled, hbefore⟩ := h.busy hbusy
        exact Stage.isEmptied_of_next?_of_ne next hhandled hbefore
  | arrival new => exact h.kept hserves rfl (fun hkept => ⟨hkept, rfl⟩) h.busy
  | session here moves queued taken sender =>
    exact h.kept hserves taken (fun hkept => ⟨hkept, rfl⟩) h.busy
  | giveUp here sender closed => cases (hc.shut.handling here sender).symm.trans closed

/-- `Course.run?` preserves `Attends`. -/
theorem run {steps : List Action} (h : c.Attends (.fresh accounts mint outages)) (hc : c.Sound)
    (hd : c.run? steps = some d) : d.Attends (.fresh accounts mint outages) := by
  induction steps generalizing c with
  | nil =>
    cases hd
    exact h
  | cons a steps ih =>
    obtain ⟨e, he, hd⟩ := Option.bind_eq_some_iff.1 hd
    exact ih (h.step hc he) (hc.step he) hd

end Course.Attends

/-- A course without steps `Attends`, as the hub was given nothing. -/
theorem attends_start (settings : Settings) (accounts : List Account) (mint : Mint)
    (outages : List Outage) : Course.Attends (.fresh accounts mint outages)
      { server := { settings, hub := .fresh accounts mint outages } } where
  follows := trivial
  hub _ := rfl
  busy _ := ⟨Stage.noConfusion, rfl⟩
  known holds := by cases holds

/-- In every course, the `given` items are ones that the hub `Follows`, and its state is that of
`run` over them, until the server has emptied it. So the theorems on `Hub.Reachable` hold of the hub
of a server. -/
theorem hub_of_run? {settings : Settings} {accounts : List Account} {mint : Mint}
    {outages : List Outage} {steps : List Action} {c : Course}
    (h : Course.run? { server := { settings, hub := .fresh accounts mint outages } } steps =
      some c) :
    (Hub.fresh accounts mint outages).Follows c.given ∧
      (c.server.stage.isEmptied = false →
        c.server.hub = ((Hub.fresh accounts mint outages).run c.given).1) := by
  have hc : c.Attends (.fresh accounts mint outages) :=
    (attends_start settings accounts mint outages).run (Course.sound_start settings _) h
  exact ⟨hc.follows, hc.hub⟩

/-- A `Reachable` server has a `Hub.Reachable` hub, until it has emptied it. -/
theorem hub_of_reachable {settings : Settings} {accounts : List Account} {mint : Mint}
    {outages : List Outage}
    (h : Reachable { settings, hub := .fresh accounts mint outages } s)
    (hkept : s.stage.isEmptied = false) : (Hub.fresh accounts mint outages).Reachable s.hub := by
  obtain ⟨steps, c, hc, rfl⟩ := reachable_iff_run?.1 h
  obtain ⟨hfollows, hhub⟩ := hub_of_run? hc
  rw [hhub hkept]
  exact Hub.Reachable.start.run hfollows

end Server

end GroupChat
