import GroupChat.Proofs.Server.Moves

/-!
# Outboxes and writers of the clients

Whoever may put items into the queue has an outbox and a writer from then on. The outbox is one of
those that are closed when the server stops, and nothing that goes on opens it again.

## Main definitions

- `Lines.Later`: what may become of outboxes.
- `Phase.hasLine`: whether a client has come so far that it has an outbox.
- `Server.Continues`, `Server.Rewires`: what a step does to outboxes and writers.
- `Server.Wired`: all clients that have come so far have an outbox and a writer, and the outbox is
  closed once the clients are told to end.
- `Server.Flushed`: all writers have ended once everything is written.

## Main statements

- `Lines.closing_closeDependents`: which outboxes are closed when the server stops.
- `rewires_of_act?`: this is all that steps do.
- `Wired.act`, `Flushed.act`: every step preserves both.
-/

namespace GroupChat

/-! ### Outboxes -/

/-- If `o` was closed, so is `o'`, and if it is closed with all others, so is `o'`. -/
structure Outbox.Later (o o' : Outbox) : Prop where
  /-- It is still to be closed with the others. -/
  dependent (h : o.dependent = true) : o'.dependent = true
  /-- It is still closed. -/
  closing (h : o.closing = true) : o'.closing = true

namespace Outbox

variable {o o' o'' : Outbox}

theorem Later.refl (o : Outbox) : o.Later o := ⟨id, id⟩

theorem Later.trans (h : o.Later o') (h' : o'.Later o'') : o.Later o'' :=
  ⟨fun hd => h'.dependent (h.dependent hd), fun hc => h'.closing (h.closing hc)⟩

theorem later_close (o : Outbox) : o.Later o.close := ⟨id, fun _ => rfl⟩

theorem later_hangUp (o : Outbox) : o.Later o.hangUp := ⟨id, id⟩

theorem later_drop (o : Outbox) (n : Nat) : o.Later (o.drop n) := ⟨id, id⟩

/-- `offer` only adds what waits, if anything. -/
theorem later_offer (o : Outbox) (text : String) : o.Later (o.offer text) := by
  constructor
  · intro h
    unfold offer
    split <;> exact h
  · intro h
    rw [closing_offer]
    exact h

end Outbox

namespace Lines

/-- No outbox of `l` is gone from `l'`, and each of them is a later one (`Outbox.Later`). -/
def Later (l l' : Lines) : Prop :=
  ∀ id o, l.get? id = some o → ∃ o', l'.get? id = some o' ∧ o.Later o'

variable {l l' l'' : Lines} {id : String}

theorem Later.refl (l : Lines) : l.Later l := fun _ o h => ⟨o, h, .refl o⟩

theorem Later.trans (h : l.Later l') (h' : l'.Later l'') : l.Later l'' := by
  intro id o ho
  obtain ⟨o', ho', hlater⟩ := h id o ho
  obtain ⟨o'', ho'', hlater'⟩ := h' id o' ho'
  exact ⟨o'', ho'', hlater.trans hlater'⟩

/-- `modify` leads to later outboxes if it does so with a single one. -/
theorem later_modify (l : Lines) (id : String) {f : Outbox → Outbox}
    (hf : ∀ o : Outbox, o.Later (f o)) :
    l.Later (l.modify id f) := by
  intro j o ho
  rw [get?_modify, ho]
  by_cases hj : j = id
  · rw [if_pos hj]
    exact ⟨f o, rfl, hf o⟩
  · rw [if_neg hj]
    exact ⟨o, rfl, .refl o⟩

theorem later_connect {o o' : Outbox} (h : l.get? id = some o) (ho : o.Later o') :
    l.Later (l.connect id o') := by
  intro j p hp
  rw [get?_connect]
  by_cases hj : j = id
  · subst hj
    rw [h] at hp
    cases hp
    exact ⟨o', if_pos rfl, ho⟩
  · exact ⟨p, (if_neg hj).trans hp, .refl p⟩

theorem later_close (l : Lines) (id : String) : l.Later (l.close id) :=
  l.later_modify id Outbox.later_close

/-- `deliver` leads to later outboxes, as it opens none and opens nothing again. -/
theorem later_deliver (l : Lines) (es : List Effect) : l.Later (l.deliver es) := by
  induction es generalizing l with
  | nil => exact .refl l
  | cons e es ih =>
    refine .trans ?_ (ih (l.deliverOne e))
    cases e with
    | send c event => exact l.later_modify c.id fun o => o.later_offer _
    | close c => exact l.later_close c.id
    | report i => exact .refl l

theorem later_closeAll (es : List (String × Outbox)) (l : Lines) :
    l.Later (es.foldl (fun l e => l.close e.1) l) := by
  induction es generalizing l with
  | nil => exact .refl l
  | cons e es ih => exact (l.later_close e.1).trans (ih _)

/-- Closing outboxes one after the other leaves all of them `closing`. -/
theorem closing_of_mem {es : List (String × Outbox)} {o : Outbox} (hid : ∃ e ∈ es, e.1 = id)
    (h : l.get? id = some o) :
    ∃ o', (es.foldl (fun l e => l.close e.1) l).get? id = some o' ∧ o'.closing = true := by
  induction es generalizing l o with
  | nil =>
    obtain ⟨e, he, -⟩ := hid
    cases he
  | cons e es ih =>
    by_cases he : e.1 = id
    · -- it is closed here, and stays so while the others are
      have hclose : (l.close e.1).get? id = some o.close := by
        rw [close, get?_modify, if_pos he.symm, h]
        rfl
      obtain ⟨o', ho', hlater⟩ := later_closeAll es (l.close e.1) id o.close hclose
      exact ⟨o', ho', hlater.closing rfl⟩
    · obtain ⟨e', he', hid'⟩ := hid
      have hrest : ∃ e ∈ es, e.1 = id :=
        ⟨e', (List.mem_cons.1 he').resolve_left fun h => he (h ▸ hid'), hid'⟩
      have hopen : (l.close e.1).get? id = some o := by
        rw [close, get?_modify, if_neg fun h => he h.symm, h]
      exact ih hrest hopen

/-- `closeDependents` closes the outboxes that depend on the hub. -/
theorem closing_closeDependents {o : Outbox} (h : l.get? id = some o)
    (dependent : o.dependent = true) :
    ∃ o', l.closeDependents.get? id = some o' ∧ o'.closing = true :=
  closing_of_mem ⟨(id, o), List.mem_filter.2 ⟨Table.mem_entries_iff.2 h, dependent⟩, rfl⟩ h

theorem later_closeDependents (l : Lines) : l.Later l.closeDependents := later_closeAll _ l

end Lines

/-! ### Writers -/

namespace Writer

/-- What `f` does goes on from where writer and outbox were (`Outbox.Later`). -/
def Proceeds (f : Writer → Outbox → Option (Writer × Outbox)) : Prop :=
  ∀ w o w' o', f w o = some (w', o') → o.Later o' ∧ (w.ended = true → w'.ended = true)

theorem proceeds_take : Proceeds take? := by
  intro w o w' o' h
  obtain ⟨-, -, text, rest, -, rfl, rfl⟩ := take?_eq_some_iff.1 h
  exact ⟨o.later_drop 1, id⟩

theorem proceeds_write : Proceeds fun w o => w.write?.map (·, o) := by
  intro w o w' o' h
  obtain ⟨x, hx, h⟩ := Option.map_eq_some_iff.1 h
  obtain ⟨text, -, rfl⟩ := write?_eq_some_iff.1 hx
  cases h
  exact ⟨.refl o, id⟩

theorem proceeds_fail : Proceeds fail? := by
  intro w o w' o' h
  obtain ⟨text, -, rfl, rfl⟩ := fail?_eq_some_iff.1 h
  exact ⟨o.later_close.trans o.close.later_hangUp, fun _ => rfl⟩

theorem proceeds_finish (taken : Bool) : Proceeds (·.finish? · taken) := by
  intro w o w' o' h
  obtain ⟨-, -, -, rfl, rfl⟩ := finish?_eq_some_iff.1 h
  exact ⟨o.later_hangUp, fun _ => rfl⟩

end Writer

/-! ### Clients -/

namespace Phase

/-- Whether a client has come so far that it has an outbox, as from `.entering` on. -/
def hasLine : Phase → Bool
  | .entering | .entered | .reading _ | .posting _ | .leaving | .finished => true
  | .arriving | .admitted | .refused => false

end Phase

namespace Stage

/-- Whether everything is written, as it is from the stage `.written` on. -/
def isWritten : Stage → Bool
  | .written | .stopped => true
  | .running | .refusing | .ending | .unread | .sealed | .handled | .emptied => false

theorem hasSender_of_isWritten {p : Stage} (h : p.isWritten = true) : p.hasSender = false := by
  cases p with
  | written | stopped => rfl
  | running | refusing | ending | unread | sealed | handled | emptied => cases h

end Stage

namespace Server

/-- From `s` to `t` the server comes no further in stopping, no outbox is gone or opened again
(`Lines.Later`), no writer comes, is gone or begins again, and no client is let in. -/
structure Continues (s t : Server) : Prop where
  /-- The server may begin to refuse clients. -/
  stage : t.stage = s.stage ∨ s.stage = .running ∧ t.stage = .refusing
  /-- The outboxes are those of before. -/
  lines : s.lines.Later t.lines
  /-- So are the writers. -/
  writers (id : String) : Option.Rel (fun w w' => w.ended = true → w'.ended = true)
    (s.writers.get? id) (t.writers.get? id)
  /-- Who has an outbox had one before. -/
  sessions {id : String} {new : Session} (here : t.sessions.get? id = some new)
    (line : new.phase.hasLine = true) :
    ∃ old, s.sessions.get? id = some old ∧ old.phase.hasLine = true

/-- What a step of `s` does to its `lines` and `writers`. -/
inductive Rewires (s : Server) : Server → Prop where
  /-- It goes on with those that there are. -/
  | continues {t : Server} (continues : s.Continues t) : Rewires s t
  /-- A client is let in, and gets an outbox and a writer. -/
  | opens (id : String) (session : Session) (sender : s.stage.hasSender = true) :
      Rewires s { s.openLine id with sessions := s.sessions.insert id session }
  /-- The server comes further in stopping. -/
  | proceeds {t : Server} (proceeds : s.proceed? = some t) : Rewires s t

/-- The client `id` has an outbox that depends on the hub, and a writer. The outbox is closed once
the clients are told to end (`Stage.isEnding`). -/
structure Links (s : Server) (id : String) : Prop where
  /-- It has an outbox. -/
  line : ∃ o, s.lines.get? id = some o ∧ o.dependent = true ∧
    (s.stage.isEnding = true → o.closing = true)
  /-- It has a writer. -/
  writer : ∃ w, s.writers.get? id = some w

/-- All clients that have come so far (`Phase.hasLine`) are linked to the hub (`Links`). -/
def Wired (s : Server) : Prop :=
  ∀ id session, s.sessions.get? id = some session → session.phase.hasLine = true → s.Links id

/-- All writers have ended once everything is written (`Stage.isWritten`). -/
def Flushed (s : Server) : Prop :=
  s.stage.isWritten = true → ∀ id w, s.writers.get? id = some w → w.ended = true

variable {s t : Server} {a : Action} {id : String}

/-! ### What a step does -/

theorem Continues.refl (s : Server) : s.Continues s where
  stage := Or.inl rfl
  lines := .refl s.lines
  writers id := by
    cases s.writers.get? id with
    | none => exact .none
    | some w => exact .some fun h => h
  sessions here line := ⟨_, here, line⟩

/-- `Continues` after a client has moved that had an outbox before if it has one. -/
theorem Continues.insert {old new : Session} (here : s.sessions.get? id = some old)
    (line : new.phase.hasLine = true → old.phase.hasLine = true) {queue : List Inbound} :
    s.Continues { s with sessions := s.sessions.insert id new, queue } where
  stage := Or.inl rfl
  lines := .refl s.lines
  writers := (Continues.refl s).writers
  sessions {j other} hj hline := by
    by_cases hjid : j = id
    · subst hjid
      cases (Table.get?_insert_self ..).symm.trans hj
      exact ⟨old, here, line hline⟩
    · exact ⟨other, (Table.get?_insert_of_ne hjid).symm.trans hj, hline⟩

/-- `onSession` `Continues`, if it gives a line to nobody who had none. -/
theorem continues_of_onSession {f : Session → Option Session} (h : s.onSession id f = some t)
    (hf : ∀ old new, f old = some new → new.phase.hasLine = true → old.phase.hasLine = true) :
    s.Continues t := by
  obtain ⟨old, new, hold, hnew, rfl⟩ := onSession_eq_some h
  exact .insert hold (hf old new hnew)

/-- `onWriter` `Continues`, as a writer takes from its own outbox only. -/
theorem continues_of_onWriter {f : Writer → Outbox → Option (Writer × Outbox)}
    (hf : Writer.Proceeds f) (h : s.onWriter id f = some t) : s.Continues t := by
  obtain ⟨w, o, w', o', hw, ho, hf', rfl⟩ := onWriter_eq_some_iff.1 h
  obtain ⟨hlater, hended⟩ := hf w o w' o' hf'
  refine { Continues.refl s with lines := Lines.later_connect ho hlater, writers := fun j => ?_ }
  by_cases hjid : j = id
  · subst hjid
    rw [hw, Table.get?_insert_self]
    exact .some hended
  · rw [Table.get?_insert_of_ne hjid]
    exact (Continues.refl s).writers j

/-- `approach?` gives a client its line and its writer when it accepts it. -/
theorem rewires_of_approach? (h : s.approach? id = some t) : s.Rewires t := by
  obtain ⟨old, hold, h⟩ := Option.bind_eq_some_iff.1 h
  dsimp only at h
  split at h
  · cases h
    refine .continues (.insert hold fun hline => ?_)
    dsimp only at hline
    split at hline <;> cases hline
  · by_cases hstage : s.stage.hasSender = true
    · rw [if_pos hstage] at h
      cases h
      exact .opens id _ hstage
    · rw [if_neg hstage] at h
      cases h
      exact .continues (.insert hold fun hline => by cases hline)
  · cases h

/-- Whoever has an item ready (`give?`) has a line. -/
theorem hasLine_of_give? {now : Nat} {old new : Session} {item : Inbound}
    (h : old.give? now = some (item, new)) : old.phase.hasLine = true := by
  unfold Session.give? at h
  cases hphase : old.phase with
  | entering | entered | reading | posting | leaving | finished => rfl
  | arriving | admitted | refused =>
    rw [hphase] at h
    cases h

theorem hasLine_of_giveUp? {old new : Session} (h : old.giveUp? = some new) :
    old.phase.hasLine = true := by
  unfold Session.giveUp? at h
  cases hphase : old.phase with
  | entering | entered | reading | posting | leaving | finished => rfl
  | arriving | admitted | refused =>
    rw [hphase] at h
    cases h

theorem hasLine_of_start? {now : Nat} {old new : Session} (h : old.start? now = some new) :
    old.phase.hasLine = true := by
  unfold Session.start? at h
  split at h
  · rename_i hphase
    rw [hphase]
    rfl
  · cases h

theorem hasLine_of_read? {now : Nat} {old new : Session} (h : old.read? now = some new) :
    old.phase.hasLine = true := by
  unfold Session.read? at h
  cases hphase : old.phase with
  | reading since => rfl
  | _ =>
    rw [hphase] at h
    cases h

theorem hasLine_of_timeOut? {patience now : Nat} {old new : Session}
    (h : old.timeOut? patience now = some new) : old.phase.hasLine = true := by
  unfold Session.timeOut? Session.deadline at h
  cases hphase : old.phase with
  | reading since => rfl
  | _ =>
    rw [hphase] at h
    cases h

theorem hasLine_of_notice? {old new : Session} (h : old.notice? = some new) :
    old.phase.hasLine = true := by
  unfold Session.notice? at h
  split at h
  · rename_i hphase
    rw [hphase]
    rfl
  · cases h

/-- `post?` continues: the outbox is closed if the queue is, and nothing is opened again. -/
theorem continues_of_post? (h : s.post? id = some t) : s.Continues t := by
  unfold post? at h
  split at h
  · obtain ⟨old, hold, h⟩ := Option.bind_eq_some_iff.1 h
    obtain ⟨⟨item, new⟩, hgive, h⟩ := Option.bind_eq_some_iff.1 h
    dsimp only at h
    split at h
    · cases h
      exact .insert hold fun _ => hasLine_of_give? hgive
    · cases h
  · obtain ⟨u, hu, h⟩ := Option.bind_eq_some_iff.1 h
    have hcontinues : s.Continues u :=
      continues_of_onSession hu fun old new hnew _ => hasLine_of_giveUp? hnew
    cases h
    split
    · exact { hcontinues with lines := hcontinues.lines.trans (u.lines.later_close id) }
    · exact hcontinues

theorem continues_of_arrive? {x : Connection} (h : s.arrive? x = some t) : s.Continues t := by
  unfold arrive? at h
  split at h
  · cases h
  · cases h
    refine { Continues.refl s with sessions := fun {j other} hj hline => ?_ }
    -- a client that just arrived has no line yet
    by_cases hjid : j = x.id
    · subst hjid
      cases (Table.get?_insert_self ..).symm.trans hj
      cases hline
    · exact ⟨other, (Table.get?_insert_of_ne hjid).symm.trans hj, hline⟩

theorem continues_of_stop (h : s.act? .stop = some t) : s.Continues t := by
  obtain ⟨hstage, rfl⟩ := stop_eq_some h
  exact { Continues.refl s with stage := Or.inr ⟨hstage, rfl⟩ }

/-- `handle?` continues: effects only offer texts to lines and close them. -/
theorem continues_of_handle? (h : s.handle? = some t) : s.Continues t := by
  obtain ⟨item, rest, -, -, rfl⟩ := handle?_eq_some h
  exact { Continues.refl s with lines := s.lines.later_deliver _ }

theorem continues_of_retire? (h : s.retire? = some t) : s.Continues t := by
  unfold retire? at h
  split at h
  · cases h
    exact { Continues.refl s with }
  · cases h

/-- Every step of `act?` `Rewires`; one case for each action. -/
theorem rewires_of_act? (h : s.act? a = some t) : s.Rewires t := by
  -- a client does most steps only when it has a line already
  have moves : ∀ {id f}, s.onSession id f = some t →
      (∀ old new, f old = some new → old.phase.hasLine = true) → s.Rewires t := fun h hf =>
    .continues (continues_of_onSession h fun old new hnew _ => hf old new hnew)
  cases a with
  | arrive x => exact .continues (continues_of_arrive? h)
  | receive id f =>
    refine .continues (continues_of_onSession h fun old new hnew hline => ?_)
    obtain ⟨-, hnew⟩ := Option.ite_none_left_eq_some.1 hnew
    cases hnew
    exact hline
  | hangUp id =>
    refine .continues (continues_of_onSession h fun old new hnew hline => ?_)
    cases hnew
    exact hline
  | wait milliseconds =>
    cases h
    exact .continues { Continues.refl s with }
  | stop => exact .continues (continues_of_stop h)
  | approach id => exact rewires_of_approach? h
  | post id => exact .continues (continues_of_post? h)
  | start id => exact moves h fun _ _ => hasLine_of_start?
  | read id => exact moves h fun _ _ => hasLine_of_read?
  | timeOut id => exact moves h fun _ _ => hasLine_of_timeOut?
  | notice id =>
    obtain ⟨-, h⟩ := Option.ite_none_right_eq_some.1 h
    exact moves h fun _ _ => hasLine_of_notice?
  | handle => exact .continues (continues_of_handle? h)
  | retire => exact .continues (continues_of_retire? h)
  | take id => exact .continues (continues_of_onWriter Writer.proceeds_take h)
  | write id => exact .continues (continues_of_onWriter Writer.proceeds_write h)
  | fail id => exact .continues (continues_of_onWriter Writer.proceeds_fail h)
  | finish id taken =>
    obtain ⟨-, h⟩ := Option.ite_none_left_eq_some.1 h
    exact .continues (continues_of_onWriter (Writer.proceeds_finish taken) h)
  | proceed => exact .proceeds h

/-! ### Clients and what they are linked to -/

namespace Wired

/-- `proceed?` keeps `Wired`. When readers are told to end, all lines are closed. -/
theorem proceed (hs : s.Wired) (h : s.proceed? = some t) : t.Wired := by
  -- only one step tells the clients to end, and it closes their outboxes
  have kept : ∀ {stage : Stage} {hub : Hub}, s.stage.isEnding = true →
      ({ s with stage, hub } : Server).Wired := by
    intro stage hub hending id session hid hline
    obtain ⟨⟨o, ho, hdependent, hclosing⟩, hwriter⟩ := hs id session hid hline
    exact ⟨⟨o, ho, hdependent, fun _ => hclosing hending⟩, hwriter⟩
  unfold proceed? at h
  cases hstage : s.stage with
  | running | stopped =>
    rw [hstage] at h
    cases h
  | refusing =>
    rw [hstage] at h
    cases h
    intro id session hid hline
    obtain ⟨⟨o, ho, hdependent, -⟩, hwriter⟩ := hs id session hid hline
    obtain ⟨o', ho', hlater⟩ := s.lines.later_closeDependents id o ho
    obtain ⟨o'', ho'', hclosing⟩ := Lines.closing_closeDependents ho hdependent
    cases ho'.symm.trans ho''
    exact ⟨⟨o', ho', hlater.dependent hdependent, fun _ => hclosing⟩, hwriter⟩
  | unread | handled | written =>
    rw [hstage] at h
    cases h
    exact kept (by rw [hstage]; rfl)
  | ending | sealed =>
    rw [hstage] at h
    dsimp only at h
    split at h
    · cases h
    · cases h
      exact kept (by rw [hstage]; rfl)
  | emptied =>
    rw [hstage] at h
    dsimp only at h
    split at h
    · cases h
      exact kept (by rw [hstage]; rfl)
    · cases h

/-- `act?` keeps `Wired`: all clients that have come so far are linked to the hub. -/
theorem act (hs : s.Wired) (h : s.act? a = some t) : t.Wired := by
  cases rewires_of_act? h with
  | continues continues =>
    intro id new hid hline
    obtain ⟨old, hold, hbefore⟩ := continues.sessions hid hline
    obtain ⟨⟨o, ho, hdependent, hclosing⟩, w, hw⟩ := hs id old hold hbefore
    obtain ⟨o', ho', hlater⟩ := continues.lines id o ho
    refine ⟨⟨o', ho', hlater.dependent hdependent, fun hending => ?_⟩, ?_⟩
    · rcases continues.stage with hstage | ⟨-, hstage⟩
      · exact hlater.closing (hclosing (hstage ▸ hending))
      · rw [hstage] at hending
        cases hending
    · -- a writer is replaced, and never taken away
      have hwriters := continues.writers id
      rw [hw] at hwriters
      cases hwriters' : t.writers.get? id with
      | some w' => exact ⟨w', rfl⟩
      | none =>
        rw [hwriters'] at hwriters
        cases hwriters
  | opens id session sender =>
    intro j other hj hline
    by_cases hjid : j = id
    · subst hjid
      refine ⟨⟨_, (Lines.get?_connect ..).trans (if_pos rfl), ?_, fun hending => ?_⟩,
        {}, Table.get?_insert_self ..⟩
      · split <;> rfl
      · have hending : s.stage.isEnding = true := hending
        rw [if_pos hending]
        rfl
    · obtain ⟨⟨o, ho, hrest⟩, w, hw⟩ :=
        hs j other ((Table.get?_insert_of_ne hjid).symm.trans hj) hline
      exact ⟨⟨o, ((Lines.get?_connect ..).trans (if_neg hjid)).trans ho, hrest⟩,
        w, (Table.get?_insert_of_ne hjid).trans hw⟩
  | proceeds proceeds => exact hs.proceed proceeds

end Wired

namespace Flushed

/-- `proceed?` keeps `Flushed`: the last stages wait for all writers. -/
theorem proceed (hs : s.Flushed) (h : s.proceed? = some t) : t.Flushed := by
  unfold proceed? at h
  cases hstage : s.stage with
  | running | stopped =>
    rw [hstage] at h
    cases h
  | refusing | unread | handled =>
    rw [hstage] at h
    cases h
    intro hwritten
    cases hwritten
  | ending | sealed =>
    rw [hstage] at h
    dsimp only at h
    split at h
    · cases h
    · cases h
      intro hwritten
      cases hwritten
  | emptied =>
    rw [hstage] at h
    dsimp only at h
    split at h
    · -- the stage is left when all writers have ended
      rename_i hall
      cases h
      exact fun _ id w hw => List.all_eq_true.1 hall w (Table.mem_values_iff.2 ⟨id, hw⟩)
    · cases h
  | written =>
    have hwritten : s.stage.isWritten = true := by rw [hstage]; rfl
    rw [hstage] at h
    cases h
    exact fun _ => hs hwritten

/-- `act?` keeps `Flushed`: all writers have ended once everything is written. -/
theorem act (hs : s.Flushed) (h : s.act? a = some t) : t.Flushed := by
  cases rewires_of_act? h with
  | continues continues =>
    intro hwritten id w' hw'
    have hwriters := continues.writers id
    rw [hw'] at hwriters
    have hbefore : s.stage.isWritten = true := by
      rcases continues.stage with hstage | ⟨-, hstage⟩
      · exact hstage ▸ hwritten
      · rw [hstage] at hwritten
        cases hwritten
    cases hw : s.writers.get? id with
    | none =>
      rw [hw] at hwriters
      cases hwriters
    | some w =>
      rw [hw] at hwriters
      cases hwriters with
      | some hended => exact hended (hs hbefore id w hw)
  | opens id session sender =>
    -- nobody is let in any more by then
    intro hwritten
    have hwritten : s.stage.isWritten = true := hwritten
    rw [Stage.hasSender_of_isWritten hwritten] at sender
    cases sender
  | proceeds proceeds => exact hs.proceed proceeds

end Flushed

end Server

end GroupChat
