import GroupChat.Proofs.Hub.Silence
import GroupChat.Proofs.Hub.Uniform

/-!
# Slow clients

Every handler is told whether a client accepts what it is sent, and how many of a room do. None of
them goes on differently for that. So whether a client listens, how much may wait for it, and when
it takes what waits decides what it gets itself, and nothing else: the hub, and what is offered to
all others and accepted by them, is the same at any time.

To say so, hub and outboxes are looked at together. Clients do things between the items that the hub
handles, and while it handles one.

## Main definitions

- `Post.Alike`: outboxes that look the same to all but a client.
- `Exchange`: the hub with the outboxes of its clients.
- `Exchange.Act`, `Exchange.step`: the single things that happen, and what comes of them.
- `Exchange.trail`: the states after all that happens, apart from what a client does.
- `Exchange.view`: what others than a client have to do with.

## Main statements

- `handleOver_eq`: what the hub does with an item does not depend on the outboxes.
- `view_step_of_concerns`: what a client does is not in the view of the others.
- `view_step_congr`: what happens else depends on that view only.
- `views_of_same_acts`: what the others have to do with depends only on what happens else.
-/

namespace GroupChat

/-! ### Outboxes of others -/

namespace Lines

variable {l l' : Lines} {k j : String}

/-- What is done to the outbox of `k` leaves that of another client as it is. -/
theorem get?_move_of_ne {m : Move} (hj : j ≠ m.connection) : (l.move m).get? j = l.get? j := by
  cases m with
  | connect connection capacity dependent => exact (get?_connect ..).trans (if_neg hj)
  | take connection n => exact get?_modify_of_ne (Ne.symm hj) _
  | hangUp connection => exact get?_modify_of_ne (Ne.symm hj) _

/-- `Lines.move` changes each outbox by what it was alone. -/
theorem get?_move_congr (h : l.get? j = l'.get? j) (m : Move) :
    (l.move m).get? j = (l'.move m).get? j := by
  have hmodify : ∀ id f, (l.modify id f).get? j = (l'.modify id f).get? j := fun id f => by
    rw [get?_modify, get?_modify, h]
  cases m with
  | connect connection capacity dependent =>
    show (l.connect ..).get? j = (l'.connect ..).get? j
    rw [get?_connect, get?_connect, h]
  | take connection n => exact hmodify connection _
  | hangUp connection => exact hmodify connection _

/-- `deliverOne` changes each outbox by what it was alone. -/
theorem get?_deliverOne_congr (h : l.get? j = l'.get? j) (e : Effect) :
    (l.deliverOne e).get? j = (l'.deliverOne e).get? j := by
  have hmodify : ∀ id f, (l.modify id f).get? j = (l'.modify id f).get? j := fun id f => by
    rw [get?_modify, get?_modify, h]
  cases e with
  | send c event => exact hmodify c.id _
  | close c => exact hmodify c.id _
  | report i => exact h

/-- What the client `k` does can be left out for the outboxes of the others. -/
theorem get?_foldl_move (hj : j ≠ k) (h : l.get? j = l'.get? j) (ms : List Move) :
    (ms.foldl move l).get? j =
      ((ms.filter fun m => m.connection ≠ k).foldl move l').get? j := by
  induction ms generalizing l l' with
  | nil => exact h
  | cons m ms ih =>
    by_cases hm : m.connection = k
    · rw [List.foldl_cons, List.filter_cons_of_neg (by simpa using hm)]
      exact ih ((get?_move_of_ne (hm ▸ hj)).trans h)
    · rw [List.foldl_cons, List.filter_cons_of_pos (by simpa using hm), List.foldl_cons]
      exact ih (get?_move_congr h m)

end Lines

namespace Post

/-- Two states of the outboxes look the same to all but the client `k`: the others have the same
outboxes and do the same with them, they were offered the same and accepted the same, and `k` was
offered the same as well. -/
structure Alike (k : String) (p q : Post) : Prop where
  /-- The others have the same outboxes. -/
  lines : ∀ j, j ≠ k → p.lines.get? j = q.lines.get? j
  /-- The others were offered the same, and accepted the same of it. -/
  offers : (p.offers.filter fun o => o.client.id ≠ k) = q.offers.filter fun o => o.client.id ≠ k
  /-- Everybody was offered the same. -/
  told : (p.offers.map fun o => (o.client, o.event)) = q.offers.map fun o => (o.client, o.event)
  /-- The others do the same with their outboxes while the hub is at work. -/
  ahead : ∀ n, ((p.ahead n).filter fun m => m.connection ≠ k) =
    (q.ahead n).filter fun m => m.connection ≠ k

variable {k : String} {p q : Post}

/-- Clients other than `k` meet the next effect with the same outboxes. -/
theorem Alike.next (h : p.Alike k q) {j : String} (hj : j ≠ k) :
    p.next.get? j = q.next.get? j := by
  calc p.next.get? j
      = (((p.ahead 0).filter fun m => m.connection ≠ k).foldl Lines.move p.lines).get? j :=
        Lines.get?_foldl_move hj rfl _
    _ = (((q.ahead 0).filter fun m => m.connection ≠ k).foldl Lines.move p.lines).get? j := by
        rw [h.ahead]
    _ = q.next.get? j := (Lines.get?_foldl_move hj (h.lines j hj).symm _).symm

/-- An effect leaves the outboxes alike. Whether `k` accepts it is not seen by the others. -/
theorem Alike.reach (h : p.Alike k q) (e : Effect) : (p.reach e).Alike k (q.reach e) where
  lines j hj := Lines.get?_deliverOne_congr (h.next hj) e
  offers := by
    rw [Post.reach, Post.reach, List.filter_append, List.filter_append, h.offers]
    congr 1
    cases e with
    | close c => rfl
    | report i => rfl
    | send c event =>
      by_cases hc : c.id = k
      · -- what the client itself is offered is not compared
        simp [Effect.offer?, hc]
      · -- another client accepts what its own outbox has room for
        simp [Effect.offer?, Lines.accepts, h.next hc]
  told := by
    rw [Post.reach, Post.reach, List.map_append, List.map_append, h.told]
    congr 1
    cases e with
    | send c event => rfl
    | close c => rfl
    | report i => rfl
  ahead n := h.ahead (n + 1)

/-- If nobody does anything meanwhile, `reachAll` is `deliver`. -/
theorem lines_reachAll (l : Lines) (es : List Effect) :
    (reachAll { lines := l } es).lines = l.deliver es := by
  have hall : ∀ p : Post, p.ahead = (fun _ => []) → (p.reachAll es).lines = p.lines.deliver es := by
    induction es with
    | nil => exact fun _ _ => rfl
    | cons e es ih =>
      intro p hp
      have hnext : p.next = p.lines := by rw [next, hp, List.foldl_nil]
      have hreach := ih (p.reach e) (by rw [reach, hp])
      rw [show (p.reach e).lines = p.next.deliverOne e from rfl, hnext] at hreach
      exact hreach
  exact hall _ rfl

end Post

/-! ### Items over outboxes -/

namespace Hub

variable {h : Hub} {p q : Post} {item : Inbound}

/-- A relation between posts that every `reach` preserves gives a `Lockstep` relation: the hub and
the effects are the same on both sides, although sends may be accepted on one of them only. -/
theorem lockstep_of_reach {R : List Effect → Post → Post → Prop}
    (hR : ∀ es p q e, R es p q → R (es ++ [e]) (p.reach e) (q.reach e)) :
    Lockstep Eq fun t u => u.hub = t.hub ∧ u.effects = t.effects ∧ R t.effects t.post u.post where
  refl _ := rfl
  same := by
    rintro t u ⟨hhub, -⟩
    exact ⟨t.hub.outages, hhub⟩
  act := by
    rintro t u ⟨hhub, heffects, hpost⟩ e f hef
    -- the errors are related by equality, so reports are equal too
    have hsame : e = f := by
      cases hef with
      | refl => rfl
      | report incident related => rw [related]
    subst hsame
    exact ⟨hhub, congrArg (· ++ [e]) heffects, hR _ _ _ e hpost⟩
  live := by
    rintro t u ⟨hhub, hrest⟩ roster rooms
    exact ⟨congrArg (fun h : Hub => { h with roster, rooms }) hhub, hrest⟩
  draw := by
    rintro t u ⟨hhub, hrest⟩ drawn -
    exact ⟨congrArg (fun h : Hub => { h with drawn }) hhub, hrest⟩
  call := by
    rintro t u ⟨hhub, hrest⟩ kind
    rw [hhub]
    exact ⟨rel_self (fun _ => rfl) _, fun store => ⟨rfl, hrest⟩⟩

/-- `handleOver` does to the hub what `handle` does, and has the same effects, whatever the clients
accept and do meanwhile. Every send returns whether it was accepted, so this is a property of the
handlers. -/
theorem handleOver_eq (h : Hub) (p : Post) (item : Inbound) :
    h.handleOver p item =
      ⟨(h.handle item).1, (h.handle item).2, p.reachAll (h.handle item).2⟩ := by
  have hreach : Lockstep Eq fun t u => u.hub = t.hub ∧ u.effects = t.effects ∧
      u.post = p.reachAll t.effects :=
    lockstep_of_reach (R := fun es _ q => q = p.reachAll es) fun es _ q e hq => by
      rw [hq, Post.reachAll, Post.reachAll, List.foldl_append]
      rfl
  obtain ⟨hhub, heffects, hpost⟩ :=
    (take_uniform hreach item (t := { hub := h }) (u := { hub := h, post := p }) ⟨rfl, rfl, rfl⟩).2
  have hturn : ∀ t : Turn, t = ⟨t.hub, t.effects, t.post⟩ := fun _ => rfl
  rw [hturn (h.handleOver p item)]
  exact congr (congrArg₂ Turn.mk hhub heffects) hpost

/-- Posts that are `Alike` to all but one client remain so after an item. -/
theorem handleOver_alike {k : String} (hpq : p.Alike k q) (h : Hub) (item : Inbound) :
    (h.handleOver p item).post.Alike k (h.handleOver q item).post := by
  have halike : Lockstep Eq fun t u => u.hub = t.hub ∧ u.effects = t.effects ∧
      t.post.Alike k u.post :=
    lockstep_of_reach (R := fun _ p q => p.Alike k q) fun _ _ _ e hpq => hpq.reach e
  exact (take_uniform halike item (t := { hub := h, post := p }) (u := { hub := h, post := q })
    ⟨rfl, rfl, hpq⟩).2.2.2

end Hub

/-! ### Hub and outboxes -/

/-- The `hub` with the outboxes of its clients, the `lines`. -/
structure Exchange where
  /-- The hub. -/
  hub : Hub
  /-- The outboxes. -/
  lines : Lines := {}
  /-- All that was offered to the outboxes so far. -/
  offers : List Offer := []

namespace Exchange

/-- The single things that happen to an `Exchange`. -/
inductive Act where
  /-- The hub handles an item, while clients do things before each of its effects. -/
  | handle (item : Inbound) (ahead : Nat → List Lines.Move)
  /-- A client does something while the hub is idle. -/
  | move (m : Lines.Move)

/-- The client `k` does something while the hub is idle. -/
def Act.Concerns (k : String) : Act → Prop
  | .handle _ _ => False
  | .move m => m.connection = k

instance (k : String) : DecidablePred (Act.Concerns k)
  | .handle _ _ => inferInstanceAs (Decidable False)
  | .move m => inferInstanceAs (Decidable (m.connection = k))

/-- The same happens, apart from what the client `k` does meanwhile. -/
inductive Act.Alike (k : String) : Act → Act → Prop where
  /-- The hub handles the same item, and the other clients do the same before each of its effects.
  -/
  | handle (item : Inbound) {ahead ahead' : Nat → List Lines.Move}
      (same : ∀ n, ((ahead n).filter fun m => m.connection ≠ k) =
        (ahead' n).filter fun m => m.connection ≠ k) :
      Alike k (.handle item ahead) (.handle item ahead')
  /-- A client does the same. -/
  | move (m : Lines.Move) : Alike k (.move m) (.move m)

theorem Act.Alike.refl (k : String) (a : Act) : a.Alike k a := by
  cases a with
  | handle item ahead => exact .handle item fun _ => rfl
  | move m => exact .move m

theorem Act.Alike.concerns_iff {k : String} {a b : Act} (hab : a.Alike k b) :
    a.Concerns k ↔ b.Concerns k := by
  cases hab with
  | handle item same => exact Iff.rfl
  | move m => exact Iff.rfl

/-- What comes of a single `Act`. -/
def step (x : Exchange) : Act → Exchange
  | .handle item ahead =>
    let t := x.hub.handleOver ⟨x.lines, x.offers, ahead⟩ item
    ⟨t.hub, t.post.lines, t.post.offers⟩
  | .move m => { x with lines := x.lines.move m }

/-- What comes of all that happens, by `step`. -/
def steps (x : Exchange) (as : List Act) : Exchange := as.foldl step x

/-- The item that the hub handles in an `Act`. -/
def Act.item? : Act → Option Inbound
  | .handle item _ => some item
  | .move _ => none

/-- The states that are passed through, apart from those after something that the client `k` did. -/
def trail (k : String) (x : Exchange) : List Act → List Exchange
  | [] => []
  | a :: as =>
    if a.Concerns k then (x.step a).trail k as else x.step a :: (x.step a).trail k as

/-- What the clients other than one have to do with in an `Exchange`. -/
structure View where
  /-- The hub, with its directories and its store. -/
  hub : Hub
  /-- The outboxes of the others. -/
  outboxes : String → Option Outbox
  /-- All that was offered to the others, with what they accepted. -/
  offers : List Offer
  /-- All that was offered to anybody. -/
  told : List (Connection × ServerEvent)

/-- What others than the client `k` have to do with. -/
def view (k : String) (x : Exchange) : View where
  hub := x.hub
  outboxes j := if j = k then none else x.lines.get? j
  offers := x.offers.filter fun o => o.client.id ≠ k
  told := x.offers.map fun o => (o.client, o.event)

variable {x y : Exchange} {k : String} {a b : Act}

/-- An item takes the hub where `Hub.handle` does, and the outboxes where its effects take them. -/
theorem step_handle (x : Exchange) (item : Inbound) (ahead : Nat → List Lines.Move) :
    x.step (.handle item ahead) = ⟨(x.hub.handle item).1,
      (Post.reachAll ⟨x.lines, x.offers, ahead⟩ (x.hub.handle item).2).lines,
      (Post.reachAll ⟨x.lines, x.offers, ahead⟩ (x.hub.handle item).2).offers⟩ := by
  rw [step, Hub.handleOver_eq]

/-- The hub of `steps` is that of `run` over the items that it handled. -/
theorem hub_steps (x : Exchange) (as : List Act) :
    (x.steps as).hub = (x.hub.run (as.filterMap Act.item?)).1 := by
  induction as generalizing x with
  | nil => rfl
  | cons a as ih =>
    rw [show x.steps (a :: as) = (x.step a).steps as from rfl, ih]
    cases a with
    | handle item ahead =>
      rw [step_handle]
      rfl
    | move m => rfl

/-! ### Views -/

/-- Others than `k` have the same view if the hub is the same and the outboxes are alike. -/
theorem view_eq_iff : x.view k = y.view k ↔ x.hub = y.hub ∧
    Post.Alike k ⟨x.lines, x.offers, fun _ => []⟩ ⟨y.lines, y.offers, fun _ => []⟩ := by
  -- `View` leaves one outbox out by a function, `Alike` by a condition
  have houtboxes : ((fun j => if j = k then none else x.lines.get? j) =
      fun j => if j = k then none else y.lines.get? j) ↔
      ∀ j, j ≠ k → x.lines.get? j = y.lines.get? j := by
    constructor
    · intro h j hj
      have hboth := congrFun h j
      rwa [if_neg hj, if_neg hj] at hboth
    · intro h
      funext j
      split_ifs with hj
      · rfl
      · exact h j hj
  simp only [view, View.mk.injEq, houtboxes]
  refine and_congr_right fun _ => ⟨?_, ?_⟩
  · rintro ⟨hlines, hoffers, htold⟩
    exact ⟨hlines, hoffers, htold, fun _ => rfl⟩
  · rintro ⟨hlines, hoffers, htold, -⟩
    exact ⟨hlines, hoffers, htold⟩

/-- What the client `k` does while the hub is idle is not in the view of the others. -/
theorem view_step_of_concerns (ha : a.Concerns k) : (x.step a).view k = x.view k := by
  cases a with
  | handle item ahead => exact ha.elim
  | move m =>
    obtain rfl : m.connection = k := ha
    -- it changes its own outbox only
    exact view_eq_iff.2 ⟨rfl, fun j hj => Lines.get?_move_of_ne hj, rfl, rfl, fun _ => rfl⟩

/-- `step` changes the `view` of the others in a way that depends on that view only. -/
theorem view_step_congr (h : x.view k = y.view k) (hab : a.Alike k b) :
    (x.step a).view k = (y.step b).view k := by
  obtain ⟨hhub, hposts⟩ := view_eq_iff.1 h
  cases hab with
  | handle item same =>
    rename_i ahead ahead'
    -- what the clients do meanwhile is alike, and so are the posts
    have halike : Post.Alike k ⟨x.lines, x.offers, ahead⟩ ⟨y.lines, y.offers, ahead'⟩ :=
      ⟨hposts.lines, hposts.offers, hposts.told, same⟩
    have hafter := Hub.handleOver_alike halike x.hub item
    refine view_eq_iff.2 ⟨?_, ?_⟩
    · rw [step_handle, step_handle, hhub]
    · rw [step, step, ← hhub]
      exact ⟨hafter.lines, hafter.offers, hafter.told, fun _ => rfl⟩
  | move m =>
    exact view_eq_iff.2 ⟨hhub, fun j hj => Lines.get?_move_congr (hposts.lines j hj) m,
      hposts.offers, hposts.told, fun _ => rfl⟩

/-! ### What happens one after the other -/

/-- What the client `k` does while the hub is idle can be left out. -/
theorem map_view_trail (h : x.view k = y.view k) (as : List Act) :
    (x.trail k as).map (view k) =
      (y.trail k (as.filter fun a => ¬ a.Concerns k)).map (view k) := by
  induction as generalizing x y with
  | nil => rfl
  | cons a as ih =>
    by_cases ha : a.Concerns k
    · -- it is left out on one side, and the others do not see it on the other one
      rw [trail, if_pos ha, List.filter_cons_of_neg (by simpa using ha)]
      exact ih ((view_step_of_concerns ha).trans h)
    · -- it is the next one on both sides
      have hstep := view_step_congr h (.refl k a)
      rw [trail, if_neg ha, List.filter_cons_of_pos (by simpa using ha), trail, if_neg ha,
        List.map_cons, List.map_cons, hstep, ih hstep]

/-- Courses of acts that are `Alike` one by one lead through states of equal `view`. -/
theorem map_view_trail_congr {as bs : List Act} (h : x.view k = y.view k)
    (hsame : List.Forall₂ (Act.Alike k) as bs) :
    (x.trail k as).map (view k) = (y.trail k bs).map (view k) := by
  induction hsame generalizing x y with
  | nil => rfl
  | @cons a b as bs hab _ ih =>
    have hstep := view_step_congr h hab
    by_cases ha : a.Concerns k
    · rw [trail, if_pos ha, trail, if_pos (hab.concerns_iff.1 ha), ih hstep]
    · rw [trail, if_neg ha, trail, if_neg (mt hab.concerns_iff.2 ha), List.map_cons, List.map_cons,
        hstep, ih hstep]

/-- **A slow client has no influence on others.** Two courses of events may differ in how much may
wait for a client, in when it takes what waits for it, and in when it stops listening, be it between
two items or in the middle of one. The others have the same view after every item: the hub is the
same, with its directories and its store, the same was sent to everybody, and the others accepted
the same of it. -/
theorem views_of_same_acts (h : x.view k = y.view k) {as bs : List Act}
    (hsame : List.Forall₂ (Act.Alike k) (as.filter fun a => ¬ a.Concerns k)
      (bs.filter fun a => ¬ a.Concerns k)) :
    (x.trail k as).map (view k) = (y.trail k bs).map (view k) := by
  calc (x.trail k as).map (view k)
      = (x.trail k (as.filter fun a => ¬ a.Concerns k)).map (view k) := map_view_trail rfl as
    _ = (y.trail k (bs.filter fun a => ¬ a.Concerns k)).map (view k) :=
        map_view_trail_congr h hsame
    _ = (y.trail k bs).map (view k) := (map_view_trail rfl bs).symm

/-- `Hub.meeting`, where `ann` takes what waits for it. -/
def prompt : List Act :=
  [.move (.connect "1" 8 true), .move (.connect "2" 8 true)] ++
    Hub.meeting.map (.handle · fun _ => []) ++ [.move (.take "1" 1)]

/-- `Hub.meeting`, where `ann` stops listening after `bob` was told of the room, and before `ann` is
answered. -/
def deaf : List Act :=
  [.move (.connect "2" 8 true), .move (.connect "1" 1 true)] ++
    Hub.meeting.map (.handle · fun n => if n = 1 then [.hangUp "1"] else [])

/-- One client takes its answer and the other is deaf; the `view` of the other member is the same.
-/
theorem views_of_prompt_and_deaf :
    (steps { hub := Hub.lobby [] } prompt).offers.map Offer.accepted = [true, true] ∧
    (steps { hub := Hub.lobby [] } deaf).offers.map Offer.accepted = [true, false] ∧
    List.Forall₂ (Act.Alike "1") (prompt.filter fun a => ¬ a.Concerns "1")
      (deaf.filter fun a => ¬ a.Concerns "1") ∧
    (trail "1" { hub := Hub.lobby [] } prompt).map (view "1") =
      (trail "1" { hub := Hub.lobby [] } deaf).map (view "1") := by
  have hhandle : ∀ item, Act.Alike "1" (.handle item fun _ => [])
      (.handle item fun n => if n = 1 then [.hangUp "1"] else []) := fun item =>
    .handle item fun n => by split <;> rfl
  have hsame : List.Forall₂ (Act.Alike "1") (prompt.filter fun a => ¬ a.Concerns "1")
      (deaf.filter fun a => ¬ a.Concerns "1") :=
    .cons (.move _) (.cons (hhandle _) (.cons (hhandle _) (.cons (hhandle _) .nil)))
  exact ⟨by decide +kernel, by decide +kernel, hsame, views_of_same_acts rfl hsame⟩

end Exchange

end GroupChat
