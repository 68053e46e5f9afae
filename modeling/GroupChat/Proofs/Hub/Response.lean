import GroupChat.Proofs.Hub.Authority
import GroupChat.Proofs.Hub.Trace

/-!
# One answer for each frame

A frame of a registered connection is answered once, whatever the store does: with its error, or
with what came of it. When it did something, the other devices of the account are told the same.
That somebody types is told to the other devices only. Nobody else is told an answer, and so a
connection gets the answers in the order of its frames.

## Main definitions

- `Hub.answersTo`: the answers among what a connection is told.
- `Hub.outcome`: what became of the frame in an item.
- `Hub.due`: the answers that a connection is due for a frame.
- `Hub.awaited`: the frames of a connection that await an answer.
- `Turn.Responds`: some answers were told, and no others.

## Main statements

- `dispatch_responds`: what is answered when an event is carried out or fails.
- `Coherent.answersTo_handle`: a frame is answered as it is due.
- `Coherent.settles_run`: the answers of a run are those of the awaited frames, in their order.
- `answered_of_reachable`: both, in all states.
-/

namespace GroupChat

/-- The kinds of requests of which the other devices of an account are told, by a `.forward`. -/
def ClientEvent.sharedKinds : List String := "typing" :: "chat" :: membershipKinds

/-- An item that a client sent as a frame: an `.event` or a `.malformed` one. -/
def Inbound.IsFrame : Inbound → Prop
  | .event _ _ | .malformed _ _ => True
  | .register _ | .unregister _ => False

instance : DecidablePred Inbound.IsFrame
  | .event _ _ | .malformed _ _ => inferInstanceAs (Decidable True)
  | .register _ | .unregister _ => inferInstanceAs (Decidable False)

/-- `Admits` is true of `.register` only, which is no frame. -/
theorem Inbound.IsFrame.not_admits {item : Inbound} (hframe : item.IsFrame) (k : String) :
    ¬ item.Admits k := by
  cases item with
  | register c => exact hframe.elim
  | event c e | malformed c err | unregister c => exact id

/-- The kind of request that the frame of an item names, `Envelope.kind`. -/
def Inbound.kind : Inbound → String
  | .event _ e => e.kind
  | .malformed _ _ | .register _ | .unregister _ => ""

/-- Whether a client is told what became of its own frame: `.success` or `.error`. -/
def ServerEvent.isVerdict : ServerEvent → Bool
  | .success _ | .error _ => true
  | .forward _ | .chat _ | .notification _ | .invited _ => false

/-- Whether a client is told what became of a frame, be it its own (`isVerdict`) or one of another
device (`.forward`). -/
def ServerEvent.isAnswer : ServerEvent → Bool
  | .success _ | .error _ | .forward _ => true
  | .chat _ | .notification _ | .invited _ => false

/-- The answer (`ServerEvent.isAnswer`) that the connection `d` is told, if that is what an effect
does. -/
def Effect.answerTo? (d : Connection) : Effect → Option ServerEvent
  | .send c event => if c = d ∧ event.isAnswer = true then some event else none
  | .close _ | .report _ => none

namespace Hub

/-- The answers among what the connection `d` is told by `effects`. -/
def answersTo (d : Connection) (effects : List Effect) : List ServerEvent :=
  effects.filterMap (Effect.answerTo? d)

/-- What becomes of the frame in an item when `h` handles it: it is carried out, or it fails with an
error. -/
def outcome (h : Hub) : Inbound → Except ChatError Unit
  | .event c e => ((serve c e).run { hub := h }).1
  | .malformed _ e => .error e
  | .register _ | .unregister _ => .ok ()

/-- The answers that a connection `d` is due for a frame. An error is told to the origin only. What
came of a frame that was carried out is told to the origin, unless it told that somebody types, and
to the other devices of the account, unless it only asked something: the name of the event in the
frame, and one and the same result. -/
def due (h : Hub) (item : Inbound) (result : Json) (d : Connection) : List ServerEvent :=
  match h.outcome item with
  | .error e => if d = item.connection then [.error ⟨e.code, e.message⟩] else []
  | .ok () =>
    if d = item.connection then
      if item.kind = "typing" then [] else [.success ⟨item.kind, some result⟩]
    else if item.kind ∈ ClientEvent.sharedKinds ∧ h.roster.Holds d ∧
        d.account = item.connection.account then
      [.forward ⟨item.kind, some result⟩]
    else []

/-- The connection `c` awaits to be told what became of the frame in the `item`: it is its own, it
is registered, and the frame does not tell that somebody types, unless that fails (`outcome`). -/
def Awaits (h : Hub) (c : Connection) (item : Inbound) : Prop :=
  item.IsFrame ∧ item.connection = c ∧ h.roster.Holds c ∧
    (item.kind = "typing" → (h.outcome item).isOk = false)

instance (h : Hub) (c : Connection) (item : Inbound) : Decidable (h.Awaits c item) :=
  inferInstanceAs (Decidable (_ ∧ _ ∧ _ ∧ (_ → _)))

/-- The frames of which the connection `c` awaits to be told (`Awaits`), in their order, each with
its `outcome`. -/
def awaited (h : Hub) (c : Connection) : List Inbound → List (Inbound × Except ChatError Unit)
  | [] => []
  | item :: rest =>
    if h.Awaits c item then (item, h.outcome item) :: (h.handle item).1.awaited c rest
    else (h.handle item).1.awaited c rest

/-- The `event` answers a `frame`: with its error, or with `.success` under the name of its kind. -/
def Settles (frame : Inbound × Except ChatError Unit) (event : ServerEvent) : Prop :=
  match frame.2 with
  | .error e => event = .error ⟨e.code, e.message⟩
  | .ok () => ∃ result, event = .success ⟨frame.1.kind, some result⟩

/-- What is answered to `c` and the other devices of its account when a frame of this `kind` was
carried out. -/
def responses (roster : Roster) (c : Connection) (kind : String) (result : Json) : List Effect :=
  (if kind = "typing" then [] else [.send c (.success ⟨kind, some result⟩)]) ++
    if kind ∈ ClientEvent.sharedKinds then
      (roster.othersOf c).map fun d => .send d (.forward ⟨kind, some result⟩)
    else []

/-- Between `t` and `u` the answers in `told` were told, and else nothing that is an answer. -/
structure Turn.Responds (t u : Turn) (told : List Effect) : Prop where
  /-- The connections stayed. -/
  roster : u.hub.roster = t.hub.roster
  /-- The answers that were told. -/
  answers : ∀ d, answersTo d u.effects = answersTo d t.effects ++ answersTo d told

variable {h : Hub} {t u v : Turn} {c d : Connection} {item : Inbound} {es fs : List Effect}

/-! ### Answers among effects -/

theorem answersTo_append (d : Connection) (es fs : List Effect) :
    answersTo d (es ++ fs) = answersTo d es ++ answersTo d fs :=
  List.filterMap_append

theorem answersTo_eq_nil (hes : ∀ e ∈ es, e.answerTo? d = none) : answersTo d es = [] :=
  List.filterMap_eq_nil_iff.2 hes

/-- `answerTo?` does not see news. -/
theorem answerTo?_of_isNews {e : Effect} (he : e.IsNews) : e.answerTo? d = none := by
  cases e with
  | send c event => cases event <;> simp_all [Effect.IsNews, Effect.answerTo?, ServerEvent.isAnswer]
  | close c => rfl
  | report i => rfl

theorem answersTo_of_isNews (hes : ∀ e ∈ es, e.IsNews) : answersTo d es = [] :=
  answersTo_eq_nil fun e he => answerTo?_of_isNews (hes e he)

/-- `answerTo?` does not see reports about undoing. -/
theorem answerTo?_of_isUndoFailure {e : Effect} (he : e.IsUndoFailure) : e.answerTo? d = none := by
  cases e with
  | send c event => exact he.elim
  | close c => rfl
  | report i => rfl

/-- `answersTo` of one `.send` of an answer has it for its client only. -/
theorem answersTo_send (d c : Connection) {event : ServerEvent} (he : event.isAnswer = true) :
    answersTo d [.send c event] = if d = c then [event] else [] := by
  by_cases hd : d = c
  · simp [answersTo, Effect.answerTo?, he, hd]
  · simp [answersTo, Effect.answerTo?, Ne.symm hd, hd]

theorem answersTo_sendAll_eq_nil (ds : List Connection) (d : Connection) {event : ServerEvent}
    (he : event.isAnswer = false) : answersTo d (ds.map fun c => .send c event) = [] := by
  refine answersTo_eq_nil fun e hmem => ?_
  obtain ⟨c, -, rfl⟩ := List.mem_map.1 hmem
  simp [Effect.answerTo?, he]

/-- `answersTo` of one answer for several clients has it once for each, if they are different. -/
theorem answersTo_sendAll {ds : List Connection} (hn : ds.Nodup) (d : Connection)
    {event : ServerEvent} (he : event.isAnswer = true) :
    answersTo d (ds.map fun c => .send c event) = if d ∈ ds then [event] else [] := by
  induction ds with
  | nil => rfl
  | cons c ds ih =>
    rw [List.nodup_cons] at hn
    have hcons : answersTo d ((c :: ds).map fun c => .send c event) =
        answersTo d [.send c event] ++ answersTo d (ds.map fun c => .send c event) :=
      answersTo_append d [.send c event] _
    rw [hcons, ih hn.2, answersTo_send d c he]
    by_cases hd : d = c
    · -- the first of them is not among the others
      subst hd
      simp [hn.1]
    · simp [hd]

/-! ### What is answered in a turn -/

section Turn

variable {rooms : LiveRooms} {store : Store}

theorem Turn.Becomes.responds (hb : t.Becomes u rooms store es) : t.Responds u es where
  roster := hb.roster
  answers d := by rw [hb.effects, answersTo_append]

theorem Turn.Responds.congr (hu : t.Responds u es) (h : ∀ d, answersTo d es = answersTo d fs) :
    t.Responds u fs where
  roster := hu.roster
  answers d := by rw [hu.answers, h]

theorem Turn.Responds.trans (hu : t.Responds u es) (hv : u.Responds v fs) :
    t.Responds v (es ++ fs) where
  roster := hv.roster.trans hu.roster
  answers d := by rw [hv.answers, hu.answers, answersTo_append, List.append_assoc]

theorem Turn.Asks.responds (ha : t.Asks u) : t.Responds u [] := Becomes.responds ha

theorem Turn.Informs.responds (hu : t.Informs u) : t.Responds u [] := by
  obtain ⟨news, hb, hnews⟩ := hu
  exact hb.responds.congr fun _ => answersTo_of_isNews hnews

theorem Turn.Undoes.responds {reports : List Effect} (hu : t.Undoes u reports) :
    t.Responds u [] :=
  hu.1.responds.congr fun _ => answersTo_eq_nil fun e he => answerTo?_of_isUndoFailure (hu.2 e he)

theorem Turn.Answers.responds {kind : String} {result : Json} (hu : t.Answers u c kind result) :
    t.Responds u (answers t.hub.roster c kind result) := by
  obtain ⟨news, hnews, hb⟩ := hu
  refine hb.responds.congr fun _ => ?_
  rw [answersTo_append, answersTo_of_isNews hnews]
  rfl

/-- `replyAndForward` answers as `responses` says, for the kinds that other devices are told of. -/
theorem Turn.Answers.responds_shared {kind : String} {result : Json}
    (hu : t.Answers u c kind result) (hk : kind ∈ "chat" :: ClientEvent.membershipKinds) :
    t.Responds u (responses t.hub.roster c kind result.canonical) := by
  -- it is not typing, and the other devices are told
  have htyping : kind ≠ "typing" := by
    rintro rfl
    exact absurd hk (by decide)
  have hshared : kind ∈ ClientEvent.sharedKinds := List.mem_cons_of_mem _ hk
  rw [responses, if_neg htyping, if_pos hshared]
  exact hu.responds

/-- `reply` answers as `responses` says, for the kinds that other devices are not told of. -/
theorem Turn.Replies.responds {kind : String} (hu : t.Replies u c kind)
    (hk : kind ∉ ClientEvent.sharedKinds) :
    ∃ result, t.Responds u (responses t.hub.roster c kind result) := by
  obtain ⟨result, hb⟩ := hu
  have htyping : kind ≠ "typing" := by
    rintro rfl
    exact hk List.mem_cons_self
  -- only the origin is told
  refine ⟨result.canonical, ?_⟩
  rw [responses, if_neg htyping, if_neg hk]
  exact hb.responds

theorem Turn.Writes.responds {room : LiveRoom} {text : String} (hu : t.Writes u c room text) :
    ∃ result, t.Responds u (responses t.hub.roster c "chat" result) := by
  obtain ⟨message, -, -, -, hb⟩ := hu
  refine ⟨(Wire.chatView.shape.toJson ⟨message, c.name⟩).canonical, hb.responds.congr fun d => ?_⟩
  -- what the others in the room are told is no answer
  rw [answersTo_append, answersTo_sendAll_eq_nil _ d rfl]
  rfl

/-- `Types` forwards to the other devices of the account. It is the only request that is not
answered with success. -/
theorem Turn.Types.responds {room : LiveRoom} (hu : t.Types u c room) :
    ∃ result, t.Responds u (responses t.hub.roster c "typing" result) := by
  obtain ⟨view, result, hb⟩ := hu
  refine ⟨result.canonical, hb.responds.congr fun d => ?_⟩
  -- what the others in the room are told is no answer
  rw [answersTo_append, answersTo_sendAll_eq_nil _ d rfl]
  rfl

/-- `Opens` answers nothing, so what `Responds` after it does so as a whole. -/
theorem Turn.Opens.responds {s : Turn} {room? user? : Option String} {room : LiveRoom}
    {kind : String} (ho : t.Opens s c room? user? room)
    (hu : ∃ result, s.Responds u (responses s.hub.roster c kind result)) :
    ∃ result, t.Responds u (responses t.hub.roster c kind result) := by
  have hs : t.Responds s [] := ho.informs.responds
  obtain ⟨result, hu⟩ := hu
  rw [hs.roster] at hu
  exact ⟨result, hs.trans hu⟩

end Turn

/-! ### One event -/

/-- `dispatch` that succeeds `Responds` with the `responses` of its kind, and one that fails has
answered nothing until then. -/
theorem dispatch_responds (hc : t.hub.Coherent) (c : Connection) (event : ClientEvent) :
    Request.Gives (dispatch c event) t (fun _ u => t.Responds u []) fun _ u =>
      ∃ result, t.Responds u (responses t.hub.roster c event.kind result) := by
  -- by kinds: what a handler leaves behind when it fails, and what it tells when it does not
  cases event with
  | typing r =>
    refine (typing_gives hc c r).mono (fun _ _ h => h.responds) ?_
    rintro - u ⟨room, s, hr, hu⟩
    exact Turn.Opens.responds (Or.inl hr) hu.responds
  | chat r =>
    refine (chat_gives hc c r).mono ?_ ?_
    · rintro err u (⟨h, -⟩ | ⟨f, -, ms, reports, -, hu, -⟩ | ⟨room, s, ho, hu, -⟩)
      · exact h.1.responds
      · exact hu.responds
      · exact ho.informs.responds.trans hu.responds
    · rintro - u ⟨room, s, ho, hu⟩
      exact ho.responds hu.responds
  | createRoom r =>
    refine (createRoom_gives hc c r).mono ?_ ?_
    · rintro err u (h | ⟨f, ms, reports, -, hu, -⟩)
      · exact h.1.responds
      · exact hu.responds
    · rintro - u ⟨f, -, -, result, hu⟩
      have hshared := hu.responds_shared (by decide)
      exact ⟨_, hshared⟩
  | joinRoom r =>
    refine (joinRoom_gives hc c r).mono (fun _ _ h => h.1.responds) ?_
    rintro - u ⟨info, -, -, -, -, hu⟩
    have hshared := hu.responds_shared (by decide)
    exact ⟨_, hshared⟩
  | leaveRoom r =>
    refine (leaveRoom_gives hc c r).mono (fun _ _ h => h.1.responds) ?_
    rintro - u ⟨info, -, -, -, -, -, hu⟩
    have hshared := hu.responds_shared (by decide)
    exact ⟨_, hshared⟩
  | inviteRoom r =>
    refine (inviteRoom_gives hc c r).mono ?_ ?_
    · rintro err u ⟨h | ⟨info, kept, reports, -, hu, -⟩, -⟩
      · exact h.responds
      · exact hu.responds
    · rintro - u ⟨info, -, -, -, hu⟩
      have hshared := hu.responds_shared (by decide)
      exact ⟨_, hshared⟩
  | kickRoom r =>
    refine (kickRoom_gives hc c r).mono ?_ ?_
    · rintro err u ⟨h | ⟨info, lost, reports, -, hu, -⟩, -⟩
      · exact h.responds
      · exact hu.responds
    · rintro - u ⟨info, -, -, -, hu⟩
      have hshared := hu.responds_shared (by decide)
      exact ⟨_, hshared⟩
  | getUsers r =>
    refine (getUsers_gives c r t).mono (fun _ _ h => h.responds) fun _ u hu => ?_
    have hreply := hu.responds (by decide)
    exact hreply
  | getChats r =>
    refine (getChats_gives hc c r).mono (fun _ _ h => h.responds) fun _ u hu => ?_
    have hreply := hu.responds (by decide)
    exact hreply
  | getNotifications r =>
    refine (getNotifications_gives hc c r).mono (fun _ _ h => h.responds) fun _ u hu => ?_
    have hreply := hu.responds (by decide)
    exact hreply
  | userRooms =>
    refine (userRooms_gives c t).mono (fun _ _ h => h.responds) fun _ u hu => ?_
    have hreply := hu.responds (by decide)
    exact hreply

/-! ### One item -/

/-- The answers in `responses` to a connection: success if it is the origin, and a forward if it is
another device. -/
theorem answersTo_responses {roster : Roster} (hr : roster.Sound) (c d : Connection) (kind : String)
    (result : Json) : answersTo d (responses roster c kind result) =
      (if d = c ∧ kind ≠ "typing" then [.success ⟨kind, some result⟩] else []) ++
        if kind ∈ ClientEvent.sharedKinds ∧ d ∈ roster.othersOf c then
          [.forward ⟨kind, some result⟩] else [] := by
  rw [responses, answersTo_append]
  congr 1
  · by_cases hk : kind = "typing"
    · rw [if_pos hk, if_neg fun h => h.2 hk]
      rfl
    · rw [if_neg hk, answersTo_send d c rfl]
      simp only [hk, ne_eq, not_false_eq_true, and_true]
  · by_cases hk : kind ∈ ClientEvent.sharedKinds
    · rw [if_pos hk, answersTo_sendAll (hr.nodup_othersOf c) d rfl]
      simp only [hk, true_and]
    · rw [if_neg hk, if_neg fun h => hk h.1]
      rfl

/-- If `outcome` is `.ok`, the `responses` are what is `due` to each connection. -/
theorem Coherent.answersTo_eq_due (hc : h.Coherent) (hreg : h.roster.Holds item.connection)
    (hok : h.outcome item = .ok ()) (result : Json) (d : Connection) :
    answersTo d (responses h.roster item.connection item.kind result) = h.due item result d := by
  rw [answersTo_responses hc.roster, due, hok]
  simp only [hc.roster.mem_othersOf hreg]
  by_cases hd : d = item.connection
  · -- the origin is not one of the others
    simp [hd]
  · simp [hd]

/-- `handle` of `.malformed` from a registered client sends its error, and nothing else happens. -/
theorem handle_malformed (hreg : h.roster.Holds c) (err : ChatError) :
    h.handle (.malformed c err) = (h, [.send c (.ofError err)]) := by
  have htake : take (.malformed c err) { hub := h } =
      ((), Turn.doing { hub := h } (.send c (.ofError err))) := by
    show (if (h.roster.get? c.id).isSome then answering c (throw err) else pure ()) _ = _
    rw [show h.roster.get? c.id = some c from hreg]
    rfl
  rw [handle, handleOver, show (take (.malformed c err)).run { hub := h } = _ from htake]
  rfl

/-- `serve` answers as `responses` says if it succeeds, and not at all if it fails. -/
theorem serve_responds (hc : t.hub.Coherent) (c : Connection) (e : Envelope) :
    Request.Gives (serve c e) t (fun _ u => t.Responds u []) fun _ u =>
      ∃ result, t.Responds u (responses t.hub.roster c e.kind result) := by
  unfold serve
  -- an envelope that holds no event fails before anything is done
  refine Request.Gives.except_bind (fun _ _ => (Turn.Asks.refl t).responds) fun event he => ?_
  rw [← ClientEvent.kind_of_decode he]
  exact dispatch_responds hc c event

/-- `answersTo` after `handle` of a frame is what is `due`, for one result that all connections
share. -/
theorem Coherent.answersTo_handle (hc : h.Coherent) (hframe : item.IsFrame)
    (hreg : h.roster.Holds item.connection) :
    ∃ result, ∀ d, answersTo d (h.handle item).2 = h.due item result d := by
  cases item with
  | register c => exact hframe.elim
  | unregister c => exact hframe.elim
  | malformed c err =>
    have hanswer : h.handle (.malformed c err) = (h, [.send c (.ofError err)]) :=
      handle_malformed hreg err
    refine ⟨default, fun d => ?_⟩
    rw [hanswer, answersTo_send d c rfl]
    rfl
  | event c e =>
    have hserve := (serve_responds (t := { hub := h }) hc c e).with_run
    rcases handle_event hserve with ⟨hnone, -⟩ | ⟨u, ⟨⟨result, hu⟩, hrun⟩, hh⟩ |
      ⟨err, s, ⟨hs, hrun⟩, hh⟩
    · rw [show h.roster.get? c.id = some c from hreg] at hnone
      cases hnone
    · -- it was carried out
      have hok : h.outcome (.event c e) = .ok () := congrArg Prod.fst hrun
      refine ⟨result, fun d => ?_⟩
      rw [hh, hu.answers]
      exact hc.answersTo_eq_due hreg hok result d
    · -- it failed, and nothing had been answered before its error
      have herror : h.outcome (.event c e) = .error err := congrArg Prod.fst hrun
      refine ⟨default, fun d => ?_⟩
      rw [hh, answersTo_append, hs.answers, due, herror, answersTo_send d c rfl]
      rfl

/-- `.register` and `.unregister` answer nobody. -/
theorem Coherent.answersTo_of_not_frame (hc : h.Coherent) (hf : item.Fits h)
    (hframe : ¬ item.IsFrame) (d : Connection) : answersTo d (h.handle item).2 = [] := by
  cases item with
  | register c =>
    exact answersTo_of_isNews (isNews_of_register hc c)
  | unregister c =>
    rcases handle_unregister hc hf with ⟨-, hsame⟩ | ⟨-, news, heffects, hnews⟩
    · rw [hsame]
      rfl
    · -- the connection is closed, and the rest is news
      rw [heffects]
      show answersTo d ([.close c] ++ news) = []
      rw [answersTo_append, answersTo_of_isNews hnews]
      rfl
  | event c e => exact absurd trivial hframe
  | malformed c err => exact absurd trivial hframe

/-! ### A run -/

theorem run_cons (h : Hub) (item : Inbound) (items : List Inbound) :
    (h.run (item :: items)).2 = (h.handle item).2 ++ ((h.handle item).1.run items).2 :=
  rfl

/-- Among what is `due` to a connection, only what became of its own frame is a verdict
(`isVerdict`). -/
theorem verdicts_due (h : Hub) (item : Inbound) (result : Json) (c : Connection) :
    ((h.due item result c).filter ServerEvent.isVerdict = [] ∧
        ¬ (c = item.connection ∧ (item.kind = "typing" → (h.outcome item).isOk = false))) ∨
      ∃ event, (h.due item result c).filter ServerEvent.isVerdict = [event] ∧
        Settles (item, h.outcome item) event ∧ c = item.connection ∧
        (item.kind = "typing" → (h.outcome item).isOk = false) := by
  rw [due]
  cases h.outcome item with
  | error err =>
    by_cases hc : c = item.connection
    · refine Or.inr ⟨.error ⟨err.code, err.message⟩, ?_, rfl, hc, fun _ => rfl⟩
      simp [hc, ServerEvent.isVerdict]
    · exact Or.inl ⟨by simp [hc], fun h => hc h.1⟩
  | ok =>
    by_cases hc : c = item.connection
    · by_cases hk : item.kind = "typing"
      · refine Or.inl ⟨by simp [hc, hk], fun hawaits => ?_⟩
        cases hawaits.2 hk
      · refine Or.inr ⟨.success ⟨item.kind, some result⟩, ?_, ⟨result, rfl⟩, hc,
          fun h => absurd h hk⟩
        simp [hc, hk, ServerEvent.isVerdict]
    · -- another device is told of it at most, which is no verdict
      refine Or.inl ⟨?_, fun h => hc h.1⟩
      dsimp only
      rw [if_neg hc]
      split_ifs <;> rfl

/-- An item that a connection `Awaits` gives it one verdict that `Settles` it; any other gives it
none. -/
theorem Coherent.verdicts_handle (hc : h.Coherent) (hf : item.Fits h) (c : Connection) :
    (¬ h.Awaits c item ∧ (answersTo c (h.handle item).2).filter ServerEvent.isVerdict = []) ∨
      (h.Awaits c item ∧ ∃ event, Settles (item, h.outcome item) event ∧
        (answersTo c (h.handle item).2).filter ServerEvent.isVerdict = [event]) := by
  by_cases hframe : item.IsFrame
  swap
  · refine Or.inl ⟨fun h => hframe h.1, ?_⟩
    rw [hc.answersTo_of_not_frame hf hframe]
    rfl
  cases hget : h.roster.get? item.connection.id with
  | none =>
    -- the client is not registered, and nothing is done
    refine Or.inl ⟨fun hawaits => ?_, ?_⟩
    · obtain ⟨-, rfl, hreg, -⟩ := hawaits
      rw [Roster.Holds, hget] at hreg
      cases hreg
    · rw [handle_of_get?_eq_none hc hget (hframe.not_admits _)]
      rfl
  | some d =>
    have hreg : h.roster.Holds item.connection := by
      rw [Roster.Holds, hget, hf d hget]
    obtain ⟨result, hdue⟩ := hc.answersTo_handle hframe hreg
    rw [hdue]
    rcases verdicts_due h item result c with ⟨hnil, hnot⟩ | ⟨event, hone, hsettles, rfl, htyping⟩
    · exact Or.inl ⟨fun hawaits => hnot ⟨hawaits.2.1.symm, hawaits.2.2.2⟩, hnil⟩
    · exact Or.inr ⟨⟨hframe, rfl, hreg, htyping⟩, event, hsettles, hone⟩

/-- Along `run`, the verdicts for a connection are those of the frames that it `awaited`, in their
order; by induction on the items. -/
theorem Coherent.settles_run (hc : h.Coherent) {items : List Inbound} (hf : h.Follows items)
    (c : Connection) :
    List.Forall₂ Settles (h.awaited c items)
      ((answersTo c (h.run items).2).filter ServerEvent.isVerdict) := by
  induction items generalizing h with
  | nil => exact .nil
  | cons item items ih =>
    have hc' := (handle_moves hc hf.1).1.coherent hf.1 hc
    have hrest := ih hc' hf.2
    rw [run_cons, answersTo_append, List.filter_append, awaited]
    rcases hc.verdicts_handle hf.1 c with ⟨hnot, hnil⟩ | ⟨hawaits, event, hsettles, hone⟩
    · rw [if_neg hnot, hnil]
      exact hrest
    · rw [if_pos hawaits, hone]
      exact .cons hsettles hrest

/-! ### All states -/

/-- **Each frame is answered once, and to whom it concerns.** In every state that a hub reaches from
one without rooms, whichever calls to the store fail, a frame of a registered connection is answered
as it is `due`, and with no other answers to anybody. Over a run, a connection is told what became
of its own frames one by one, in their order. -/
theorem answered_of_reachable {accounts : List Account} {mint : Mint} {outages : List Outage}
    (hr : Reachable (fresh accounts mint outages) h) :
    (∀ item : Inbound, item.IsFrame → h.roster.Holds item.connection →
      ∃ result, ∀ d, answersTo d (h.handle item).2 = h.due item result d) ∧
    ∀ items : List Inbound, h.Follows items → ∀ c,
      List.Forall₂ Settles (h.awaited c items)
        ((answersTo c (h.run items).2).filter ServerEvent.isVerdict) := by
  have hc := hr.coherent (coherent_fresh accounts mint outages)
  constructor
  · intro item hframe hreg
    exact hc.answersTo_handle hframe hreg
  · intro items hf c
    exact hc.settles_run hf c

/-- A second device of `ann`. -/
def tablet : Connection := ⟨"3", "ann", "Ann", .user⟩

/-- `ann` types on the `tablet`, and sends on the other device something that cannot be read,
removes `bob`, and asks for its rooms. `bob` asks for the messages. -/
def evening : List Inbound :=
  [.event tablet ⟨"typing", .object [("room_id", .text "den")]⟩,
    .malformed ann (.badPayload "no text"), dismissal,
    .event bob ⟨"get-chats", .object [("room_id", .text "den")]⟩, .event ann ⟨"user-rooms", .null⟩]

/-- `ann` awaits three answers during `evening`, one of them to a removal of which the store keeps
no notification. -/
theorem answered_evening :
    ∃ h, Reachable (lobby [⟨.addNotification, 0, 9, .backend "down"⟩]) h ∧ dismissal.IsFrame ∧
    h.roster.Holds tablet ∧ h.Follows evening ∧
    (h.awaited ann evening).map (fun frame => frame.2.isOk) = [false, true, true] ∧
    (∃ result, ∀ d, answersTo d (h.handle dismissal).2 = h.due dismissal result d) ∧
    List.Forall₂ Settles (h.awaited ann evening)
      ((answersTo ann (h.run evening).2).filter ServerEvent.isVerdict) := by
  have hr : Reachable (lobby [⟨.addNotification, 0, 9, .backend "down"⟩])
      ((lobby [⟨.addNotification, 0, 9, .backend "down"⟩]).run
        (meeting ++ [.register tablet])).1 :=
    Reachable.start.run (by decide +kernel)
  obtain ⟨hframe, hrun⟩ := answered_of_reachable hr
  have hfollows : ((lobby [⟨.addNotification, 0, 9, .backend "down"⟩]).run
      (meeting ++ [.register tablet])).1.Follows evening := by decide +kernel
  exact ⟨_, hr, trivial, by decide +kernel, hfollows, by decide +kernel,
    hframe dismissal trivial (by decide +kernel), hrun evening hfollows ann⟩

end Hub

end GroupChat
