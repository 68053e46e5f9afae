import GroupChat.Proofs.Hub.Inside

/-!
# Two hubs in lockstep

Two hubs are in the same state, except that calls to their stores may fail for different reasons,
and that their clients may accept what they are sent or not. A computation keeps them in lockstep if
it ends alike on both: with the same result, in the same state, and after the same effects, up to
the reasons that are reported.

Neither a call to the store nor something that is sent does so by itself. The reason of a failure is
the result of a `call`, whether a client accepts is the result of a `send`, and how many accept that
of a `broadcast`. What these are put into has to forget such a result, or to report it to whoever
runs the hub.

A property of turns that all parts of computations preserve is a special case, in which both hubs
are the same one.

## Main definitions

- `Effect.Like`: effects that differ at most in the reason of a failure that is reported.
- `Hub.Lockstep`: a relation between turns that the parts of computations preserve.
- `Step.Matches`, `Request.Matches`: computations that end alike.
- `Step.Uniform`, `Request.Uniform`: a computation that matches itself.

## Main statements

- `Step.Matches.bind`, `Request.Matches.bind`: computations that follow each other.
- `send_matches`, `broadcast_matches`: what is sent is the same, and what becomes of it is not.
- `call_matches`: a call to the store fails on both or on neither.
- `orFail_uniform`, `orReport_uniform`: calls whose failure is told to a client or reported.
-/

namespace GroupChat

/-- Two effects are the same, or report the same failure for reasons between which `κ` holds. -/
inductive Effect.Like (κ : StoreError → StoreError → Prop) : Effect → Effect → Prop where
  /-- The same effect. -/
  | refl (e : Effect) : Like κ e e
  /-- The same failure. -/
  | report (incident : StoreError → Incident) {e e' : StoreError} (related : κ e e') :
      Like κ (.report (incident e)) (.report (incident e'))

namespace Hub

variable {α β γ δ : Type} {κ : StoreError → StoreError → Prop} {ρ : Turn → Turn → Prop}

/-- A relation between turns in the same state that the parts of computations preserve, where `κ`
relates the reasons for which calls to the stores fail. -/
structure Lockstep (κ : StoreError → StoreError → Prop) (ρ : Turn → Turn → Prop) : Prop where
  /-- A store that fails by itself fails for the same reason. -/
  refl : ∀ e, κ e e
  /-- The states differ in the outages that are ahead at most. -/
  same : ∀ {t u}, ρ t u → ∃ outages, u.hub = { t.hub with outages }
  /-- The same may be done on both sides. -/
  act : ∀ {t u}, ρ t u → ∀ {e f}, e.Like κ f → ρ (t.doing e) (u.doing f)
  /-- Connections and live rooms may change on both sides. -/
  live : ∀ {t u}, ρ t u → ∀ roster rooms,
    ρ { t with hub := { t.hub with roster, rooms } } { u with hub := { u.hub with roster, rooms } }
  /-- New identifiers may be drawn on both sides. -/
  draw : ∀ {t u}, ρ t u → ∀ drawn, t.hub.drawn.rooms ≤ drawn.rooms →
    ρ { t with hub := { t.hub with drawn } } { u with hub := { u.hub with drawn } }
  /-- A call fails on both sides or on neither, and the store may change on both. -/
  call : ∀ {t u}, ρ t u → ∀ kind,
    Option.Rel κ (Outage.meet kind t.hub.outages).1 (Outage.meet kind u.hub.outages).1 ∧
      ∀ store, ρ { t with hub := { t.hub with outages := (Outage.meet kind t.hub.outages).2, store } }
        { u with hub := { u.hub with outages := (Outage.meet kind u.hub.outages).2, store } }

/-- Computations `x` and `y` end in turns in lockstep `ρ`, with results in the relation `R`, if they
begin so. -/
def Step.Matches (ρ : Turn → Turn → Prop) (R : α → β → Prop) (x : Step α) (y : Step β) : Prop :=
  ∀ ⦃t u : Turn⦄, ρ t u → R (x t).1 (y u).1 ∧ ρ (x t).2 (y u).2

/-- The computation `x` matches itself (`Step.Matches`), with the same result. -/
abbrev Step.Uniform (ρ : Turn → Turn → Prop) (x : Step α) : Prop := Step.Matches ρ Eq x x

/-- Two calls succeeded alike, or both of them failed, for reasons between which `κ` holds. -/
inductive SameOutcome (κ : StoreError → StoreError → Prop) :
    Except StoreError α → Except StoreError α → Prop where
  /-- They succeeded. -/
  | ok (a : α) : SameOutcome κ (.ok a) (.ok a)
  /-- They failed. -/
  | error {e e' : StoreError} (related : κ e e') : SameOutcome κ (.error e) (.error e')

/-- Two requests were carried out alike, or failed with errors that `ServerEvent.ofError` tells
alike. -/
inductive SameAnswer : Except ChatError α → Except ChatError α → Prop where
  /-- They were carried out. -/
  | ok (a : α) : SameAnswer (.ok a) (.ok a)
  /-- They failed. -/
  | error {e e' : ChatError} (told : ServerEvent.ofError e = ServerEvent.ofError e') :
      SameAnswer (.error e) (.error e')

/-- Requests `x` and `y` end in turns in lockstep `ρ`, with the `SameAnswer`. -/
def Request.Matches (ρ : Turn → Turn → Prop) (x y : Request α) : Prop :=
  Step.Matches ρ SameAnswer x.run y.run

/-- The request `x` matches itself (`Request.Matches`). -/
abbrev Request.Uniform (ρ : Turn → Turn → Prop) (x : Request α) : Prop := Request.Matches ρ x x

theorem rel_self (h : ∀ e, κ e e) (failed : Option StoreError) : Option.Rel κ failed failed := by
  cases failed with
  | none => exact .none
  | some e => exact .some (h e)

/-! ### Computations that follow each other -/

section Step

variable {R : α → β → Prop} {S : γ → δ → Prop}

theorem Step.matches_pure {a : α} {b : β} (hab : R a b) : Step.Matches ρ R (pure a) (pure b) :=
  fun _ _ hr => ⟨hab, hr⟩

/-- Computations that follow each other match, if the second ones do for all results between which
`R` holds. -/
theorem Step.Matches.bind {x : Step α} {y : Step β} {f : α → Step γ} {g : β → Step δ}
    (h : Step.Matches ρ R x y) (hf : ∀ a b, R a b → Step.Matches ρ S (f a) (g b)) :
    Step.Matches ρ S (x >>= f) (y >>= g) := by
  intro t u hr
  obtain ⟨hab, hr'⟩ := h hr
  exact hf _ _ hab hr'

theorem Step.Matches.discard {x : Step α} {y : Step β} (h : Step.Matches ρ R x y) :
    Step.Matches ρ Eq (discard x) (discard y) :=
  fun _ _ hr => ⟨rfl, (h hr).2⟩

theorem Step.Uniform.bind {x : Step α} {f : α → Step γ} {g : α → Step δ} (h : Step.Uniform ρ x)
    (hf : ∀ a, Step.Matches ρ S (f a) (g a)) : Step.Matches ρ S (x >>= f) (x >>= g) :=
  Step.Matches.bind h fun a _ hab => hab ▸ hf a

end Step

section Request

variable {x y : Request α}

theorem Request.uniform_pure (a : α) : Request.Uniform ρ (pure a) :=
  Step.matches_pure (.ok a)

theorem Request.matches_throw {e e' : ChatError}
    (told : ServerEvent.ofError e = ServerEvent.ofError e') :
    Request.Matches ρ (throw e : Request α) (throw e') :=
  Step.matches_pure (.error told)

theorem Request.uniform_throw (e : ChatError) : Request.Uniform ρ (throw e : Request α) :=
  Request.matches_throw rfl

/-- `Matches` for requests that follow each other. If the first ones fail, the second ones are not
begun on either side. -/
theorem Request.Matches.bind {f g : α → Request γ} (h : Request.Matches ρ x y)
    (hf : ∀ a, Request.Matches ρ (f a) (g a)) : Request.Matches ρ (x >>= f) (y >>= g) := by
  refine Step.Matches.bind (f := ExceptT.bindCont f) (g := ExceptT.bindCont g) h fun r s hrs => ?_
  cases hrs with
  | ok a => exact hf a
  | error told => exact Request.matches_throw told

theorem Request.Matches.lift {x y : Step α} (h : Step.Matches ρ Eq x y) :
    Request.Matches ρ (liftM x : Request α) (liftM y) := by
  intro t u hr
  obtain ⟨hab, hr'⟩ := h hr
  refine ⟨?_, hr'⟩
  show SameAnswer (Except.ok (x t).1) (Except.ok (y u).1)
  rw [hab]
  exact .ok _

theorem Request.Matches.lift_bind {R : α → β → Prop} {x : Step α} {y : Step β} {f : α → Request γ}
    {g : β → Request γ} (h : Step.Matches ρ R x y)
    (hf : ∀ a b, R a b → Request.Matches ρ (f a) (g b)) :
    Request.Matches ρ ((liftM x : Request α) >>= f) ((liftM y : Request β) >>= g) := by
  intro t u hr
  obtain ⟨hab, hr'⟩ := h hr
  exact hf _ _ hab hr'

theorem Request.Uniform.lift_bind {x : Step α} {f g : α → Request γ} (h : Step.Uniform ρ x)
    (hf : ∀ a, Request.Matches ρ (f a) (g a)) :
    Request.Matches ρ ((liftM x : Request α) >>= f) ((liftM x : Request α) >>= g) :=
  Request.Matches.lift_bind h fun a _ hab => hab ▸ hf a

theorem Request.Uniform.refuse {c : Prop} [Decidable c] {e : ChatError} {k : Unit → Request γ}
    (hk : Request.Uniform ρ (k ())) :
    Request.Uniform ρ (if c then (throw e : Request Unit) >>= k else k ()) := by
  split
  · exact Request.matches_throw rfl
  · exact hk

theorem Request.Uniform.except_bind (x : Except ChatError α) {f : α → Request γ}
    (hf : ∀ a, Request.Uniform ρ (f a)) : Request.Uniform ρ ((liftM x : Request α) >>= f) := by
  cases x with
  | error e => exact Request.uniform_throw e
  | ok a => exact hf a

end Request

/-! ### Looking and acting -/

section Lockstep

variable (hρ : Lockstep κ ρ)
include hρ

theorem look_uniform {f : Hub → α} (hf : ∀ h outages, f { h with outages } = f h) :
    Step.Uniform ρ (look f) := by
  rintro t ⟨_, effects, post⟩ hr
  obtain ⟨outages, rfl⟩ := hρ.same hr
  exact ⟨(hf t.hub outages).symm, hr⟩

theorem see_uniform {f : Hub → α} (hf : ∀ h outages, f { h with outages } = f h) :
    Request.Uniform ρ (see f) :=
  Request.Matches.lift (look_uniform hρ hf)

/-- `change` is `Uniform` for functions that touch roster and live rooms only. -/
theorem change_uniform {f : Hub → Hub}
    (hf : ∀ h, f h = { h with roster := (f h).roster, rooms := (f h).rooms })
    (hsame : ∀ h outages, (f { h with outages }).roster = (f h).roster ∧
      (f { h with outages }).rooms = (f h).rooms) : Step.Uniform ρ (change f) := by
  rintro t ⟨_, effects, post⟩ hr
  obtain ⟨outages, rfl⟩ := hρ.same hr
  obtain ⟨hroster, hrooms⟩ := hsame t.hub outages
  have hlive := hρ.live hr (f t.hub).roster (f t.hub).rooms
  refine ⟨rfl, ?_⟩
  show ρ { t with hub := f t.hub } ⟨f { t.hub with outages }, effects, post⟩
  rw [hf t.hub, hf { t.hub with outages }, hroster, hrooms]
  exact hlive

theorem act_uniform (e : Effect) : Step.Uniform ρ (act e) := fun _ _ hr => ⟨rfl, hρ.act hr (.refl e)⟩

/-- `send` does the same on both sides, but may be accepted on one of them only; so its results are
related by nothing. -/
theorem send_matches (c : Connection) (event : ServerEvent) :
    Step.Matches ρ (fun _ _ => True) (send c event) (send c event) :=
  fun _ _ hr => ⟨trivial, hρ.act hr (.refl _)⟩

theorem sendAll_uniform (cs : List Connection) (event : ServerEvent) :
    Step.Uniform ρ (sendAll cs event) := by
  induction cs with
  | nil => exact Step.matches_pure rfl
  | cons c cs ih => exact Step.Matches.bind (send_matches hρ c event) fun _ _ _ => ih

/-- `countAccepting` sends to the same connections on both sides, whatever it counts there. -/
theorem countAccepting_matches (cs : List Connection) (event : ServerEvent) :
    Step.Matches ρ (fun _ _ => True) (countAccepting (fun c => send c event) cs)
      (countAccepting (fun c => send c event) cs) := by
  induction cs with
  | nil => exact Step.matches_pure trivial
  | cons c cs ih =>
    refine Step.Matches.bind (send_matches hρ c event) fun _ _ _ => ?_
    exact Step.Matches.bind ih fun _ _ _ => Step.matches_pure trivial

/-- `broadcast` sends the same on both sides, while the number of those who accept may differ. -/
theorem broadcast_matches (room : LiveRoom) (event : ServerEvent) (except : List String) :
    Step.Matches ρ (fun _ _ => True) (broadcast room event except)
      (broadcast room event except) :=
  countAccepting_matches hρ _ event

theorem broadcastExcept_matches (room : LiveRoom) (event : ServerEvent) (account : String) :
    Step.Matches ρ (fun _ _ => True) (broadcastExcept room event account)
      (broadcastExcept room event account) :=
  countAccepting_matches hρ _ event

theorem report_matches (incident : StoreError → Incident) {e e' : StoreError} (related : κ e e') :
    Step.Matches ρ Eq (report (incident e)) (report (incident e')) :=
  fun _ _ hr => ⟨rfl, hρ.act hr (.report incident related)⟩

theorem addRoom_uniform (room : LiveRoom) : Step.Uniform ρ (addRoom room) :=
  change_uniform hρ (fun _ => rfl) fun _ _ => ⟨rfl, rfl⟩

theorem keepRoom_uniform (room : LiveRoom) : Step.Uniform ρ (keepRoom room) :=
  change_uniform hρ (fun _ => rfl) fun _ _ => ⟨rfl, rfl⟩

theorem enlistRoom_uniform (room : LiveRoom) : Step.Uniform ρ (enlistRoom room) :=
  change_uniform hρ (fun _ => rfl) fun _ _ => ⟨rfl, rfl⟩

theorem dropRoom_uniform (id : String) : Step.Uniform ρ (dropRoom id) :=
  change_uniform hρ (fun _ => rfl) fun _ _ => ⟨rfl, rfl⟩

/-- What is drawn depends on `mint` and `drawn` only, which are the same on both sides. -/
theorem draw_uniform (f : Mint → Drawn → α) (g : Drawn → Drawn) (hg : ∀ d, d.rooms ≤ (g d).rooms) :
    Step.Uniform ρ fun t => (f t.hub.mint t.hub.drawn,
      { t with hub := { t.hub with drawn := g t.hub.drawn } }) := by
  rintro t ⟨_, effects, post⟩ hr
  obtain ⟨outages, rfl⟩ := hρ.same hr
  exact ⟨rfl, hρ.draw hr (g t.hub.drawn) (hg _)⟩

theorem newRoomId_uniform : Step.Uniform ρ newRoomId :=
  draw_uniform hρ (fun m d => m.room d.rooms) (fun d => { d with rooms := d.rooms + 1 })
    fun _ => Nat.le_succ _

theorem newMessageStamp_uniform : Step.Uniform ρ newMessageStamp :=
  draw_uniform hρ (fun m d => m.message d.messages)
    (fun d => { d with messages := d.messages + 1 }) fun _ => Nat.le_refl _

theorem newNoticeStamp_uniform : Step.Uniform ρ newNoticeStamp :=
  draw_uniform hρ (fun m d => m.notice d.notices) (fun d => { d with notices := d.notices + 1 })
    fun _ => Nat.le_refl _

theorem newSignalStamp_uniform : Step.Uniform ρ newSignalStamp :=
  draw_uniform hρ (fun m d => m.signal d.signals) (fun d => { d with signals := d.signals + 1 })
    fun _ => Nat.le_refl _

/-! ### Calling the store -/

/-- `call` fails on both sides or on neither, since the outages are at the same calls. -/
theorem call_matches (kind : StoreCall) (f : Store → Except StoreError α × Store) :
    Step.Matches ρ (SameOutcome κ) (call kind f) (call kind f) := by
  rintro t ⟨_, effects, post⟩ hr
  obtain ⟨hfails, hcall⟩ := hρ.call hr kind
  obtain ⟨outages, rfl⟩ := hρ.same hr
  have hkeep := hcall t.hub.store
  unfold call
  dsimp only at hfails ⊢
  -- the two sides fail together, and the store that they ask otherwise is the same
  generalize (Outage.meet kind t.hub.outages).1 = failed at hfails ⊢
  generalize (Outage.meet kind outages).1 = failed' at hfails ⊢
  cases hfails with
  | some related => exact ⟨.error related, hkeep⟩
  | none =>
    dsimp only
    rcases f t.hub.store with ⟨e | a, store⟩
    · exact ⟨.error (hρ.refl e), hcall store⟩
    · exact ⟨.ok a, hcall store⟩

theorem ask_matches (kind : StoreCall) (f : Store → α) :
    Step.Matches ρ (SameOutcome κ) (ask kind f) (ask kind f) :=
  call_matches hρ kind _

theorem tell_matches (kind : StoreCall) (f : Store → Except StoreError Unit × Store) :
    Step.Matches ρ (SameOutcome κ) (tell kind f) (tell kind f) :=
  call_matches hρ kind _

omit hρ in
/-- `orFail` turns related errors into ones that clients are told alike. -/
theorem orFail_uniform {call : Step (Except StoreError α)}
    (h : Step.Matches ρ (SameOutcome κ) call call) : Request.Uniform ρ (orFail call) := by
  unfold orFail
  refine Request.Matches.lift_bind h fun r s hrs => ?_
  cases hrs with
  | ok a => exact Request.uniform_pure a
  | error => exact Request.matches_throw rfl

/-- `orReport` keeps hubs in lockstep, as it reports the reason to nobody who is a client. -/
theorem orReport_uniform {call : Step (Except StoreError Unit)} (incident : StoreError → Incident)
    (h : Step.Matches ρ (SameOutcome κ) call call) : Step.Uniform ρ (orReport call incident) := by
  unfold orReport
  refine Step.Matches.bind h fun r s hrs => ?_
  cases hrs with
  | ok => exact Step.matches_pure rfl
  | error related => exact report_matches hρ incident related

end Lockstep

end Hub

end GroupChat
