import GroupChat.Proofs.Hub.Handle
import GroupChat.Proofs.Hub.Uniform

/-!
# New rooms have new identifiers

No computation forgets how many identifiers of rooms were used, and a room that is made gets the
next one. So where all identifiers of a source are different, a new room has one that was not used
before.

## Main definitions

- `Hub.Draws`: new identifiers may have been used, from the same source.
- `Hub.Mints`: an identifier of a room was used for the first time.
- `Hub.Opened`: a room with a new identifier was put into the store.

## Main statements

- `handle_draws`: an item does not forget what was used.
- `createRoom_opens`, `chat_opens`: a room that is made has a new identifier.
- `Mint.injective_counting`: counting gives different identifiers.
-/

namespace GroupChat

/-! ### Counting -/

namespace Mint

/-- `Nat.ofDigitChars` reads a number off `padded`, whatever zeros stand in front. -/
theorem ofDigitChars_padded (width n : Nat) : Nat.ofDigitChars 10 (padded width n) 0 = n := by
  have hzeros : Nat.ofDigitChars 10 (List.replicate (width - (Nat.toDigits 10 n).length) '0') 0 =
      0 := Nat.ofDigitChars_replicate_zero
  calc Nat.ofDigitChars 10 (padded width n) 0
      = Nat.ofDigitChars 10 (Nat.toDigits 10 n) (Nat.ofDigitChars 10
          (List.replicate (width - (Nat.toDigits 10 n).length) '0') 0) :=
        Nat.ofDigitChars_append 0
    _ = Nat.ofDigitChars 10 (Nat.toDigits 10 n) 0 := by rw [hzeros]
    _ = n := Nat.ofDigitChars_ten_toDigits

/-- `identifier` makes different identifiers of different numbers. -/
theorem injective_identifier (kind : MintKind) : Function.Injective (identifier kind) := by
  intro m n h
  unfold identifier at h
  -- the digits are what is different
  generalize "00000000-0000-4000-" ++ kind.group ++ "-" = mark at h
  have hlist := congrArg String.toList h
  rw [String.toList_append, String.toList_append, String.toList_ofList, String.toList_ofList]
    at hlist
  have hdigits : padded 12 m = padded 12 n := List.append_cancel_left hlist
  rw [← ofDigitChars_padded 12 m, hdigits, ofDigitChars_padded]

/-- `Mint.counting` gives different rooms different identifiers, since the number can be read back
off them. -/
theorem injective_counting (time : Int64) : Function.Injective (counting time).room :=
  injective_identifier .room

end Mint

/-- `s'` is `s`, but that messages may have been written. -/
def Store.Talks (s s' : Store) : Prop := s' = { s with messages := s'.messages }

namespace Hub

variable {α : Type}

/-- Between `h` and `h'` new identifiers come from the same `mint`, and none is used a second time.
-/
structure Draws (h h' : Hub) : Prop where
  /-- The source is the same. -/
  mint : h'.mint = h.mint
  /-- What was used stays so. -/
  rooms : h.drawn.rooms ≤ h'.drawn.rooms

/-- The identifier `id` of a room was used for the first time between `h` and `h'`. -/
def Mints (h h' : Hub) (id : String) : Prop :=
  ∃ n, id = h.mint.room n ∧ h.drawn.rooms ≤ n ∧ n < h'.drawn.rooms

/-- A room of `creator` and `members`, as `f` founds it, was put into the store under an identifier
that `Mints`. -/
structure Opened (h h' : Hub) (creator : String) (members : List String) (f : Founding) : Prop where
  /-- The account makes it. -/
  creator : f.creator = creator
  /-- The others are in it. -/
  members : f.members = members
  /-- Nobody is listed twice. -/
  nodup : (f.creator :: f.members).Nodup
  /-- The identifier is new. -/
  mints : h.Mints h' f.info.id
  /-- The room and its members. Then messages may have been written. -/
  store : ∃ s, h.store.Founds f.info f.initial s ∧ s.Talks h'.store

/-- `t` and `u` have the same hub, in which at least `n` identifiers of the source `m` were used. -/
def Turn.Past (m : Mint) (n : Nat) (t u : Turn) : Prop :=
  u.hub = t.hub ∧ t.hub.mint = m ∧ n ≤ t.hub.drawn.rooms

variable {h h' h'' h''' : Hub} {id : String} {t : Turn}

theorem Draws.trans (hd : h.Draws h') (hd' : h'.Draws h'') : h.Draws h'' where
  mint := hd'.mint.trans hd.mint
  rooms := Nat.le_trans hd.rooms hd'.rooms

theorem Mints.between (hm : h'.Mints h'' id) (hd : h.Draws h') (hd' : h''.Draws h''') :
    h.Mints h''' id := by
  obtain ⟨n, hid, hle, hlt⟩ := hm
  exact ⟨n, by rw [hid, hd.mint], Nat.le_trans hd.rooms hle, Nat.lt_of_lt_of_le hlt hd'.rooms⟩

theorem Draws.refl (h : Hub) : h.Draws h := ⟨rfl, Nat.le_refl _⟩

/-- `Opened` remains true when a message is written afterwards (`Talks`). -/
theorem Opened.talks {creator : String} {members : List String} {f : Founding}
    (ho : h.Opened h' creator members f) (hd : h'.Draws h'') (ht : h'.store.Talks h''.store) :
    h.Opened h'' creator members f where
  creator := ho.creator
  members := ho.members
  nodup := ho.nodup
  mints := ho.mints.between (Draws.refl h) hd
  store := by
    obtain ⟨s, hfounds, hs⟩ := ho.store
    exact ⟨s, hfounds, by rw [Store.Talks, ht, hs]⟩

/-! ### Nothing is forgotten -/

/-- That at least `n` identifiers were drawn from `m` is a `Lockstep` relation, which every
computation preserves. -/
theorem lockstep_past (m : Mint) (n : Nat) : Lockstep Eq (Turn.Past m n) where
  refl _ := rfl
  same := by
    rintro t ⟨_, effects, post⟩ ⟨rfl, -⟩
    exact ⟨t.hub.outages, rfl⟩
  act := by
    rintro t ⟨_, effects, post⟩ ⟨rfl, hm, hn⟩ e f -
    exact ⟨rfl, hm, hn⟩
  live := by
    rintro t ⟨_, effects, post⟩ ⟨rfl, hm, hn⟩ roster rooms
    exact ⟨rfl, hm, hn⟩
  draw := by
    -- only here `drawn` changes, and it only grows
    rintro t ⟨_, effects, post⟩ ⟨rfl, hm, hn⟩ drawn hle
    exact ⟨rfl, hm, Nat.le_trans hn hle⟩
  call := by
    rintro t ⟨_, effects, post⟩ ⟨rfl, hm, hn⟩ kind
    exact ⟨rel_self (fun _ => rfl) _, fun store => ⟨rfl, hm, hn⟩⟩

/-- A computation that preserves every `Lockstep` relation preserves `Turn.Past` with the count it
starts from, which is `Draws`. -/
theorem Step.Uniform.draws {x : Step α} {R : α → α → Prop}
    (hx : ∀ {κ ρ}, Lockstep κ ρ → Step.Matches ρ R x x) (t : Turn) :
    Step.Gives x t fun _ u => t.hub.Draws u.hub := by
  have hstart : Turn.Past t.hub.mint t.hub.drawn.rooms t t := ⟨rfl, rfl, Nat.le_refl _⟩
  obtain ⟨-, -, hmint, hrooms⟩ := hx (lockstep_past _ _) hstart
  exact ⟨hmint, hrooms⟩

theorem Request.Uniform.draws {x : Request α}
    (hx : ∀ {κ ρ}, Lockstep κ ρ → Request.Uniform ρ x) (t : Turn) :
    Request.Gives x t (fun _ u => t.hub.Draws u.hub) fun _ u => t.hub.Draws u.hub := by
  have hdraws : t.hub.Draws (x t).2.hub := Step.Uniform.draws hx t
  unfold Request.Gives
  split <;> rename_i hx' <;> rwa [hx'] at hdraws

/-- `handle` never takes `drawn` back. -/
theorem handle_draws (h : Hub) (item : Inbound) : h.Draws (h.handle item).1 :=
  Step.Uniform.draws (R := Eq) (fun hρ => take_uniform hρ item) { hub := h }

/-! ### Making a room -/

theorem newRoomId_draws (t : Turn) : Step.Gives newRoomId t fun id u =>
    t.Asks u ∧ id = t.hub.mint.room t.hub.drawn.rooms ∧
      u.hub.drawn.rooms = t.hub.drawn.rooms + 1 :=
  ⟨(newRoomId_gives t).1, rfl, rfl⟩

/-- `persist` puts a room with its members into the store, or fails. -/
theorem persist_founds (f : Founding) (t : Turn) :
    Request.Gives (persist f) t (fun _ _ => True) fun _ u =>
      t.hub.store.Founds f.info f.initial u.hub.store := by
  unfold persist
  refine (orFail_tell_gives _ (Store.spares_createRoom f.info) t).bind (fun _ _ _ => trivial) ?_
  rintro - s ⟨store, hcreate, hs⟩
  have hopens : t.hub.store.Opens f.info s.hub.store := by
    rw [hs.store]
    exact Store.opens_of_createRoom hcreate
  refine Request.Gives.lift_bind
    (addMembers_gives f.info.id [] f.initial (Store.Adds.refl _ s.hub.store)) ?_
  rintro r v ⟨-, ⟨rfl, hadds⟩ | ⟨e, -, rfl, -⟩⟩
  · exact Request.gives_pure ⟨s.hub.store, hopens, hadds⟩
  · refine Request.Gives.lift_bind (orReport_deleteRoom_gives f.info.id _ v) fun _ _ _ => ?_
    exact Request.gives_throw trivial

/-- What `createRoom` and `directRoom` have in common: an identifier is drawn, the room is stored,
made live, and `Opened` holds whatever follows without touching rooms. -/
theorem newRoom_opens (info : String → RoomInfo) (hid : ∀ id, (info id).id = id) (creator : String)
    (role : Role) (members : List String) (k : Founding → LiveRoom → Request α)
    (hk : ∀ f room u, Request.Gives (k f room) u (fun _ _ => True) fun _ v =>
      v.hub.store = u.hub.store ∧ u.hub.Draws v.hub)
    (hn : (creator :: members).Nodup) {s : Turn} (hs : t.Asks s) (hd : t.hub.Draws s.hub) :
    Request.Gives (do
      let id ← liftM newRoomId
      let f : Founding := ⟨info id, creator, role, members⟩
      persist f
      let room ← liftM (openRoom f)
      k f room) s (fun _ _ => True) fun _ u => ∃ f, t.hub.Opened u.hub creator members f := by
  refine Request.Gives.lift_bind (newRoomId_draws s) ?_
  rintro id v ⟨hv, hdrawn, hnext⟩
  generalize hf : (⟨info id, creator, role, members⟩ : Founding) = f
  have hmints : s.hub.Mints v.hub f.info.id := by
    refine ⟨s.hub.drawn.rooms, ?_, Nat.le_refl _, by omega⟩
    rw [← hf, ← hdrawn]
    exact hid id
  -- from here on nothing is drawn, but that has to be said of each part
  refine ((persist_founds f v).and
    (Request.Uniform.draws (fun hρ => persist_uniform hρ f) v)).bind (fun _ _ _ => trivial) ?_
  rintro - w ⟨hfounds, hw⟩
  rw [hv.store, hs.store] at hfounds
  have hopen : Step.Gives (openRoom f) w fun _ x => x.hub.store = w.hub.store ∧
      w.hub.Draws x.hub :=
    ⟨(openRoom_gives f w).2.2.2, Step.Uniform.draws (fun hρ => openRoom_uniform hρ f) w⟩
  refine Request.Gives.lift_bind hopen ?_
  rintro room x ⟨hx, hdx⟩
  refine (hk f room x).mono (fun _ _ _ => trivial) ?_
  rintro a u ⟨hu, hdu⟩
  refine ⟨f, ?_, ?_, ?_, hmints.between hd ((hw.trans hdx).trans hdu), ?_⟩
  · rw [← hf]
  · rw [← hf]
  · rw [← hf]
    exact hn
  · rw [hu, hx]
    exact ⟨w.hub.store, hfounds, rfl⟩

/-- `admission` draws nothing and changes nothing. -/
theorem admission_draws (c : Connection) (r : CreateRequest) (t : Turn) :
    Request.Gives (admission c r) t (fun _ u => t.hub.Draws u.hub)
      fun _ u => t.hub.Draws u.hub := by
  refine Request.Uniform.draws (fun hρ => ?_) t
  unfold admission
  refine Request.Uniform.except_bind _ fun _ => ?_
  refine Request.Matches.bind (knownAccounts_uniform hρ _) fun _ => ?_
  refine Request.Uniform.except_bind _ fun name => ?_
  refine Request.Matches.bind (orFail_uniform (ask_matches hρ _ _)) fun room? => ?_
  exact Request.Uniform.refuse (Request.uniform_pure name)

/-- `createRoom` that succeeds has `Opened` a room with the accounts of the request. -/
theorem createRoom_opens (c : Connection) (r : CreateRequest) (t : Turn) :
    Request.Gives (createRoom c r) t (fun _ _ => True) fun _ u =>
      ∃ f, t.hub.Opened u.hub c.account (distinct r.members) f := by
  rw [createRoom_eq]
  refine ((admission_gives c r t).and (admission_draws c r t)).bind (fun _ _ _ => trivial) ?_
  rintro name s ⟨⟨hs, hadmits⟩, hd⟩
  have hn : (c.account :: distinct r.members).Nodup :=
    List.nodup_cons.2 ⟨fun hm => hadmits.others (mem_distinct.1 hm), nodup_distinct _⟩
  refine newRoom_opens (fun id => ⟨id, name, r.description, r.inviteOnly, r.isPrivate⟩)
    (fun _ => rfl) c.account (if r.isPrivate then .user else .admin) (distinct r.members)
    (fun f _ => liftM (replyAndForward c "create-room" (infoResult f.info))) (fun f _ u => ?_) hn
    hs hd
  exact Request.Gives.lift ⟨(replyAndForward_gives c _ _ u).store,
    Step.Uniform.draws (fun hρ => replyAndForward_uniform hρ c _ _) u⟩

/-- `directRoom` finds the private room and leaves the store as it is, or it has `Opened` one. -/
theorem directRoom_opens (hc : t.hub.Coherent) (c : Connection) (receiver : String) :
    Request.Gives (directRoom c receiver) t (fun _ _ => True) fun _ u =>
      u.hub.store = t.hub.store ∨ ∃ f, t.hub.Opened u.hub c.account [receiver] f := by
  unfold directRoom
  refine ((directRoom?_gives hc c receiver).and
    (Request.Uniform.draws (fun hρ => directRoom?_uniform hρ c receiver) t)).bind
    (fun _ _ _ => trivial) ?_
  rintro room? s ⟨⟨hne, ⟨rfl, hs, -⟩ | ⟨info, room, rfl, -, -, hfinds⟩⟩, hd⟩
  swap
  · refine Request.gives_pure (Or.inl ?_)
    -- a room that was found may have become live, but the store stayed
    rcases hfinds with ⟨hasks, -⟩ | ⟨-, hloads, -⟩
    · exact hasks.store
    · exact hloads.store
  -- there is no such room, so it is made
  refine ((knownAccount_gives receiver s).and
    (Request.Uniform.draws (fun hρ => knownAccount_uniform hρ receiver) s)).bind
    (fun _ _ _ => trivial) ?_
  rintro account v ⟨⟨hv, -⟩, hd'⟩
  have hn : [c.account, receiver].Nodup := by simpa using fun h => hne h.symm
  refine (newRoom_opens (fun id => ⟨id, privateName c.account receiver, "", false, true⟩)
    (fun _ => rfl) c.account .user [receiver] (fun _ room => pure room) (fun f room u => ?_) hn
    (hs.trans hv) (hd.trans hd')).mono (fun _ _ _ => trivial) fun _ _ hu => Or.inr hu
  exact Request.gives_pure ⟨rfl, Draws.refl _⟩

theorem Turn.Writes.talks {u : Turn} {c : Connection} {room : LiveRoom} {text : String}
    (hw : t.Writes u c room text) : t.hub.store.Talks u.hub.store := by
  obtain ⟨message, -, -, -, hb⟩ := hw
  rw [hb.store]
  rfl

/-- `chat` writes a message (`Talks`), after it has `Opened` a private room if there was none. -/
theorem chat_opens (hc : t.hub.Coherent) (c : Connection) (r : ChatRequest) :
    Request.Gives (chat c r) t (fun _ _ => True) fun _ u => t.hub.store.Talks u.hub.store ∨
      ∃ receiver f, r.user = some receiver ∧ t.hub.Opened u.hub c.account [receiver] f := by
  unfold chat
  -- what is done once the room is known writes a message and draws
  have htail := fun room s => (write_gives c room r.message s).and
    (Request.Uniform.draws (fun hρ => write_uniform hρ c room r.message) s)
  refine Request.Gives.refuse (fun _ => trivial) fun _ => ?_
  refine Request.Gives.except_bind (fun _ _ => trivial) fun address haddress => ?_
  obtain ⟨ref, -, -, rfl⟩ | ⟨receiver, -, huser, rfl⟩ := addressOf?_eq_ok haddress
  · -- a room that is named is only looked up
    refine (memberRoom_gives hc c ref).bind (fun _ _ _ => trivial) ?_
    rintro room s ⟨hs, -⟩
    refine (htail room s).mono (fun _ _ _ => trivial) fun _ u hu => Or.inl ?_
    rw [← hs.store]
    exact hu.1.talks
  · refine (directRoom_opens hc c receiver).bind (fun _ _ _ => trivial) fun room s hs => ?_
    refine (htail room s).mono (fun _ _ _ => trivial) fun _ u hu => ?_
    -- the private room was found or made
    rcases hs with hs | ⟨f, hs⟩
    · left
      rw [← hs]
      exact hu.1.talks
    · exact Or.inr ⟨receiver, f, huser, hs.talks hu.2 hu.1.talks⟩

end Hub

end GroupChat
