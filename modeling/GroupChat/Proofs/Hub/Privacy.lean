import GroupChat.Hub.Mint
import GroupChat.Proofs.Hub.Pair

/-!
# Direct messages

What is addressed to an account goes to the room that has the name of the private room of sender and
receiver. The name is put together from the two accounts, so that this room is the one of these two
exactly as long as the name of a private room tells for which accounts it was made.

## Main definitions

- `Unambiguous`: the names of private rooms tell for which accounts they were made.
- `Hub.Discreet`: what is addressed to an account is for sender and receiver only.
- `Hub.Guarded`: the invariant.

## Main statements

- `Guarded.move`: a move preserves the invariant, if names are unambiguous.
- `Guarded.discreet`: in such a state, direct messages are discreet.
- `unambiguous_of_discreet`: two pairs of accounts with one name are mistaken for each other.
- `discreet_iff_unambiguous`: direct messages are discreet exactly if names are unambiguous.
- `unambiguous_of_colon_free`: names are unambiguous if no identifier of an account has a colon.
-/

namespace GroupChat

/-- The `privateName` of the room that an `allowed` account made with a `known` one is not that of
any other two accounts, one of which is `allowed`. -/
def Unambiguous (allowed known : String → Prop) : Prop :=
  ∀ a b c d, allowed a → known b → b ≠ a → allowed c → d ≠ c →
    privateName c d = privateName a b → (c = a ∧ d = b) ∨ (c = b ∧ d = a)

/-- `Unambiguous` holds where no identifier has a colon. -/
theorem unambiguous_of_colon_free {allowed known : String → Prop}
    (ha : ∀ a, allowed a → ':' ∉ a.toList) (hk : ∀ b, known b → ':' ∉ b.toList) :
    Unambiguous allowed known := by
  intro a b c d haa hkb hne hac hdc hname
  obtain ⟨x, y, hxy, hcd⟩ := Hub.exists_toList_privateName c d
  obtain ⟨z, w, hzw, hab⟩ := Hub.exists_toList_privateName a b
  have heq : x.toList ++ ':' :: y.toList = z.toList ++ ':' :: w.toList := by
    rw [hname, hzw] at hxy
    exact (List.append_cancel_left hxy).symm
  have hz : ':' ∉ z.toList ∧ ':' ∉ w.toList := by
    rcases hab with ⟨rfl, rfl⟩ | ⟨rfl, rfl⟩
    · exact ⟨ha _ haa, hk _ hkb⟩
    · exact ⟨hk _ hkb, ha _ haa⟩
  -- the only colon on the right stands in the same place on the left
  obtain ⟨hzx, -, hwy⟩ := (List.append_cons_inj_of_notMem hz.1 hz.2).1 heq.symm
  obtain rfl := String.toList_inj.1 hzx
  obtain rfl := String.toList_inj.1 hwy
  rcases hcd with ⟨rfl, rfl⟩ | ⟨rfl, rfl⟩
  · rcases hab with ⟨rfl, rfl⟩ | ⟨rfl, rfl⟩
    · exact Or.inl ⟨rfl, rfl⟩
    · exact Or.inr ⟨rfl, rfl⟩
  · rcases hab with ⟨rfl, rfl⟩ | ⟨rfl, rfl⟩
    · exact Or.inr ⟨rfl, rfl⟩
    · exact Or.inl ⟨rfl, rfl⟩

namespace Hub

/-- A `text` of the account `a` was kept in the private room of `a` and `b`, and the `effects` told
it to `b` only. -/
structure Confides (h h' : Hub) (effects : List Effect) (a b text : String) : Prop where
  /-- The message that was kept. -/
  kept : ∃ message info, h'.store.messages = h.store.messages ++ [message] ∧
    message.sender = a ∧ message.message = text ∧
    h'.store.rooms.get? message.room = some info ∧ info.isPrivate = true ∧
    ∀ x, (h'.store.roleOf? message.room x).isSome = true ↔ x = a ∨ x = b
  /-- Who was told. -/
  told : ∀ d view, .send d (.chat view) ∈ effects → d.account = b

/-- What is addressed to an account is for sender and receiver only (`Confides`). -/
structure Discreet (h : Hub) : Prop where
  /-- A message that was written. -/
  chat : ∀ c e b text, h.roster.get? c.id = some c →
    ClientEvent.decode e = .ok (.chat ⟨none, some b, text⟩) →
    (∃ reply, .send c (.success reply) ∈ (h.handle (.event c e)).2) →
    h.Confides (h.handle (.event c e)).1 (h.handle (.event c e)).2 c.account b text
  /-- The notification that one types. -/
  typing : ∀ c e b, h.roster.get? c.id = some c →
    ClientEvent.decode e = .ok (.typing ⟨none, some b⟩) →
    ∀ d view, .send d (.notification view) ∈ (h.handle (.event c e)).2 → d.account = b

/-- Private rooms are `Paired`, and all rooms `Agree` with the store. -/
structure Guarded (A : String → Prop) (h : Hub) : Prop where
  /-- Private rooms are rooms of two. -/
  paired : h.Paired A
  /-- All rooms agree with the store. -/
  agree : ∀ k, h.Agree k
  /-- Public rooms have other names than private ones. -/
  named : h.Named

/-- Names are `Unambiguous` for the accounts in `A` and those of the store. -/
abbrev Distinguishes (h : Hub) (A : String → Prop) : Prop :=
  Unambiguous A fun b => (h.store.account? b).isSome = true

variable {A : String → Prop} {h h' : Hub} {item : Inbound} {info : RoomInfo} {room : LiveRoom}
  {a b : String} {c : Connection} {t s u : Turn}

/-! ### The invariant -/

/-- If names are `Unambiguous`, a room named `privateName a b` is the `Pair` of these two. -/
theorem Guarded.pair (hg : h.Guarded A) (hu : h.Distinguishes A)
    (hk : h.store.rooms.get? info.id = some info) (hname : info.name = privateName a b)
    (ha : A a) (hne : b ≠ a) : info.isPrivate = true ∧ h.Pair info a b := by
  have hprivate := hg.named.isPrivate hk hname
  refine ⟨hprivate, ?_⟩
  obtain ⟨a', b', ha', hb', hpair⟩ := hg.paired.pairs _ info hk hprivate
  have heq : privateName a b = privateName a' b' := by rw [← hname, hpair.name]
  rcases hu a' b' a b ha' hb' hpair.other ha hne heq with ⟨rfl, rfl⟩ | ⟨rfl, rfl⟩
  · exact hpair
  · exact hpair.symm

/-- `Loads` of the room of a `Pair` makes it `Agree` with the store, as the two that enter are all
its members. -/
theorem Pair.agree_of_loads (hp : h.Pair info a b) (hl : h.Loads h' info a b) (hc : h.Coherent) :
    h'.Agree info.id := by
  have hmem : ∀ x, x ∈ [a, b] ↔ x = a ∨ x = b := by simp
  refine ⟨fun d => ?_, fun x role hrole => ?_⟩
  · rw [hl.holds hc, if_pos rfl, Present, hl.roster, hl.store, hp.isSome_roleOf?_iff, hmem]
  · rw [hl.roleOf?_rooms hc, if_pos rfl] at hrole
    split_ifs at hrole with hx
    rw [hl.store, hp.roles, if_pos ((hmem x).1 hx.2), hrole]

/-- A `Move` on behalf of one of the accounts preserves `Guarded`, if names are `Unambiguous`. -/
theorem Guarded.move (hg : h.Guarded A) (hu : h.Distinguishes A) (hm : h.Move item h')
    (hfits : item.Fits h) (ha : A item.connection.account) (hc : h.Coherent) (hcalm : h.Calm) :
    h'.Guarded A := by
  refine ⟨hg.paired.move hm hfits ha hc hcalm, fun k => ?_, hg.named.move hm hcalm⟩
  refine (hg.agree k).move hm hfits hc hcalm ?_
  -- a room that becomes live by its name is the one of the two accounts
  rintro c e b info h₁ rfl hne hstored hname hloads rfl
  exact (hg.pair hu hstored hname ha hne).2.agree_of_loads hloads hc

theorem guarded_fresh (A : String → Prop) (accounts : List Account) (mint : Mint)
    (outages : List Outage) : (fresh accounts mint outages).Guarded A where
  paired := paired_fresh A accounts mint outages
  agree _ :=
    { holds := fun d => ⟨fun ⟨_, hr, _⟩ => (by cases hr), fun hd => (by cases hd.1)⟩
      roles := fun _ _ hrole => by cases hrole }
  named _ _ hi := by cases hi

/-! ### The room of a direct message -/

/-- In the stored private `room` are the accounts `a` and `b`, and nobody else is connected to it.
-/
structure Turn.Trusts (t : Turn) (room : LiveRoom) (a b : String) : Prop where
  /-- The room is stored, and private. -/
  stored : ∃ info, t.hub.store.rooms.get? room.id = some info ∧ info.isPrivate = true
  /-- Its members. -/
  members : ∀ x, (t.hub.store.roleOf? room.id x).isSome = true ↔ x = a ∨ x = b
  /-- Who is told what the first account writes. -/
  audience : ∀ d ∈ room.audience a, d.account = b

theorem Turn.Finds.id (hf : t.Finds u a b info room) (hc : t.hub.Coherent) : room.id = info.id := by
  rcases hf with ⟨-, hk⟩ | ⟨-, -, rfl⟩
  · exact hc.rooms.keyed _ room hk
  · rw [LiveRoom.id, info_enroll_ofInfo]

/-- `Finds` tells nobody anything, and leaves the store as it is. -/
theorem Turn.Finds.becomes (hf : t.Finds u a b info room) :
    t.Becomes u u.hub.rooms t.hub.store [] := by
  rcases hf with ⟨ha, -⟩ | ⟨hb, -⟩
  · rw [ha.rooms]
    exact ha
  · exact hb

/-- A room that `Finds` has found by its name is that of the two accounts (`Trusts`), if names are
`Unambiguous`. -/
theorem Turn.Finds.trusts (hf : t.Finds u a b info room) (hg : t.hub.Guarded A)
    (hu : t.hub.Distinguishes A) (hc : t.hub.Coherent)
    (hk : t.hub.store.rooms.get? info.id = some info) (hname : info.name = privateName a b)
    (ha : A a) (hne : b ≠ a) : u.Trusts room a b := by
  obtain ⟨hprivate, hpair⟩ := hg.pair hu hk hname ha hne
  have hid := hf.id hc
  have hstore := hf.becomes.store
  refine ⟨⟨info, ?_, hprivate⟩, fun x => ?_, fun d hd => ?_⟩
  · rw [hstore, hid, hk]
  · rw [hstore, hid, hpair.isSome_roleOf?_iff]
  · -- who is in the room has one of the two accounts, and it is not the first one
    suffices h : room.Sound ∧ ∀ d, room.Holds d → d.account = a ∨ d.account = b by
      rw [h.1.mem_audience] at hd
      exact (h.2 d hd.1).resolve_left hd.2
    rcases hf with ⟨-, hlive⟩ | ⟨-, -, rfl⟩
    · refine ⟨hc.rooms.sound _ room hlive, fun d hd => ?_⟩
      have hpresent := ((hg.agree info.id).holds d).1 ⟨room, hlive, hd⟩
      exact hpair.isSome_roleOf?_iff.1 hpresent.2
    · have hw := LiveRoom.within_ofInfo info t.hub.roster
      refine ⟨LiveRoom.sound_enroll hc.roster (LiveRoom.sound_ofInfo _) hw _ _, fun d hd => ?_⟩
      rw [LiveRoom.holds_enroll hc.roster hw] at hd
      rcases hd with hd | ⟨-, hd⟩
      · exact absurd hd (LiveRoom.not_holds_ofInfo _ _)
      · simpa using hd

/-- A room that `Pairs` has made is that of the two accounts (`Trusts`). -/
theorem Turn.Pairs.trusts {f : Founding} (hp : t.Pairs u c b f) (hc : t.hub.Coherent) :
    u.Trusts (f.liveRoom t.hub.roster) c.account b := by
  have hid := f.id_liveRoom t.hub.roster
  obtain ⟨m, hm, hpair⟩ := hp.founds.pair hc hp.permits.fits hp.isPrivate
  rw [hp.members] at hm
  obtain rfl : b = m := (List.cons.inj hm).1
  rw [hp.permits.creator] at hpair
  refine ⟨⟨f.info, ?_, hp.isPrivate⟩, fun x => ?_, fun d hd => ?_⟩
  · rw [hid, hp.founds.store.rooms, if_pos rfl]
  · rw [hid, hpair.isSome_roleOf?_iff]
  · rw [(f.sound_liveRoom hc.roster).mem_audience, f.holds_liveRoom hc.roster,
      hp.permits.creator, hp.members, List.mem_singleton] at hd
    exact hd.1.2.resolve_left hd.2

/-! ### Discretion -/

theorem not_chat_of_mem_answers {roster : Roster} {event : String} {result : Json}
    {d : Connection} {view : ChatView} : Effect.send d (.chat view) ∉ answers roster c event result := by
  simp [answers]

/-- `Opens`, then `Writes`: with unambiguous names the message `Confides`, as the room is that of
the two. -/
theorem Turn.Opens.confides {text : String} (ho : t.Opens s c none (some b) room)
    (hw : s.Writes u c room text) (hg : t.hub.Guarded A) (hu : t.hub.Distinguishes A)
    (hc : t.hub.Coherent) (ha : A c.account) (heffects : t.effects = []) :
    t.hub.Confides u.hub u.effects c.account b text := by
  -- the room is that of the two, and nobody has been told a message yet
  obtain ⟨htrusts, hmessages, hnone⟩ : s.Trusts room c.account b ∧
      s.hub.store.messages = t.hub.store.messages ∧
      ∀ d view, Effect.send d (.chat view) ∉ s.effects := by
    rcases ho with hr | ⟨receiver, f, -, hb, hp, rfl⟩
    · cases hr with
      | receiver other stored named finds =>
        refine ⟨finds.trusts hg hu hc stored named ha other, by rw [finds.becomes.store], ?_⟩
        intro d view hd
        rw [finds.becomes.effects, heffects] at hd
        cases hd
    · cases hb
      refine ⟨hp.trusts hc, by rw [hp.founds.store.rest], fun d view hd => ?_⟩
      obtain ⟨news, hb, hnews⟩ := hp.informs
      rw [hb.effects, heffects] at hd
      exact hnews _ hd
  obtain ⟨message, hsender, hroom, htext, hb⟩ := hw
  obtain ⟨info, hinfo, hprivate⟩ := htrusts.stored
  refine ⟨⟨message, info, ?_, hsender, htext, ?_, hprivate, ?_⟩, fun d v hd => ?_⟩
  · rw [hb.store, ← hmessages]
    rfl
  · rw [hb.store, hroom]
    exact hinfo
  · rw [hb.store, hroom]
    exact htrusts.members
  · -- of all that was done, only what is sent to the room is a message
    rw [hb.effects, List.mem_append, List.mem_append, List.mem_map] at hd
    rcases hd with hd | ⟨d', hd', he⟩ | hd
    · exact absurd hd (hnone d v)
    · cases he
      exact htrusts.audience d hd'
    · exact absurd hd not_chat_of_mem_answers

/-- With unambiguous names a `Guarded` hub is `Discreet`. -/
theorem Guarded.discreet (hg : h.Guarded A) (hu : h.Distinguishes A) (hc : h.Coherent)
    (hcalm : h.Calm) : h.Discreet := by
  refine ⟨fun c e b text hreg he hok => ?_, fun c e b hreg he d view hd => ?_⟩
  · have ha := hg.paired.allowed c hreg
    have hgives := serve_gives he (chat_gives (t := { hub := h }) hc c ⟨none, some b, text⟩)
    rcases handle_event hgives with
      ⟨hnone, -⟩ | ⟨u, ⟨room, s, hopens, hwrites⟩, hh⟩ | ⟨err, u, hfails, hh⟩
    · rw [hreg] at hnone
      cases hnone
    · rw [hh]
      exact hopens.confides hwrites hg hu hc ha rfl
    · -- a message that could not be written is not answered with success
      exfalso
      rw [hh] at hok
      obtain ⟨reply, hreply⟩ := hok
      rcases hfails with ⟨hr, -⟩ | ⟨-, -, -, -, -, -, -, hstorm, -⟩ | ⟨room, s, hopens, -, hstorm⟩
      · rw [hr.1.1.effects] at hreply
        simp [ServerEvent.ofError] at hreply
      · exact hstorm hcalm
      · exact hstorm (hopens.calm hcalm)
  · have ha := hg.paired.allowed c hreg
    have hgives := serve_gives he (typing_gives (t := { hub := h }) hc c ⟨none, some b⟩)
    rcases handle_event hgives with
      ⟨hnone, -⟩ | ⟨u, ⟨room, s, hreaches, hu'⟩, hh⟩ | ⟨err, u, hasks, hh⟩
    · rw [hreg] at hnone
      cases hnone
    · -- the other devices of the sender are told of the frame, not that somebody types
      rw [hh] at hd
      cases hreaches with
      | receiver other stored named finds =>
        have htrusts := finds.trusts hg hu hc stored named ha other
        obtain ⟨view', result, hb⟩ := hu'
        rw [hb.effects, finds.becomes.effects] at hd
        simp only [List.nil_append, List.mem_append, List.mem_map] at hd
        rcases hd with ⟨d', hd', hx⟩ | ⟨d', -, hx⟩
        · cases hx
          exact htrusts.audience d hd'
        · cases hx
    · rw [hh, hasks.effects] at hd
      simp [ServerEvent.ofError] at hd

/-! ### Accounts that are mistaken for each other -/

/-- The envelope of a message to the account `b`. -/
def direct (b : String) : Envelope :=
  ⟨"chat", .object [("user_id", .text b), ("message", .text "hello")]⟩

theorem decode_direct (b : String) :
    ClientEvent.decode (direct b) = .ok (.chat ⟨none, some b, "hello"⟩) := rfl

/-- A `direct` message that is `Addressable` is written, under calm. -/
theorem direct_written (hc : h.Coherent) (hcalm : h.Calm) (hreg : h.roster.get? c.id = some c)
    (haddress : h.Addressable c.account b) :
    ∃ room s u, ({ hub := h } : Turn).Opens s c none (some b) room ∧ s.Writes u c room "hello" ∧
      h.handle (.event c (direct b)) = (u.hub, u.effects) := by
  have hgives := serve_gives (decode_direct b)
    (chat_gives (t := { hub := h }) hc c ⟨none, some b, "hello"⟩)
  rcases handle_event hgives with ⟨hnone, -⟩ | ⟨u, ⟨room, s, ho, hw⟩, hh⟩ | ⟨err, u, hfails, -⟩
  · rw [hreg] at hnone
    cases hnone
  · exact ⟨room, s, u, ho, hw, hh⟩
  · exfalso
    rcases hfails with ⟨-, hf⟩ | ⟨-, -, -, -, -, -, -, hstorm, -⟩ | ⟨room, s, hopens, -, hstorm⟩
    · exact hf hcalm (show "hello" ≠ "" by decide) rfl b rfl haddress
    · exact hstorm hcalm
    · exact hstorm (hopens.calm hcalm)

/-- The first `direct` message of all makes a room that is the `Pair` of sender and receiver. -/
theorem direct_of_no_rooms (hc : h.Coherent) (hcalm : h.Calm)
    (hreg : h.roster.get? c.id = some c) (hnone : ∀ k, h.store.rooms.get? k = none)
    (hne : b ≠ c.account) (hb : (h.store.account? b).isSome = true) :
    ∃ info, (h.handle (.event c (direct b))).1.Pair info c.account b ∧
      (∀ k, (h.handle (.event c (direct b))).1.store.rooms.get? k =
        if k = info.id then some info else none) ∧
      (h.handle (.event c (direct b))).1.roster = h.roster := by
  obtain ⟨room, s, u, ho, ⟨message, -, -, -, hw⟩, hh⟩ := direct_written hc hcalm hreg
    ⟨hne, Or.inr ⟨hb, fun n => hnone _⟩⟩
  rw [hh]
  rcases ho with hr | ⟨receiver, f, -, he, hp, rfl⟩
  · -- there is no room that could be found
    cases hr with
    | receiver _ stored =>
      rw [hnone] at stored
      cases stored
  · cases he
    obtain ⟨m, hm, hpair⟩ := hp.founds.pair hc hp.permits.fits hp.isPrivate
    rw [hp.members] at hm
    obtain rfl : b = m := (List.cons.inj hm).1
    rw [hp.permits.creator] at hpair
    refine ⟨f.info, hpair.congr fun x => ?_, fun k => ?_, ?_⟩
    · rw [hw.store]
      rfl
    · rw [hw.store]
      show s.hub.store.rooms.get? k = _
      rw [hp.founds.store.rooms, hnone]
    · rw [hw.roster, hp.founds.roster]

/-- Where there is a single room, with a name that fits, a `direct` message goes into it, whoever
its members are; so the hub is not `Discreet`. -/
theorem not_discreet_of_only_room {a' : String} (hc : h.Coherent) (hcalm : h.Calm)
    (hreg : h.roster.get? c.id = some c) (hp : h.Pair info a' b)
    (honly : ∀ k, h.store.rooms.get? k = if k = info.id then some info else none)
    {d : String} (hne : d ≠ c.account) (hname : privateName c.account d = privateName a' b)
    (hd : h.Discreet) : (c.account = a' ∧ d = b) ∨ (c.account = b ∧ d = a') := by
  have hstored : h.store.rooms.get? info.id = some info := by rw [honly, if_pos rfl]
  obtain ⟨room, s, u, ho, ⟨sent, -, hroom, -, hw⟩, hh⟩ := direct_written hc hcalm hreg
    ⟨hne, Or.inl ⟨_, info, hstored, by rw [hp.name, hname]⟩⟩
  obtain ⟨hid, hstore⟩ : room.id = info.id ∧ s.hub.store = h.store := by
    rcases ho with hr | ⟨receiver, f, -, he, hp', rfl⟩
    · cases hr with
      | @receiver _ i _ _ stored _ finds =>
        have hi : i.id = info.id := by
          rw [show h.store.rooms.get? i.id = _ from honly _] at stored
          split_ifs at stored with hi
          exact hi
        exact ⟨(finds.id hc).trans hi, finds.becomes.store⟩
    · -- no second room of the name is made
      cases he
      obtain ⟨m, hm, hpair⟩ := hp'.founds.pair hc hp'.permits.fits hp'.isPrivate
      rw [hp'.members] at hm
      obtain rfl : d = m := (List.cons.inj hm).1
      refine absurd ?_ (hp'.permits.named _ info hstored)
      rw [hpair.name, hp'.permits.creator, hp.name, hname]
  have hok : ∃ reply, .send c (.success reply) ∈ (h.handle (.event c (direct d))).2 := by
    refine ⟨replyWith "chat" (Wire.chatView.shape.toJson ⟨sent, c.name⟩), ?_⟩
    rw [hh, hw.effects]
    simp [answers]
  obtain ⟨message, i, hmessages, -, -, -, -, hmembers⟩ :=
    (hd.chat c _ d _ hreg (decode_direct d) hok).kept
  rw [hh, hw.store, hstore] at hmessages hmembers
  obtain rfl : sent = message := by
    have hlast := List.append_cancel_left hmessages
    exact (List.cons.inj hlast).1
  -- so the members of that room are sender and receiver
  have hiff : ∀ x, (x = a' ∨ x = b) ↔ (x = c.account ∨ x = d) := fun x => by
    rw [← hmembers, hroom, hid, ← hp.isSome_roleOf?_iff]
    rfl
  have hc' := (hiff c.account).2 (Or.inl rfl)
  have hd' := (hiff d).2 (Or.inr rfl)
  rcases hc' with h1 | h1
  · rcases hd' with h2 | h2
    · exact absurd (h2.trans h1.symm) hne
    · exact Or.inl ⟨h1, h2⟩
  · rcases hd' with h2 | h2
    · exact Or.inr ⟨h1, h2⟩
    · exact absurd (h2.trans h1.symm) hne

/-- `Visits` a state in which two given connections are registered and there are no rooms yet. -/
theorem exists_visits_connected (accounts : List Account) (mint : Mint) {c d : Connection}
    (hid : d.id ≠ c.id) (hc : A c.account) (hd : A d.account) :
    ∃ h, Visits A (fresh accounts mint []) h ∧ h.roster.get? c.id = some c ∧
      h.roster.get? d.id = some d ∧ ∀ k, h.store.rooms.get? k = none := by
  have hcoherent := coherent_fresh accounts mint []
  have hr₁ := handle_register hcoherent c
  have hv₁ : Visits A (fresh accounts mint []) ((fresh accounts mint []).handle (.register c)).1 :=
    Visits.start.step (fun _ h => by cases h) hc
  generalize ((fresh accounts mint []).handle (.register c)).1 = h₁ at hr₁ hv₁
  -- only the first connection is registered so far
  have hnew : h₁.roster.get? d.id = none := by
    rw [hr₁.roster, Roster.get?_add, if_neg hid]
    rfl
  have hr₂ := handle_register (hv₁.reachable.coherent hcoherent) d
  have hv₂ : Visits A (fresh accounts mint []) (h₁.handle (.register d)).1 := by
    refine hv₁.step (fun x hx => ?_) hd
    rw [show h₁.roster.get? d.id = some x from hx] at hnew
    cases hnew
  refine ⟨_, hv₂, ?_, ?_, fun k => ?_⟩
  · rw [hr₂.roster, Roster.get?_add, if_neg hid.symm, hr₁.roster, Roster.get?_add, if_pos rfl]
  · rw [hr₂.roster, Roster.get?_add, if_pos rfl]
  · rw [(agrees_of_presence hr₂.store).rooms, (agrees_of_presence hr₁.store).rooms]
    rfl

/-- `Unambiguous` follows if all states that are visited are `Discreet`: one account writes to
another one, and then two accounts with the same `privateName` write to each other. -/
theorem unambiguous_of_discreet {accounts : List Account} {mint : Mint}
    (hdiscreet : ∀ h, Visits A (fresh accounts mint []) h → h.Discreet) :
    Unambiguous A (· ∈ accounts.map Account.id) := by
  intro a b c d ha hb hne hc hdc hname
  obtain ⟨h, hv, hrega, hregc, hnone⟩ := exists_visits_connected accounts mint
    (c := ⟨"1", a, "", .user⟩) (d := ⟨"2", c, "", .user⟩) (show "2" ≠ "1" by decide)
    ha hc
  have hcoherent := coherent_fresh accounts mint []
  have hknown : (h.store.account? b).isSome = true := by
    rw [Store.account?, hv.accounts hcoherent rfl]
    exact Store.isSome_account?_ofAccounts.2 hb
  -- `a` writes to `b`, which makes the only room
  obtain ⟨info, hpair, honly, hroster⟩ := direct_of_no_rooms (hv.reachable.coherent hcoherent)
    (hv.reachable.calm hcoherent rfl) hrega hnone hne hknown
  have hv' := hv.step (@Inbound.fits_of_get? (.event _ (direct b)) h hrega) ha
  -- `c` writes to `d`, and the message goes to that room
  refine not_discreet_of_only_room (c := ⟨"2", c, "", .user⟩) (hv'.reachable.coherent hcoherent)
    (hv'.reachable.calm hcoherent rfl) ?_ hpair honly hdc hname (hdiscreet _ hv')
  rw [hroster]
  exact hregc

/-- As long as names are unambiguous, every state that is visited is `Guarded`. -/
theorem Visits.guarded {accounts : List Account} {mint : Mint}
    (hv : Visits A (fresh accounts mint []) h)
    (hu : Unambiguous A (· ∈ accounts.map Account.id)) : h.Guarded A ∧ h.Distinguishes A := by
  -- the accounts never change, so neither does what the names distinguish
  have hdistinguishes : ∀ {h : Hub}, h.store.accounts = (Store.ofAccounts accounts).accounts →
      h.Distinguishes A := by
    intro h haccounts a b c d ha hb
    refine hu a b c d ha (Store.isSome_account?_ofAccounts.1 ?_)
    rw [Store.account?, ← haccounts]
    exact hb
  have hcoherent := coherent_fresh accounts mint []
  refine ⟨?_, hdistinguishes (hv.accounts hcoherent rfl)⟩
  refine (hv.induct (P := fun h => h.Guarded A ∧
    h.store.accounts = (Store.ofAccounts accounts).accounts)
    ⟨guarded_fresh A accounts mint [], rfl⟩ ?_ hcoherent rfl).1
  rintro h h' item hfits ha hm hc hcalm ⟨hg, haccounts⟩
  exact ⟨hg.move (hdistinguishes haccounts) hm hfits ha hc hcalm, hm.accounts.trans haccounts⟩

/-- **When direct messages stay between two.** While the store is in reach, what is addressed to an
account is for sender and receiver only, in all states that a hub without rooms reaches on behalf of
certain accounts, exactly if the names of private rooms are unambiguous for them. -/
theorem discreet_iff_unambiguous (A : String → Prop) (accounts : List Account) :
    (∀ mint h, Visits A (fresh accounts mint []) h → h.Discreet) ↔
      Unambiguous A (· ∈ accounts.map Account.id) := by
  constructor
  · exact fun h => unambiguous_of_discreet (h default)
  · intro hu mint h hv
    obtain ⟨hg, hd⟩ := hv.guarded hu
    have hcoherent := coherent_fresh accounts mint []
    exact hg.discreet hd (hv.reachable.coherent hcoherent) (hv.reachable.calm hcoherent rfl)

/-- The account that is told a `.chat`. -/
def listener? : Effect → Option String
  | .send d (.chat _) => some d.account
  | _ => none

/-- The connection that is told by a `.success` that a frame was carried out. -/
def origin? : Effect → Option Connection
  | .send d (.success _) => some d
  | _ => none

/-- Four accounts. The `privateName` of the first two is that of the last two. -/
def confusable : List Account :=
  [⟨"a", "A", .user⟩, ⟨"b:c", "B", .user⟩, ⟨"a:b", "C", .user⟩, ⟨"c", "D", .user⟩]

/-- Two of the `confusable` accounts come, and one of them writes to an account that is not
connected. -/
def confusion : List Inbound :=
  [.register ⟨"1", "a", "A", .user⟩, .register ⟨"2", "a:b", "C", .user⟩,
    .event ⟨"1", "a", "A", .user⟩ (direct "b:c")]

/-- What `a:b` writes to `c` then is told to `a`, and kept in the room of `a` and `b:c`. -/
theorem exists_reachable_not_discreet :
    ∃ h, Reachable (fresh confusable (.counting 0) []) h ∧ ¬ h.Discreet := by
  refine ⟨_, Reachable.start.run (show Follows _ confusion by decide +kernel), fun hd => ?_⟩
  -- `a` is told of a message that is for `c`
  have htold : some "a" ∈ (((fresh confusable (.counting 0) []).run confusion).1.handle
      (.event ⟨"2", "a:b", "C", .user⟩ (direct "c"))).2.map listener? := by decide +kernel
  have hok : some ⟨"2", "a:b", "C", .user⟩ ∈
      (((fresh confusable (.counting 0) []).run confusion).1.handle
        (.event ⟨"2", "a:b", "C", .user⟩ (direct "c"))).2.map origin? := by decide +kernel
  obtain ⟨x, hx, hlistener⟩ := List.mem_map.1 htold
  obtain ⟨y, hy, horigin⟩ := List.mem_map.1 hok
  have hreply : ∃ reply, y = .send ⟨"2", "a:b", "C", .user⟩ (.success reply) := by
    unfold origin? at horigin
    split at horigin <;> cases horigin
    exact ⟨_, rfl⟩
  obtain ⟨reply, rfl⟩ := hreply
  unfold listener? at hlistener
  split at hlistener
  · rename_i d view
    have hc := (hd.chat _ _ _ _ (by decide +kernel) (decode_direct "c") ⟨reply, hy⟩).told d view hx
    rw [hc] at hlistener
    exact absurd hlistener (by decide)
  · cases hlistener

end Hub

end GroupChat
