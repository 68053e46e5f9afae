import GroupChat.Proofs.Hub.Handle
import GroupChat.Proofs.Hub.Inside

/-!
# Who is told

Whatever the hub does, it does to clients that are registered. Nothing in a handler looks a client
up before it is told something: that it is registered follows from where it was found, which is the
directory of connections, a live room, or the item itself.

## Main statements

- `dispatch_keeps`, `register_keeps`, `unregister_keeps`: the handlers stay inside a directory.
- `holds_of_mem_handle`: an item does something to registered clients only.
-/

namespace GroupChat.Hub

open Wire

variable {R : Roster}

/-! ### Answers and notifications -/

section Answers

variable {c : Connection} (hc : R.Holds c)

/-- `forward` tells registered connections only. -/
theorem forward_keeps (c : Connection) (event : String) (result : Json) :
    Step.Keeps (forward c event result) R Anything := by
  unfold forward
  refine (look_keeps (P := fun cs => ∀ d ∈ cs, R.Holds d) fun t ht => ?_).bind fun cs hcs => ?_
  · intro d hd
    exact ht.connectionsOf c.account d (List.mem_filter.1 hd).1
  · exact sendAll_keeps hcs _

include hc in
theorem reply_keeps (event : String) (result : Json) :
    Step.Keeps (reply c event result) R Anything :=
  (send_keeps hc _).discard

include hc in
theorem replyAndForward_keeps (event : String) (result : Json) :
    Step.Keeps (replyAndForward c event result) R Anything :=
  (reply_keeps hc event result).bind fun _ _ => forward_keeps c event result

end Answers

theorem signal_keeps (kind : NotificationKind) (c : Connection) (room : String) :
    Step.Keeps (signal kind c room) R Anything :=
  newSignalStamp_keeps.bind fun _ _ => Step.keeps_pure trivial

/-- `notify` tells registered connections only, if all in the room are. -/
theorem notify_keeps {room : LiveRoom} (hr : room.Inside R) (kind : NotificationKind)
    (account name : String) : Step.Keeps (notify room kind account name) R Anything := by
  unfold notify
  refine newNoticeStamp_keeps.bind fun _ _ => ?_
  refine (orReport_keeps (tell_keeps _ _) _).bind fun _ _ => ?_
  exact (broadcast_keeps hr _).bind fun _ _ => Step.keeps_pure trivial

theorem see_connectionsOf_keeps (a : String) :
    Request.Keeps (see (·.roster.connectionsOf a)) R fun cs => ∀ d ∈ cs, R.Holds d :=
  see_keeps fun _ ht => ht.connectionsOf a

theorem look_connectionsOf_keeps (a : String) :
    Step.Keeps (look (·.roster.connectionsOf a)) R fun cs => ∀ d ∈ cs, R.Holds d :=
  look_keeps fun _ ht => ht.connectionsOf a

/-! ### Finding rooms and accounts -/

theorem storedRoom_keeps (reference : String) :
    Request.Keeps (storedRoom reference) R Anything := by
  unfold storedRoom
  refine (orFail_keeps (ask_keeps _ _)).bind fun info? _ => ?_
  split
  · exact Request.keeps_pure trivial
  · exact orFail_keeps (ask_keeps _ _)

/-- `resolve` gives a room whose connections are registered. -/
theorem resolve_keeps (reference : String) :
    Request.Keeps (resolve reference) R fun room => room.Inside R := by
  unfold resolve
  refine (see_keeps (P := fun live => ∀ room, live = some room → room.Inside R)
    fun t ht _ hl => ht.liveByReference hl).bind fun live hlive => ?_
  split
  · exact Request.keeps_pure (hlive _ rfl)
  · refine (storedRoom_keeps reference).bind fun info? _ => ?_
    split
    · exact Request.keeps_throw _
    · exact see_keeps fun t ht => ht.roomOf _

theorem memberRoom_keeps (c : Connection) (reference : String) :
    Request.Keeps (memberRoom c reference) R fun room => room.Inside R := by
  unfold memberRoom
  refine (resolve_keeps reference).bind fun room hroom => ?_
  split
  · exact Request.keeps_pure hroom
  · exact Request.keeps_throw _

theorem knownAccount_keeps (id : String) : Request.Keeps (knownAccount id) R Anything := by
  unfold knownAccount
  refine (orFail_keeps (ask_keeps _ _)).bind fun account? _ => ?_
  split
  · exact Request.keeps_pure trivial
  · exact Request.keeps_throw _

theorem knownAccounts_keeps (ids : List String) : Request.Keeps (knownAccounts ids) R Anything := by
  induction ids with
  | nil => exact Request.keeps_pure trivial
  | cons id ids ih => exact (knownAccount_keeps id).bind fun _ _ => ih

/-! ### Members -/

theorem isMember_keeps (room : LiveRoom) (account : String) :
    Request.Keeps (isMember room account) R Anything := by
  unfold isMember
  split
  · exact Request.keeps_pure trivial
  · exact (orFail_keeps (ask_keeps _ _)).bind fun _ _ => Request.keeps_pure trivial

/-- `joinRoom` lets in the connection that asks, and so all in the rooms stay registered. -/
theorem joinRoom_keeps {c : Connection} (hc : R.Holds c) (r : RoomRequest) :
    Request.Keeps (joinRoom c r) R Anything := by
  unfold joinRoom
  refine (resolve_keeps r.room).bind fun room hroom => ?_
  refine Request.Keeps.refuse (Request.Keeps.refuse ?_)
  refine (isMember_keeps room c.account).bind fun member _ => Request.Keeps.refuse ?_
  refine (orFail_keeps (tell_keeps _ _)).bind fun _ _ => ?_
  refine (see_connectionsOf_keeps c.account).bind fun own hown => ?_
  have hjoined : (room.joinAll own .user).Inside R := hroom.joinAll hown .user
  refine Request.Keeps.lift_bind (keepRoom_keeps hjoined) fun _ _ => ?_
  refine Request.Keeps.lift_bind (notify_keeps hjoined _ _ _) fun _ _ => ?_
  exact Request.Keeps.lift (replyAndForward_keeps hc _ _)

theorem dropIfEmpty_keeps (room : LiveRoom) : Step.Keeps (dropIfEmpty room) R Anything := by
  unfold dropIfEmpty
  split
  · refine (dropRoom_keeps room.id).bind fun _ _ => ?_
    refine (ask_keeps _ _).bind fun count _ => ?_
    split
    · exact orReport_keeps (tell_keeps _ _) _
    · exact Step.keeps_pure trivial
    · exact report_keeps _
  · exact Step.keeps_pure trivial

theorem leaveRoom_keeps {c : Connection} (hc : R.Holds c) (r : RoomRequest) :
    Request.Keeps (leaveRoom c r) R Anything := by
  unfold leaveRoom
  refine (resolve_keeps r.room).bind fun room hroom => ?_
  refine Request.Keeps.refuse (Request.Keeps.refuse ?_)
  refine (orFail_keeps (tell_keeps _ _)).bind fun _ _ => ?_
  have hleft : (room.removeAccount c.account).2.Inside R := hroom.removeAccount c.account
  refine Request.Keeps.lift_bind (keepRoom_keeps hleft) fun _ _ => ?_
  refine Request.Keeps.lift_bind (notify_keeps hleft _ _ _) fun _ _ => ?_
  refine Request.Keeps.lift_bind (dropIfEmpty_keeps _) fun _ _ => ?_
  exact Request.Keeps.lift (replyAndForward_keeps hc _ _)

theorem adminRoom_keeps (c : Connection) (reference : String) :
    Request.Keeps (adminRoom c reference) R fun room => room.Inside R := by
  unfold adminRoom
  refine (resolve_keeps reference).bind fun room hroom => ?_
  exact Request.Keeps.refuse (Request.Keeps.refuse (Request.keeps_pure hroom))

theorem invitees_keeps (room : String) (ids : List String) :
    Request.Keeps (invitees room ids) R Anything := by
  induction ids with
  | nil => exact Request.keeps_pure trivial
  | cons id ids ih =>
    rw [invitees]
    refine (knownAccount_keeps id).bind fun account _ => ?_
    refine (orFail_keeps (ask_keeps _ _)).bind fun role _ => ?_
    exact ih.bind fun others _ => Request.keeps_pure trivial

theorem undoInvites_keeps (room : String) (as : List String) :
    Step.Keeps (undoInvites room as) R Anything := by
  induction as with
  | nil => exact Step.keeps_pure trivial
  | cons a as ih => exact (orReport_keeps (tell_keeps _ _) _).bind fun _ _ => ih

theorem addInvitees_keeps (room : String) (added : List String) (accounts : List Account) :
    Request.Keeps (addInvitees room added accounts) R Anything := by
  induction accounts generalizing added with
  | nil => exact Request.keeps_pure trivial
  | cons account accounts ih =>
    rw [addInvitees]
    refine Request.Keeps.lift_bind (tell_keeps _ _) fun r _ => ?_
    split
    · exact ih _
    · exact Request.Keeps.lift_bind (undoInvites_keeps room added) fun _ _ => Request.keeps_throw _

/-- `welcome` lets registered connections in, account by account. -/
theorem welcome_keeps (accounts : List Account) {room : LiveRoom} (hr : room.Inside R) :
    Step.Keeps (welcome accounts room) R fun room => room.Inside R := by
  induction accounts generalizing room with
  | nil => exact Step.keeps_pure hr
  | cons account accounts ih =>
    rw [welcome]
    refine (look_connectionsOf_keeps account.id).bind fun devices hdevices => ?_
    have hjoined : (room.joinAll devices .user).Inside R := hr.joinAll hdevices .user
    refine (sendAll_keeps hdevices _).bind fun _ _ => ?_
    exact (notify_keeps hjoined _ _ _).bind fun _ _ => ih hjoined

theorem inviteRoom_keeps {c : Connection} (hc : R.Holds c) (r : MembersRequest) :
    Request.Keeps (inviteRoom c r) R Anything := by
  unfold inviteRoom
  refine (adminRoom_keeps c r.room).bind fun room hroom => Request.Keeps.refuse ?_
  refine (invitees_keeps room.id _).bind fun accounts _ => Request.Keeps.refuse ?_
  refine (addInvitees_keeps room.id [] accounts).bind fun _ _ => ?_
  refine Request.Keeps.lift_bind (welcome_keeps accounts hroom) fun room hroom => ?_
  refine Request.Keeps.lift_bind (keepRoom_keeps hroom) fun _ _ => ?_
  exact Request.Keeps.lift (replyAndForward_keeps hc _ _)

theorem targets_keeps (room : String) (ids : List String) :
    Request.Keeps (targets room ids) R Anything := by
  induction ids with
  | nil => exact Request.keeps_pure trivial
  | cons id ids ih =>
    rw [targets]
    refine (orFail_keeps (ask_keeps _ _)).bind fun role _ => ?_
    split
    · exact Request.keeps_throw _
    · exact ih.bind fun rest _ => Request.keeps_pure trivial

theorem undoKicks_keeps (room : String) (ms : List (String × Role)) :
    Step.Keeps (undoKicks room ms) R Anything := by
  induction ms with
  | nil => exact Step.keeps_pure trivial
  | cons m ms ih => exact (orReport_keeps (tell_keeps _ _) _).bind fun _ _ => ih

theorem removeTargets_keeps (room : String) (removed ms : List (String × Role)) :
    Request.Keeps (removeTargets room removed ms) R Anything := by
  induction ms generalizing removed with
  | nil => exact Request.keeps_pure trivial
  | cons m ms ih =>
    rw [removeTargets]
    refine Request.Keeps.lift_bind (tell_keeps _ _) fun r _ => ?_
    split
    · exact ih _
    · exact Request.Keeps.lift_bind (undoKicks_keeps room removed) fun _ _ => Request.keeps_throw _

theorem nameOf_keeps (account : String) : Step.Keeps (nameOf account) R Anything := by
  unfold nameOf
  refine (ask_keeps _ _).bind fun r _ => ?_
  split
  · exact Step.keeps_pure trivial
  · exact Step.keeps_pure trivial

/-- `sendOff` tells the devices of removed accounts once more; they were in the room, and so in `R`.
-/
theorem sendOff_keeps (accounts : List String) {room : LiveRoom} (hr : room.Inside R) :
    Step.Keeps (sendOff accounts room) R fun room => room.Inside R := by
  induction accounts generalizing room with
  | nil => exact Step.keeps_pure hr
  | cons account accounts ih =>
    rw [sendOff]
    have hleft : (room.removeAccount account).2.Inside R := hr.removeAccount account
    have hdevices : ∀ d ∈ room.connectionsOf account, R.Holds d :=
      fun d hd => hr.holds_of_mem_connectionsOf hd
    refine (nameOf_keeps account).bind fun name _ => ?_
    refine (notify_keeps hleft _ _ _).bind fun event _ => ?_
    exact (sendAll_keeps hdevices event).bind fun _ _ => ih hleft

theorem kickRoom_keeps {c : Connection} (hc : R.Holds c) (r : MembersRequest) :
    Request.Keeps (kickRoom c r) R Anything := by
  unfold kickRoom
  refine (adminRoom_keeps c r.room).bind fun room hroom => ?_
  refine Request.Keeps.refuse (Request.Keeps.refuse ?_)
  refine (targets_keeps room.id _).bind fun accounts _ => ?_
  refine (removeTargets_keeps room.id [] accounts).bind fun _ _ => ?_
  refine Request.Keeps.lift_bind (sendOff_keeps _ hroom) fun room hroom => ?_
  refine Request.Keeps.lift_bind (keepRoom_keeps hroom) fun _ _ => ?_
  refine Request.Keeps.lift_bind (dropIfEmpty_keeps _) fun _ _ => ?_
  exact Request.Keeps.lift (replyAndForward_keeps hc _ _)

/-! ### New rooms -/

theorem addMembers_keeps (room : String) (ms : List (String × Role)) :
    Step.Keeps (addMembers room ms) R Anything := by
  induction ms with
  | nil => exact Step.keeps_pure trivial
  | cons m ms ih =>
    rw [addMembers]
    refine (tell_keeps _ _).bind fun r _ => ?_
    split
    · exact ih
    · exact Step.keeps_pure trivial

theorem persist_keeps (f : Founding) : Request.Keeps (persist f) R Anything := by
  unfold persist
  refine (orFail_keeps (tell_keeps _ _)).bind fun _ _ => ?_
  refine Request.Keeps.lift_bind (addMembers_keeps _ _) fun r _ => ?_
  split
  · exact Request.keeps_pure trivial
  · refine Request.Keeps.lift_bind (orReport_keeps (tell_keeps _ _) _) fun _ _ => ?_
    exact Request.keeps_throw _

theorem inviteDevices_keeps (invited : ServerEvent) (members : List String) {room : LiveRoom}
    (hr : room.Inside R) :
    Step.Keeps (inviteDevices invited members room) R fun room => room.Inside R := by
  induction members generalizing room with
  | nil => exact Step.keeps_pure hr
  | cons member members ih =>
    rw [inviteDevices]
    refine (look_connectionsOf_keeps member).bind fun devices hdevices => ?_
    exact (sendAll_keeps hdevices _).bind fun _ _ => ih (hr.joinAll hdevices .user)

/-- `openRoom` opens a room with registered connections. -/
theorem openRoom_keeps (f : Founding) : Step.Keeps (openRoom f) R fun room => room.Inside R := by
  unfold openRoom
  refine (look_connectionsOf_keeps f.creator).bind fun own hown => ?_
  have hjoined := (LiveRoom.inside_ofInfo f.info R).joinAll hown f.role
  refine (inviteDevices_keeps _ f.members hjoined).bind fun room hroom => ?_
  exact (enlistRoom_keeps hroom).bind fun _ _ => Step.keeps_pure hroom

theorem createRoom_keeps {c : Connection} (hc : R.Holds c) (r : CreateRequest) :
    Request.Keeps (createRoom c r) R Anything := by
  unfold createRoom
  refine Request.Keeps.except_bind fun _ => ?_
  refine (knownAccounts_keeps _).bind fun _ _ => ?_
  refine Request.Keeps.except_bind fun name => ?_
  refine (orFail_keeps (ask_keeps _ _)).bind fun taken _ => Request.Keeps.refuse ?_
  refine Request.Keeps.lift_bind newRoomId_keeps fun id _ => ?_
  refine (persist_keeps _).bind fun _ _ => ?_
  refine Request.Keeps.lift_bind (openRoom_keeps _) fun _ _ => ?_
  exact Request.Keeps.lift (replyAndForward_keeps hc _ _)

/-! ### Messages -/

theorem directRoom?_keeps (c : Connection) (receiver : String) :
    Request.Keeps (directRoom? c receiver) R fun room? => ∀ room ∈ room?, room.Inside R := by
  unfold directRoom?
  refine Request.Keeps.refuse ?_
  refine (see_keeps (P := fun live => ∀ room, live = some room → room.Inside R)
    fun t ht _ hl => ht.named hl).bind fun live hlive => ?_
  split
  · exact Request.keeps_pure fun room hroom => hlive room hroom
  · refine (orFail_keeps (ask_keeps _ _)).bind fun info? _ => ?_
    split
    · exact Request.keeps_pure fun room hroom => by cases hroom
    · rename_i info _
      refine (see_connectionsOf_keeps c.account).bind fun own hown => ?_
      refine (see_connectionsOf_keeps receiver).bind fun others hothers => ?_
      -- a room that becomes live gets registered connections only
      have hroom : (((LiveRoom.ofInfo info).joinAll own .user).joinAll others .user).Inside R :=
        ((LiveRoom.inside_ofInfo info R).joinAll hown .user).joinAll hothers .user
      refine Request.Keeps.lift_bind (enlistRoom_keeps hroom) fun _ _ => ?_
      exact Request.keeps_pure fun room h => Option.some.inj h ▸ hroom

theorem directRoom_keeps (c : Connection) (receiver : String) :
    Request.Keeps (directRoom c receiver) R fun room => room.Inside R := by
  unfold directRoom
  refine (directRoom?_keeps c receiver).bind fun room? hroom => ?_
  split
  · exact Request.keeps_pure (hroom _ rfl)
  · refine (knownAccount_keeps receiver).bind fun _ _ => ?_
    refine Request.Keeps.lift_bind newRoomId_keeps fun id _ => ?_
    refine (persist_keeps _).bind fun _ _ => ?_
    exact Request.Keeps.lift (openRoom_keeps _)

theorem typing_keeps (c : Connection) (r : TypingRequest) :
    Request.Keeps (typing c r) R Anything := by
  unfold typing
  -- what follows once the room was found
  have htail : ∀ room : LiveRoom, room.Inside R → Request.Keeps (do
      let event ← liftM (signal .typing c room.id)
      let _ ← liftM (broadcastExcept room event c.account)
      liftM (forward c "typing" (roomResult room.id))) R Anything := by
    intro room hroom
    refine Request.Keeps.lift_bind (signal_keeps _ _ _) fun event _ => ?_
    refine Request.Keeps.lift_bind (broadcastExcept_keeps hroom event c.account) fun _ _ => ?_
    exact Request.Keeps.lift (forward_keeps c _ _)
  refine Request.Keeps.except_bind fun address => ?_
  cases address with
  | room reference => exact (memberRoom_keeps c reference).bind htail
  | user receiver =>
    refine (directRoom?_keeps c receiver).bind fun room? hroom => ?_
    cases room? with
    | none => exact Request.keeps_throw _
    | some room => exact htail room (hroom room rfl)

theorem chat_keeps {c : Connection} (hc : R.Holds c) (r : ChatRequest) :
    Request.Keeps (chat c r) R Anything := by
  unfold chat
  refine Request.Keeps.refuse ?_
  -- what follows once the room was found or made
  have htail : ∀ room : LiveRoom, room.Inside R → Request.Keeps (do
      let stamp ← liftM newMessageStamp
      let message : ChatMessage := ⟨stamp.id, c.account, room.id, r.message, stamp.time⟩
      orFail (tell .addMessage fun s => (.ok (), s.addMessage message))
      let view : ChatView := ⟨message, c.name⟩
      let _ ← liftM (broadcastExcept room (.chat view) c.account)
      liftM (replyAndForward c "chat" (chatView.shape.toJson view))) R Anything := by
    intro room hroom
    refine Request.Keeps.lift_bind newMessageStamp_keeps fun stamp _ => ?_
    refine (orFail_keeps (tell_keeps _ _)).bind fun _ _ => ?_
    refine Request.Keeps.lift_bind (broadcastExcept_keeps hroom _ c.account) fun _ _ => ?_
    exact Request.Keeps.lift (replyAndForward_keeps hc _ _)
  refine Request.Keeps.except_bind fun address => ?_
  cases address with
  | room reference => exact (memberRoom_keeps c reference).bind htail
  | user receiver => exact (directRoom_keeps c receiver).bind htail

/-! ### Questions -/

theorem userResults_keeps (accounts : List Account) :
    Request.Keeps (userResults accounts) R Anything := by
  induction accounts with
  | nil => exact Request.keeps_pure trivial
  | cons account accounts ih =>
    rw [userResults]
    refine (orFail_keeps (ask_keeps _ _)).bind fun count _ => ?_
    exact ih.bind fun users _ => Request.keeps_pure trivial

section Requests

variable {c : Connection} (hc : R.Holds c)
include hc

theorem getUsers_keeps (r : SearchRequest) : Request.Keeps (getUsers c r) R Anything :=
  (orFail_keeps (ask_keeps _ _)).bind fun accounts _ =>
    (userResults_keeps accounts).bind fun _ _ => Request.Keeps.lift (reply_keeps hc _ _)

theorem getChats_keeps (r : RangeRequest) : Request.Keeps (getChats c r) R Anything :=
  (memberRoom_keeps c r.room).bind fun _ _ =>
    (orFail_keeps (ask_keeps _ _)).bind fun _ _ => Request.Keeps.lift (reply_keeps hc _ _)

theorem getNotifications_keeps (r : RangeRequest) :
    Request.Keeps (getNotifications c r) R Anything :=
  (memberRoom_keeps c r.room).bind fun _ _ =>
    (orFail_keeps (ask_keeps _ _)).bind fun _ _ => Request.Keeps.lift (reply_keeps hc _ _)

theorem userRooms_keeps : Request.Keeps (userRooms c) R Anything :=
  (orFail_keeps (ask_keeps _ _)).bind fun _ _ => Request.Keeps.lift (reply_keeps hc _ _)

/-! ### Requests -/

/-- `dispatch` tells only clients of the directory `R` anything, whatever the event is. -/
theorem dispatch_keeps (event : ClientEvent) : Request.Keeps (dispatch c event) R Anything := by
  cases event with
  | typing r => exact typing_keeps c r
  | chat r => exact chat_keeps hc r
  | createRoom r => exact createRoom_keeps hc r
  | joinRoom r => exact joinRoom_keeps hc r
  | leaveRoom r => exact leaveRoom_keeps hc r
  | inviteRoom r => exact inviteRoom_keeps hc r
  | kickRoom r => exact kickRoom_keeps hc r
  | getUsers r => exact getUsers_keeps hc r
  | getChats r => exact getChats_keeps hc r
  | getNotifications r => exact getNotifications_keeps hc r
  | userRooms => exact userRooms_keeps hc

theorem serve_keeps (e : Envelope) : Request.Keeps (serve c e) R Anything :=
  Request.Keeps.except_bind fun event => dispatch_keeps hc event

end Requests

/-! ### Connections that come and go -/

/-- `enterRooms` lets a registered connection into its rooms. -/
theorem enterRooms_keeps (c : Connection) (hc : R.Holds c) (first : Bool) (ms : List Membership) :
    Step.Keeps (enterRooms c first ms) R Anything := by
  induction ms with
  | nil => exact Step.keeps_pure trivial
  | cons m ms ih =>
    rw [enterRooms]
    refine (look_keeps (P := fun room => room.Inside R) fun t ht => ht.roomOf m.room).bind
      fun room hroom => ?_
    have hjoined : (room.join c m.role).Inside R := hroom.join hc m.role
    refine (addRoom_keeps hjoined).bind fun _ _ => ?_
    split
    · refine (signal_keeps _ _ _).bind fun event _ => ?_
      exact (broadcastExcept_keeps hjoined event c.account).discard.bind fun _ _ => ih
    · exact ih

theorem storedRooms_keeps (account : String) : Step.Keeps (storedRooms account) R Anything := by
  unfold storedRooms
  refine (ask_keeps _ _).bind fun r _ => ?_
  split
  · exact Step.keeps_pure trivial
  · exact (report_keeps _).bind fun _ _ => Step.keeps_pure trivial

/-- `register`: those who are told something are in the directory with the new connection added. -/
theorem register_keeps {t : Turn} {c : Connection} (ht : t.Inside t.hub.roster)
    (hnew : ∀ d, t.hub.roster.get? c.id = some d → d = c) :
    Step.Gives (register c) t fun _ u => u.Inside (t.hub.roster.add c) := by
  unfold register
  refine (look_gives _ t).bind ?_
  rintro connected s ⟨rfl, rfl⟩
  refine (change_gives _ s).bind fun _ v hv => ?_
  have hself : (s.hub.roster.add c).Holds c := (Roster.holds_add hnew).2 (Or.inl rfl)
  have hold : ∀ d, s.hub.roster.Holds d → (s.hub.roster.add c).Holds d :=
    fun d hd => (Roster.holds_add hnew).2 (Or.inr hd)
  -- those who were there before are in the new directory too
  have hv : v.Inside (s.hub.roster.add c) := by
    rw [hv]
    exact ⟨ht.sound.add hnew, fun _ => id, fun k room hk d hd => hold d (ht.rooms k room hk d hd),
      fun e he d hd => hold d (ht.told e he d hd)⟩
  have hrest : Step.Keeps (do
      orReport (tell .markOnline fun s => (.ok (), s.markOnline c.account))
        (.notMarkedOnline c.account)
      let memberships ← storedRooms c.account
      enterRooms c (!s.hub.roster.hasAccount c.account) memberships) (s.hub.roster.add c)
      Anything :=
    (orReport_keeps (tell_keeps _ _) _).bind fun _ _ =>
      (storedRooms_keeps c.account).bind fun ms _ => enterRooms_keeps c hself _ ms
  exact (hrest v hv).mono fun _ _ hu => hu.1

/-- `leaveRooms` tells only those who stay. -/
theorem leaveRooms_keeps (c : Connection) (last : Bool) {rs : List LiveRoom}
    (hrs : ∀ room ∈ rs, room.Inside R) : Step.Keeps (leaveRooms c last rs) R Anything := by
  induction rs with
  | nil => exact Step.keeps_pure trivial
  | cons room rs ih =>
    have ih := ih fun r hr => hrs r (List.mem_cons_of_mem _ hr)
    have hleft : (room.leave c.id).2.Inside R := (hrs room List.mem_cons_self).leave c.id
    rw [leaveRooms]
    rcases hleave : room.leave c.id with ⟨_ | d, room'⟩
    · -- the connection was not in this room
      exact ih
    · rw [hleave] at hleft
      dsimp only at hleft ⊢
      split
      · -- nobody is left, or those who are left may be told so
        exact (dropRoom_keeps _).bind fun _ _ => ih
      · refine (addRoom_keeps hleft).bind fun _ _ => ?_
        split
        · refine (signal_keeps _ _ _).bind fun event _ => ?_
          exact (broadcast_keeps hleft event).discard.bind fun _ _ => ih
        · exact ih

/-- `unregister`: those who are told something are in the directory from before, which still has the
connection that goes. -/
theorem unregister_keeps {t : Turn} {c : Connection} (ht : t.Inside R)
    (hfits : ∀ d, t.hub.roster.get? c.id = some d → d = c) :
    Step.Gives (unregister c) t fun _ u => u.Inside R := by
  unfold unregister
  refine (look_gives _ t).bind ?_
  rintro ⟨_ | d, roster⟩ s ⟨hremove, rfl⟩
  · exact Step.gives_pure ht
  have hself := (Roster.remove_eq_some hremove.symm).1
  obtain rfl := hfits d hself
  refine (change_gives _ s).bind fun _ v hv => ?_
  -- from here on, the connection that goes is in the old directory only
  have hv : v.Inside R := by
    rw [hv]
    refine ⟨ht.sound.remove hremove.symm, fun x hx => ?_, ht.rooms, ht.told⟩
    exact ht.registered x ((Roster.holds_remove hremove.symm).1 hx).1
  have hclose : ∀ x ∈ (Effect.close d).client?, R.Holds x :=
    fun x hx => Option.some.inj hx ▸ ht.registered d hself
  have hrest : Step.Keeps (do
      act (.close d)
      let connected ← look (·.roster.hasAccount d.account)
      let rooms ← look (·.rooms.rooms)
      leaveRooms d (!connected) rooms
      orReport (tell .markOffline fun s => (.ok (), s.markOffline d.account))
        (.notMarkedOffline d.account)) R Anything := by
    refine (act_keeps hclose).bind fun _ _ => ?_
    refine (look_keeps (P := Anything) fun _ _ => trivial).bind fun connected _ => ?_
    refine (look_keeps (P := fun rooms => ∀ room ∈ rooms, room.Inside R) fun t ht room hr => ?_).bind
      fun rooms hrooms => ?_
    · obtain ⟨k, hk⟩ := Table.mem_values_iff.1 hr
      exact ht.rooms k room hk
    · exact (leaveRooms_keeps d _ hrooms).bind fun _ _ => orReport_keeps (tell_keeps _ _) _
  exact (hrest v hv).mono fun _ _ hu => hu.1

/-! ### Items -/

/-- A request that keeps a turn `Inside` still does when its error is told to a registered
connection. -/
theorem answering_keeps {c : Connection} (hc : R.Holds c) {request : Request Unit}
    (h : Request.Keeps request R Anything) : Step.Keeps (answering c request) R Anything := by
  intro t ht
  refine (answering_gives (h t ht) c).mono ?_
  rintro - u (⟨hu, -⟩ | ⟨e, s, hs, rfl⟩)
  · exact ⟨hu, trivial⟩
  · exact ⟨⟨hs.sound, hs.registered, hs.rooms, fun x hx d hd => by
      rcases List.mem_append.1 hx with hx | hx
      · exact hs.told x hx d hd
      · rw [List.mem_singleton.1 hx] at hd
        exact Option.some.inj hd ▸ hc⟩, trivial⟩

variable {h : Hub} {item : Inbound}

/-- In a `Coherent` hub `Turn.Inside` holds at the start, as all connections in rooms are
registered. -/
theorem Coherent.inside (hc : h.Coherent) : Turn.Inside { hub := h } h.roster where
  sound := hc.roster
  registered _ := id
  rooms k room hk d hd := hc.rooms.within k room hk d ((hc.rooms.sound k room hk).mem_everyone.1 hd)
  told _ he := absurd he List.not_mem_nil

/-- `fromClient` runs a request only while the client is registered, so that `Keeps` needs to be
known of the request in that case only. -/
theorem fromClient_keeps {c : Connection} {request : Request Unit} (hc : h.Coherent)
    (hfits : ∀ d, h.roster.get? c.id = some d → d = c)
    (hrequest : h.roster.Holds c → Request.Keeps request h.roster Anything) :
    Step.Gives (fromClient c request) { hub := h } fun _ u => u.Inside h.roster := by
  unfold fromClient
  refine (look_gives _ _).bind ?_
  rintro client s ⟨rfl, rfl⟩
  split
  · rename_i hsome
    obtain ⟨d, hd⟩ := Option.isSome_iff_exists.1 hsome
    have hc' : h.roster.Holds c := hfits d hd ▸ hd
    exact (answering_keeps hc' (hrequest hc') _ hc.inside).mono fun _ _ hu => hu.1
  · exact Step.gives_pure hc.inside

/-- **Only registered clients are told something.** Whatever calls to the store fail, everyone to
whom an item does something was registered before it or is registered by it. -/
theorem holds_of_mem_handle (hc : h.Coherent) (hf : item.Fits h) {e : Effect} {d : Connection}
    (he : e ∈ (h.handle item).2) (hd : d ∈ e.client?) :
    h.roster.Holds d ∨ item = .register d := by
  cases item with
  | register c =>
    have hinside : Turn.Inside (take (.register c) { hub := h }).2 (h.roster.add c) :=
      register_keeps (t := { hub := h }) hc.inside hf
    -- only here the directory may have grown
    rcases (Roster.holds_add hf).1 (hinside.told e he d hd) with rfl | hd
    · exact Or.inr rfl
    · exact Or.inl hd
  | unregister c =>
    have hinside : Turn.Inside (take (.unregister c) { hub := h }).2 h.roster :=
      unregister_keeps (t := { hub := h }) hc.inside hf
    exact Or.inl (hinside.told e he d hd)
  | malformed c err =>
    have hinside : Turn.Inside (take (.malformed c err) { hub := h }).2 h.roster :=
      fromClient_keeps hc hf fun _ => Request.keeps_throw err
    exact Or.inl (hinside.told e he d hd)
  | event c env =>
    have hinside : Turn.Inside (take (.event c env) { hub := h }).2 h.roster :=
      fromClient_keeps hc hf fun hc' => serve_keeps hc' env
    exact Or.inl (hinside.told e he d hd)

end GroupChat.Hub
