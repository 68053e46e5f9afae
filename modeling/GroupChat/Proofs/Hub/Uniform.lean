import GroupChat.Hub.Handle
import GroupChat.Proofs.Hub.Lockstep

/-!
# Items keep two hubs in lockstep

The computations of the hub are put together in such a way that hubs in lockstep stay so, whatever
is handled. In particular no request goes on differently, or tells something else, for the reason
for which a call to the store failed: neither when it takes changes back nor when it does without an
answer.

## Main statements

- `dispatch_uniform`: an event is carried out or fails alike.
- `take_uniform`: an item is handled alike.
-/

namespace GroupChat.Hub

variable {κ : StoreError → StoreError → Prop} {ρ : Turn → Turn → Prop} (hρ : Lockstep κ ρ)
include hρ

/-! ### Answers and lookups -/

theorem reply_uniform (c : Connection) (event : String) (result : Json) :
    Step.Uniform ρ (reply c event result) :=
  (send_matches hρ c _).discard

/-- `forward` looks at the connections only, which are the same on both sides. -/
theorem forward_uniform (c : Connection) (event : String) (result : Json) :
    Step.Uniform ρ (forward c event result) := by
  unfold forward
  refine Step.Uniform.bind (look_uniform hρ fun _ _ => rfl) fun others => ?_
  exact sendAll_uniform hρ others _

theorem replyAndForward_uniform (c : Connection) (event : String) (result : Json) :
    Step.Uniform ρ (replyAndForward c event result) := by
  unfold replyAndForward
  refine Step.Uniform.bind (reply_uniform hρ c event result) fun _ => ?_
  exact forward_uniform hρ c event result

theorem signal_uniform (kind : NotificationKind) (c : Connection) (room : String) :
    Step.Uniform ρ (signal kind c room) := by
  unfold signal
  exact Step.Uniform.bind (newSignalStamp_uniform hρ) fun stamp => Step.matches_pure rfl

/-- `notify` tells the room whether the notification is kept or not. -/
theorem notify_uniform (room : LiveRoom) (kind : NotificationKind) (account name : String) :
    Step.Uniform ρ (notify room kind account name) := by
  unfold notify
  refine Step.Uniform.bind (newNoticeStamp_uniform hρ) fun stamp => ?_
  refine Step.Uniform.bind (orReport_uniform hρ _ (tell_matches hρ _ _)) fun _ => ?_
  exact Step.Matches.bind (broadcast_matches hρ room _ _) fun _ _ _ => Step.matches_pure rfl

/-- `storedRoom` fails on both sides or on neither, and `orFail` tells no client why. -/
theorem storedRoom_uniform (reference : String) : Request.Uniform ρ (storedRoom reference) := by
  unfold storedRoom
  refine Request.Matches.bind (orFail_uniform (ask_matches hρ _ _)) fun info? => ?_
  cases info? with
  | some info => exact Request.uniform_pure _
  | none => exact orFail_uniform (ask_matches hρ _ _)

/-- `resolve` keeps hubs in lockstep, whether the room is live or not. -/
theorem resolve_uniform (reference : String) : Request.Uniform ρ (resolve reference) := by
  unfold resolve
  refine Request.Matches.bind (see_uniform hρ fun _ _ => rfl) fun live? => ?_
  cases live? with
  | some room => exact Request.uniform_pure room
  | none =>
    refine Request.Matches.bind (storedRoom_uniform hρ reference) fun info? => ?_
    cases info? with
    | none => exact Request.uniform_throw _
    | some info => exact see_uniform hρ fun _ _ => rfl

theorem memberRoom_uniform (c : Connection) (reference : String) :
    Request.Uniform ρ (memberRoom c reference) := by
  unfold memberRoom
  refine Request.Matches.bind (resolve_uniform hρ reference) fun room => ?_
  split
  · exact Request.uniform_pure room
  · exact Request.uniform_throw _

theorem knownAccount_uniform (id : String) : Request.Uniform ρ (knownAccount id) := by
  unfold knownAccount
  refine Request.Matches.bind (orFail_uniform (ask_matches hρ _ _)) fun account? => ?_
  cases account? with
  | some account => exact Request.uniform_pure account
  | none => exact Request.uniform_throw _

theorem knownAccounts_uniform (ids : List String) : Request.Uniform ρ (knownAccounts ids) := by
  induction ids with
  | nil => exact Request.uniform_pure ()
  | cons id ids ih => exact Request.Matches.bind (knownAccount_uniform hρ id) fun _ => ih

/-! ### Questions -/

theorem userResults_uniform (accounts : List Account) :
    Request.Uniform ρ (userResults accounts) := by
  induction accounts with
  | nil => exact Request.uniform_pure []
  | cons account accounts ih =>
    rw [userResults]
    refine Request.Matches.bind (orFail_uniform (ask_matches hρ _ _)) fun count => ?_
    exact Request.Matches.bind ih fun users => Request.uniform_pure _

theorem getUsers_uniform (c : Connection) (r : SearchRequest) :
    Request.Uniform ρ (getUsers c r) := by
  unfold getUsers
  refine Request.Matches.bind (orFail_uniform (ask_matches hρ _ _)) fun accounts => ?_
  refine Request.Matches.bind (userResults_uniform hρ accounts) fun users => ?_
  exact Request.Matches.lift (reply_uniform hρ c _ _)

theorem getChats_uniform (c : Connection) (r : RangeRequest) :
    Request.Uniform ρ (getChats c r) := by
  unfold getChats
  refine Request.Matches.bind (memberRoom_uniform hρ c r.room) fun room => ?_
  refine Request.Matches.bind (orFail_uniform (ask_matches hρ _ _)) fun messages => ?_
  exact Request.Matches.lift (reply_uniform hρ c _ _)

theorem getNotifications_uniform (c : Connection) (r : RangeRequest) :
    Request.Uniform ρ (getNotifications c r) := by
  unfold getNotifications
  refine Request.Matches.bind (memberRoom_uniform hρ c r.room) fun room => ?_
  refine Request.Matches.bind (orFail_uniform (ask_matches hρ _ _)) fun notifications => ?_
  exact Request.Matches.lift (reply_uniform hρ c _ _)

theorem userRooms_uniform (c : Connection) : Request.Uniform ρ (userRooms c) := by
  unfold userRooms
  refine Request.Matches.bind (orFail_uniform (ask_matches hρ _ _)) fun memberships => ?_
  exact Request.Matches.lift (reply_uniform hρ c _ _)

/-! ### Members -/

/-- `isMember` asks the store only if the room does not know the account, which is so on both sides.
-/
theorem isMember_uniform (room : LiveRoom) (account : String) :
    Request.Uniform ρ (isMember room account) := by
  unfold isMember
  split
  · exact Request.uniform_pure true
  · refine Request.Matches.bind (orFail_uniform (ask_matches hρ _ _)) fun role => ?_
    exact Request.uniform_pure _

/-- `dropIfEmpty` drops the live room whatever the store answers. -/
theorem dropIfEmpty_uniform (room : LiveRoom) : Step.Uniform ρ (dropIfEmpty room) := by
  unfold dropIfEmpty
  split
  swap
  · exact Step.matches_pure rfl
  refine Step.Uniform.bind (dropRoom_uniform hρ room.id) fun _ => ?_
  refine Step.Matches.bind (ask_matches hρ _ _) fun r s hrs => ?_
  cases hrs with
  | ok n =>
    cases n with
    | zero => exact orReport_uniform hρ _ (tell_matches hρ _ _)
    | succ n => exact Step.matches_pure rfl
  | error related => exact report_matches hρ _ related

theorem joinRoom_uniform (c : Connection) (r : RoomRequest) : Request.Uniform ρ (joinRoom c r) := by
  unfold joinRoom
  refine Request.Matches.bind (resolve_uniform hρ r.room) fun room => ?_
  refine Request.Uniform.refuse (Request.Uniform.refuse ?_)
  refine Request.Matches.bind (isMember_uniform hρ room c.account) fun member => ?_
  refine Request.Uniform.refuse ?_
  refine Request.Matches.bind (orFail_uniform (tell_matches hρ _ _)) fun _ => ?_
  refine Request.Matches.bind (see_uniform hρ fun _ _ => rfl) fun own => ?_
  refine Request.Uniform.lift_bind (keepRoom_uniform hρ _) fun _ => ?_
  refine Request.Uniform.lift_bind (notify_uniform hρ _ _ _ _) fun _ => ?_
  exact Request.Matches.lift (replyAndForward_uniform hρ c _ _)

theorem leaveRoom_uniform (c : Connection) (r : RoomRequest) :
    Request.Uniform ρ (leaveRoom c r) := by
  unfold leaveRoom
  refine Request.Matches.bind (resolve_uniform hρ r.room) fun room => ?_
  refine Request.Uniform.refuse (Request.Uniform.refuse ?_)
  refine Request.Matches.bind (orFail_uniform (tell_matches hρ _ _)) fun _ => ?_
  refine Request.Uniform.lift_bind (keepRoom_uniform hρ _) fun _ => ?_
  refine Request.Uniform.lift_bind (notify_uniform hρ _ _ _ _) fun _ => ?_
  refine Request.Uniform.lift_bind (dropIfEmpty_uniform hρ _) fun _ => ?_
  exact Request.Matches.lift (replyAndForward_uniform hρ c _ _)

theorem adminRoom_uniform (c : Connection) (reference : String) :
    Request.Uniform ρ (adminRoom c reference) := by
  unfold adminRoom
  refine Request.Matches.bind (resolve_uniform hρ reference) fun room => ?_
  exact Request.Uniform.refuse (Request.Uniform.refuse (Request.uniform_pure room))

theorem invitees_uniform (room : String) (ids : List String) :
    Request.Uniform ρ (invitees room ids) := by
  induction ids with
  | nil => exact Request.uniform_pure []
  | cons id ids ih =>
    rw [invitees]
    refine Request.Matches.bind (knownAccount_uniform hρ id) fun account => ?_
    refine Request.Matches.bind (orFail_uniform (ask_matches hρ _ _)) fun role => ?_
    exact Request.Matches.bind ih fun others => Request.uniform_pure _

/-- `undoInvites` reports what it cannot take back, and goes on alike. -/
theorem undoInvites_uniform (room : String) (accounts : List String) :
    Step.Uniform ρ (undoInvites room accounts) := by
  induction accounts with
  | nil => exact Step.matches_pure rfl
  | cons account accounts ih =>
    rw [undoInvites]
    exact Step.Uniform.bind (orReport_uniform hρ _ (tell_matches hρ _ _)) fun _ => ih

/-- `addInvitees` takes members back for any error. -/
theorem addInvitees_uniform (room : String) (added : List String) (accounts : List Account) :
    Request.Uniform ρ (addInvitees room added accounts) := by
  induction accounts generalizing added with
  | nil => exact Request.uniform_pure ()
  | cons account accounts ih =>
    rw [addInvitees]
    refine Request.Matches.lift_bind (tell_matches hρ _ _) fun r s hrs => ?_
    cases hrs with
    | ok => exact ih _
    | error =>
      exact Request.Uniform.lift_bind (undoInvites_uniform hρ room added) fun _ =>
        Request.matches_throw rfl

theorem welcome_uniform (accounts : List Account) (room : LiveRoom) :
    Step.Uniform ρ (welcome accounts room) := by
  induction accounts generalizing room with
  | nil => exact Step.matches_pure rfl
  | cons account accounts ih =>
    rw [welcome]
    refine Step.Uniform.bind (look_uniform hρ fun _ _ => rfl) fun devices => ?_
    refine Step.Uniform.bind (sendAll_uniform hρ _ _) fun _ => ?_
    exact Step.Uniform.bind (notify_uniform hρ _ _ _ _) fun _ => ih _

/-- `inviteRoom` takes the same memberships back, for whatever reason it fails. -/
theorem inviteRoom_uniform (c : Connection) (r : MembersRequest) :
    Request.Uniform ρ (inviteRoom c r) := by
  unfold inviteRoom
  refine Request.Matches.bind (adminRoom_uniform hρ c r.room) fun room => ?_
  refine Request.Uniform.refuse ?_
  refine Request.Matches.bind (invitees_uniform hρ room.id _) fun accounts => ?_
  refine Request.Uniform.refuse ?_
  refine Request.Matches.bind (addInvitees_uniform hρ room.id [] accounts) fun _ => ?_
  refine Request.Uniform.lift_bind (welcome_uniform hρ accounts room) fun room => ?_
  refine Request.Uniform.lift_bind (keepRoom_uniform hρ room) fun _ => ?_
  exact Request.Matches.lift (replyAndForward_uniform hρ c _ _)

theorem targets_uniform (room : String) (ids : List String) :
    Request.Uniform ρ (targets room ids) := by
  induction ids with
  | nil => exact Request.uniform_pure []
  | cons id ids ih =>
    rw [targets]
    refine Request.Matches.bind (orFail_uniform (ask_matches hρ _ _)) fun role? => ?_
    cases role? with
    | none => exact Request.uniform_throw _
    | some role => exact Request.Matches.bind ih fun others => Request.uniform_pure _

/-- `undoKicks` reports what it cannot give back, and goes on alike. -/
theorem undoKicks_uniform (room : String) (ms : List (String × Role)) :
    Step.Uniform ρ (undoKicks room ms) := by
  induction ms with
  | nil => exact Step.matches_pure rfl
  | cons m ms ih =>
    obtain ⟨account, role⟩ := m
    rw [undoKicks]
    exact Step.Uniform.bind (orReport_uniform hρ _ (tell_matches hρ _ _)) fun _ => ih

/-- `removeTargets` gives members back for any error. -/
theorem removeTargets_uniform (room : String) (removed ms : List (String × Role)) :
    Request.Uniform ρ (removeTargets room removed ms) := by
  induction ms generalizing removed with
  | nil => exact Request.uniform_pure ()
  | cons m ms ih =>
    obtain ⟨account, role⟩ := m
    rw [removeTargets]
    refine Request.Matches.lift_bind (tell_matches hρ _ _) fun r s hrs => ?_
    cases hrs with
    | ok => exact ih _
    | error =>
      exact Request.Uniform.lift_bind (undoKicks_uniform hρ room removed) fun _ =>
        Request.matches_throw rfl

/-- `nameOf` falls back to the identifier for any error. -/
theorem nameOf_uniform (account : String) : Step.Uniform ρ (nameOf account) := by
  unfold nameOf
  refine Step.Matches.bind (ask_matches hρ _ _) fun r s hrs => ?_
  cases hrs with
  | ok account? => cases account? <;> exact Step.matches_pure rfl
  | error => exact Step.matches_pure rfl

theorem sendOff_uniform (accounts : List String) (room : LiveRoom) :
    Step.Uniform ρ (sendOff accounts room) := by
  induction accounts generalizing room with
  | nil => exact Step.matches_pure rfl
  | cons account accounts ih =>
    rw [sendOff]
    refine Step.Uniform.bind (nameOf_uniform hρ account) fun name => ?_
    refine Step.Uniform.bind (notify_uniform hρ _ _ _ _) fun event => ?_
    exact Step.Uniform.bind (sendAll_uniform hρ _ _) fun _ => ih _

/-- `kickRoom` gives the same memberships back, for whatever reason it fails. -/
theorem kickRoom_uniform (c : Connection) (r : MembersRequest) :
    Request.Uniform ρ (kickRoom c r) := by
  unfold kickRoom
  refine Request.Matches.bind (adminRoom_uniform hρ c r.room) fun room => ?_
  refine Request.Uniform.refuse (Request.Uniform.refuse ?_)
  refine Request.Matches.bind (targets_uniform hρ room.id _) fun accounts => ?_
  refine Request.Matches.bind (removeTargets_uniform hρ room.id [] accounts) fun _ => ?_
  refine Request.Uniform.lift_bind (sendOff_uniform hρ _ room) fun room => ?_
  refine Request.Uniform.lift_bind (keepRoom_uniform hρ room) fun _ => ?_
  refine Request.Uniform.lift_bind (dropIfEmpty_uniform hρ room) fun _ => ?_
  exact Request.Matches.lift (replyAndForward_uniform hρ c _ _)

/-! ### New rooms and messages -/

/-- `addMembers` stops at the same account on both sides, for reasons that may differ. -/
theorem addMembers_matches (room : String) (ms : List (String × Role)) :
    Step.Matches ρ (SameOutcome κ) (addMembers room ms) (addMembers room ms) := by
  induction ms with
  | nil => exact Step.matches_pure (.ok ())
  | cons m ms ih =>
    obtain ⟨account, role⟩ := m
    rw [addMembers]
    refine Step.Matches.bind (tell_matches hρ _ _) fun r s hrs => ?_
    cases hrs with
    | ok => exact ih
    | error related => exact Step.matches_pure (.error related)

/-- `persist` deletes the room again for any error. -/
theorem persist_uniform (f : Founding) : Request.Uniform ρ (persist f) := by
  unfold persist
  refine Request.Matches.bind (orFail_uniform (tell_matches hρ _ _)) fun _ => ?_
  refine Request.Matches.lift_bind (addMembers_matches hρ _ _) fun r s hrs => ?_
  cases hrs with
  | ok => exact Request.uniform_pure ()
  | error =>
    exact Request.Uniform.lift_bind (orReport_uniform hρ _ (tell_matches hρ _ _)) fun _ =>
      Request.matches_throw rfl

theorem inviteDevices_uniform (invited : ServerEvent) (members : List String) (room : LiveRoom) :
    Step.Uniform ρ (inviteDevices invited members room) := by
  induction members generalizing room with
  | nil => exact Step.matches_pure rfl
  | cons member members ih =>
    rw [inviteDevices]
    refine Step.Uniform.bind (look_uniform hρ fun _ _ => rfl) fun devices => ?_
    exact Step.Uniform.bind (sendAll_uniform hρ devices invited) fun _ => ih _

theorem openRoom_uniform (f : Founding) : Step.Uniform ρ (openRoom f) := by
  unfold openRoom
  refine Step.Uniform.bind (look_uniform hρ fun _ _ => rfl) fun own => ?_
  refine Step.Uniform.bind (inviteDevices_uniform hρ _ _ _) fun room => ?_
  exact Step.Uniform.bind (enlistRoom_uniform hρ room) fun _ => Step.matches_pure rfl

/-- `createRoom` deletes the room again on both sides, for whatever reason it fails. -/
theorem createRoom_uniform (c : Connection) (r : CreateRequest) :
    Request.Uniform ρ (createRoom c r) := by
  unfold createRoom
  refine Request.Uniform.except_bind _ fun _ => ?_
  refine Request.Matches.bind (knownAccounts_uniform hρ _) fun _ => ?_
  refine Request.Uniform.except_bind _ fun name => ?_
  refine Request.Matches.bind (orFail_uniform (ask_matches hρ _ _)) fun info? => ?_
  refine Request.Uniform.refuse ?_
  refine Request.Uniform.lift_bind (newRoomId_uniform hρ) fun id => ?_
  refine Request.Matches.bind (persist_uniform hρ _) fun _ => ?_
  refine Request.Uniform.lift_bind (openRoom_uniform hρ _) fun _ => ?_
  exact Request.Matches.lift (replyAndForward_uniform hρ c _ _)

/-- `directRoom?` finds the same room of the two, or fails, on both sides. -/
theorem directRoom?_uniform (c : Connection) (receiver : String) :
    Request.Uniform ρ (directRoom? c receiver) := by
  unfold directRoom?
  refine Request.Uniform.refuse ?_
  refine Request.Matches.bind (see_uniform hρ fun _ _ => rfl) fun live? => ?_
  cases live? with
  | some room => exact Request.uniform_pure _
  -- no such room is live: the store is asked, on both sides or on neither
  | none =>
    refine Request.Matches.bind (orFail_uniform (ask_matches hρ _ _)) fun info? => ?_
    cases info? with
    | none => exact Request.uniform_pure none
    | some info =>
      refine Request.Matches.bind (see_uniform hρ fun _ _ => rfl) fun own => ?_
      refine Request.Matches.bind (see_uniform hρ fun _ _ => rfl) fun others => ?_
      exact Request.Uniform.lift_bind (enlistRoom_uniform hρ _) fun _ => Request.uniform_pure _

theorem directRoom_uniform (c : Connection) (receiver : String) :
    Request.Uniform ρ (directRoom c receiver) := by
  unfold directRoom
  refine Request.Matches.bind (directRoom?_uniform hρ c receiver) fun room? => ?_
  cases room? with
  | some room => exact Request.uniform_pure room
  | none =>
    refine Request.Matches.bind (knownAccount_uniform hρ receiver) fun _ => ?_
    refine Request.Uniform.lift_bind (newRoomId_uniform hρ) fun id => ?_
    refine Request.Matches.bind (persist_uniform hρ _) fun _ => ?_
    exact Request.Matches.lift (openRoom_uniform hρ _)

theorem typing_uniform (c : Connection) (r : TypingRequest) : Request.Uniform ρ (typing c r) := by
  unfold typing
  -- what is done once the room is known
  have htail : ∀ room : LiveRoom, Request.Uniform ρ (do
      let event ← liftM (signal .typing c room.id)
      let _ ← liftM (broadcastExcept room event c.account)
      liftM (forward c "typing" (roomResult room.id))) := by
    intro room
    refine Request.Uniform.lift_bind (signal_uniform hρ _ c _) fun event => ?_
    refine Request.Matches.lift_bind (broadcastExcept_matches hρ room event _) fun _ _ _ => ?_
    exact Request.Matches.lift (forward_uniform hρ c _ _)
  refine Request.Uniform.except_bind _ fun address => ?_
  cases address with
  | room reference => exact Request.Matches.bind (memberRoom_uniform hρ c reference) htail
  | user receiver =>
    refine Request.Matches.bind (directRoom?_uniform hρ c receiver) fun room? => ?_
    cases room? with
    | some room => exact htail room
    | none => exact Request.uniform_throw _

/-- The part of `chat` that follows once the room was found. -/
theorem write_uniform (c : Connection) (room : LiveRoom) (text : String) :
    Request.Uniform ρ (do
      let stamp ← liftM newMessageStamp
      let message : ChatMessage := ⟨stamp.id, c.account, room.id, text, stamp.time⟩
      orFail (tell .addMessage fun s => (.ok (), s.addMessage message))
      let view : ChatView := ⟨message, c.name⟩
      let _ ← liftM (broadcastExcept room (.chat view) c.account)
      liftM (replyAndForward c "chat" (Wire.chatView.shape.toJson view))) := by
  refine Request.Uniform.lift_bind (newMessageStamp_uniform hρ) fun stamp => ?_
  refine Request.Matches.bind (orFail_uniform (tell_matches hρ _ _)) fun _ => ?_
  refine Request.Matches.lift_bind (broadcastExcept_matches hρ room _ _) fun _ _ _ => ?_
  exact Request.Matches.lift (replyAndForward_uniform hρ c _ _)

/-- `chat` opens the same room and keeps the same message on both sides. -/
theorem chat_uniform (c : Connection) (r : ChatRequest) : Request.Uniform ρ (chat c r) := by
  unfold chat
  have htail := fun room => write_uniform hρ c room r.message
  refine Request.Uniform.refuse ?_
  refine Request.Uniform.except_bind _ fun address => ?_
  cases address with
  | room reference => exact Request.Matches.bind (memberRoom_uniform hρ c reference) htail
  | user receiver => exact Request.Matches.bind (directRoom_uniform hρ c receiver) htail

/-! ### Coming and going -/

/-- `enterRooms` goes through the same rooms on both sides, as far as the store told them. -/
theorem enterRooms_uniform (c : Connection) (first : Bool) (memberships : List Membership) :
    Step.Uniform ρ (enterRooms c first memberships) := by
  induction memberships with
  | nil => exact Step.matches_pure rfl
  | cons m memberships ih =>
    rw [enterRooms]
    refine Step.Uniform.bind (look_uniform hρ fun _ _ => rfl) fun room => ?_
    refine Step.Uniform.bind (addRoom_uniform hρ _) fun _ => ?_
    split
    · refine Step.Uniform.bind (signal_uniform hρ _ c _) fun event => ?_
      exact Step.Uniform.bind (broadcastExcept_matches hρ _ event _).discard fun _ => ih
    · exact ih

/-- `storedRooms` gives no rooms for any error. -/
theorem storedRooms_uniform (account : String) : Step.Uniform ρ (storedRooms account) := by
  unfold storedRooms
  refine Step.Matches.bind (ask_matches hρ _ _) fun r s hrs => ?_
  cases hrs with
  | ok memberships => exact Step.matches_pure rfl
  | error related =>
    exact Step.Matches.bind (report_matches hρ _ related) fun _ _ _ => Step.matches_pure rfl

theorem register_uniform (c : Connection) : Step.Uniform ρ (register c) := by
  unfold register
  refine Step.Uniform.bind (look_uniform hρ fun _ _ => rfl) fun connected => ?_
  refine Step.Uniform.bind (change_uniform hρ (fun _ => rfl) fun _ _ => ⟨rfl, rfl⟩) fun _ => ?_
  refine Step.Uniform.bind (orReport_uniform hρ _ (tell_matches hρ _ _)) fun _ => ?_
  refine Step.Uniform.bind (storedRooms_uniform hρ c.account) fun memberships => ?_
  exact enterRooms_uniform hρ c _ memberships

/-- `leaveRooms` goes through the live rooms, which are the same on both sides. -/
theorem leaveRooms_uniform (c : Connection) (last : Bool) (rooms : List LiveRoom) :
    Step.Uniform ρ (leaveRooms c last rooms) := by
  induction rooms with
  | nil => exact Step.matches_pure rfl
  | cons room rooms ih =>
    rw [leaveRooms]
    rcases room.leave c.id with ⟨_ | d, room⟩
    · -- the connection is not in this room
      exact ih
    dsimp only
    split
    · exact Step.Uniform.bind (dropRoom_uniform hρ room.id) fun _ => ih
    refine Step.Uniform.bind (addRoom_uniform hρ room) fun _ => ?_
    split
    · refine Step.Uniform.bind (signal_uniform hρ _ c _) fun event => ?_
      exact Step.Uniform.bind (broadcast_matches hρ room event []).discard fun _ => ih
    · exact ih

theorem unregister_uniform (c : Connection) : Step.Uniform ρ (unregister c) := by
  unfold unregister
  refine Step.Uniform.bind (look_uniform hρ fun _ _ => rfl) fun removed => ?_
  rcases removed with ⟨_ | d, roster⟩
  · exact Step.matches_pure rfl
  refine Step.Uniform.bind (change_uniform hρ (fun _ => rfl) fun _ _ => ⟨rfl, rfl⟩) fun _ => ?_
  refine Step.Uniform.bind (act_uniform hρ _) fun _ => ?_
  refine Step.Uniform.bind (look_uniform hρ fun _ _ => rfl) fun connected => ?_
  refine Step.Uniform.bind (look_uniform hρ fun _ _ => rfl) fun rooms => ?_
  refine Step.Uniform.bind (leaveRooms_uniform hρ c _ rooms) fun _ => ?_
  exact orReport_uniform hρ _ (tell_matches hρ _ _)

/-! ### Items -/

theorem dispatch_uniform (c : Connection) (event : ClientEvent) :
    Request.Uniform ρ (dispatch c event) := by
  cases event with
  | typing r => exact typing_uniform hρ c r
  | chat r => exact chat_uniform hρ c r
  | createRoom r => exact createRoom_uniform hρ c r
  | joinRoom r => exact joinRoom_uniform hρ c r
  | leaveRoom r => exact leaveRoom_uniform hρ c r
  | inviteRoom r => exact inviteRoom_uniform hρ c r
  | kickRoom r => exact kickRoom_uniform hρ c r
  | getUsers r => exact getUsers_uniform hρ c r
  | getChats r => exact getChats_uniform hρ c r
  | getNotifications r => exact getNotifications_uniform hρ c r
  | userRooms => exact userRooms_uniform hρ c

theorem serve_uniform (c : Connection) (e : Envelope) : Request.Uniform ρ (serve c e) := by
  unfold serve
  exact Request.Uniform.except_bind _ fun event => dispatch_uniform hρ c event

/-- `answering` tells errors by `ServerEvent.ofError`, which is the same of all errors of the store.
-/
theorem answering_uniform (c : Connection) {request : Request Unit}
    (hr : Request.Uniform ρ request) : Step.Uniform ρ (answering c request) := by
  unfold answering
  refine Step.Matches.bind hr fun r s hrs => ?_
  cases hrs with
  | ok => exact Step.matches_pure rfl
  | error told =>
    dsimp only
    rw [told]
    exact (send_matches hρ c _).discard

/-- `fromClient` takes a request from a registered connection, which is registered on both sides. -/
theorem fromClient_uniform (c : Connection) {request : Request Unit}
    (hr : Request.Uniform ρ request) : Step.Uniform ρ (fromClient c request) := by
  unfold fromClient
  refine Step.Uniform.bind (look_uniform hρ fun _ _ => rfl) fun client? => ?_
  split
  · exact answering_uniform hρ c hr
  · exact Step.matches_pure rfl

theorem take_uniform (item : Inbound) : Step.Uniform ρ (take item) := by
  cases item with
  | register c => exact register_uniform hρ c
  | unregister c => exact unregister_uniform hρ c
  | malformed c e => exact fromClient_uniform hρ c (Request.uniform_throw e)
  | event c e => exact fromClient_uniform hρ c (serve_uniform hρ c e)

end GroupChat.Hub
