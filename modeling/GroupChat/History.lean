import GroupChat.Account

/-!
# Messages and notifications

What happened in the rooms: the messages that were written, and the notifications about who came
and went. Notifications that somebody types, or that an account came online or went offline, are
told to others but are not kept.

## Main definitions

- `ChatMessage`, `Notification`: what is kept.
- `Stamp`: the identifier and the time given to a new one.
- `inRange`: whether a time lies between two bounds.
-/

namespace GroupChat

/-- What a `Notification` says about its sender. -/
inductive NotificationKind where
  /-- Is typing. -/
  | typing
  /-- Joined the room. -/
  | join
  /-- Left the room. -/
  | leave
  /-- Came online. -/
  | online
  /-- Went offline. -/
  | offline
  deriving DecidableEq, Repr, Inhabited

/-- The kinds with their names, `NotificationKind.name`. -/
def NotificationKind.all : List (String × NotificationKind) :=
  [("typing", .typing), ("join", .join), ("leave", .leave), ("online", .online),
    ("offline", .offline)]

/-- The name of a `NotificationKind`. -/
def NotificationKind.name : NotificationKind → String
  | .typing => "typing"
  | .join => "join"
  | .leave => "leave"
  | .online => "online"
  | .offline => "offline"

/-- A message in a room. -/
structure ChatMessage where
  /-- The identifier. -/
  id : String
  /-- The account that wrote it. -/
  sender : String
  /-- The room. -/
  room : String
  /-- The text. -/
  message : String
  /-- The time in seconds. -/
  time : Int64
  deriving DecidableEq, Repr, Inhabited

/-- A notification in a room. -/
structure Notification where
  /-- The identifier. -/
  id : String
  /-- What it says. -/
  kind : NotificationKind
  /-- The account that it is about. -/
  sender : String
  /-- The room. -/
  room : String
  /-- The time in seconds. -/
  time : Int64
  deriving DecidableEq, Repr, Inhabited

/-- The identifier and the time of a new `ChatMessage` or `Notification`. -/
structure Stamp where
  /-- The identifier. -/
  id : String
  /-- The time in seconds. -/
  time : Int64
  deriving DecidableEq, Repr, Inhabited

/-- Whether `time` lies between `since` and `upTo`, of which the latter may be missing. -/
def inRange (since : Int64) (upTo : Option Int64) (time : Int64) : Bool :=
  since ≤ time && upTo.all (time ≤ ·)

end GroupChat
