import GroupChat.Store.Basic

/-!
# History in the store

Messages and notifications are added at the end and read by room and time. How often an account is
connected is counted; an account that is not connected has no count.

## Main definitions

- `Store.addMessage`, `Store.addNotification`: what happened.
- `Store.messagesIn`, `Store.notificationsIn`: what happened in a room between two times.
- `Store.markOnline`, `Store.markOffline`, `Store.resetPresence`, `Store.onlineCount`: the counts.
-/

namespace GroupChat.Store

/-- Adds the message `m`. -/
def addMessage (s : Store) (m : ChatMessage) : Store := { s with messages := s.messages ++ [m] }

/-- Adds the notification `n`. -/
def addNotification (s : Store) (n : Notification) : Store :=
  { s with notifications := s.notifications ++ [n] }

/-- The messages in the `room` between two times, oldest first; those of one time stay in the order
in which they were written. -/
def messagesIn (s : Store) (room : String) (since : Int64) (upTo : Option Int64) :
    List ChatMessage :=
  (s.messages.filter fun m => m.room == room && inRange since upTo m.time).mergeSort
    fun a b => a.time ≤ b.time

/-- The notifications in the `room` between two times, oldest first; those of one time stay in the
order in which they were given. -/
def notificationsIn (s : Store) (room : String) (since : Int64) (upTo : Option Int64) :
    List Notification :=
  (s.notifications.filter fun n => n.room == room && inRange since upTo n.time).mergeSort
    fun a b => a.time ≤ b.time

/-- How often `account` is connected. -/
def onlineCount (s : Store) (account : String) : UInt32 := (s.presence.get? account).getD 0

/-- Counts one more connection of `account`. Behind the largest number comes zero. -/
def markOnline (s : Store) (account : String) : Store :=
  { s with presence := s.presence.insert account (s.onlineCount account + 1) }

/-- Counts one connection of `account` less. A count of zero stays so. -/
def markOffline (s : Store) (account : String) : Store :=
  match s.presence.get? account with
  | none => s
  | some n =>
    if n ≤ 1 then { s with presence := s.presence.erase account }
    else { s with presence := s.presence.insert account (n - 1) }

/-- Forgets all counts of `presence`. -/
def resetPresence (s : Store) : Store := { s with presence := ∅ }

end GroupChat.Store
