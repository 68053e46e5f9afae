import GroupChat.Account

/-!
# Rooms

A room as it is stored, and the membership of an account in it. A private room belongs to two
accounts and its name is made of their identifiers, whichever comes first.

## Main definitions

- `RoomInfo`: a stored room.
- `Membership`: a room with the role of an account in it.
- `privateName`: the name of the private room of two accounts.

## Main statements

- `privateName_comm`: the name does not depend on the order of the two accounts.
-/

namespace GroupChat

/-- A stored room. -/
structure RoomInfo where
  /-- The identifier. -/
  id : String
  /-- The name, by which the room can be looked up too. -/
  name : String
  /-- What the room is about. -/
  description : String
  /-- Whether accounts join by invitation only. -/
  inviteOnly : Bool
  /-- Whether the room belongs to two accounts. -/
  isPrivate : Bool
  deriving DecidableEq, Repr, Inhabited

/-- A `RoomInfo` with the role of an account in it. -/
structure Membership where
  /-- The room. -/
  room : RoomInfo
  /-- The role. -/
  role : Role
  deriving DecidableEq, Repr, Inhabited

/-- What a `privateName` begins with. -/
def privateMark : String := "private:"

/-- The name of the private room of the accounts `a` and `b`. -/
def privateName (a b : String) : String :=
  if a ≤ b then privateMark ++ a ++ ":" ++ b else privateMark ++ b ++ ":" ++ a

/-- `privateName` does not depend on who comes first. -/
theorem privateName_comm (a b : String) : privateName a b = privateName b a := by
  unfold privateName
  by_cases hab : a ≤ b <;> by_cases hba : b ≤ a
  · rw [String.le_antisymm hab hba]
  · simp [hab, hba]
  · simp [hab, hba]
  · exact absurd (String.le_total a b) (by simp [hab, hba])

end GroupChat
