/-!
# Errors

What can go wrong: in the store, with a token, and with a request in the chat. A request that fails
is answered with a code and a text; what went wrong in the store is not told.

## Main definitions

- `StoreError`, `AuthError`, `ChatError`: the errors.
- `ChatError.code`, `ChatError.message`: what the origin of a request is told.
-/

namespace GroupChat

/-- What can go wrong in the `Store`. -/
inductive StoreError where
  /-- There is no such record. -/
  | notFound
  /-- There is such a record already. -/
  | conflict
  /-- The store itself fails. -/
  | backend (reason : String)
  deriving DecidableEq, Repr, Inhabited

/-- The wording of a `StoreError`. -/
def StoreError.message : StoreError → String
  | .notFound => "Record not found"
  | .conflict => "Record already exists"
  | .backend reason => "Store backend failure: " ++ reason

/-- What can be wrong with a token. -/
inductive AuthError where
  /-- There is none. -/
  | missingToken
  /-- It is not in the form of a bearer token. -/
  | badFormat
  /-- It stands for nobody. -/
  | invalidToken
  deriving DecidableEq, Repr, Inhabited

/-- The wording of an `AuthError`. -/
def AuthError.message : AuthError → String
  | .missingToken => "Authentication required. Please provide a valid access token"
  | .badFormat => "Token have bad format. Please provide a valid token"
  | .invalidToken => "Token is not recognized"

/-- Why a request failed. -/
inductive ChatError where
  /-- The request is malformed. -/
  | badPayload (reason : String)
  /-- There is no such kind of request. -/
  | unknownEvent (kind : String)
  /-- The store failed. -/
  | store (cause : StoreError)
  /-- There is no such room. -/
  | roomNotFound
  /-- The room belongs to two accounts. -/
  | roomPrivate
  /-- The room is entered by invitation only. -/
  | roomInviteOnly
  /-- The account is in the room already. -/
  | alreadyMember
  /-- The account is not in the room. -/
  | notMember
  /-- The account does not decide who is in the room. -/
  | notAdmin
  /-- The listed accounts cannot be used. -/
  | invalidMembers (reason : String)
  /-- There is a room of that name already. -/
  | roomNameTaken
  /-- There is no such account. -/
  | userNotFound (id : String)
  deriving DecidableEq, Repr, Inhabited

namespace ChatError

/-- The code of a `ChatError`. -/
def code : ChatError → UInt16
  | badPayload _ => 1
  | unknownEvent _ => 2
  | store _ => 3
  | roomNotFound => 10
  | roomPrivate => 11
  | roomInviteOnly => 12
  | alreadyMember => 13
  | notMember => 14
  | notAdmin => 15
  | invalidMembers _ => 16
  | roomNameTaken => 17
  | userNotFound _ => 18

/-- The wording of a `ChatError`. -/
def message : ChatError → String
  | badPayload reason => "Payload is malformed: " ++ reason
  | unknownEvent kind => "Unknown event type: " ++ kind
  | store _ => "Internal server error"
  | roomNotFound => "Room does not exist"
  | roomPrivate => "Room is private"
  | roomInviteOnly => "Room is invite only"
  | alreadyMember => "User is already a room member"
  | notMember => "User is not a room member"
  | notAdmin => "Room admin role required"
  | invalidMembers reason => "Invalid room members: " ++ reason
  | roomNameTaken => "Room name is already taken"
  | userNotFound id => "User does not exist: " ++ id

/-- The `StoreError` behind a `ChatError`, when it was the store that failed. -/
def cause? : ChatError → Option StoreError
  | store cause => some cause
  | _ => none

/-! ### The reasons for refusing a request -/

/-- Neither or both of a room and a user are given. -/
def noSingleTarget : ChatError := badPayload "exactly one of room_id or user_id is required"

/-- There is nothing in the message. -/
def messageEmpty : ChatError := badPayload "message is empty"

/-- A room needs a name. -/
def nameRequired : ChatError := badPayload "room name is required"

/-- The name looks like that of a private room. -/
def nameReserved : ChatError := badPayload "room names starting with private: are reserved"

/-- A frame does not hold text. -/
def binaryFrame : ChatError := badPayload "binary frames are not supported"

/-- An account writes to itself. -/
def selfAddressed : ChatError := invalidMembers "direct messages need another account"

/-- An account lists itself as a member of its new room. -/
def creatorListed : ChatError := invalidMembers "the creator cannot be listed as a member"

/-- A private room is not for two. -/
def notAPair : ChatError := invalidMembers "a private room needs exactly one other member"

/-- Nobody is listed. -/
def nobodyListed : ChatError := invalidMembers "user_ids is empty"

/-- An account removes itself. -/
def selfRemoved : ChatError := invalidMembers "use leave-room to leave a room"

end ChatError

end GroupChat
