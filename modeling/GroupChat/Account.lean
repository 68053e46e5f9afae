import GroupChat.Table

/-!
# Accounts

The people of a chat, and the identity that a token stands for.

## Main definitions

- `Role`: what an account may do, in the hub or in one room.
- `Account`: a person.
- `Claims`: the identity that a token stands for.
- `AccountEntry`: an account with the digest of its token.
-/

namespace GroupChat

/-- What an `Account` may do. -/
inductive Role where
  /-- Takes part. -/
  | user
  /-- Decides who takes part. -/
  | admin
  deriving DecidableEq, Repr, Inhabited

/-- The name of a `Role`. -/
def Role.name : Role → String
  | .user => "user"
  | .admin => "admin"

/-- All roles with their names, `Role.name`. -/
def Role.all : List (String × Role) := [("user", .user), ("admin", .admin)]

/-- A person. -/
structure Account where
  /-- The identifier. -/
  id : String
  /-- The name that others see. -/
  name : String
  /-- The role in the hub. -/
  role : Role
  deriving DecidableEq, Repr, Inhabited

/-- The identity that a token stands for: that of an `Account`. -/
structure Claims where
  /-- The identifier of the account. -/
  account : String
  /-- The name that others see. -/
  name : String
  /-- The role in the hub. -/
  role : Role
  deriving DecidableEq, Repr, Inhabited

/-- The identity of the account `a`. -/
def Account.claims (a : Account) : Claims := ⟨a.id, a.name, a.role⟩

/-- An `Account` with the digest of the token that stands for it. -/
structure AccountEntry where
  /-- The account. -/
  account : Account
  /-- The digest of the token, in base64. -/
  digest : String
  deriving DecidableEq, Repr, Inhabited

end GroupChat
