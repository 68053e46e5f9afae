import GroupChat.Store.Basic
import GroupChat.Text.LowerCase

/-!
# Accounts in the store

Accounts are found by identifier, or by a part of their name in which capitals and small letters are
the same.

## Main definitions

- `Store.addAccount`: adds or replaces an account.
- `Store.account?`: the account of an identifier.
- `Store.accountsNamed`: the accounts whose names have a part.
-/

namespace GroupChat.Store

/-- Adds the account `a`, in the place of one with the same identifier. -/
def addAccount (s : Store) (a : Account) : Store := { s with accounts := s.accounts.insert a.id a }

/-- The account of the identifier `id`. -/
def account? (s : Store) (id : String) : Option Account := s.accounts.get? id

/-- Whether `part` stands somewhere in `cs`. -/
def hasPart (part : List Char) : List Char → Bool
  | [] => part.isEmpty
  | c :: cs => part.isPrefixOf (c :: cs) || hasPart part cs

/-- Whether the `name` has the `part`, where capitals and small letters are the same. -/
def nameMatches (part name : String) : Bool :=
  hasPart (Text.lowerCase part).toList (Text.lowerCase name).toList

/-- The accounts whose names have the `part`, by name. -/
def accountsNamed (s : Store) (part : String) : List Account :=
  (s.accounts.values.filter fun a => nameMatches part a.name).mergeSort
    fun a b => a.name ≤ b.name

end GroupChat.Store
