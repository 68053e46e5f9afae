import GroupChat.Account
import GroupChat.Digest.Base64
import GroupChat.Digest.Sha256
import GroupChat.Error
import GroupChat.Text.Blank

/-!
# Tokens

Whoever connects shows a token. Only the digests of tokens are known, so that what is kept cannot be
used as a token.

## Main definitions

- `tokenDigest`: the digest of a token.
- `bearerToken`: the token in an authorization header.
- `Tokens`: the claims that digests stand for.
- `Tokens.authenticate`: the claims of a header.
-/

namespace GroupChat

/-- The digest of a `token`, in base64. -/
def tokenDigest (token : String) : String :=
  String.ofList (Digest.base64 (Digest.sha256 token.toUTF8.toList))

/-- The scheme with which an authorization header begins, `Bearer`. -/
def bearerScheme : List Char := "Bearer ".toList

/-- The token in an authorization header, behind the `bearerScheme`. -/
def bearerToken : Option String → Except AuthError String
  | none => .error .missingToken
  | some header =>
    if bearerScheme.isPrefixOf header.toList then
      match Text.trimChars (header.toList.drop bearerScheme.length) with
      | [] => .error .badFormat
      | token => .ok (String.ofList token)
    else .error .badFormat

/-- The claims that the digests of tokens stand for, by `tokenDigest`. -/
structure Tokens where
  /-- The claims of each digest. -/
  byDigest : Table String Claims
  deriving DecidableEq, Repr, Inhabited

namespace Tokens

/-- The tokens of `entries`, of which the last one of a digest counts. -/
def ofEntries (entries : List AccountEntry) : Tokens :=
  ⟨Table.ofList (entries.map fun e => (e.digest, e.account.claims))⟩

/-- Lets a token stand for `claims`. -/
def insert (tokens : Tokens) (token : String) (claims : Claims) : Tokens :=
  ⟨tokens.byDigest.insert (tokenDigest token) claims⟩

/-- The claims that a `token` stands for. -/
def validate (tokens : Tokens) (token : String) : Except AuthError Claims :=
  match tokens.byDigest.get? (tokenDigest token) with
  | some claims => .ok claims
  | none => .error .invalidToken

/-- The claims of an authorization `header`. -/
def authenticate (tokens : Tokens) (header : Option String) : Except AuthError Claims := do
  let token ← bearerToken header
  tokens.validate token

end Tokens

end GroupChat
