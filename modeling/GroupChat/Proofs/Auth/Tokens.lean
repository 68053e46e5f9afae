import GroupChat.Auth.Tokens
import GroupChat.Proofs.Store.Rooms
import GroupChat.Proofs.Text.Blank

/-!
# Who a header stands for

A header shows a token if the token stands behind the scheme, with nothing but blanks around it. It
stands for whom the digest of that token was last given to, by an entry or later on. Whoever has an
entry has an account in the store that is made of the same entries.

## Main definitions

- `Shows`: a header shows a token.
- `Tokens.granted`: the tokens of entries, and of what was inserted after them.
- `grants`, `IsLast`: the digests with claims in the order in which they were given, and the one of
  a digest that counts.
- `Tokens.Identifies`: how headers are answered.

## Main statements

- `bearerToken_eq_ok_iff`: the token that a header shows.
- `bearerToken_eq_badFormat_iff`: the headers that show none.
- `Tokens.byDigest_granted`: all grants make up one table.
- `Tokens.authenticate_granted_eq_ok_iff`: whose claims a token has.
- `Tokens.identifies_of_grants`: how headers are answered after any grants.
-/

namespace GroupChat

open Text

/-! ### The token of a header -/

/-- The text `s` holds nothing but blanks (`isBlank`). -/
def OnlyBlanks (s : String) : Prop := ∀ c ∈ s.toList, isBlank c = true

/-- The `header` shows the `token`, which stands behind `Bearer` with blanks around it. -/
def Shows (header token : String) : Prop :=
  token ≠ "" ∧ Bare token.toList ∧ ∃ front back, OnlyBlanks front ∧ OnlyBlanks back ∧
    header = "Bearer " ++ front ++ token ++ back

variable {header : Option String} {h token rest : String}

theorem toList_bearer (rest : String) : ("Bearer " ++ rest).toList = bearerScheme ++ rest.toList :=
  String.toList_append

/-- A header begins with the scheme exactly if it is `Bearer`, a blank and something. -/
theorem exists_bearer_iff : bearerScheme <+: h.toList ↔ ∃ rest, h = "Bearer " ++ rest := by
  constructor
  · rintro ⟨cs, hcs⟩
    refine ⟨String.ofList cs, String.toList_inj.1 ?_⟩
    rw [toList_bearer, String.toList_ofList, hcs]
  · rintro ⟨rest, rfl⟩
    exact ⟨rest.toList, (toList_bearer rest).symm⟩

/-- Behind the scheme, `bearerToken` gives what `trimChars` leaves. -/
theorem bearerToken_bearer (rest : String) :
    bearerToken (some ("Bearer " ++ rest)) =
      if trimChars rest.toList = [] then .error .badFormat
      else .ok (String.ofList (trimChars rest.toList)) := by
  have hscheme : bearerScheme.isPrefixOf ("Bearer " ++ rest).toList = true :=
    List.isPrefixOf_iff_prefix.2 (exists_bearer_iff.2 ⟨rest, rfl⟩)
  rw [bearerToken, if_pos hscheme, toList_bearer, List.drop_left]
  cases trimChars rest.toList with
  | nil => rfl
  | cons c cs => rfl

theorem bearerToken_of_not_bearer (hnot : ∀ rest, h ≠ "Bearer " ++ rest) :
    bearerToken (some h) = .error .badFormat := by
  rw [bearerToken, if_neg]
  rw [List.isPrefixOf_iff_prefix, exists_bearer_iff]
  exact fun ⟨rest, hrest⟩ => hnot rest hrest

theorem shows_bearer_iff :
    Shows ("Bearer " ++ rest) token ↔ token ≠ "" ∧ trimChars rest.toList = token.toList := by
  -- one side speaks of texts, the other of their characters
  rw [Shows, trimChars_eq_iff]
  refine and_congr_right fun _ => and_congr_right fun _ => ?_
  constructor
  · rintro ⟨front, back, hfront, hback, heq⟩
    refine ⟨front.toList, back.toList, hfront, hback, ?_⟩
    rw [String.append_assoc, String.append_assoc, ← String.toList_inj, toList_bearer,
      toList_bearer] at heq
    rw [List.append_cancel_left heq, String.toList_append, String.toList_append, List.append_assoc]
  · rintro ⟨front, back, hfront, hback, heq⟩
    refine ⟨String.ofList front, String.ofList back, ?_, ?_, ?_⟩
    · rwa [OnlyBlanks, String.toList_ofList]
    · rwa [OnlyBlanks, String.toList_ofList]
    · rw [← String.toList_inj, String.append_assoc, String.append_assoc, toList_bearer,
        toList_bearer, String.toList_append, String.toList_append, String.toList_ofList,
        String.toList_ofList, heq, List.append_assoc]

theorem Shows.bearer (hshows : Shows h token) : ∃ rest, h = "Bearer " ++ rest := by
  obtain ⟨-, -, front, back, -, -, rfl⟩ := hshows
  exact ⟨front ++ token ++ back, by rw [String.append_assoc, String.append_assoc,
    String.append_assoc]⟩

/-- `bearerToken` gives the token that the header shows. -/
theorem bearerToken_bearer_eq_ok_iff :
    bearerToken (some ("Bearer " ++ rest)) = .ok token ↔ Shows ("Bearer " ++ rest) token := by
  have hempty : token ≠ "" ↔ token.toList ≠ [] := by
    rw [ne_eq, ne_eq, ← String.toList_inj]
    rfl
  rw [bearerToken_bearer, shows_bearer_iff, hempty]
  split_ifs with hnil
  · rw [hnil]
    exact iff_of_false nofun fun h => h.1 h.2.symm
  · rw [Except.ok.injEq, ← String.toList_inj, String.toList_ofList]
    exact (and_iff_right_of_imp fun heq => heq ▸ hnil).symm

/-- `bearerToken` gives exactly the token that the header `Shows`. -/
theorem bearerToken_eq_ok_iff :
    bearerToken header = .ok token ↔ ∃ h, header = some h ∧ Shows h token := by
  cases header with
  | none => exact iff_of_false nofun nofun
  | some h =>
    simp only [Option.some.injEq, exists_eq_left']
    by_cases hbearer : ∃ rest, h = "Bearer " ++ rest
    · obtain ⟨rest, rfl⟩ := hbearer
      exact bearerToken_bearer_eq_ok_iff
    · rw [bearerToken_of_not_bearer (not_exists.1 hbearer)]
      exact iff_of_false nofun fun hshows => hbearer hshows.bearer

theorem Shows.unique {token' : String} (hshows : Shows h token) (hshows' : Shows h token') :
    token = token' := by
  have hok : bearerToken (some h) = .ok token := bearerToken_eq_ok_iff.2 ⟨h, rfl, hshows⟩
  have hok' : bearerToken (some h) = .ok token' := bearerToken_eq_ok_iff.2 ⟨h, rfl, hshows'⟩
  exact Except.ok.inj (hok.symm.trans hok')

/-- `bearerToken` of a header is a token or `.badFormat`. -/
theorem bearerToken_some (h : String) :
    bearerToken (some h) = .error .badFormat ∨ ∃ token, bearerToken (some h) = .ok token := by
  by_cases hbearer : ∃ rest, h = "Bearer " ++ rest
  · obtain ⟨rest, rfl⟩ := hbearer
    rw [bearerToken_bearer]
    split_ifs
    · exact Or.inl rfl
    · exact Or.inr ⟨_, rfl⟩
  · exact Or.inl (bearerToken_of_not_bearer (not_exists.1 hbearer))

/-- `bearerToken` misses a token only where there is no header. -/
theorem bearerToken_eq_missingToken_iff :
    bearerToken header = .error .missingToken ↔ header = none := by
  cases header with
  | none => exact iff_of_true rfl rfl
  | some h => obtain hbad | ⟨token, hok⟩ := bearerToken_some h <;> simp [*]

theorem bearerToken_ne_invalidToken : bearerToken header ≠ .error .invalidToken := by
  cases header with
  | none => nofun
  | some h => obtain hbad | ⟨token, hok⟩ := bearerToken_some h <;> simp [*]

/-- `.badFormat` means another scheme, or `OnlyBlanks` behind it. -/
theorem bearerToken_eq_badFormat_iff :
    bearerToken header = .error .badFormat ↔ ∃ h, header = some h ∧
      ((∀ rest, h ≠ "Bearer " ++ rest) ∨ ∃ rest, h = "Bearer " ++ rest ∧ OnlyBlanks rest) := by
  cases header with
  | none => exact iff_of_false nofun nofun
  | some h =>
    simp only [Option.some.injEq, exists_eq_left']
    by_cases hbearer : ∃ rest, h = "Bearer " ++ rest
    · have hscheme : ¬ ∀ rest, h ≠ "Bearer " ++ rest := not_forall_not.2 hbearer
      obtain ⟨rest, rfl⟩ := hbearer
      -- what follows the scheme is unique
      have hrest : (∃ rest', "Bearer " ++ rest = "Bearer " ++ rest' ∧ OnlyBlanks rest') ↔
          OnlyBlanks rest := by
        constructor
        · rintro ⟨rest', heq, hblank⟩
          rw [← String.toList_inj, toList_bearer, toList_bearer] at heq
          rwa [String.toList_inj.1 (List.append_cancel_left heq)]
        · exact fun hblank => ⟨rest, rfl, hblank⟩
      rw [bearerToken_bearer, or_iff_right hscheme, hrest, OnlyBlanks, ← trimChars_eq_nil_iff]
      split_ifs with hnil
      · exact iff_of_true rfl hnil
      · exact iff_of_false nofun hnil
    · rw [bearerToken_of_not_bearer (not_exists.1 hbearer)]
      exact iff_of_true rfl (Or.inl (not_exists.1 hbearer))

theorem bearerToken_between {front back : String} (hfront : OnlyBlanks front)
    (hback : OnlyBlanks back) :
    bearerToken (some ("Bearer " ++ front ++ token ++ back)) =
      bearerToken (some ("Bearer " ++ token)) := by
  rw [String.append_assoc, String.append_assoc, bearerToken_bearer, bearerToken_bearer,
    String.toList_append, String.toList_append, ← List.append_assoc,
    trimChars_between hfront hback]

/-! ### The claims of a token -/

/-- All digests to which claims were given, by `entries` and later on by `inserts`, in order. -/
def grants (entries : List AccountEntry) (inserts : List (String × Claims)) :
    List (String × Claims) :=
  entries.map (fun e => (e.digest, e.account.claims))
    ++ inserts.map fun i => (tokenDigest i.1, i.2)

/-- The last one of the grants `gs` for the `digest` gives these `claims`. -/
def IsLast (gs : List (String × Claims)) (digest : String) (claims : Claims) : Prop :=
  ∃ front back, gs = front ++ (digest, claims) :: back ∧ ∀ g ∈ back, g.1 ≠ digest

namespace Tokens

variable {tokens : Tokens} {claims : Claims} {e : AuthError}
variable {entries : List AccountEntry} {inserts : List (String × Claims)}

/-- The tokens of `entries`, and of what `inserts` put in after them. -/
def granted (entries : List AccountEntry) (inserts : List (String × Claims)) : Tokens :=
  inserts.foldl (fun tokens i => tokens.insert i.1 i.2) (ofEntries entries)

/-- `byDigest` is the table of all `grants`: those of the entries, and then those that were
inserted. -/
theorem byDigest_granted (entries : List AccountEntry) (inserts : List (String × Claims)) :
    (granted entries inserts).byDigest = Table.ofList (grants entries inserts) := by
  induction inserts using List.reverseRecOn with
  | nil => rw [grants, List.map_nil, List.append_nil]; rfl
  | append_singleton inserts i ih =>
    rw [granted, List.foldl_concat, ← granted, insert, ih, grants, grants, List.map_append,
      ← List.append_assoc, List.map_singleton, Table.ofList, Table.ofList, List.foldl_concat]

/-- `validate` gives the claims under the digest of the token. -/
theorem validate_eq_ok_iff :
    tokens.validate token = .ok claims ↔
      tokens.byDigest.get? (tokenDigest token) = some claims := by
  rw [validate]
  cases tokens.byDigest.get? (tokenDigest token) with
  | none => exact iff_of_false nofun nofun
  | some claims' => rw [Except.ok.injEq, Option.some.injEq]

theorem validate_eq_error_iff :
    tokens.validate token = .error e ↔
      e = .invalidToken ∧ tokens.byDigest.get? (tokenDigest token) = none := by
  rw [validate]
  cases tokens.byDigest.get? (tokenDigest token) with
  | none => rw [Except.error.injEq, and_iff_left rfl, eq_comm]
  | some claims' => exact iff_of_false nofun nofun

/-- `authenticate` gives the claims under the digest of the token that the header shows. -/
theorem authenticate_eq_ok_iff :
    tokens.authenticate header = .ok claims ↔ ∃ token, bearerToken header = .ok token ∧
      tokens.byDigest.get? (tokenDigest token) = some claims := by
  simp only [← validate_eq_ok_iff]
  rw [authenticate]
  cases bearerToken header with
  | error e =>
    constructor
    · intro h
      cases h
    · rintro ⟨token, heq, -⟩
      cases heq
  | ok token =>
    constructor
    · intro h
      exact ⟨token, rfl, h⟩
    · rintro ⟨_, heq, h⟩
      cases heq
      exact h

/-- `authenticate` fails where there is no token, and where its digest is not known. -/
theorem authenticate_eq_error_iff :
    tokens.authenticate header = .error e ↔ bearerToken header = .error e ∨
      e = .invalidToken ∧ ∃ token, bearerToken header = .ok token ∧
        tokens.byDigest.get? (tokenDigest token) = none := by
  rw [authenticate]
  cases bearerToken header with
  | error e' =>
    rw [or_iff_left (fun ⟨_, token, heq, _⟩ => by cases heq)]
    exact ⟨fun h => congrArg _ (Except.error.inj h), fun h => congrArg _ (Except.error.inj h)⟩
  | ok token =>
    rw [or_iff_right nofun]
    refine validate_eq_error_iff.trans (and_congr_right fun _ => ?_)
    exact ⟨fun h => ⟨token, rfl, h⟩, fun ⟨_, heq, h⟩ => Except.ok.inj heq ▸ h⟩

theorem authenticate_eq_missingToken_iff :
    tokens.authenticate header = .error .missingToken ↔ header = none := by
  rw [authenticate_eq_error_iff, bearerToken_eq_missingToken_iff]
  exact or_iff_left fun h => AuthError.noConfusion h.1

theorem authenticate_eq_badFormat_iff :
    tokens.authenticate header = .error .badFormat ↔ ∃ h, header = some h ∧
      ((∀ rest, h ≠ "Bearer " ++ rest) ∨ ∃ rest, h = "Bearer " ++ rest ∧ OnlyBlanks rest) := by
  rw [authenticate_eq_error_iff, bearerToken_eq_badFormat_iff]
  exact or_iff_left fun h => AuthError.noConfusion h.1

/-- `.invalidToken` means that none of the `grants` is for the digest of the token. -/
theorem authenticate_granted_eq_invalidToken_iff :
    (granted entries inserts).authenticate header = .error .invalidToken ↔
      ∃ h token, header = some h ∧ Shows h token ∧
        ∀ g ∈ grants entries inserts, g.1 ≠ tokenDigest token := by
  rw [authenticate_eq_error_iff, or_iff_right bearerToken_ne_invalidToken, and_iff_right rfl]
  simp only [bearerToken_eq_ok_iff, byDigest_granted, Table.get?_ofList_eq_none_iff]
  constructor
  · rintro ⟨token, ⟨h, hheader, hshows⟩, hnone⟩
    exact ⟨h, token, hheader, hshows, hnone⟩
  · rintro ⟨h, token, hheader, hshows, hnone⟩
    exact ⟨token, ⟨h, hheader, hshows⟩, hnone⟩

/-- `authenticate` gives the claims of the last one of the `grants` for the digest of the token. -/
theorem authenticate_granted_eq_ok_iff :
    (granted entries inserts).authenticate header = .ok claims ↔
      ∃ h token, header = some h ∧ Shows h token ∧
        IsLast (grants entries inserts) (tokenDigest token) claims := by
  simp only [authenticate_eq_ok_iff, bearerToken_eq_ok_iff, byDigest_granted,
    Table.get?_ofList_eq_some_iff, IsLast]
  constructor
  · rintro ⟨token, ⟨h, hheader, hshows⟩, hlast⟩
    exact ⟨h, token, hheader, hshows, hlast⟩
  · rintro ⟨h, token, hheader, hshows, hlast⟩
    exact ⟨token, ⟨h, hheader, hshows⟩, hlast⟩

/-- How headers are answered by `tokens` that were made of `entries` and `inserts`. -/
structure Identifies (tokens : Tokens) (entries : List AccountEntry)
    (inserts : List (String × Claims)) : Prop where
  /-- A token is missing where there is no header. -/
  missing : ∀ header, tokens.authenticate header = .error .missingToken ↔ header = none
  /-- The format is bad where the scheme is another one or nothing but blanks comes behind it. -/
  misshapen : ∀ header, tokens.authenticate header = .error .badFormat ↔ ∃ h, header = some h ∧
    ((∀ rest, h ≠ "Bearer " ++ rest) ∨ ∃ rest, h = "Bearer " ++ rest ∧ OnlyBlanks rest)
  /-- A token is refused where nothing was granted for its digest. -/
  unknown : ∀ header, tokens.authenticate header = .error .invalidToken ↔
    ∃ h token, header = some h ∧ Shows h token ∧
      ∀ g ∈ grants entries inserts, g.1 ≠ tokenDigest token
  /-- A token has the claims that were last granted for its digest. -/
  known : ∀ header claims, tokens.authenticate header = .ok claims ↔
    ∃ h token, header = some h ∧ Shows h token ∧
      IsLast (grants entries inserts) (tokenDigest token) claims
  /-- Blanks around a token make no difference. -/
  spaced : ∀ front back front' back' token, OnlyBlanks front → OnlyBlanks back →
    OnlyBlanks front' → OnlyBlanks back' →
      tokens.authenticate (some ("Bearer " ++ front ++ token ++ back)) =
        tokens.authenticate (some ("Bearer " ++ front' ++ token ++ back'))
  /-- Claims that come from an entry name an account of the store that is made of the entries. -/
  present : ∀ h token claims, Shows h token →
    (∀ i ∈ inserts, tokenDigest i.1 ≠ tokenDigest token) →
      tokens.authenticate (some h) = .ok claims →
        ∃ a, (Store.ofAccounts (entries.map AccountEntry.account)).account? claims.account = some a

/-- The last one of the `grants`, if it is not an insertion, names an account that
`Store.ofAccounts` has. -/
theorem exists_account_of_isLast {digest : String}
    (hlast : IsLast (grants entries inserts) digest claims)
    (hinserts : ∀ i ∈ inserts, tokenDigest i.1 ≠ digest) :
    ∃ a, (Store.ofAccounts (entries.map AccountEntry.account)).account? claims.account = some a := by
  obtain ⟨front, back, heq, -⟩ := hlast
  have hmem : (digest, claims) ∈ grants entries inserts :=
    heq ▸ List.mem_append_right front List.mem_cons_self
  rw [← Option.isSome_iff_exists, Store.isSome_account?_ofAccounts]
  -- only the entries give tokens with this digest
  rcases List.mem_append.1 hmem with hentry | hinsert
  · obtain ⟨entry, hin, hgrant⟩ := List.mem_map.1 hentry
    cases hgrant
    exact List.mem_map_of_mem (List.mem_map_of_mem hin)
  · obtain ⟨i, hi, hgrant⟩ := List.mem_map.1 hinsert
    exact absurd (congrArg Prod.fst hgrant) (hinserts i hi)

/-- **A header stands for whom its token was last granted to.** This is so after any entries and any
insertions, and each reason for a refusal is given exactly where it applies. -/
theorem identifies_of_grants (entries : List AccountEntry) (inserts : List (String × Claims)) :
    (granted entries inserts).Identifies entries inserts := by
  constructor
  case missing => exact fun header => authenticate_eq_missingToken_iff
  case misshapen => exact fun header => authenticate_eq_badFormat_iff
  case unknown => exact fun header => authenticate_granted_eq_invalidToken_iff
  case known => exact fun header claims => authenticate_granted_eq_ok_iff
  case spaced =>
    intro front back front' back' token hfront hback hfront' hback'
    rw [authenticate, authenticate, bearerToken_between hfront hback,
      bearerToken_between hfront' hback']
  case present =>
    intro h token claims hshows hinserts hok
    obtain ⟨h', token', hheader, hshows', hlast⟩ := authenticate_granted_eq_ok_iff.1 hok
    obtain rfl : h = h' := Option.some.inj hheader
    rw [hshows'.unique hshows] at hlast
    exact exists_account_of_isLast hlast hinserts

/-- Two entries with the digest of the same token, `s3cret`. -/
def doubled : List AccountEntry :=
  [⟨⟨"1", "Ann", .admin⟩, tokenDigest "s3cret"⟩, ⟨⟨"2", "Bob", .user⟩, tokenDigest "s3cret"⟩]

/-- The second entry of `doubled` counts, and a wide blank ahead of the token does no harm. -/
theorem identifies_of_doubled :
    (granted doubled []).Identifies doubled [] ∧
      (granted doubled []).authenticate (some "Bearer \u3000s3cret\t") =
        .ok ⟨"2", "Bob", .user⟩ := by
  have hidentifies := identifies_of_grants doubled []
  have hshows : Shows ("Bearer " ++ "\u3000s3cret\t") "s3cret" :=
    shows_bearer_iff.2 ⟨by decide, by decide⟩
  refine ⟨hidentifies, (hidentifies.known _ _).2 ⟨_, "s3cret", rfl, hshows, ?_⟩⟩
  exact ⟨[(tokenDigest "s3cret", ⟨"1", "Ann", .admin⟩)], [], rfl, nofun⟩

end Tokens

end GroupChat
