import AccountAuthority.Database.Transaction
import AccountAuthority.Relational.Row
import AccountAuthority.Relational.Sql

/-!
# Accounts in the database

The units of work on users, their identities, passwords and verification tokens.  A unit only
reads and writes; the transaction around it is the business of the caller.
-/

namespace AccountAuthority

/-- A program over the database of the repository. -/
abbrev Relational (α : Type) := Sql Statement RepositoryError α

instance : OfDatabase RepositoryError := ⟨RepositoryError.ofDatabase⟩

namespace Relational

/-- Send a statement for what it does. -/
def send (s : Statement) : Relational Unit := do
  let _ ← Sql.execute s

/-- The identifier in the first row that a statement gives. -/
def findId (s : Statement) : Relational (Option Uuid) :=
  Sql.fetchOptional s Row.first

def findUserRow (id : UserId) (lock : Bool) : Relational (Option UserRow) :=
  Sql.fetchOptional (.selectUser id lock) UserRow.read

def userOf (row : UserRow) : Relational User :=
  Sql.ofExcept row.toUser

/-- The user in a row, if there is one. -/
def userOf? (row : Option UserRow) : Relational (Option User) :=
  Sql.ofExcept (row.mapM UserRow.toUser)

/-- The user in a row with their password, if there is one. -/
def loginOf? (row : Option UserRow) : Relational (Option LoginRecord) :=
  Sql.ofExcept (row.mapM UserRow.toLogin)

/-- The user that an identity is bound to. -/
def findUserByIdentity (provider subject : String) : Relational (Option User) := do
  userOf? (← Sql.fetchOptional (.selectUserByIdentity provider subject) UserRow.read)

/-- Create an account with a password. -/
def createUser (user : User) (passwordHash : String) : Relational CreateUserOutcome := do
  match ← findId (.selectUserIdByEmail user.email) with
  | some _ => pure .emailTaken
  | none =>
    send (.insertUser user (some passwordHash))
    pure (.created user)

/-- Create an account for an external identity. -/
def createExternalUser (user : User) (identity : ExternalIdentity) :
    Relational CreateExternalUserOutcome := do
  match ← findUserByIdentity identity.provider identity.subject with
  | some existing => pure (.identityExists existing)
  | none =>
    match ← findId (.selectUserIdByEmail user.email) with
    | some _ => pure .emailTaken
    | none =>
      send (.insertUser user none)
      send (.insertIdentity identity)
      pure (.created user)

/-- Bind an identity to a user who has not been deleted. -/
def linkIdentity (identity : ExternalIdentity) : Relational LinkOutcome := do
  match ← findUserRow identity.user true with
  | none => pure .userNotFound
  | some row =>
    if row.hasStatus .deleted then pure .userNotFound
    else
      match ← findId (.selectIdentityOwner identity.provider identity.subject) with
      | some owner =>
        pure (if owner = identity.user then .alreadyLinked else .identityLinkedToOtherUser)
      | none =>
        match ← findId (.selectIdentityOfUser identity.user identity.provider) with
        | some _ => pure .providerAlreadyLinked
        | none =>
          send (.insertIdentity identity)
          pure .linked

/-- Revoke the unrevoked sessions of a user with their tokens, but for one; the answer is their
number. -/
def revokeAll (user : UserId) (except : Option SessionId) (reason : RevocationReason)
    (now : Instant) : Relational Nat := do
  let revoked ← Sql.fetchAll (.revokeSessionsOfUser user except reason now) Row.first
  if revoked.isEmpty then pure 0
  else
    send (.revokeTokensOfSessions revoked now)
    pure revoked.length

/-- Set the password of the user of a token, which is used up by that. -/
def resetPassword (tokenHash newHash : String) (now : Instant) :
    Relational ResetPasswordOutcome := do
  let found ← Sql.fetchOptional (.selectVerificationToken tokenHash .passwordReset false)
    VerificationTokenRow.read
  match found with
  | none => pure .invalidToken
  | some token =>
    if token.consumedAt.isSome then pure .invalidToken
    else if token.expiresAt ≤ now then pure .expired
    else
      match ← findUserRow token.user true with
      | none => pure .userInactive
      | some row =>
        if row.hasStatus .active then
          -- The token may have been consumed since it was looked up.
          if (← Sql.affected (.consumeUnusedToken token.id now)) = 0 then pure .invalidToken
          else
            send (.setPassword token.user newHash now)
            send (.consumeTokensOfUser token.user .passwordReset now)
            pure (.reset token.user (← revokeAll token.user none .passwordReset now))
        else pure .userInactive

/-- Mark the address of the user of a token as verified. -/
def verifyEmail (tokenHash : String) (now : Instant) : Relational VerifyEmailOutcome := do
  let found ← Sql.fetchOptional (.selectVerificationToken tokenHash .emailVerification true)
    VerificationTokenRow.read
  match found with
  | none => pure .invalidToken
  | some token =>
    if token.consumedAt.isSome then pure .invalidToken
    else if token.expiresAt ≤ now then pure .expired
    else
      match ← findUserRow token.user true with
      | none => pure .invalidToken
      | some row =>
        if row.hasStatus .deleted then pure .invalidToken
        else
          send (.consumeToken token.id now)
          if row.emailVerifiedAt.isSome then pure (.alreadyVerified token.user)
          else
            send (.verifyEmail token.user now)
            pure (.verified token.user)

/-- Exchange the password of a user for another, and revoke the sessions but for one. -/
def changePassword (user : UserId) (expected new : String) (keep : Option SessionId)
    (now : Instant) : Relational ChangePasswordOutcome := do
  if (← Sql.affected (.exchangePassword user expected new now)) = 0 then
    match ← findUserRow user false with
    | none => pure .userNotFound
    | some row => pure (if row.hasStatus .deleted then .userNotFound else .credentialChanged)
  else pure (.changed (← revokeAll user keep .passwordChanged now))

end Relational

end AccountAuthority
