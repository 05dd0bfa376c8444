import AccountAuthority.Relational.Lifecycle
import AccountAuthority.Relational.Sessions

/-!
# The database as a repository

Every request to the repository as a program over the database.  A request that changes anything
is one unit of work under the guard, and a look-up sends its statements alone.  Where a race for a
unique key is lost, the key says what has happened: either that is the outcome, or the unit is
tried once more and finds what the winner has left.
-/

namespace AccountAuthority.Relational

/-! ## Unique keys -/

/-- No two users have the same address. -/
def emailKey : String := "users_email_key"

/-- A subject of a provider is bound to one user. -/
def providerSubjectKey : String := "external_identities_provider_subject_key"

/-- A user is bound to one subject of a provider. -/
def userProviderKey : String := "external_identities_user_provider_key"

/-- No two sessions have the same active key. -/
def activeKeyKey : String := "sessions_active_key_key"

/-- No two sessions have the same push token. -/
def pushTokenKey : String := "sessions_push_token_key"

variable {α : Type}

/-- Do something else when a unique key is violated. -/
def onViolation (key : String) (p handler : Relational α) : Relational α :=
  tryCatch p fun e => if e.isUniqueViolationOn key then handler else throw e

/-- Try once more when a unique key is violated. -/
def twice (key : String) (p : Relational α) : Relational α :=
  onViolation key p p

/-! ## Requests -/

/-- Run a unit of work under the guard. -/
def unit (config : RetryConfig) (work : Relational α) : Relational α :=
  Sql.guarded config RepositoryError.isTransient work

/-- The user that an identity has been bound to by somebody else. -/
def identityWinner (identity : ExternalIdentity) : Relational CreateExternalUserOutcome := do
  match ← findUserByIdentity identity.provider identity.subject with
  | some existing => pure (.identityExists existing)
  | none => throw (.uniqueViolation providerSubjectKey)

/-- Revoke the session of a refresh token that was used again.  This is no unit under the guard:
who comes second waits for the row of the session and then finds nothing to revoke. -/
def revokeForReuse (session : SessionId) (now : Instant) : Relational Unit := do
  let _ ← Sql.transaction (revoke session .tokenReuse now)

def perform (config : RetryConfig) (r : RepositoryRequest) : Relational r.Answer :=
  match r with
  | .ping => send .ping
  | .createUser user hash =>
    onViolation emailKey (unit config (createUser user hash)) (pure .emailTaken)
  | .findLogin email => do
    loginOf? (← Sql.fetchOptional (.selectUserByEmail email) UserRow.read)
  | .findCredentials user => do loginOf? (← findUserRow user false)
  | .findUser user => do userOf? (← findUserRow user false)
  | .findExternalUser provider subject => findUserByIdentity provider subject
  | .createExternalUser user identity =>
    tryCatch (unit config (createExternalUser user identity)) fun e =>
      if e.isUniqueViolationOn providerSubjectKey then identityWinner identity
      else if e.isUniqueViolationOn emailKey then pure .emailTaken
      else throw e
  | .linkIdentity identity =>
    tryCatch (unit config (linkIdentity identity)) fun e =>
      if e.isUniqueViolationOn providerSubjectKey then pure .identityLinkedToOtherUser
      else if e.isUniqueViolationOn userProviderKey then pure .providerAlreadyLinked
      else throw e
  | .storeVerificationToken token => send (.insertVerificationToken token)
  | .resetPassword hash newHash now => unit config (resetPassword hash newHash now)
  | .verifyEmail hash now => unit config (verifyEmail hash now)
  | .changePassword user expected new keep now =>
    unit config (changePassword user expected new keep now)
  | .createSession session token now =>
    twice activeKeyKey (unit config (createSession session token now))
  | .findRefreshContext hash => findRefreshContext hash
  | .rotate rotation => do
    let outcome ← unit config (rotate rotation)
    match outcome with
    | .revokedOrReused session => do
      revokeForReuse session rotation.now
      pure outcome
    | _ => pure outcome
  | .revokeByToken hash reason now => unit config (revokeByToken hash reason now)
  | .revokeSession user session reason now => unit config (revokeSession user session reason now)
  | .revokeDevice user device reason now =>
    match activeKey user (some device) with
    | none => pure .notFound
    | some key => unit config (revokeByKey key reason now)
  | .listSessions user now => listSessions user now
  | .setPushToken user session token platform now =>
    twice pushTokenKey (unit config (setPushToken user session token platform now))
  | .changeRole actor target role now => unit config (changeRole actor target role now)
  | .changeStatus actor target status reason now =>
    unit config (changeStatus actor target status reason now)
  | .requestDeletion actor target scheduledFor now =>
    unit config (requestDeletion actor target scheduledFor now)
  | .cancelDeletion actor target now => unit config (cancelDeletion actor target now)
  | .finalizeDeletion user trace now => unit config (finalizeDeletion user trace now)
  | .listAudit target => do
    let rows ← Sql.fetchAll (.selectAudit target) AuditRow.read
    Sql.ofExcept (rows.mapM AuditRow.toEvent)

end AccountAuthority.Relational
