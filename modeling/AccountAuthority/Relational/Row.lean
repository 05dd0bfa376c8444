import AccountAuthority.Database.Value
import AccountAuthority.Job.Basic
import AccountAuthority.Repository.Error
import AccountAuthority.Repository.Outcome

/-!
# Rows of the repository

A row is first read column by column, and only then are its codes understood.  So a row that is
not complete is an error of the database, whatever its codes say, and a row with a code that is
none is a corrupt one.
-/

namespace AccountAuthority

/-- What a code in a row stands for. -/
def RepositoryError.readCode {α : Type} [Coded α] (s : String) : Except RepositoryError α :=
  (Coded.read s).mapError .corruptRow

structure UserRow where
  id : UserId
  email : String
  passwordHash : Option String
  displayName : Option String
  avatarUrl : Option String
  roleCode : String
  statusCode : String
  emailVerifiedAt : Option Instant
  deletionRequestedAt : Option Instant
  deletionScheduledFor : Option Instant
  deletionSession : Option SessionId
  deletionTrace : Option String
  deletedAt : Option Instant
  createdAt : Instant
  updatedAt : Instant

namespace UserRow

def read (r : Row) : Except DatabaseError UserRow := do
  pure {
    id := ← r.get "user_id"
    email := ← r.get "email"
    passwordHash := ← r.get "password_hash"
    displayName := ← r.get "display_name"
    avatarUrl := ← r.get "avatar_url"
    roleCode := ← r.get "role_code"
    statusCode := ← r.get "status_code"
    emailVerifiedAt := ← r.get "email_verified_utc"
    deletionRequestedAt := ← r.get "deletion_requested_utc"
    deletionScheduledFor := ← r.get "deletion_scheduled_utc"
    deletionSession := ← r.get "deletion_requested_session_id"
    deletionTrace := ← r.get "deletion_requested_trace_id"
    deletedAt := ← r.get "deleted_utc"
    createdAt := ← r.get "created_utc"
    updatedAt := ← r.get "updated_utc" }

/-- Whether the row has the code of a status. -/
def hasStatus (r : UserRow) (status : Status) : Bool :=
  r.statusCode = code status

def toUser (r : UserRow) : Except RepositoryError User := do
  let role ← RepositoryError.readCode r.roleCode
  let status ← RepositoryError.readCode r.statusCode
  pure {
    id := r.id
    email := r.email
    displayName := r.displayName
    avatarUrl := r.avatarUrl
    role
    status
    emailVerifiedAt := r.emailVerifiedAt
    deletionRequestedAt := r.deletionRequestedAt
    deletionScheduledFor := r.deletionScheduledFor
    deletionSession := r.deletionSession
    deletionTrace := r.deletionTrace
    deletedAt := r.deletedAt
    createdAt := r.createdAt
    updatedAt := r.updatedAt }

/-- The user in a row with their password. -/
def toLogin (r : UserRow) : Except RepositoryError LoginRecord := do
  pure ⟨← r.toUser, r.passwordHash⟩

end UserRow

structure SessionRow where
  id : SessionId
  user : UserId
  deviceId : Option String
  deviceName : Option String
  platform : Option String
  activeKey : Option String
  authMethods : List String
  ipAddress : Option String
  userAgent : Option String
  pushToken : Option String
  pushPlatform : Option String
  pushUpdatedAt : Option Instant
  expiresAt : Instant
  revokedAt : Option Instant
  revokedReasonCode : Option String
  lastSeenAt : Instant
  createdAt : Instant

namespace SessionRow

def read (r : Row) : Except DatabaseError SessionRow := do
  pure {
    id := ← r.get "session_id"
    user := ← r.get "user_id"
    deviceId := ← r.get "device_id"
    deviceName := ← r.get "device_name"
    platform := ← r.get "platform"
    activeKey := ← r.get "active_key"
    authMethods := ← r.get "auth_methods"
    ipAddress := ← r.get "ip_address"
    userAgent := ← r.get "user_agent"
    pushToken := ← r.get "push_token"
    pushPlatform := ← r.get "push_platform"
    pushUpdatedAt := ← r.get "push_updated_utc"
    expiresAt := ← r.get "expiry_utc"
    revokedAt := ← r.get "revoked_utc"
    revokedReasonCode := ← r.get "revoked_reason_code"
    lastSeenAt := ← r.get "last_seen_utc"
    createdAt := ← r.get "created_utc" }

def toSession (r : SessionRow) : Except RepositoryError Session := do
  let authMethods ← r.authMethods.mapM RepositoryError.readCode
  let revokedReason ← r.revokedReasonCode.mapM RepositoryError.readCode
  pure {
    id := r.id
    user := r.user
    deviceId := r.deviceId
    deviceName := r.deviceName
    platform := r.platform
    activeKey := r.activeKey
    authMethods
    ipAddress := r.ipAddress
    userAgent := r.userAgent
    pushToken := r.pushToken
    pushPlatform := r.pushPlatform
    pushUpdatedAt := r.pushUpdatedAt
    expiresAt := r.expiresAt
    revokedAt := r.revokedAt
    revokedReason
    lastSeenAt := r.lastSeenAt
    createdAt := r.createdAt }

end SessionRow

def RefreshToken.read (r : Row) : Except DatabaseError RefreshToken := do
  pure {
    id := ← r.get "token_id"
    session := ← r.get "session_id"
    hash := ← r.get "token_hash_text"
    expiresAt := ← r.get "expiry_utc"
    revokedAt := ← r.get "revoked_utc"
    replacedBy := ← r.get "replaced_by_token_id"
    createdAt := ← r.get "created_utc" }

/-- What is looked up of a verification token. -/
structure VerificationTokenRow where
  id : Uuid
  user : UserId
  expiresAt : Instant
  consumedAt : Option Instant

namespace VerificationTokenRow

def read (r : Row) : Except DatabaseError VerificationTokenRow := do
  pure {
    id := ← r.get "token_id"
    user := ← r.get "user_id"
    expiresAt := ← r.get "expiry_utc"
    consumedAt := ← r.get "consumed_utc" }

end VerificationTokenRow

structure AuditRow where
  id : Uuid
  typeCode : String
  actorUser : Option UserId
  actorSession : Option SessionId
  target : UserId
  trace : Option String
  data : Json
  createdAt : Instant

namespace AuditRow

def read (r : Row) : Except DatabaseError AuditRow := do
  pure {
    id := ← r.get "event_id"
    typeCode := ← r.get "event_type_code"
    actorUser := ← r.get "actor_user_id"
    actorSession := ← r.get "actor_session_id"
    target := ← r.get "target_user_id"
    trace := ← r.get "trace_id"
    data := ← r.get "event_data"
    createdAt := ← r.get "created_utc" }

def toEvent (r : AuditRow) : Except RepositoryError AuditEvent := do
  let type ← RepositoryError.readCode r.typeCode
  pure {
    id := r.id
    type
    actorUser := r.actorUser
    actorSession := r.actorSession
    target := r.target
    trace := r.trace
    data := r.data
    createdAt := r.createdAt }

end AuditRow

structure JobRow where
  id : String
  type : String
  payload : Json
  stateCode : String
  runAt : Instant
  attempts : Int
  maxAttempts : Int
  lastError : Option String
  lockedUntil : Option Instant
  createdAt : Instant
  updatedAt : Instant

namespace JobRow

def read (r : Row) : Except DatabaseError JobRow := do
  pure {
    id := ← r.get "job_id"
    type := ← r.get "job_type"
    payload := ← r.get "payload"
    stateCode := ← r.get "state_code"
    runAt := ← r.get "run_at_utc"
    attempts := ← r.get "attempts"
    maxAttempts := ← r.get "max_attempts"
    lastError := ← r.get "last_error"
    lockedUntil := ← r.get "locked_until_utc"
    createdAt := ← r.get "created_utc"
    updatedAt := ← r.get "updated_utc" }

def toJob (r : JobRow) : Except QueueError Job := do
  let state ← (Coded.read r.stateCode).mapError .corruptRow
  pure {
    id := r.id
    type := r.type
    payload := r.payload
    state
    runAt := r.runAt
    attempts := r.attempts
    maxAttempts := r.maxAttempts
    lastError := r.lastError
    lockedUntil := r.lockedUntil
    createdAt := r.createdAt
    updatedAt := r.updatedAt }

end JobRow

end AccountAuthority
