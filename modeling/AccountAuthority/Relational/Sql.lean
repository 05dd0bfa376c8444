import AccountAuthority.Database.Request
import AccountAuthority.Relational.Statement

/-!
# The statements as SQL

The texts of the statements with their columns, and the parameters of each in the order of their
numbers.
-/

namespace AccountAuthority

def userColumns : List String := ["user_id", "email", "password_hash", "display_name", "avatar_url",
  "role_code", "status_code", "email_verified_utc", "deletion_requested_utc",
  "deletion_scheduled_utc", "deletion_requested_session_id", "deletion_requested_trace_id",
  "deleted_utc", "created_utc", "updated_utc"]

def identityColumns : List String :=
  ["ident_id", "provider_code", "subject", "user_id", "email_snapshot", "created_utc"]

def verificationTokenColumns : List String := ["token_id", "user_id", "purpose_code",
  "token_hash_text", "expiry_utc", "consumed_utc", "created_utc"]

def sessionColumns : List String := ["session_id", "user_id", "device_id", "device_name",
  "platform", "active_key", "auth_methods", "ip_address", "user_agent", "push_token",
  "push_platform", "push_updated_utc", "expiry_utc", "revoked_utc", "revoked_reason_code",
  "last_seen_utc", "created_utc"]

def refreshTokenColumns : List String := ["token_id", "session_id", "token_hash_text", "expiry_utc",
  "revoked_utc", "replaced_by_token_id", "created_utc"]

def auditColumns : List String := ["event_id", "event_type_code", "actor_user_id",
  "actor_session_id", "target_user_id", "trace_id", "event_data", "created_utc"]

def jobColumns : List String := ["job_id", "job_type", "payload", "state_code", "run_at_utc",
  "attempts", "max_attempts", "last_error", "locked_until_utc", "created_utc", "updated_utc"]

namespace Statement

/-- A list as it stands in a statement. -/
def listing (names : List String) : String :=
  ", ".intercalate names

def insertInto (table : String) (columns : List String) : String :=
  "INSERT INTO " ++ table ++ " (" ++ listing columns ++ ") VALUES (" ++
    listing ((List.range columns.length).map fun i => "$" ++ toString (i + 1)) ++ ")"

def selectFrom (table : String) (columns : List String) (condition : String) : String :=
  "SELECT " ++ listing columns ++ " FROM " ++ table ++ " WHERE " ++ condition

/-- The end of a statement that locks the rows it selects. -/
def locking (lock : Bool) : String :=
  if lock then " FOR UPDATE" else ""

def sql : Statement → String
  | ping => "SELECT 1"
  | selectUser _ lock => selectFrom "users" userColumns ("user_id = $1" ++ locking lock)
  | selectUserByEmail _ => selectFrom "users" userColumns "LOWER(email) = LOWER($1)"
  | selectUserByIdentity .. =>
    selectFrom "users" userColumns ("user_id = ( " ++
      selectFrom "external_identities" ["user_id"] "provider_code = $1 AND subject = $2" ++ " )")
  | selectUserIdByEmail _ => selectFrom "users" ["user_id"] "LOWER(email) = LOWER($1)"
  | lockActiveAdmins =>
    selectFrom "users" ["user_id"]
      "role_code = 'ADMIN' AND status_code = 'ACTIVE' ORDER BY user_id FOR UPDATE"
  | insertUser .. => insertInto "users" userColumns
  | setPassword .. => "UPDATE users SET password_hash = $2, updated_utc = $3 WHERE user_id = $1"
  | exchangePassword .. =>
    "UPDATE users SET password_hash = $3, updated_utc = $4 " ++
      "WHERE user_id = $1 AND password_hash = $2 AND status_code <> 'DELETED'"
  | verifyEmail .. =>
    "UPDATE users SET email_verified_utc = $2, updated_utc = $2 WHERE user_id = $1"
  | setRole .. =>
    "UPDATE users SET role_code = $2, updated_utc = $3 WHERE user_id = $1 RETURNING " ++
      listing userColumns
  | setStatus .. =>
    "UPDATE users SET status_code = $2, updated_utc = $3 WHERE user_id = $1 RETURNING " ++
      listing userColumns
  | scheduleDeletion .. =>
    "UPDATE users SET deletion_requested_utc = $2, deletion_scheduled_utc = $3, " ++
      "deletion_requested_session_id = $4, deletion_requested_trace_id = $5, updated_utc = $2 " ++
      "WHERE user_id = $1 RETURNING " ++ listing userColumns
  | unscheduleDeletion .. =>
    "UPDATE users SET deletion_requested_utc = NULL, deletion_scheduled_utc = NULL, " ++
      "deletion_requested_session_id = NULL, deletion_requested_trace_id = NULL, " ++
      "updated_utc = $2 WHERE user_id = $1 RETURNING " ++ listing userColumns
  | scrubUser .. =>
    "UPDATE users SET email = $2, password_hash = NULL, display_name = NULL, " ++
      "avatar_url = NULL, role_code = 'USER', status_code = 'DELETED', " ++
      "deletion_requested_utc = NULL, deletion_scheduled_utc = NULL, " ++
      "deletion_requested_session_id = NULL, deletion_requested_trace_id = NULL, " ++
      "deleted_utc = $3, updated_utc = $3 WHERE user_id = $1"
  | selectIdentityOwner .. =>
    selectFrom "external_identities" ["user_id"] "provider_code = $1 AND subject = $2"
  | selectIdentityOfUser .. =>
    selectFrom "external_identities" ["ident_id"] "user_id = $1 AND provider_code = $2"
  | insertIdentity _ => insertInto "external_identities" identityColumns
  | deleteIdentities _ => "DELETE FROM external_identities WHERE user_id = $1"
  | insertVerificationToken _ => insertInto "verification_tokens" verificationTokenColumns
  | selectVerificationToken _ _ lock =>
    selectFrom "verification_tokens" ["token_id", "user_id", "expiry_utc", "consumed_utc"]
      ("token_hash_text = $1 AND purpose_code = $2" ++ locking lock)
  | consumeToken .. => "UPDATE verification_tokens SET consumed_utc = $2 WHERE token_id = $1"
  | consumeUnusedToken .. =>
    "UPDATE verification_tokens SET consumed_utc = $2 " ++
      "WHERE token_id = $1 AND consumed_utc IS NULL"
  | consumeTokensOfUser .. =>
    "UPDATE verification_tokens SET consumed_utc = $2 " ++
      "WHERE user_id = $1 AND purpose_code = $3 AND consumed_utc IS NULL"
  | deleteVerificationTokens _ => "DELETE FROM verification_tokens WHERE user_id = $1"
  | insertSession _ => insertInto "sessions" sessionColumns
  | selectSession _ => selectFrom "sessions" sessionColumns "session_id = $1"
  | selectSessionOfUser .. =>
    selectFrom "sessions" ["session_id"] "session_id = $1 AND user_id = $2"
  | lockSessionByKey _ => selectFrom "sessions" ["session_id"] "active_key = $1 FOR UPDATE"
  | lockUnrevokedSession .. =>
    selectFrom "sessions" ["session_id"]
      "session_id = $1 AND user_id = $2 AND revoked_utc IS NULL FOR UPDATE"
  | selectLiveSessions .. =>
    selectFrom "sessions" sessionColumns
      "user_id = $1 AND revoked_utc IS NULL AND expiry_utc > $2 ORDER BY last_seen_utc DESC"
  | touchSession .. =>
    "UPDATE sessions SET last_seen_utc = $2, ip_address = COALESCE($3, ip_address), " ++
      "user_agent = COALESCE($4, user_agent) WHERE session_id = $1 RETURNING " ++
      listing sessionColumns
  | revokeSession .. =>
    "UPDATE sessions SET revoked_utc = $2, revoked_reason_code = $3, active_key = NULL " ++
      "WHERE session_id = $1 AND revoked_utc IS NULL"
  | revokeSessionsOfUser .. =>
    "UPDATE sessions SET revoked_utc = $2, revoked_reason_code = $3, active_key = NULL " ++
      "WHERE user_id = $1 AND revoked_utc IS NULL " ++
      "AND ($4::uuid IS NULL OR session_id <> $4) RETURNING session_id"
  | deleteSessions _ => "DELETE FROM sessions WHERE user_id = $1"
  | detachPushToken .. =>
    "UPDATE sessions SET push_token = NULL, push_platform = NULL, push_updated_utc = $3 " ++
      "WHERE push_token = $1 AND session_id <> $2"
  | attachPushToken .. =>
    "UPDATE sessions SET push_token = $2, push_platform = $3, push_updated_utc = $4 " ++
      "WHERE session_id = $1"
  | insertRefreshToken _ => insertInto "refresh_tokens" refreshTokenColumns
  | selectRefreshToken _ => selectFrom "refresh_tokens" refreshTokenColumns "token_hash_text = $1"
  | replaceRefreshToken .. =>
    "UPDATE refresh_tokens SET revoked_utc = $2, replaced_by_token_id = $3 " ++
      "WHERE token_id = $1 AND revoked_utc IS NULL AND replaced_by_token_id IS NULL"
  | revokeTokensOfSession .. =>
    "UPDATE refresh_tokens SET revoked_utc = $2 WHERE session_id = $1 AND revoked_utc IS NULL"
  | revokeTokensOfSessions .. =>
    "UPDATE refresh_tokens SET revoked_utc = $2 " ++
      "WHERE session_id = ANY($1) AND revoked_utc IS NULL"
  | insertAudit _ => insertInto "audit_events" auditColumns
  | selectAudit _ =>
    selectFrom "audit_events" auditColumns "target_user_id = $1 ORDER BY created_utc, event_id"
  | putJob .. =>
    "INSERT INTO jobs (job_id, job_type, payload, state_code, run_at_utc, attempts, " ++
      "max_attempts, created_utc, updated_utc) " ++
      "VALUES ($1, $2, $3, 'PENDING', $4, 0, $5, $6, $6) ON CONFLICT (job_id) DO UPDATE " ++
      "SET payload = EXCLUDED.payload, state_code = 'PENDING', " ++
      "run_at_utc = EXCLUDED.run_at_utc, attempts = 0, last_error = NULL, " ++
      "locked_until_utc = NULL, updated_utc = EXCLUDED.updated_utc"
  | claimJobs .. =>
    "UPDATE jobs SET state_code = 'RUNNING', locked_until_utc = $3, updated_utc = $2 " ++
      "WHERE job_id IN ( SELECT job_id FROM jobs WHERE job_type = $1 " ++
      "AND ((state_code = 'PENDING' AND run_at_utc <= $2) " ++
      "OR (state_code = 'RUNNING' AND locked_until_utc <= $2)) " ++
      "ORDER BY run_at_utc LIMIT $4 FOR UPDATE SKIP LOCKED ) RETURNING " ++ listing jobColumns
  | completeJob .. =>
    "UPDATE jobs SET state_code = 'COMPLETED', locked_until_utc = NULL, updated_utc = $2 " ++
      "WHERE job_id = $1 AND state_code = 'RUNNING'"
  | rescheduleJob .. =>
    "UPDATE jobs SET state_code = 'PENDING', run_at_utc = $2, locked_until_utc = NULL, " ++
      "updated_utc = $3 WHERE job_id = $1 AND state_code = 'RUNNING'"
  | failJob .. =>
    "UPDATE jobs SET attempts = attempts + 1, last_error = $2, state_code = CASE " ++
      "WHEN $3::timestamptz IS NULL OR attempts + 1 >= max_attempts THEN 'DEAD' " ++
      "ELSE 'PENDING' END, run_at_utc = COALESCE($3, run_at_utc), locked_until_utc = NULL, " ++
      "updated_utc = $4 WHERE job_id = $1 RETURNING state_code"
  | selectJob _ => selectFrom "jobs" jobColumns "job_id = $1"

def parameters : Statement → List SqlValue
  | ping | lockActiveAdmins => []
  | selectUser id _ => [toSql id]
  | selectUserByEmail email | selectUserIdByEmail email => [toSql email]
  | selectUserByIdentity provider subject | selectIdentityOwner provider subject =>
    [toSql provider, toSql subject]
  | insertUser u hash => [
    toSql u.id, toSql u.email, toSql hash, toSql u.displayName, toSql u.avatarUrl,
    toSql (code u.role), toSql (code u.status), toSql u.emailVerifiedAt,
    toSql u.deletionRequestedAt, toSql u.deletionScheduledFor, toSql u.deletionSession,
    toSql u.deletionTrace, toSql u.deletedAt, toSql u.createdAt, toSql u.updatedAt]
  | setPassword user hash now => [toSql user, toSql hash, toSql now]
  | exchangePassword user expected new now => [toSql user, toSql expected, toSql new, toSql now]
  | verifyEmail user now => [toSql user, toSql now]
  | setRole user role now => [toSql user, toSql (code role), toSql now]
  | setStatus user status now => [toSql user, toSql (code status), toSql now]
  | scheduleDeletion user actor scheduledFor now =>
    [toSql user, toSql now, toSql scheduledFor, toSql actor.session, toSql actor.trace]
  | unscheduleDeletion user now => [toSql user, toSql now]
  | scrubUser user now => [toSql user, toSql (Email.tombstone user), toSql now]
  | selectIdentityOfUser user provider => [toSql user, toSql provider]
  | insertIdentity i => [
    toSql i.id, toSql i.provider, toSql i.subject, toSql i.user, toSql i.emailSnapshot,
    toSql i.createdAt]
  | deleteIdentities user | deleteVerificationTokens user | deleteSessions user => [toSql user]
  | insertVerificationToken t => [
    toSql t.id, toSql t.user, toSql (code t.purpose), toSql t.hash, toSql t.expiresAt,
    toSql t.consumedAt, toSql t.createdAt]
  | selectVerificationToken hash purpose _ => [toSql hash, toSql (code purpose)]
  | consumeToken token now | consumeUnusedToken token now => [toSql token, toSql now]
  | consumeTokensOfUser user purpose now => [toSql user, toSql now, toSql (code purpose)]
  | insertSession s => [
    toSql s.id, toSql s.user, toSql s.deviceId, toSql s.deviceName, toSql s.platform,
    toSql s.activeKey, toSql (s.authMethods.map code), toSql s.ipAddress, toSql s.userAgent,
    toSql s.pushToken, toSql s.pushPlatform, toSql s.pushUpdatedAt, toSql s.expiresAt,
    toSql s.revokedAt, toSql (s.revokedReason.map code), toSql s.lastSeenAt, toSql s.createdAt]
  | selectSession id => [toSql id]
  | selectSessionOfUser id user | lockUnrevokedSession id user => [toSql id, toSql user]
  | lockSessionByKey activeKey => [toSql activeKey]
  | selectLiveSessions user now => [toSql user, toSql now]
  | touchSession id device now =>
    [toSql id, toSql now, toSql device.ipAddress, toSql device.userAgent]
  | revokeSession id reason now => [toSql id, toSql now, toSql (code reason)]
  | revokeSessionsOfUser user except reason now =>
    [toSql user, toSql now, toSql (code reason), toSql except]
  | detachPushToken token except now => [toSql token, toSql except, toSql now]
  | attachPushToken id token platform now => [toSql id, toSql token, toSql platform, toSql now]
  | insertRefreshToken t => [
    toSql t.id, toSql t.session, toSql t.hash, toSql t.expiresAt, toSql t.revokedAt,
    toSql t.replacedBy, toSql t.createdAt]
  | selectRefreshToken hash => [toSql hash]
  | replaceRefreshToken id new now => [toSql id, toSql now, toSql new]
  | revokeTokensOfSession session now => [toSql session, toSql now]
  | revokeTokensOfSessions sessions now => [toSql sessions, toSql now]
  | insertAudit e => [
    toSql e.id, toSql (code e.type), toSql e.actorUser, toSql e.actorSession, toSql e.target,
    toSql e.trace, toSql e.data, toSql e.createdAt]
  | selectAudit target => [toSql target]
  | putJob id type payload runAt maxAttempts now =>
    [toSql id, toSql type, toSql payload, toSql runAt, toSql maxAttempts, toSql now]
  | claimJobs type now until_ limit =>
    [toSql type, toSql now, toSql until_, toSql (limit : Int)]
  | completeJob id now => [toSql id, toSql now]
  | rescheduleJob id runAt now => [toSql id, toSql runAt, toSql now]
  | failJob id error retryAt now => [toSql id, toSql error, toSql retryAt, toSql now]
  | selectJob id => [toSql id]

end Statement

instance : SqlStatement Statement where
  sql := Statement.sql
  parameters := Statement.parameters

end AccountAuthority
