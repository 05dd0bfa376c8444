import AccountAuthority.Repository.Request

/-!
# Answers of the repository as JSON

What an operation answered, and the records that it returned.
-/

namespace AccountAuthority

/-- An outcome: its name, and what it says. -/
def outcome (name : String) (fields : List (String × Json) := []) : Json :=
  .obj (("outcome", .str name) :: fields)

/-- An outcome that names a user as callers are shown them. -/
def userOutcome (name : String) (user : User) : Json :=
  outcome name [("user", .obj user.view.fields)]

/-- A value or `null`. -/
def Json.ofOption {α : Type} (f : α → Json) : Option α → Json
  | some a => f a
  | none => .null

namespace RefreshToken

def record (t : RefreshToken) (now : Instant) : Json :=
  .obj ([("token_id", t.id.toJson), ("token_hash_text", .str t.hash)] ++ t.fields now)

end RefreshToken

def Session.record (s : Session) (now : Instant) : Json :=
  .obj (("session_id", s.id.toJson) :: s.fields now)

def User.record (u : User) : Json :=
  .obj (("user_id", u.id.toJson) :: u.fields)

def LoginRecord.toJson (r : LoginRecord) : Json :=
  .obj [("user", .obj r.user.view.fields), ("password_hash", .ofText? r.passwordHash)]

def LifecycleOutcome.toJson : LifecycleOutcome → Json
  | changed user => userOutcome "changed" user
  | unchanged user => userOutcome "unchanged" user
  | userNotFound => outcome "user_not_found"
  | userDeleted => outcome "user_deleted"
  | blockedLastAdmin => outcome "blocked_last_admin"

def DeletionRequestOutcome.toJson : DeletionRequestOutcome → Json
  | requested user => userOutcome "requested" user
  | alreadyRequested user => userOutcome "already_requested" user
  | userNotFound => outcome "user_not_found"
  | userDeleted => outcome "user_deleted"

def DeletionCancelOutcome.toJson : DeletionCancelOutcome → Json
  | cancelled user => userOutcome "cancelled" user
  | notRequested => outcome "not_requested"
  | userNotFound => outcome "user_not_found"
  | userDeleted => outcome "user_deleted"

def FinalizeOutcome.toJson : FinalizeOutcome → Json
  | finalized user sessions =>
    outcome "finalized" [("user", user.toJson), ("sessions_deleted", .int sessions)]
  | skipped reason => outcome "skipped" [("reason", .str (code reason))]
  | notDue scheduledFor => outcome "not_due" [("scheduled_for", scheduledFor.toJson)]
  | blockedLastAdmin => outcome "blocked_last_admin"

def RevokeOutcome.toJson : RevokeOutcome → Json
  | revoked session => outcome "revoked" [("session", session.toJson)]
  | alreadyRevoked => outcome "already_revoked"
  | notFound => outcome "not_found"

namespace RepositoryRequest

/-- What an operation answered. -/
def report (r : RepositoryRequest) (a : r.Answer) : Json :=
  match r, a with
  | ping, _ | storeVerificationToken _, _ => .null
  | createUser .., .created user => userOutcome "created" user
  | createUser .., .emailTaken => outcome "email_taken"
  | findLogin _, a | findCredentials _, a => .ofOption LoginRecord.toJson a
  | findUser _, a | findExternalUser .., a => .ofOption (fun (u : User) => .obj u.view.fields) a
  | createExternalUser .., .created user => userOutcome "created" user
  | createExternalUser .., .identityExists user => userOutcome "identity_exists" user
  | createExternalUser .., .emailTaken => outcome "email_taken"
  | linkIdentity _, .linked => outcome "linked"
  | linkIdentity _, .alreadyLinked => outcome "already_linked"
  | linkIdentity _, .identityLinkedToOtherUser => outcome "identity_linked_to_other_user"
  | linkIdentity _, .providerAlreadyLinked => outcome "provider_already_linked"
  | linkIdentity _, .userNotFound => outcome "user_not_found"
  | resetPassword .., .reset user revoked =>
    outcome "reset" [("user", user.toJson), ("revoked_sessions", .int revoked)]
  | resetPassword .., .invalidToken => outcome "invalid_token"
  | resetPassword .., .expired => outcome "expired"
  | resetPassword .., .userInactive => outcome "user_inactive"
  | verifyEmail .., .verified user => outcome "verified" [("user", user.toJson)]
  | verifyEmail .., .alreadyVerified user => outcome "already_verified" [("user", user.toJson)]
  | verifyEmail .., .invalidToken => outcome "invalid_token"
  | verifyEmail .., .expired => outcome "expired"
  | changePassword .., .changed revoked => outcome "changed" [("revoked_sessions", .int revoked)]
  | changePassword .., .credentialChanged => outcome "credential_changed"
  | changePassword .., .userNotFound => outcome "user_not_found"
  | createSession .., a =>
    .obj [("session", a.session.id.toJson), ("token", a.token.id.toJson),
      ("replaced", Uuid.optionToJson a.replaced)]
  | findRefreshContext _, a =>
    .ofOption (fun (x : RefreshContext) => .obj [("token", x.token.id.toJson),
      ("session", x.session.id.toJson), ("user", x.user.id.toJson)]) a
  | rotate _, .rotated session token =>
    outcome "rotated" [("session", session.id.toJson), ("token", token.id.toJson),
      ("expiry_utc", token.expiresAt.toJson)]
  | rotate _, .notFound => outcome "not_found"
  | rotate _, .expired => outcome "expired"
  | rotate _, .sessionRevoked reason =>
    outcome "session_revoked" [("reason", .ofText? (reason.map code))]
  | rotate _, .revokedOrReused session =>
    outcome "revoked_or_reused" [("session", session.toJson)]
  | revokeByToken .., a | revokeSession .., a | revokeDevice .., a => a.toJson
  | listSessions .., a => .arr (a.map fun s => s.id.toJson)
  | setPushToken .., .updated => outcome "updated"
  | setPushToken .., .sessionNotFound => outcome "session_not_found"
  | changeRole .., a | changeStatus .., a => a.toJson
  | requestDeletion .., a => a.toJson
  | cancelDeletion .., a => a.toJson
  | finalizeDeletion .., a => a.toJson
  | listAudit _, a => .arr (a.map fun e => .obj e.fields)

/-- The records that an operation returned, in full. -/
def records (r : RepositoryRequest) (a : r.Answer) (now : Instant) : List Json :=
  match r, a with
  | createUser .., .created user => [user.record]
  | findLogin _, some r | findCredentials _, some r => [r.user.record]
  | findUser _, some user | findExternalUser .., some user => [user.record]
  | createExternalUser .., .created user | createExternalUser .., .identityExists user =>
    [user.record]
  | createSession .., a => [a.session.record now, a.token.record now]
  | findRefreshContext _, some x => [x.token.record now, x.session.record now, x.user.record]
  | rotate _, .rotated session token => [session.record now, token.record now]
  | listSessions .., a => a.map fun s => s.record now
  | changeRole .., .changed user | changeRole .., .unchanged user
  | changeStatus .., .changed user | changeStatus .., .unchanged user
  | requestDeletion .., .requested user | requestDeletion .., .alreadyRequested user
  | cancelDeletion .., .cancelled user => [user.record]
  | listAudit _, a => a.map AuditEvent.record
  | _, _ => []

end RepositoryRequest

end AccountAuthority
