import AccountAuthority.Account.ExternalIdentity
import AccountAuthority.Account.VerificationToken
import AccountAuthority.Program
import AccountAuthority.Repository.Error
import AccountAuthority.Repository.Outcome

/-!
# Requests to the repository

The operations on users, sessions, refresh tokens and the audit trail as data, with the type of
the answer of each.  Every operation is one transaction.  An operation that has to do with time is
told what time it is.
-/

namespace AccountAuthority

/-- What is asked for when a refresh token is replaced. -/
structure Rotation where
  tokenHash : String
  newTokenHash : String
  ttl : Span
  device : Device
  now : Instant
  deriving DecidableEq, Repr

/-- The operations of the repository. -/
inductive RepositoryRequest where
  | ping
  | createUser (user : User) (passwordHash : String)
  | findLogin (email : String)
  | findCredentials (user : UserId)
  | findUser (user : UserId)
  | findExternalUser (provider subject : String)
  | createExternalUser (user : User) (identity : ExternalIdentity)
  | linkIdentity (identity : ExternalIdentity)
  | storeVerificationToken (token : VerificationToken)
  | resetPassword (tokenHash newHash : String) (now : Instant)
  | verifyEmail (tokenHash : String) (now : Instant)
  | changePassword (user : UserId) (expectedHash newHash : String) (keep : Option SessionId)
      (now : Instant)
  | createSession (session : Session) (token : RefreshToken) (now : Instant)
  | findRefreshContext (tokenHash : String)
  | rotate (rotation : Rotation)
  | revokeByToken (tokenHash : String) (reason : RevocationReason) (now : Instant)
  | revokeSession (user : UserId) (session : SessionId) (reason : RevocationReason) (now : Instant)
  | revokeDevice (user : UserId) (device : String) (reason : RevocationReason) (now : Instant)
  | listSessions (user : UserId) (now : Instant)
  | setPushToken (user : UserId) (session : SessionId) (token : String) (platform : Option String)
      (now : Instant)
  | changeRole (actor : Actor) (target : UserId) (role : Role) (now : Instant)
  | changeStatus (actor : Actor) (target : UserId) (status : Status) (reason : Option String)
      (now : Instant)
  | requestDeletion (actor : Actor) (target : UserId) (scheduledFor now : Instant)
  | cancelDeletion (actor : Actor) (target : UserId) (now : Instant)
  | finalizeDeletion (user : UserId) (trace : Option String) (now : Instant)
  | listAudit (target : UserId)
  deriving DecidableEq, Repr

namespace RepositoryRequest

@[reducible] def Answer : RepositoryRequest → Type
  | ping | storeVerificationToken .. => Unit
  | createUser .. => CreateUserOutcome
  | findLogin _ | findCredentials _ => Option LoginRecord
  | findUser _ | findExternalUser .. => Option User
  | createExternalUser .. => CreateExternalUserOutcome
  | linkIdentity _ => LinkOutcome
  | resetPassword .. => ResetPasswordOutcome
  | verifyEmail .. => VerifyEmailOutcome
  | changePassword .. => ChangePasswordOutcome
  | createSession .. => CreatedSession
  | findRefreshContext _ => Option RefreshContext
  | rotate _ => RotateOutcome
  | revokeByToken .. | revokeSession .. | revokeDevice .. => RevokeOutcome
  | listSessions .. => List Session
  | setPushToken .. => PushTokenOutcome
  | changeRole .. | changeStatus .. => LifecycleOutcome
  | requestDeletion .. => DeletionRequestOutcome
  | cancelDeletion .. => DeletionCancelOutcome
  | finalizeDeletion .. => FinalizeOutcome
  | listAudit _ => List AuditEvent

def name : RepositoryRequest → String
  | ping => "ping"
  | createUser .. => "create_user_with_password"
  | findLogin _ => "find_user_for_login"
  | findCredentials _ => "find_credentials"
  | findUser _ => "find_user_by_id"
  | findExternalUser .. => "find_user_by_external_identity"
  | createExternalUser .. => "create_user_with_external_identity"
  | linkIdentity _ => "link_external_identity_to_user"
  | storeVerificationToken _ => "store_verification_token"
  | resetPassword .. => "reset_password_by_token_hash"
  | verifyEmail .. => "verify_email_by_token_hash"
  | changePassword .. => "change_password_and_revoke_other_sessions"
  | createSession .. => "create_session"
  | findRefreshContext _ => "find_refresh_context"
  | rotate _ => "rotate_refresh_token"
  | revokeByToken .. => "revoke_session_by_refresh_token_hash"
  | revokeSession .. => "revoke_session"
  | revokeDevice .. => "revoke_active_session_for_device"
  | listSessions .. => "list_active_sessions"
  | setPushToken .. => "upsert_session_push_token"
  | changeRole .. => "change_user_role"
  | changeStatus .. => "change_user_status"
  | requestDeletion .. => "request_account_deletion"
  | cancelDeletion .. => "cancel_account_deletion"
  | finalizeDeletion .. => "finalize_account_deletion"
  | listAudit _ => "list_audit_events"

end RepositoryRequest

end AccountAuthority
