import AccountAuthority.Account.Audit
import AccountAuthority.Session.RefreshToken

/-!
# Outcomes of repository operations

What the operations answer.  Every expected refusal is an outcome; only failures of the storage
are errors.
-/

namespace AccountAuthority

/-- A user and the stored password hash, for a check of credentials. -/
structure LoginRecord where
  user : User
  passwordHash : Option String
  deriving DecidableEq, Repr

inductive CreateUserOutcome where
  | created (user : User)
  | emailTaken
  deriving DecidableEq, Repr

inductive CreateExternalUserOutcome where
  | created (user : User)
  /-- The identity has been bound before. -/
  | identityExists (user : User)
  | emailTaken
  deriving DecidableEq, Repr

inductive LinkOutcome where
  | linked
  | alreadyLinked
  | identityLinkedToOtherUser
  | providerAlreadyLinked
  | userNotFound
  deriving DecidableEq, Repr

structure CreatedSession where
  session : Session
  token : RefreshToken
  /-- The live session that the device had before, now revoked. -/
  replaced : Option SessionId
  deriving DecidableEq, Repr

/-- All that a refresh has to look at. -/
structure RefreshContext where
  token : RefreshToken
  session : Session
  user : User
  deriving DecidableEq, Repr

inductive RotateOutcome where
  | rotated (session : Session) (token : RefreshToken)
  | notFound
  | expired
  | sessionRevoked (reason : Option RevocationReason)
  /-- The token was not the head of its chain, and the session has been revoked. -/
  | revokedOrReused (session : SessionId)
  deriving DecidableEq, Repr

inductive RevokeOutcome where
  | revoked (session : SessionId)
  | alreadyRevoked
  | notFound
  deriving DecidableEq, Repr

inductive ChangePasswordOutcome where
  | changed (revokedSessions : Nat)
  /-- The stored hash is not the one that the caller has checked. -/
  | credentialChanged
  | userNotFound
  deriving DecidableEq, Repr

inductive ResetPasswordOutcome where
  | reset (user : UserId) (revokedSessions : Nat)
  | invalidToken
  | expired
  | userInactive
  deriving DecidableEq, Repr

inductive VerifyEmailOutcome where
  | verified (user : UserId)
  | alreadyVerified (user : UserId)
  | invalidToken
  | expired
  deriving DecidableEq, Repr

inductive PushTokenOutcome where
  | updated
  | sessionNotFound
  deriving DecidableEq, Repr

inductive LifecycleOutcome where
  | changed (user : User)
  | unchanged (user : User)
  | userNotFound
  | userDeleted
  | blockedLastAdmin
  deriving DecidableEq, Repr

inductive DeletionRequestOutcome where
  | requested (user : User)
  | alreadyRequested (user : User)
  | userNotFound
  | userDeleted
  deriving DecidableEq, Repr

inductive DeletionCancelOutcome where
  | cancelled (user : User)
  | notRequested
  | userNotFound
  | userDeleted
  deriving DecidableEq, Repr

/-- Why there was nothing to delete. -/
inductive SkipReason where
  | userNotFound
  | alreadyDeleted
  | notScheduled
  deriving DecidableEq, Repr

instance : Coded SkipReason where
  values := [.userNotFound, .alreadyDeleted, .notScheduled]
  code
    | .userNotFound => "user_not_found"
    | .alreadyDeleted => "already_deleted"
    | .notScheduled => "not_scheduled"
  noun := "skip reason"

inductive FinalizeOutcome where
  | finalized (user : UserId) (sessionsDeleted : Nat)
  | skipped (reason : SkipReason)
  | notDue (scheduledFor : Instant)
  | blockedLastAdmin
  deriving DecidableEq, Repr

end AccountAuthority
