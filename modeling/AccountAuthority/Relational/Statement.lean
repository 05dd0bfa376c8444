import AccountAuthority.Repository.Request

/-!
# The statements of the relational repository

Every statement that is sent for the sake of accounts, sessions and jobs, with what it is about.
-/

namespace AccountAuthority

inductive Statement where
  | ping
  -- Users
  | selectUser (id : UserId) (lock : Bool)
  | selectUserByEmail (email : String)
  | selectUserByIdentity (provider subject : String)
  | selectUserIdByEmail (email : String)
  /-- Lock all active administrators, always in the same order. -/
  | lockActiveAdmins
  | insertUser (user : User) (passwordHash : Option String)
  | setPassword (user : UserId) (hash : String) (now : Instant)
  /-- Set the password of a user whose password is the expected one. -/
  | exchangePassword (user : UserId) (expected new : String) (now : Instant)
  | verifyEmail (user : UserId) (now : Instant)
  | setRole (user : UserId) (role : Role) (now : Instant)
  | setStatus (user : UserId) (status : Status) (now : Instant)
  | scheduleDeletion (user : UserId) (actor : Actor) (scheduledFor now : Instant)
  | unscheduleDeletion (user : UserId) (now : Instant)
  | scrubUser (user : UserId) (now : Instant)
  -- External identities
  | selectIdentityOwner (provider subject : String)
  | selectIdentityOfUser (user : UserId) (provider : String)
  | insertIdentity (identity : ExternalIdentity)
  | deleteIdentities (user : UserId)
  -- Verification tokens
  | insertVerificationToken (token : VerificationToken)
  | selectVerificationToken (hash : String) (purpose : TokenPurpose) (lock : Bool)
  | consumeToken (token : Uuid) (now : Instant)
  /-- Consume a token that has not been consumed. -/
  | consumeUnusedToken (token : Uuid) (now : Instant)
  | consumeTokensOfUser (user : UserId) (purpose : TokenPurpose) (now : Instant)
  | deleteVerificationTokens (user : UserId)
  -- Sessions
  | insertSession (session : Session)
  | selectSession (id : SessionId)
  | selectSessionOfUser (id : SessionId) (user : UserId)
  | lockSessionByKey (activeKey : String)
  | lockUnrevokedSession (id : SessionId) (user : UserId)
  | selectLiveSessions (user : UserId) (now : Instant)
  | touchSession (id : SessionId) (device : Device) (now : Instant)
  | revokeSession (id : SessionId) (reason : RevocationReason) (now : Instant)
  | revokeSessionsOfUser (user : UserId) (except : Option SessionId) (reason : RevocationReason)
      (now : Instant)
  | deleteSessions (user : UserId)
  | detachPushToken (token : String) (except : SessionId) (now : Instant)
  | attachPushToken (id : SessionId) (token : String) (platform : Option String) (now : Instant)
  -- Refresh tokens
  | insertRefreshToken (token : RefreshToken)
  | selectRefreshToken (hash : String)
  /-- Replace a token that is the head of its chain. -/
  | replaceRefreshToken (id new : TokenId) (now : Instant)
  | revokeTokensOfSession (session : SessionId) (now : Instant)
  | revokeTokensOfSessions (sessions : List SessionId) (now : Instant)
  -- The audit trail
  | insertAudit (event : AuditEvent)
  | selectAudit (target : UserId)
  -- Jobs
  | putJob (id type : String) (payload : Json) (runAt : Instant) (maxAttempts : Int)
      (now : Instant)
  | claimJobs (type : String) (now until_ : Instant) (limit : Nat)
  | completeJob (id : String) (now : Instant)
  | rescheduleJob (id : String) (runAt now : Instant)
  | failJob (id error : String) (retryAt : Option Instant) (now : Instant)
  | selectJob (id : String)
  deriving Repr

end AccountAuthority
