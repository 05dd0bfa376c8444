import AccountAuthority.Service.Backend

/-!
# Sessions and refresh

A session is opened with a refresh token, and each refresh replaces the token.  A token that has
been replaced and is presented again costs the session, since one of the two who present it has
stolen it.
-/

namespace AccountAuthority

/-- What a client is given when it has proved who its user is. -/
structure Grant where
  user : UserView
  session : SessionId
  accessToken : String
  refreshToken : String
  tokenType : String := "Bearer"
  expiresIn : Int
  deriving DecidableEq, Repr

/-- When a session that is opened at `now` runs out. -/
def Session.expiry (ttl : Span) (now : Instant) : Instant :=
  now + ttl

namespace Service

variable (c : ServiceSettings)

/-- Sign an access token for a session of a user. -/
def signFor (user : User) (session : SessionId) : Service String := do
  let request : AccessRequest := {
    user := user.id
    session := session
    emailVerified := user.emailVerified
    roles := [code user.role]
    ttlSeconds := c.accessTtlSeconds }
  match ← ask (.signAccess request) with
  | .ok token => pure token
  | .error text => throw (.internal text)

def grant (user : User) (session : SessionId) (accessToken refreshToken : String) : Grant where
  user := user.view
  session := session
  accessToken := accessToken
  refreshToken := refreshToken
  expiresIn := c.accessTtlSeconds

/-- Open a session for a user.  The access token is signed before anything is stored. -/
def issue (user : User) (methods : List AuthMethod) (device : Device) : Service Grant := do
  let now ← now
  let session := Session.create (← freshId) user.id methods device
    (Session.expiry c.sessionTtl now) now
  let accessToken ← signFor c user session.id
  let raw ← freshToken
  let token : RefreshToken := {
    id := ← freshId
    session := session.id
    hash := c.tokenHash raw
    expiresAt := RefreshToken.expiry session.expiresAt c.refreshTtl now
    createdAt := now }
  let created ← repository (.createSession session token now)
  pure (grant c user created.session.id accessToken raw)

/-- The error for a session that has been revoked for a reason. -/
def revokedError (reason : Option RevocationReason) : ServiceError :=
  if reason = some .tokenReuse then .refreshTokenReused else .sessionRevoked

/-- Why the holder of a refresh token may not go on, as far as the records show; reuse of a token
apart. -/
def refreshRefusal (ctx : RefreshContext) (now : Instant) : Option ServiceError :=
  match ctx.user.status with
  | .deleted => some .refreshTokenInvalid
  | .suspended => some .userSuspended
  | .active =>
    if ctx.session.isRevoked then
      if ctx.session.revokedReason = some .tokenReuse ∧ ctx.token.replacedBy.isSome then
        some .refreshTokenReused
      else some .sessionRevoked
    else if ctx.token.isExpired now ∨ ctx.session.isExpired now then some .refreshTokenExpired
    else none

/-- Replace a refresh token.  The access token is signed first, so that a failure to sign does not
use up the refresh token. -/
def refresh (rawToken : String) (device : Device) : Service Grant := do
  let now ← now
  let tokenHash := c.tokenHash rawToken
  match ← repository (.findRefreshContext tokenHash) with
  | none => throw .refreshTokenInvalid
  | some ctx =>
    match refreshRefusal ctx now with
    | some e => throw e
    | none =>
      if ¬ctx.token.isChainHead then
        let _ ← repository (.revokeSession ctx.user.id ctx.session.id .tokenReuse (← Service.now))
        throw .refreshTokenReused
      else
        let accessToken ← signFor c ctx.user ctx.session.id
        let raw ← freshToken
        match ← repository (.rotate ⟨tokenHash, c.tokenHash raw, c.refreshTtl, device, now⟩) with
        | .rotated session _ => pure (grant c ctx.user session.id accessToken raw)
        | .notFound => throw .refreshTokenInvalid
        | .expired => throw .refreshTokenExpired
        | .sessionRevoked reason => throw (revokedError reason)
        | .revokedOrReused _ => throw .refreshTokenReused

/-- Close the session of a refresh token. -/
def logout (rawToken : String) : Service Unit := do
  match ← repository (.revokeByToken (c.tokenHash rawToken) .logout (← now)) with
  | .revoked _ => pure ()
  | .alreadyRevoked | .notFound => throw .refreshTokenInvalid

/-- Close a session of a user; it may be closed already. -/
def revokeSession (user : UserId) (session : SessionId) : Service Unit := do
  match ← repository (.revokeSession user session .userRevoked (← now)) with
  | .revoked _ | .alreadyRevoked => pure ()
  | .notFound => throw .sessionNotFound

/-- Close the live session of a user on a device, and say whether there was one. -/
def revokeDevice (user : UserId) (device : String) : Service Bool := do
  match ← repository (.revokeDevice user device .userRevoked (← now)) with
  | .revoked _ => pure true
  | .alreadyRevoked | .notFound => pure false

/-- The live sessions of a user, as seen from the session `current`. -/
def listSessions (user : UserId) (current : Option SessionId) : Service (List SessionInfo) := do
  let sessions ← repository (.listSessions user (← now))
  pure (sessions.map fun s => SessionInfo.ofSession s current)

def registerPushToken (user : UserId) (session : SessionId) (token : String)
    (platform : Option String) : Service Unit := do
  let token := Text.trim token
  if token = "" then throw (.validation "Push token must not be empty")
  match ← repository (.setPushToken user session token platform (← now)) with
  | .updated => pure ()
  | .sessionNotFound => throw .sessionNotFound

end Service

end AccountAuthority
