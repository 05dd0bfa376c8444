import AccountAuthority.Relational.Accounts

/-!
# Sessions in the database

The units of work on sessions, refresh tokens and push tokens.
-/

namespace AccountAuthority.Relational

/-- Revoke an unrevoked session with its tokens; the answer says whether it was one. -/
def revoke (session : SessionId) (reason : RevocationReason) (now : Instant) : Relational Bool := do
  if (← Sql.affected (.revokeSession session reason now)) = 0 then pure false
  else
    send (.revokeTokensOfSession session now)
    pure true

/-- Revoke the session that holds an active key. -/
def replaceSession (activeKey : Option String) (now : Instant) : Relational (Option SessionId) := do
  match activeKey with
  | none => pure none
  | some key =>
    match ← findId (.lockSessionByKey key) with
    | none => pure none
    | some old =>
      let _ ← revoke old .deviceReplaced now
      pure (some old)

/-- Open a session with its first refresh token. -/
def createSession (session : Session) (token : RefreshToken) (now : Instant) :
    Relational CreatedSession := do
  let replaced ← replaceSession session.activeKey now
  send (.insertSession session)
  send (.insertRefreshToken token)
  pure ⟨session, token, replaced⟩

def findSession (id : SessionId) : Relational (Option Session) := do
  let row ← Sql.fetchOptional (.selectSession id) SessionRow.read
  Sql.ofExcept (row.mapM SessionRow.toSession)

def findRefreshToken (hash : String) : Relational (Option RefreshToken) :=
  Sql.fetchOptional (.selectRefreshToken hash) RefreshToken.read

/-- The refresh token with a hash, its session and the user of the session. -/
def findRefreshContext (hash : String) : Relational (Option RefreshContext) := do
  match ← findRefreshToken hash with
  | none => pure none
  | some token =>
    match ← findSession token.session with
    | none => pure none
    | some session =>
      match ← findUserRow session.user false with
      | none => pure none
      | some row => pure (some ⟨token, session, ← userOf row⟩)

/-- Replace a refresh token by a new one.  A token that is not the head of its chain, or is no
longer when it is to be replaced, has been used before. -/
def rotate (r : Rotation) : Relational RotateOutcome := do
  match ← findRefreshToken r.tokenHash with
  | none => pure .notFound
  | some token =>
    match ← findSession token.session with
    | none => pure .notFound
    | some session =>
      if session.isRevoked then pure (.sessionRevoked session.revokedReason)
      else if token.isExpired r.now ∨ session.isExpired r.now then pure .expired
      else if ¬token.isChainHead then pure (.revokedOrReused session.id)
      else
        let new : RefreshToken := {
          id := ← Sql.freshId
          session := session.id
          hash := r.newTokenHash
          expiresAt := RefreshToken.expiry session.expiresAt r.ttl r.now
          createdAt := r.now }
        if (← Sql.affected (.replaceRefreshToken token.id new.id r.now)) = 0 then
          pure (.revokedOrReused session.id)
        else
          send (.insertRefreshToken new)
          let row ← Sql.fetchOne (.touchSession session.id r.device r.now) SessionRow.read
          pure (.rotated (← Sql.ofExcept row.toSession) new)

/-- Revoke a session that is known to exist, and say whether it was live. -/
def revokeFound (session : SessionId) (reason : RevocationReason) (now : Instant) :
    Relational RevokeOutcome := do
  pure (if ← revoke session reason now then .revoked session else .alreadyRevoked)

def revokeByToken (hash : String) (reason : RevocationReason) (now : Instant) :
    Relational RevokeOutcome := do
  match ← findRefreshToken hash with
  | none => pure .notFound
  | some token => revokeFound token.session reason now

def revokeSession (user : UserId) (session : SessionId) (reason : RevocationReason)
    (now : Instant) : Relational RevokeOutcome := do
  match ← findId (.selectSessionOfUser session user) with
  | none => pure .notFound
  | some _ => revokeFound session reason now

/-- Revoke the session that holds an active key. -/
def revokeByKey (activeKey : String) (reason : RevocationReason) (now : Instant) :
    Relational RevokeOutcome := do
  match ← findId (.lockSessionByKey activeKey) with
  | none => pure .notFound
  | some session =>
    let _ ← revoke session reason now
    pure (.revoked session)

/-- The live sessions of a user, in the order of their rows. -/
def listSessions (user : UserId) (now : Instant) : Relational (List Session) := do
  let rows ← Sql.fetchAll (.selectLiveSessions user now) SessionRow.read
  Sql.ofExcept (rows.mapM SessionRow.toSession)

/-- Give a push token to an unrevoked session of a user; no other session keeps it. -/
def setPushToken (user : UserId) (session : SessionId) (token : String)
    (platform : Option String) (now : Instant) : Relational PushTokenOutcome := do
  match ← findId (.lockUnrevokedSession session user) with
  | none => pure .sessionNotFound
  | some _ =>
    send (.detachPushToken token session now)
    send (.attachPushToken session token platform now)
    pure .updated

end AccountAuthority.Relational
