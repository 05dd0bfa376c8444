import AccountAuthority.Repository.Request
import AccountAuthority.Store.Basic

/-!
# Sessions and refresh tokens in the store

Opening and revoking sessions, replacing refresh tokens, and the push tokens of devices.
-/

namespace AccountAuthority.Store

/-- Open a session with its first refresh token.  The live session that holds the same active key
is revoked first. -/
def createSession (s : Store) (session : Session) (token : RefreshToken) (now : Instant) :
    CreatedSession × Store :=
  let replaced := session.activeKey.bind fun k => (s.sessionByKey? k).map Session.id
  let s := match replaced with
    | some old => (s.revoke old .deviceReplaced now).2
    | none => s
  (⟨session, token, replaced⟩,
    { s with sessions := s.sessions.insert session, tokens := s.tokens.insert token })

/-- The refresh token with a hash, its session and the user of the session. -/
def findRefreshContext (s : Store) (tokenHash : String) : Option RefreshContext := do
  let token ← s.tokenByHash? tokenHash
  let session ← s.sessions.get? token.session
  let user ← s.users.get? session.user
  some ⟨token, session, user⟩

/-- Mark a refresh token as used and replaced by another. -/
def replaceToken (s : Store) (old new : TokenId) (now : Instant) : Store :=
  { s with
    tokens := s.tokens.update old
      (fun t => { t with revokedAt := some now, replacedBy := some new }) (fun _ => rfl) }

/-- Replace a refresh token by a new one, which gets the identifier `newId`.  A token that is not
the head of its chain costs the session. -/
def rotate (s : Store) (r : Rotation) (newId : TokenId) : RotateOutcome × Store :=
  match s.tokenByHash? r.tokenHash with
  | none => (.notFound, s)
  | some token =>
    match s.sessions.get? token.session with
    | none => (.notFound, s)
    | some session =>
      if session.isRevoked then (.sessionRevoked session.revokedReason, s)
      else if token.isExpired r.now ∨ session.isExpired r.now then (.expired, s)
      else if ¬token.isChainHead then
        (.revokedOrReused session.id, (s.revoke session.id .tokenReuse r.now).2)
      else
        let new : RefreshToken :=
          { id := newId, session := session.id, hash := r.newTokenHash,
            expiresAt := RefreshToken.expiry session.expiresAt r.ttl r.now, createdAt := r.now }
        let s := s.replaceToken token.id newId r.now
        (.rotated (session.touch r.device r.now) new,
          { s with
            tokens := s.tokens.insert new
            sessions := s.sessions.update session.id (fun x => x.touch r.device r.now)
              (fun _ => rfl) })

/-- Revoke a session that is known to exist, and say whether it was live. -/
def revokeFound (s : Store) (session : SessionId) (reason : RevocationReason) (now : Instant) :
    RevokeOutcome × Store :=
  match s.revoke session reason now with
  | (true, s) => (.revoked session, s)
  | (false, s) => (.alreadyRevoked, s)

def revokeByToken (s : Store) (tokenHash : String) (reason : RevocationReason) (now : Instant) :
    RevokeOutcome × Store :=
  match s.tokenByHash? tokenHash with
  | none => (.notFound, s)
  | some token => s.revokeFound token.session reason now

def revokeSession (s : Store) (user : UserId) (session : SessionId) (reason : RevocationReason)
    (now : Instant) : RevokeOutcome × Store :=
  match s.sessions.get? session with
  | none => (.notFound, s)
  | some x => if x.user = user then s.revokeFound session reason now else (.notFound, s)

/-- Revoke the session that holds the active key of a user and device. -/
def revokeDevice (s : Store) (user : UserId) (device : String) (reason : RevocationReason)
    (now : Instant) : RevokeOutcome × Store :=
  match (activeKey user (some device)).bind s.sessionByKey? with
  | none => (.notFound, s)
  | some session => (.revoked session.id, (s.revoke session.id reason now).2)

/-- The live sessions of a user, the last seen first. -/
def listSessions (s : Store) (user : UserId) (now : Instant) : List Session :=
  (s.sessions.rows.filter fun x => x.user = user && x.isLive now).mergeSort
    fun a b => b.lastSeenAt ≤ a.lastSeenAt

/-- Take a push token away from all sessions but one. -/
def detachPushToken (s : Store) (session : SessionId) (token : String) (now : Instant) : Store :=
  { s with
    sessions := s.sessions.map
      (fun x =>
        if x.id ≠ session ∧ x.pushToken = some token then
          { x with pushToken := none, pushPlatform := none, pushUpdatedAt := some now }
        else x)
      (by intro x; split <;> rfl) }

/-- Give a push token to an unrevoked session of a user; no other session keeps it. -/
def setPushToken (s : Store) (user : UserId) (session : SessionId) (token : String)
    (platform : Option String) (now : Instant) : PushTokenOutcome × Store :=
  match s.sessions.get? session with
  | none => (.sessionNotFound, s)
  | some x =>
    if x.user = user ∧ ¬x.isRevoked then
      let s := s.detachPushToken session token now
      (.updated,
        { s with
          sessions := s.sessions.update session
            (fun x => { x with
              pushToken := some token, pushPlatform := platform, pushUpdatedAt := some now })
            (fun _ => rfl) })
    else (.sessionNotFound, s)

end AccountAuthority.Store
