import AccountAuthority.Session.Basic

/-!
# Refresh tokens

The tokens of a session form a chain: each is replaced by the next when it is used, and only the
last, the head of the chain, can be used.  Of a token only a keyed hash is kept.
-/

namespace AccountAuthority

abbrev TokenId := Uuid

/-- A link of the chain of a session. -/
structure RefreshToken where
  id : TokenId
  session : SessionId
  hash : String
  expiresAt : Instant
  revokedAt : Option Instant := none
  replacedBy : Option TokenId := none
  createdAt : Instant
  deriving DecidableEq, Repr

instance : Keyed RefreshToken TokenId := ⟨RefreshToken.id⟩

namespace RefreshToken

/-- Whether the token is the head of its chain: neither revoked nor replaced. -/
def isChainHead (t : RefreshToken) : Bool :=
  t.revokedAt.isNone && t.replacedBy.isNone

/-- Whether the token has run out; its expiry is the first such instant. -/
def isExpired (t : RefreshToken) (now : Instant) : Bool :=
  t.expiresAt ≤ now

/-- The expiry of a token issued at `now`: its time to live, but not beyond the session. -/
def expiry (sessionExpiry : Instant) (ttl : Span) (now : Instant) : Instant :=
  Instant.min (now + ttl) sessionExpiry

def fields (t : RefreshToken) (now : Instant) : List (String × Json) := [
  ("session", t.session.toJson),
  ("expiry_utc", t.expiresAt.toJson),
  ("revoked_utc", Instant.optionToJson t.revokedAt),
  ("replaced_by", Uuid.optionToJson t.replacedBy),
  ("created_utc", t.createdAt.toJson),
  ("chain_head", .bool t.isChainHead),
  ("expired", .bool (t.isExpired now))]

end RefreshToken

end AccountAuthority
