import AccountAuthority.Account.User

/-!
# Sessions

A session is one device that is logged in.  While it is live it may hold the active key of its
user and device, which no other live session has, and the push token of the device.
-/

namespace AccountAuthority

/-- How the user proved who they are. -/
inductive AuthMethod where
  | password
  | oidc
  deriving DecidableEq, Repr

instance : Coded AuthMethod where
  values := [.password, .oidc]
  code
    | .password => "password"
    | .oidc => "oidc"
  noun := "auth method"

inductive RevocationReason where
  | logout
  | userRevoked
  | deviceReplaced
  | passwordChanged
  | passwordReset
  | tokenReuse
  | userSuspended
  deriving DecidableEq, Repr

instance : Coded RevocationReason where
  values := [.logout, .userRevoked, .deviceReplaced, .passwordChanged, .passwordReset,
    .tokenReuse, .userSuspended]
  code
    | .logout => "LOGOUT"
    | .userRevoked => "USER_REVOKED"
    | .deviceReplaced => "DEVICE_REPLACED"
    | .passwordChanged => "PASSWORD_CHANGED"
    | .passwordReset => "PASSWORD_RESET"
    | .tokenReuse => "TOKEN_REUSE"
    | .userSuspended => "USER_SUSPENDED"
  noun := "revocation reason"

/-- What a client says about its device. -/
structure Device where
  id : Option String := none
  name : Option String := none
  platform : Option String := none
  ipAddress : Option String := none
  userAgent : Option String := none
  deriving DecidableEq, Repr

namespace Device

/-- The names of the fields of a device, in their order. -/
def fieldNames : List String := ["device_id", "device_name", "platform", "ip_address", "user_agent"]

/-- The device that a JSON record describes; every field may be missing. -/
def ofJson? (j : Json) : Option Device := do
  match ← (← j.members? fieldNames).mapM (Json.optional? Json.text?) with
  | [id, name, platform, ipAddress, userAgent] => some ⟨id, name, platform, ipAddress, userAgent⟩
  | _ => none

def fields (d : Device) : List (String × Json) :=
  fieldNames.zip ([d.id, d.name, d.platform, d.ipAddress, d.userAgent].map Json.ofText?)

end Device

/-- The key that a live session of a user and device holds; there is none when the device has no
name of its own. -/
def activeKey (user : UserId) (device : Option String) : Option String :=
  match device.map Text.trim with
  | none | some "" => none
  | some d => some (toString user ++ ":" ++ d)

/-- A device that is logged in. -/
structure Session where
  id : SessionId
  user : UserId
  deviceId : Option String
  deviceName : Option String
  platform : Option String
  activeKey : Option String
  authMethods : List AuthMethod
  ipAddress : Option String
  userAgent : Option String
  pushToken : Option String := none
  pushPlatform : Option String := none
  pushUpdatedAt : Option Instant := none
  expiresAt : Instant
  revokedAt : Option Instant := none
  revokedReason : Option RevocationReason := none
  lastSeenAt : Instant
  createdAt : Instant
  deriving DecidableEq, Repr

instance : Keyed Session SessionId := ⟨Session.id⟩

namespace Session

/-- A new live session on a device. -/
def create (id : SessionId) (user : UserId) (authMethods : List AuthMethod) (device : Device)
    (expiresAt now : Instant) : Session where
  id := id
  user := user
  deviceId := device.id
  deviceName := device.name
  platform := device.platform
  activeKey := AccountAuthority.activeKey user device.id
  authMethods := authMethods
  ipAddress := device.ipAddress
  userAgent := device.userAgent
  expiresAt := expiresAt
  lastSeenAt := now
  createdAt := now

def isRevoked (s : Session) : Bool :=
  s.revokedAt.isSome

/-- Whether the session has run out; its expiry is the first such instant. -/
def isExpired (s : Session) (now : Instant) : Bool :=
  s.expiresAt ≤ now

/-- Whether the session can be used. -/
def isLive (s : Session) (now : Instant) : Bool :=
  !s.isRevoked && !s.isExpired now

def revoke (s : Session) (reason : RevocationReason) (now : Instant) : Session :=
  { s with revokedAt := some now, revokedReason := some reason, activeKey := none }

/-- The session after a refresh from a device. -/
def touch (s : Session) (device : Device) (now : Instant) : Session :=
  { s with
    lastSeenAt := now
    ipAddress := device.ipAddress.or s.ipAddress
    userAgent := device.userAgent.or s.userAgent }

def fields (s : Session) (now : Instant) : List (String × Json) := [
  ("user", s.user.toJson),
  ("device_id", .ofText? s.deviceId),
  ("device_name", .ofText? s.deviceName),
  ("platform", .ofText? s.platform),
  ("active_key", .ofText? s.activeKey),
  ("auth_methods", .arr (s.authMethods.map fun m => .str (code m))),
  ("ip_address", .ofText? s.ipAddress),
  ("user_agent", .ofText? s.userAgent),
  ("push_token", .ofText? s.pushToken),
  ("push_platform", .ofText? s.pushPlatform),
  ("push_updated_utc", Instant.optionToJson s.pushUpdatedAt),
  ("expiry_utc", s.expiresAt.toJson),
  ("revoked_utc", Instant.optionToJson s.revokedAt),
  ("revoked_reason", .ofText? (s.revokedReason.map code)),
  ("last_seen_utc", s.lastSeenAt.toJson),
  ("created_utc", s.createdAt.toJson),
  ("live", .bool (s.isLive now))]

end Session

/-- What a user is shown of one of their sessions. -/
structure SessionInfo where
  id : SessionId
  deviceId : Option String
  deviceName : Option String
  platform : Option String
  createdAt : Instant
  lastSeenAt : Instant
  expiresAt : Instant
  isCurrent : Bool
  deriving DecidableEq, Repr

namespace SessionInfo

/-- What is shown of a session to someone who looks from the session `current`. -/
def ofSession (s : Session) (current : Option SessionId) : SessionInfo where
  id := s.id
  deviceId := s.deviceId
  deviceName := s.deviceName
  platform := s.platform
  createdAt := s.createdAt
  lastSeenAt := s.lastSeenAt
  expiresAt := s.expiresAt
  isCurrent := current = some s.id

def fields (i : SessionInfo) : List (String × Json) := [
  ("session_id", i.id.toJson),
  ("device_id", .ofText? i.deviceId),
  ("device_name", .ofText? i.deviceName),
  ("platform", .ofText? i.platform),
  ("created_utc", i.createdAt.toJson),
  ("last_seen_utc", i.lastSeenAt.toJson),
  ("expiry_utc", i.expiresAt.toJson),
  ("is_current", .bool i.isCurrent)]

end SessionInfo

end AccountAuthority
