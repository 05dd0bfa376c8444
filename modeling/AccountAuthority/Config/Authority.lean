import AccountAuthority.Code
import AccountAuthority.Config.Environment
import AccountAuthority.Config.Listener
import AccountAuthority.Crypto.Argon2
import AccountAuthority.Time.Span

/-!
# The configuration of an authority

Everything that can be set from outside, with its defaults, and the rules that a configuration has
to keep.  Every number that becomes a span of time has bounds, so that no computation with times
can leave the range of times.
-/

namespace AccountAuthority

structure DatabaseConfig where
  url : String
  maxConnections : Nat := 10
  minConnections : Nat := 1
  deriving DecidableEq, Repr

structure SigningConfig where
  privateKeyPath : String
  publicKeyPath : String
  keyId : String := "identity-dev"
  issuer : String := "identity-service"
  accessTtlSeconds : Int := 900
  deriving DecidableEq, Repr

structure SessionConfig where
  refreshTtlDays : Int := 14
  /-- A session ends after this many days, however often its token is renewed. -/
  sessionTtlDays : Int := 90
  /-- The key of the codes under which bearer tokens are kept. -/
  tokenHashSecret : String := "dev-only-token-hash-secret"
  deriving DecidableEq, Repr

namespace SessionConfig

def refreshTtl (c : SessionConfig) : Span :=
  .days c.refreshTtlDays

def sessionTtl (c : SessionConfig) : Span :=
  .days c.sessionTtlDays

end SessionConfig

/-- The cost of password hashes unless it is set. -/
def Argon2.Cost.usual : Argon2.Cost := ⟨19 * 1024, 2, 1⟩

/-- How long the tokens last that are sent by mail. -/
structure RecoveryConfig where
  verificationTtlHours : Int := 24
  resetTtlMinutes : Int := 60
  deriving DecidableEq, Repr

structure LoginLimitConfig where
  maxFailures : Nat := 5
  windowSeconds : Int := 900
  deriving DecidableEq, Repr

structure DeletionConfig where
  gracePeriodDays : Int := 30
  blockedRetryHours : Int := 24
  pollIntervalSeconds : Nat := 30
  batchSize : Nat := 10
  maxAttempts : Nat := 5
  deriving DecidableEq, Repr

structure ProviderConfig where
  name : String
  issuer : String
  audience : String
  publicKeyPath : String
  deriving DecidableEq, Repr

structure AuthorityConfig where
  listener : Listener := {}
  environment : Environment := .dev
  serviceName : String := "identity-service"
  serviceVersion : String := "0.1.0"
  logLevel : String := "info"
  /-- Where traces are sent, if anywhere. -/
  tracesEndpoint : Option String := none
  database : DatabaseConfig
  signing : SigningConfig
  session : SessionConfig := {}
  password : Argon2.Cost := .usual
  recovery : RecoveryConfig := {}
  loginLimit : LoginLimitConfig := {}
  deletion : DeletionConfig := {}
  providers : List ProviderConfig := []
  /-- How often a unit of work is tried when it loses against another one. -/
  maxAttempts : Nat := 3
  deriving DecidableEq, Repr

/-- Why a configuration cannot be used. -/
inductive ConfigError where
  | setting (e : SettingError)
  | unknownEnvironment (text : String)
  | missing (name : String) (environment : Environment)
  | notAnInteger (name : String) (fault : IntegerFault)
  | portIsZero
  | outOfRange (name : String) (range : IntegerRange) (value : Int)
  | refreshBeyondSession
  | noAttempts
  | secretTooShort
  deriving DecidableEq, Repr

namespace ConfigError

def message : ConfigError → String
  | setting e => e.message
  | unknownEnvironment text => Coded.invalidMessage Environment text
  | missing name .prod => name ++ " is required in production but not set"
  | missing name .dev => name ++ " is required but not set"
  | notAnInteger name fault => name ++ " is invalid: " ++ fault.message
  | portIsZero => "PORT must be greater than 0"
  | outOfRange name range value =>
    name ++ " must be between " ++ toString range.lo ++ " and " ++ toString range.hi ++ ", got " ++
      toString value
  | refreshBeyondSession => "REFRESH_TOKEN_TTL_DAYS cannot exceed SESSION_TTL_DAYS"
  | noAttempts => "CONSISTENCY_MAX_ATTEMPTS must be at least 1"
  | secretTooShort => "TOKEN_HASH_SECRET must be at least 32 bytes in production"

end ConfigError

namespace AuthorityConfig

variable (c : AuthorityConfig)

/-- The numbers that become spans of time, with their names and bounds. -/
def spans : List (String × IntegerRange × Int) := [
  ("JWT_ACCESS_TOKEN_TTL_SECONDS", ⟨1, 86400⟩, c.signing.accessTtlSeconds),
  ("REFRESH_TOKEN_TTL_DAYS", ⟨1, 3650⟩, c.session.refreshTtlDays),
  ("SESSION_TTL_DAYS", ⟨1, 3650⟩, c.session.sessionTtlDays),
  ("EMAIL_VERIFICATION_TTL_HOURS", ⟨1, 720⟩, c.recovery.verificationTtlHours),
  ("PASSWORD_RESET_TTL_MINUTES", ⟨1, 1440⟩, c.recovery.resetTtlMinutes),
  ("RATE_LIMIT_LOGIN_WINDOW_SECONDS", ⟨1, 86400⟩, c.loginLimit.windowSeconds),
  ("DELETION_GRACE_PERIOD_DAYS", ⟨0, 3650⟩, c.deletion.gracePeriodDays),
  ("DELETION_BLOCKED_RETRY_HOURS", ⟨1, 720⟩, c.deletion.blockedRetryHours)]

/-- The bytes that a secret has at least in production. -/
def minSecretBytes : Nat := 32

/-- The first rule that a configuration breaks, if any. -/
def fault? : Option ConfigError :=
  if c.listener.port = 0 then some .portIsZero
  else match c.spans.find? fun (_, range, value) => !range.contains value with
    | some (name, range, value) => some (.outOfRange name range value)
    | none =>
      if c.session.sessionTtlDays < c.session.refreshTtlDays then some .refreshBeyondSession
      else if c.maxAttempts = 0 then some .noAttempts
      else if c.environment = .prod ∧ c.session.tokenHashSecret.utf8ByteSize < minSecretBytes then
        some .secretTooShort
      else none

/-- Accept a configuration that breaks no rule. -/
def validate : Except ConfigError Unit :=
  match c.fault? with
  | some e => .error e
  | none => .ok ()

end AuthorityConfig

end AccountAuthority
