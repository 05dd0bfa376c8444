import AccountAuthority.Config.Authority
import AccountAuthority.Text.Blank

/-!
# Loading a configuration

A configuration is read out of the variables of a process.  In production every variable has to be
set; elsewhere most of them have a default.  Settings are read one after the other, and the first
error is told.
-/

namespace AccountAuthority

/-- The variables that a configuration is read from, and where the authority runs. -/
structure ConfigSource where
  vars : Variables
  environment : Environment

namespace ConfigSource

variable (s : ConfigSource)

/-- A text without a default. -/
def required (name : String) : Except ConfigError String :=
  match s.vars.get? name with
  | some text => .ok text
  | none => .error (.missing name s.environment)

/-- A text with a default outside of production. -/
def text (name default : String) : Except ConfigError String :=
  match s.vars.get? name, s.environment with
  | none, .dev => .ok default
  | _, _ => s.required name

/-- An integer with a default outside of production. -/
def integer (range : IntegerRange) (name : String) (default : Int) : Except ConfigError Int := do
  match range.read (← s.text name (toString default)) with
  | .ok n => .ok n
  | .error fault => .error (.notAnInteger name fault)

def natural (range : IntegerRange) (name : String) (default : Nat) : Except ConfigError Nat := do
  pure (← s.integer range name default).toNat

/-- The provider with a name in a list. -/
def provider (name : String) : Except ConfigError ProviderConfig := do
  let named (what : String) := "OIDC_" ++ Text.uppercase name ++ what
  pure {
    name := Text.lowercase name
    issuer := ← s.required (named "_ISSUER")
    audience := ← s.required (named "_AUDIENCE")
    publicKeyPath := ← s.required (named "_PUBLIC_KEY_PATH") }

/-- The names in a list with commas. -/
def names (list : String) : List String :=
  ((Text.splitOn ',' list.toList).map fun cs => String.ofList (Text.trimChars cs)).filter
    (!·.isEmpty)

def providers : Except ConfigError (List ProviderConfig) :=
  (names ((s.vars.get? "OIDC_PROVIDERS").getD "")).mapM s.provider

/-- The configuration, which need not keep the rules. -/
def config (listener : Listener) : Except ConfigError AuthorityConfig := do
  let usual : AuthorityConfig := {
    database := { url := "" }
    signing := { privateKeyPath := "", publicKeyPath := "" } }
  pure {
    listener
    environment := s.environment
    serviceName := ← s.text "SERVICE_NAME" usual.serviceName
    serviceVersion := ← s.text "SERVICE_VERSION" usual.serviceVersion
    logLevel := ← s.text "LOG_LEVEL" usual.logLevel
    tracesEndpoint := s.vars.get? "OTEL_EXPORTER_OTLP_ENDPOINT"
    database := {
      url := ← s.required "DATABASE_URL"
      maxConnections := ←
        s.natural .unsigned32 "DATABASE_MAX_CONNECTIONS" usual.database.maxConnections
      minConnections := ←
        s.natural .unsigned32 "DATABASE_MIN_CONNECTIONS" usual.database.minConnections }
    signing := {
      privateKeyPath := ← s.required "JWT_PRIVATE_KEY_PATH"
      publicKeyPath := ← s.required "JWT_PUBLIC_KEY_PATH"
      keyId := ← s.text "JWT_KEY_ID" usual.signing.keyId
      issuer := ← s.text "JWT_ISSUER" usual.signing.issuer
      accessTtlSeconds := ←
        s.integer .signed64 "JWT_ACCESS_TOKEN_TTL_SECONDS" usual.signing.accessTtlSeconds }
    session := {
      refreshTtlDays := ← s.integer .signed64 "REFRESH_TOKEN_TTL_DAYS" usual.session.refreshTtlDays
      sessionTtlDays := ← s.integer .signed64 "SESSION_TTL_DAYS" usual.session.sessionTtlDays
      tokenHashSecret := ← s.text "TOKEN_HASH_SECRET" usual.session.tokenHashSecret }
    password := {
      memoryKib := ← s.natural .unsigned32 "ARGON2_MEMORY_KIB" usual.password.memoryKib
      iterations := ← s.natural .unsigned32 "ARGON2_ITERATIONS" usual.password.iterations
      parallelism := ← s.natural .unsigned32 "ARGON2_PARALLELISM" usual.password.parallelism }
    recovery := {
      verificationTtlHours := ←
        s.integer .signed64 "EMAIL_VERIFICATION_TTL_HOURS" usual.recovery.verificationTtlHours
      resetTtlMinutes := ←
        s.integer .signed64 "PASSWORD_RESET_TTL_MINUTES" usual.recovery.resetTtlMinutes }
    loginLimit := {
      maxFailures := ←
        s.natural .unsigned32 "RATE_LIMIT_LOGIN_ATTEMPTS" usual.loginLimit.maxFailures
      windowSeconds := ←
        s.integer .signed64 "RATE_LIMIT_LOGIN_WINDOW_SECONDS" usual.loginLimit.windowSeconds }
    deletion := {
      gracePeriodDays := ←
        s.integer .signed64 "DELETION_GRACE_PERIOD_DAYS" usual.deletion.gracePeriodDays
      blockedRetryHours := ←
        s.integer .signed64 "DELETION_BLOCKED_RETRY_HOURS" usual.deletion.blockedRetryHours
      pollIntervalSeconds := ←
        s.natural .unsigned64 "DELETION_POLL_INTERVAL_SECONDS" usual.deletion.pollIntervalSeconds
      batchSize := ← s.natural .unsigned32 "DELETION_BATCH_SIZE" usual.deletion.batchSize
      maxAttempts := ← s.natural .unsigned32 "DELETION_MAX_ATTEMPTS" usual.deletion.maxAttempts }
    providers := ← s.providers
    maxAttempts := ← s.natural .unsigned32 "CONSISTENCY_MAX_ATTEMPTS" usual.maxAttempts }

end ConfigSource

namespace AuthorityConfig

/-- The configuration that variables describe, which need not keep the rules. -/
def ofVariables (listener : Listener) (vars : Variables) : Except ConfigError AuthorityConfig := do
  let name := (vars.get? "ENVIRONMENT").getD (Coded.code Environment.dev)
  match Environment.read name with
  | .error _ => .error (.unknownEnvironment name)
  | .ok environment => ConfigSource.config ⟨vars, environment⟩ listener

/-- The configuration of a process: of its variables and files. -/
def load (vars : Variables) (files : Files) : Except ConfigError AuthorityConfig := do
  let vars := Listener.withVariablesFile vars files
  match Listener.load vars files with
  | .error e => .error (.setting e)
  | .ok listener =>
    let c ← ofVariables listener vars
    c.validate
    pure c

end AuthorityConfig

end AccountAuthority
