import AccountAuthority.Config.Authority

/-!
# Configurations as records

A configuration as it is shown to those who run the authority.
-/

namespace AccountAuthority

/-- Where the authority listens, as fields of a record. -/
def Listener.fields (l : Listener) : List (String × Json) := [
  ("addr", .str l.toText),
  ("host", .str l.host.toText),
  ("port", .int l.port.toNat)]

/-- What an environment is called where it is shown. -/
def Environment.shown : Environment → String
  | .dev => "Dev"
  | .prod => "Prod"

def ProviderConfig.record (p : ProviderConfig) : Json := .obj [
  ("name", .str p.name),
  ("issuer", .str p.issuer),
  ("audience", .str p.audience),
  ("public_key_path", .str p.publicKeyPath)]

def AuthorityConfig.record (c : AuthorityConfig) : Json := .obj (c.listener.fields ++ [
  ("environment", .str c.environment.shown),
  ("service_name", .str c.serviceName),
  ("service_version", .str c.serviceVersion),
  ("log_level", .str c.logLevel),
  ("otlp_endpoint", .ofText? c.tracesEndpoint),
  ("database", .obj [
    ("url", .str c.database.url),
    ("max_connections", .int c.database.maxConnections),
    ("min_connections", .int c.database.minConnections)]),
  ("jwt", .obj [
    ("private_key_path", .str c.signing.privateKeyPath),
    ("public_key_path", .str c.signing.publicKeyPath),
    ("key_id", .str c.signing.keyId),
    ("issuer", .str c.signing.issuer),
    ("access_token_ttl_seconds", .int c.signing.accessTtlSeconds)]),
  ("session", .obj [
    ("refresh_token_ttl_days", .int c.session.refreshTtlDays),
    ("session_ttl_days", .int c.session.sessionTtlDays),
    ("token_hash_secret", .str c.session.tokenHashSecret),
    ("refresh_ttl_seconds", .int c.session.refreshTtl.wholeSeconds),
    ("session_ttl_seconds", .int c.session.sessionTtl.wholeSeconds)]),
  ("password", .obj [
    ("memory_kib", .int c.password.memoryKib),
    ("iterations", .int c.password.iterations),
    ("parallelism", .int c.password.parallelism)]),
  ("recovery", .obj [
    ("email_verification_ttl_hours", .int c.recovery.verificationTtlHours),
    ("password_reset_ttl_minutes", .int c.recovery.resetTtlMinutes)]),
  ("rate_limit", .obj [
    ("login_max_failures", .int c.loginLimit.maxFailures),
    ("login_window_seconds", .int c.loginLimit.windowSeconds)]),
  ("deletion", .obj [
    ("grace_period_days", .int c.deletion.gracePeriodDays),
    ("blocked_retry_hours", .int c.deletion.blockedRetryHours),
    ("poll_interval_seconds", .int c.deletion.pollIntervalSeconds),
    ("batch_size", .int c.deletion.batchSize),
    ("max_attempts", .int c.deletion.maxAttempts)]),
  ("oidc", .arr (c.providers.map ProviderConfig.record)),
  ("consistency", .obj [("max_attempts", .int c.maxAttempts)])])

end AccountAuthority
