import AccountAuthority.BearerToken
import AccountAuthority.Config.Authority
import AccountAuthority.Http.Router
import AccountAuthority.RateLimit
import AccountAuthority.Service.Deletion

/-!
# An authority out of its configuration

What the services, the worker and the limiter are set up with.
-/

namespace AccountAuthority.AuthorityConfig

variable (c : AuthorityConfig)

/-- How the services are set up, unless the cost of password hashes is refused. -/
def services : Except String ServiceSettings := do
  let hasher ← PasswordHasher.argon2 c.password
  pure {
    hasher
    tokenHash := BearerToken.hash c.session.tokenHashSecret
    refreshTtl := c.session.refreshTtl
    sessionTtl := c.session.sessionTtl
    accessTtlSeconds := c.signing.accessTtlSeconds
    verificationTtl := .hours c.recovery.verificationTtlHours
    resetTtl := .minutes c.recovery.resetTtlMinutes
    gracePeriod := .days c.deletion.gracePeriodDays
    jobMaxAttempts := c.deletion.maxAttempts
    blockedRetry := .hours c.deletion.blockedRetryHours }

def worker : WorkerSettings where
  blockedRetry := .hours c.deletion.blockedRetryHours
  pollIntervalSeconds := c.deletion.pollIntervalSeconds
  batchSize := c.deletion.batchSize
  maxAttempts := c.deletion.maxAttempts

/-- The limiter of failed logins, without windows. -/
def limiter : RateLimiter :=
  .create c.loginLimit.maxFailures c.loginLimit.windowSeconds

def service : ServiceName :=
  ⟨c.serviceName, c.serviceVersion⟩

end AccountAuthority.AuthorityConfig
