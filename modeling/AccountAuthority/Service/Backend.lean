import AccountAuthority.AccessToken
import AccountAuthority.BearerToken
import AccountAuthority.Job.Queue
import AccountAuthority.Oidc
import AccountAuthority.Password.Hasher
import AccountAuthority.Repository.Request
import AccountAuthority.Retry
import AccountAuthority.Service.Error

/-!
# What the services ask for

The services are programs over one interface: the repository and the queue, the clock and
randomness, the issuer of access tokens, the check of identity tokens, the limit on logins, and
the delivery of messages.
-/

namespace AccountAuthority

/-- A message to the owner of an account, with a token in it. -/
structure Notice where
  purpose : TokenPurpose
  user : UserId
  email : String
  token : String
  deriving DecidableEq, Repr

/-- What a service can ask for. -/
inductive ServiceRequest where
  | repository (r : RepositoryRequest)
  | queue (r : QueueRequest)
  | now
  | freshId
  | randomBytes (n : Nat)
  | jitter
  | pause (d : Span)
  | signAccess (r : AccessRequest)
  | publishedKeys
  | verifyIdToken (provider token : String)
  /-- The answer is the seconds to wait if logins are locked. -/
  | checkLogin (email : String) (ip : Option String) (now : Instant)
  | loginFailed (email : String) (ip : Option String) (now : Instant)
  | loginSucceeded (email : String) (ip : Option String)
  | notify (notice : Notice)

@[reducible] def ServiceRequest.Answer : ServiceRequest → Type
  | repository r => Except RepositoryError r.Answer
  | queue r => Except QueueError r.Answer
  | now => Instant
  | freshId => Uuid
  | randomBytes _ => Bytes
  | jitter => Jitter
  | pause _ => Unit
  | signAccess _ => Except String String
  | publishedKeys => Except String (List Jwt.PublishedKey)
  | verifyIdToken .. => OidcVerification
  | checkLogin .. => Except Nat Unit
  | loginFailed .. | loginSucceeded .. => Unit
  | notify _ => Except String Unit

/-- The interface that the services are programs over. -/
@[reducible] def Backend : Interface := ⟨ServiceRequest, ServiceRequest.Answer⟩

/-- A call of a service: a program that ends with a value or an error. -/
abbrev Service (α : Type) := ExceptT ServiceError (Program Backend) α

namespace Service

def ask (r : ServiceRequest) : Program Backend r.Answer :=
  Program.request (I := Backend) r

def repository (r : RepositoryRequest) : Service r.Answer := do
  match ← ask (.repository r) with
  | .ok a => pure a
  | .error e => throw (.repository e)

def queue (r : QueueRequest) : Service r.Answer := do
  match ← ask (.queue r) with
  | .ok a => pure a
  | .error e => throw (.internal e.message)

def now : Service Instant :=
  ask .now

def freshId : Service Uuid :=
  ask .freshId

def freshToken : Service String := do
  pure (BearerToken.ofBytes (← ask (.randomBytes BearerToken.length)))

/-- Send a message; it does not matter to the caller whether that succeeds. -/
def notify (notice : Notice) : Service Unit := do
  let _ ← ask (.notify notice)

end Service

structure ServiceSettings where
  hasher : PasswordHasher
  /-- What is kept of a bearer token. -/
  tokenHash : String → String
  refreshTtl : Span
  sessionTtl : Span
  accessTtlSeconds : Int
  verificationTtl : Span
  resetTtl : Span
  gracePeriod : Span
  /-- The attempts of a deletion job, as a number of 32 bits. -/
  jobMaxAttempts : Nat
  blockedRetry : Span

end AccountAuthority
