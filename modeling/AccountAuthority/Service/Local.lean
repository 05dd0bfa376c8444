import AccountAuthority.RateLimit
import AccountAuthority.Service.Backend
import AccountAuthority.Store.Perform

/-!
# An authority in memory

Everything that the services ask for, answered by one value: the records, the jobs, the limit on
logins, a clock that stands still until it is set, and identifiers that are numbered instead of
drawn at random.
-/

namespace AccountAuthority

/-- An authority whose records are in memory. -/
structure LocalAuthority where
  store : Store := .empty
  queue : Queue := .empty
  limiter : RateLimiter
  issuer : AccessIssuer
  verifier : OidcVerifier
  /-- The time of the records. -/
  now : Instant
  /-- The time by which tokens are signed and checked. -/
  tokenTime : Instant
  /-- How many identifiers and random values have been given out. -/
  drawn : Nat := 0
  /-- The messages that have been sent, the first one first. -/
  sent : List Notice := []

namespace LocalAuthority

/-- Take the next `n` numbers. -/
def draw (a : LocalAuthority) (n : Nat) : Nat × LocalAuthority :=
  (a.drawn, { a with drawn := a.drawn + n })

/-- Bytes that depend on a number and look random. -/
def bytesOf (length n : Nat) : Bytes :=
  (sha256 (Bytes.ofNat 8 n)).take length

def askStore (a : LocalAuthority) (r : RepositoryRequest) : r.Answer × LocalAuthority :=
  let (n, a) := a.draw 3
  let fresh : FreshIds := ⟨.numbered n, .numbered (n + 1), .numbered (n + 2)⟩
  let (answer, store) := a.store.perform r fresh
  (answer, { a with store })

def askQueue (a : LocalAuthority) (r : QueueRequest) :
    Except QueueError r.Answer × LocalAuthority :=
  let (n, a) := a.draw 1
  let (answer, queue) := a.queue.perform r (toString (Uuid.numbered n))
  (answer, { a with queue })

def answer (r : ServiceRequest) (a : LocalAuthority) : r.Answer × LocalAuthority :=
  match r with
  | .repository r =>
    let (answer, a) := a.askStore r
    (.ok answer, a)
  | .queue r => a.askQueue r
  | .now => (a.now, a)
  | .freshId =>
    let (n, a) := a.draw 1
    (.numbered n, a)
  | .randomBytes length =>
    let (n, a) := a.draw 1
    (bytesOf length n, a)
  | .jitter => (Jitter.least, a)
  | .pause _ => ((), a)
  | .signAccess r =>
    let (n, a) := a.draw 1
    (a.issuer.sign r (.numbered n) a.tokenTime, a)
  | .publishedKeys => (.ok a.issuer.publishedKeys, a)
  | .verifyIdToken provider token => (a.verifier.verify provider token a.tokenTime, a)
  | .checkLogin email ip now =>
    let (answer, limiter) := a.limiter.check email ip now
    (answer, { a with limiter })
  | .loginFailed email ip now => ((), { a with limiter := a.limiter.recordFailure email ip now })
  | .loginSucceeded email ip => ((), { a with limiter := a.limiter.recordSuccess email ip })
  | .notify notice => (.ok (), { a with sent := a.sent ++ [notice] })

end LocalAuthority

end AccountAuthority
