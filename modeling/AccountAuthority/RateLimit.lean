import AccountAuthority.Table
import AccountAuthority.Time.Instant

/-!
# The limit on failed logins

Failed logins are counted for an address and the internet address they come from.  A window opens
at the first failure; when it holds as many failures as are allowed, further logins are refused
until it closes.
-/

namespace AccountAuthority

/-- The failures since a window was opened. -/
structure FailureWindow where
  key : String
  startedAt : Instant
  failures : Nat
  deriving DecidableEq, Repr

instance : Keyed FailureWindow String := ⟨FailureWindow.key⟩

/-- The open windows, and when they lock and close. -/
structure RateLimiter where
  /-- The number of failures that locks a window; zero counts as one. -/
  maxFailures : Nat
  window : Span
  windows : Table FailureWindow := ∅

namespace RateLimiter

/-- What failures are counted for. -/
def keyOf (email : String) (ip : Option String) : String :=
  email ++ "|" ++ ip.getD "-"

/-- A limiter without windows. -/
def create (maxFailures : Nat) (windowSeconds : Int) : RateLimiter where
  maxFailures := Nat.max maxFailures 1
  window := .seconds windowSeconds

def closesAt (l : RateLimiter) (w : FailureWindow) : Instant :=
  w.startedAt + l.window

/-- The seconds until an instant, and at least one. -/
def secondsUntil (at_ now : Instant) : Nat :=
  (Max.max (at_.since now).wholeSeconds 1).toNat

/-- Whether a login may be tried, or the seconds to wait.  A window that has closed is dropped. -/
def check (l : RateLimiter) (email : String) (ip : Option String) (now : Instant) :
    Except Nat Unit × RateLimiter :=
  match l.windows.get? (keyOf email ip) with
  | none => (.ok (), l)
  | some w =>
    let closes := l.closesAt w
    if closes ≤ now then (.ok (), { l with windows := l.windows.erase w.key })
    else if l.maxFailures ≤ w.failures then (.error (secondsUntil closes now), l)
    else (.ok (), l)

/-- Count a failure; a closed window, or none, makes way for a new one. -/
def recordFailure (l : RateLimiter) (email : String) (ip : Option String) (now : Instant) :
    RateLimiter :=
  let key := keyOf email ip
  let window : FailureWindow := match l.windows.get? key with
    | some w => if l.closesAt w ≤ now then ⟨key, now, 0⟩ else w
    | none => ⟨key, now, 0⟩
  { l with windows := l.windows.insert { window with failures := window.failures + 1 } }

/-- Forget the failures. -/
def recordSuccess (l : RateLimiter) (email : String) (ip : Option String) : RateLimiter :=
  { l with windows := l.windows.erase (keyOf email ip) }

end RateLimiter

end AccountAuthority
