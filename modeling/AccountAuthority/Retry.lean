import AccountAuthority.Time.Span

/-!
# Bounded retry

An operation that fails because of a conflict is tried again from scratch, a bounded number of
times and with growing pauses in between.  Any other failure is final.
-/

namespace AccountAuthority

/-- Thousandths, less than one whole, that are drawn at random. -/
abbrev Jitter := Fin 1000

/-- The smallest draw, which adds nothing to a pause. -/
def Jitter.least : Jitter :=
  ⟨0, by decide⟩

/-- How often to try and how long to wait. -/
structure RetryConfig where
  /-- The number of attempts, the first included; zero counts as one. -/
  maxAttempts : Nat := 3
  initialBackoff : Span := .millis 20
  maxBackoff : Span := .millis 500
  multiplier : Float := 2.0
  jitter : Bool := true

namespace RetryConfig

/-- The usual pauses with a number of attempts. -/
def ofAttempts (n : Nat) : RetryConfig :=
  { maxAttempts := Nat.max n 1 }

/-- No pauses at all. -/
def immediate (n : Nat) : RetryConfig where
  maxAttempts := Nat.max n 1
  initialBackoff := .zero
  maxBackoff := .zero
  multiplier := 1.0
  jitter := false

def attempts (c : RetryConfig) : Nat :=
  Nat.max c.maxAttempts 1

/-- `acc * x ^ n` by repeated squaring; `fuel` bounds the number of binary digits of `n`. -/
def powLoop : Nat → Float → Float → Nat → Float
  | 0, acc, _, _ => acc
  | fuel + 1, acc, x, n =>
    let acc := if n % 2 = 1 then acc * x else acc
    if n / 2 = 0 then acc else powLoop fuel acc (x * x) (n / 2)

/-- A power with an integer exponent of 32 bits. -/
def power (x : Float) (n : Int) : Float :=
  let p := powLoop 33 1.0 x n.natAbs
  if n < 0 then 1.0 / p else p

def wholeMillis (d : Span) : Nat :=
  (d.nanos / 1000000).toNat

/-- The milliseconds to wait before retry number `retry`, which is counted from 0 and read as a
signed number of 32 bits.  Growth that is no number at all waits as long as is allowed. -/
def backoffMillis (c : RetryConfig) (retry : Nat) : Nat :=
  let grown := Float.ofNat (wholeMillis c.initialBackoff) *
    power c.multiplier ((retry : Int).bmod UInt32.size)
  let cap := (Float.ofNat (wholeMillis c.maxBackoff)).toUInt64.toNat
  if grown.isNaN then cap else Nat.min grown.toUInt64.toNat cap

/-- The milliseconds that jitter adds to a wait, less than a quarter of it. -/
def jitterMillis (ms : Nat) (draw : Jitter) : Nat :=
  -- The minimum changes nothing: `ms` comes out of a double, so a quarter of it is a double too,
  -- and the product of that with less than one is not rounded beyond it.  It stands here so that
  -- the bound needs no theory of rounding.
  Nat.min (Float.ofNat ms * 0.25 * (Float.ofNat draw / 1000.0)).toUInt64.toNat (ms / 4)

/-- The wait before retry number `retry`, which jitter makes longer as `draw` says. -/
def backoff (c : RetryConfig) (retry : Nat) (draw : Jitter) : Span :=
  let ms := c.backoffMillis retry
  .millis (ms + if c.jitter then jitterMillis ms draw else 0)

/-- Wait before retry number `retry`; a wait of no length is left out. -/
def wait {m : Type → Type} [Monad m] (c : RetryConfig) (draw : m Jitter) (pause : Span → m Unit)
    (retry : Nat) : m Unit := do
  let d := c.backoff retry (← draw)
  if d.nanos = 0 then pure () else pause d

end RetryConfig

/-- Try an operation, and up to `left` more times while it fails in a way that `again` says can go
away; `wait i` is done before retry number `i`, and `made` retries have been made before. -/
def retryUpTo {m : Type → Type} [Monad m] {α ε : Type} (again : ε → Bool) (wait : Nat → m Unit)
    (attempt : m (Except ε α)) (left made : Nat) : m (Except ε α) := do
  match ← attempt with
  | .ok a => pure (.ok a)
  | .error e =>
    if again e then
      match left with
      | 0 => pure (.error e)
      | left + 1 => do
        wait made
        retryUpTo again wait attempt left (made + 1)
    else pure (.error e)
termination_by left

/-- Try an operation as often as the configuration allows. -/
def retry {m : Type → Type} [Monad m] {α ε : Type} (config : RetryConfig) (again : ε → Bool)
    (wait : Nat → m Unit) (attempt : m (Except ε α)) : m (Except ε α) :=
  retryUpTo again wait attempt (config.attempts - 1) 0

end AccountAuthority
