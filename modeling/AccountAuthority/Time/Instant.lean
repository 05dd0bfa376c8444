import AccountAuthority.Time.Span

/-!
# Instants

An instant is a count of seconds from 1970-01-01T00:00:00Z and of nanoseconds into that second.
During a leap second the count of seconds stands still and the nanoseconds go on from one
thousand million, so that instants are ordered by seconds and then by nanoseconds.
-/

namespace AccountAuthority

/-- A point in time. -/
structure Instant where
  seconds : Int
  nanos : Nat
  deriving DecidableEq, Repr, Inhabited

namespace Instant

/-- Whether the instant lies inside of a leap second. -/
def isLeap (t : Instant) : Bool :=
  1000000000 ≤ t.nanos

instance : LE Instant where
  le a b := a.seconds < b.seconds ∨ (a.seconds = b.seconds ∧ a.nanos ≤ b.nanos)

instance : LT Instant where
  lt a b := a.seconds < b.seconds ∨ (a.seconds = b.seconds ∧ a.nanos < b.nanos)

instance (a b : Instant) : Decidable (a ≤ b) :=
  inferInstanceAs (Decidable (_ ∨ _))

instance (a b : Instant) : Decidable (a < b) :=
  inferInstanceAs (Decidable (_ ∨ _))

def min (a b : Instant) : Instant :=
  if a ≤ b then a else b

/-- The instant with the given count of nanoseconds from 1970-01-01T00:00:00Z, leap seconds not
counted. -/
def ofNanos (n : Int) : Instant :=
  ⟨n / Span.perSecond, (n % Span.perSecond).toNat⟩

/-- Nanoseconds from 1970-01-01T00:00:00Z. -/
def toNanos (t : Instant) : Int :=
  t.seconds * Span.perSecond + t.nanos

/-- The instant a span later.  From inside of a leap second a span that stays within it moves the
nanoseconds only; one that leaves it forwards starts from the second before it, and one that goes
back a second or more starts from the second after it. -/
def add (t : Instant) (d : Span) : Instant :=
  if t.isLeap then
    if 0 < d.wholeSeconds ∨ (0 < d.subsecondNanos ∧ 2000000000 ≤ t.nanos + d.subsecondNanos) then
      ofNanos (t.seconds * Span.perSecond + (t.nanos - 1000000000) + d.nanos)
    else if d.wholeSeconds < 0 then
      ofNanos ((t.seconds + 1) * Span.perSecond + (t.nanos - 1000000000) + d.nanos)
    else ⟨t.seconds, (t.nanos + d.subsecondNanos).toNat⟩
  else ofNanos (t.toNanos + d.nanos)

instance : HAdd Instant Span Instant := ⟨add⟩

def secondOfDay (t : Instant) : Int :=
  t.seconds % 86400

/-- The span from `s` to `t`.  A leap second counts when it lies between them, which is judged by
their times of day. -/
def since (t s : Instant) : Span :=
  let leap : Int :=
    if s.secondOfDay < t.secondOfDay ∧ s.isLeap then 1
    else if t.secondOfDay < s.secondOfDay ∧ t.isLeap then -1
    else 0
  ⟨(t.seconds - s.seconds + leap) * Span.perSecond + ((t.nanos : Int) - s.nanos)⟩

/-- The instant as a database keeps it: whole microseconds, cut off towards the year 2000. -/
def toMicroseconds (t : Instant) : Instant :=
  let epoch : Instant := ⟨946684800, 0⟩
  ofNanos (epoch.toNanos + ((t.since epoch).nanos.tdiv 1000) * 1000)

end Instant

end AccountAuthority
