/-!
# Spans of time

A signed length of time, counted in nanoseconds.
-/

namespace AccountAuthority

/-- A signed number of nanoseconds. -/
structure Span where
  nanos : Int
  deriving DecidableEq, Repr, Inhabited

namespace Span

/-- The nanoseconds of a second. -/
def perSecond : Int := 1000000000

def zero : Span := ⟨0⟩

def micros (n : Int) : Span := ⟨n * 1000⟩

def millis (n : Int) : Span := ⟨n * 1000000⟩

def seconds (n : Int) : Span := ⟨n * perSecond⟩

def minutes (n : Int) : Span := seconds (n * 60)

def hours (n : Int) : Span := seconds (n * 3600)

/-- A span of days of 24 hours. -/
def days (n : Int) : Span := seconds (n * 86400)

instance : Add Span := ⟨fun a b => ⟨a.nanos + b.nanos⟩⟩
instance : LE Span := ⟨fun a b => a.nanos ≤ b.nanos⟩
instance : LT Span := ⟨fun a b => a.nanos < b.nanos⟩
instance (a b : Span) : Decidable (a ≤ b) := inferInstanceAs (Decidable (a.nanos ≤ b.nanos))
instance (a b : Span) : Decidable (a < b) := inferInstanceAs (Decidable (a.nanos < b.nanos))

/-- The whole seconds of a span, its fraction dropped. -/
def wholeSeconds (d : Span) : Int :=
  d.nanos.tdiv perSecond

/-- The nanoseconds beyond the whole seconds, with the sign of the span. -/
def subsecondNanos (d : Span) : Int :=
  d.nanos.tmod perSecond

def max (a b : Span) : Span :=
  if b ≤ a then a else b

end Span

end AccountAuthority
