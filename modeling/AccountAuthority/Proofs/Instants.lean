import AccountAuthority.Time.Instant

/-!
# Instants outside of leap seconds

Instants are ordered as their counts of nanoseconds as long as none of them lies
inside of a leap second, and sums and differences with spans are those of the
counts.
-/

namespace AccountAuthority

theorem Span.nanos_le_max (a b : Span) : a.nanos ≤ (Span.max a b).nanos := by
  unfold Span.max
  by_cases h : b ≤ a
  · simp [h]
  · have hlt : ¬b.nanos ≤ a.nanos := h
    rw [if_neg h]
    omega

namespace Instant

variable {a b c t : Instant} {d : Span}

theorem le_def :
    a ≤ b ↔ a.seconds < b.seconds ∨ (a.seconds = b.seconds ∧ a.nanos ≤ b.nanos) :=
  Iff.rfl

theorem lt_def :
    a < b ↔ a.seconds < b.seconds ∨ (a.seconds = b.seconds ∧ a.nanos < b.nanos) :=
  Iff.rfl

theorem not_lt : ¬a < b ↔ b ≤ a := by
  rw [lt_def, le_def]
  omega

theorem le_refl (t : Instant) : t ≤ t :=
  Or.inr ⟨rfl, Nat.le_refl _⟩

theorem le_trans (hab : a ≤ b) (hbc : b ≤ c) : a ≤ c := by
  rw [le_def] at *
  omega

theorem not_le : ¬a ≤ b ↔ b < a := by
  rw [lt_def, le_def]
  omega

theorem min_le_left (a b : Instant) : min a b ≤ a := by
  unfold min
  split
  · exact le_refl a
  next h =>
    rw [not_le, lt_def] at h
    rw [le_def]
    omega

theorem min_le_right (a b : Instant) : min a b ≤ b := by
  unfold min
  split
  next h => exact h
  · exact le_refl b

theorem lt_min (hb : a < b) (hc : a < c) : a < min b c := by
  unfold min
  split
  · exact hb
  · exact hc

/-- The instant lies outside of leap seconds. -/
def IsPlain (t : Instant) : Prop :=
  t.nanos < 1000000000

instance (t : Instant) : Decidable t.IsPlain :=
  inferInstanceAs (Decidable (t.nanos < 1000000000))

theorem isPlain_iff : t.IsPlain ↔ t.isLeap = false := by
  simp [IsPlain, isLeap]

/-- The instant is one that a clock can show: a leap second is the last second of
its minute. -/
structure IsProper (t : Instant) : Prop where
  nanos : t.nanos < 2000000000
  leap : t.isLeap = true → t.seconds % 60 = 59

theorem IsPlain.isProper (h : t.IsPlain) : t.IsProper where
  nanos := Nat.lt_trans h (by decide)
  leap hleap := absurd hleap (by simp [isPlain_iff.mp h])

theorem isPlain_ofNanos (n : Int) : (ofNanos n).IsPlain := by
  simp only [IsPlain, ofNanos, Span.perSecond]
  omega

@[simp] theorem toNanos_ofNanos (n : Int) : (ofNanos n).toNanos = n := by
  simp only [toNanos, ofNanos, Span.perSecond]
  omega

theorem IsPlain.le_iff (ha : a.IsPlain) (hb : b.IsPlain) :
    a ≤ b ↔ a.toNanos ≤ b.toNanos := by
  simp only [IsPlain] at ha hb
  simp only [le_def, toNanos, Span.perSecond]
  omega

theorem IsPlain.add_eq (h : t.IsPlain) (d : Span) :
    t + d = ofNanos (t.toNanos + d.nanos) := by
  change t.add d = _
  rw [add, isPlain_iff.mp h, if_neg Bool.false_ne_true]

theorem IsPlain.isPlain_add (h : t.IsPlain) (d : Span) : (t + d).IsPlain := by
  rw [h.add_eq]
  exact isPlain_ofNanos _

theorem IsPlain.le_add (h : t.IsPlain) (hd : 0 ≤ d.nanos) : t ≤ t + d := by
  rw [h.le_iff (h.isPlain_add d), h.add_eq, toNanos_ofNanos]
  omega

theorem IsPlain.lt_add (h : t.IsPlain) (hd : 0 < d.nanos) : t < t + d := by
  rw [← not_le, (h.isPlain_add d).le_iff h, h.add_eq, toNanos_ofNanos]
  omega

theorem IsPlain.since_eq (ha : a.IsPlain) (hb : b.IsPlain) :
    a.since b = ⟨a.toNanos - b.toNanos⟩ := by
  rw [isPlain_iff] at ha hb
  simp only [since, ha, hb, Bool.false_eq_true, and_false, if_false, toNanos,
    Span.mk.injEq, Span.perSecond]
  omega

/-- What is put in with a delay until an instant runs no earlier than then. -/
theorem IsPlain.le_add_since
    (ha : a.IsPlain) (hb : b.IsPlain) :
    a ≤ b + Span.max (a.since b) .zero := by
  have hmax := Span.nanos_le_max (a.since b) .zero
  rw [ha.since_eq hb] at hmax
  rw [ha.le_iff (hb.isPlain_add _), hb.add_eq, toNanos_ofNanos, ha.since_eq hb]
  simp only at hmax
  omega

end Instant

end AccountAuthority
