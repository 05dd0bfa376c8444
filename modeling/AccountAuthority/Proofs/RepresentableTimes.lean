import AccountAuthority.Proofs.Instants
import AccountAuthority.Proofs.InstantText

/-!
# Times that can be represented

Spans are kept as signed milliseconds of 64 bits with a fraction, and instants lie in
the years of the calendar; whatever leaves these ranges stops the program.  A clock
shows years of four digits, so that there is room for some hundred thousand years on
either side of what it shows, and a span of a few years leads from there to nowhere
else.
-/

namespace AccountAuthority

/-! ## Spans -/

namespace Span

/-- The longest span that can be represented, which has as many milliseconds as there
are in 63 bits. -/
def longest : Span :=
  .millis 9223372036854775807

/-- The span can be represented. -/
def Fits (d : Span) : Prop :=
  -longest.nanos ≤ d.nanos ∧ d.nanos ≤ longest.nanos

instance (d : Span) : Decidable d.Fits :=
  inferInstanceAs (Decidable (_ ∧ _))

/-- The longest time that anything can be set to last or to wait: ten years. -/
def longestTerm : Span :=
  .days 3650

/-- The span is not negative, and no longer than anything can be set to wait. -/
structure IsDelay (d : Span) : Prop where
  nonneg : 0 ≤ d.nanos
  le : d.nanos ≤ longestTerm.nanos

/-- The span is a time that something can be set to last. -/
structure IsTerm (d : Span) : Prop extends d.IsDelay where
  pos : 0 < d.nanos

variable {d : Span} {n : ℤ}

theorem IsDelay.fits (h : d.IsDelay) : d.Fits := by
  obtain ⟨hnonneg, hle⟩ := h
  simp only [Fits, longest, longestTerm, millis, days, seconds, perSecond] at *
  omega

theorem nonneg_max_zero (d : Span) : 0 ≤ (max d zero).nanos := by
  unfold max
  split
  next h => exact h
  · exact Int.le_refl 0

theorem Fits.max_zero (h : d.Fits) : (max d zero).Fits := by
  unfold max
  split
  · exact h
  · decide

theorem isTerm_seconds (hlo : 1 ≤ n) (hhi : n ≤ 315360000) : (seconds n).IsTerm := by
  refine ⟨⟨?_, ?_⟩, ?_⟩
  all_goals simp only [longestTerm, days, seconds, perSecond]; omega

theorem isDelay_days (hlo : 0 ≤ n) (hhi : n ≤ 3650) : (days n).IsDelay := by
  constructor
  all_goals simp only [longestTerm, days, seconds, perSecond]; omega

end Span

/-! ## Instants -/

theorem CivilDate.year_ofDays_bounds (days : ℤ) :
    (days + 719468) / 146097 * 400 ≤ (ofDays days).year ∧
      (ofDays days).year ≤ (days + 719468) / 146097 * 400 + 400 := by
  simp only [ofDays]
  split <;> omega

namespace Instant

/-- What a clock shows outside of leap seconds, in the years from 0 to 9999. -/
structure IsReading (t : Instant) : Prop where
  isPlain : t.IsPlain
  year : 0 ≤ (CivilDate.ofDays (t.seconds / 86400)).year ∧
    (CivilDate.ofDays (t.seconds / 86400)).year ≤ 9999

/-- The instant can be represented, and lies outside of leap seconds. -/
structure IsCivil (t : Instant) : Prop where
  isPlain : t.IsPlain
  inRange : t.InRange

/-- The instant can be represented, and is later than the one that it is the end
for. -/
structure EndsAfter (t now : Instant) : Prop where
  later : now < t
  inRange : t.InRange

variable {t now : Instant} {d : Span}

theorem IsReading.seconds_bounds (h : t.IsReading) :
    -75000000000 ≤ t.seconds ∧ t.seconds ≤ 254000000000 := by
  have hbounds := CivilDate.year_ofDays_bounds (t.seconds / 86400)
  have hyear := h.year
  omega

theorem inRange_of_seconds
    (hlo : -8000000000000 ≤ t.seconds) (hhi : t.seconds ≤ 8000000000000) :
    t.InRange := by
  have hbounds := CivilDate.year_ofDays_bounds (t.seconds / 86400)
  refine isYear_iff.mpr ⟨?_, ?_⟩
  all_goals omega

theorem InRange.seconds_bounds (h : t.InRange) :
    -8400000000000 ≤ t.seconds ∧ t.seconds ≤ 8400000000000 := by
  have hbounds := CivilDate.year_ofDays_bounds (t.seconds / 86400)
  have hyear := isYear_iff.mp h
  omega

theorem IsReading.inRange (h : t.IsReading) : t.InRange := by
  obtain ⟨hlo, hhi⟩ := h.seconds_bounds
  exact inRange_of_seconds (by omega) (by omega)

theorem IsReading.isCivil (h : t.IsReading) : t.IsCivil :=
  ⟨h.isPlain, h.inRange⟩

theorem IsPlain.seconds_add (h : t.IsPlain) (d : Span) :
    (t + d).seconds = t.seconds + (t.nanos + d.nanos) / Span.perSecond := by
  rw [h.add_eq]
  simp only [ofNanos, toNanos, Span.perSecond]
  omega

/-- What lies between a reading of a clock and the end of a delay from then on can be
represented. -/
theorem IsReading.inRange_of_le
    (h : now.IsReading) (hd : d.IsDelay) (hlo : now ≤ t) (hhi : t ≤ now + d) :
    t.InRange := by
  obtain ⟨hfirst, hlast⟩ := h.seconds_bounds
  have hplain := h.isPlain
  have hsum := hplain.seconds_add d
  obtain ⟨hnonneg, hle⟩ := hd
  rw [le_def] at hlo hhi
  simp only [IsPlain, Span.longestTerm, Span.days, Span.seconds, Span.perSecond] at *
  exact inRange_of_seconds (by omega) (by omega)

theorem IsReading.isCivil_add (h : now.IsReading) (hd : d.IsDelay) :
    (now + d).IsCivil where
  isPlain := h.isPlain.isPlain_add d
  inRange := h.inRange_of_le hd (h.isPlain.le_add hd.nonneg) (le_refl _)

theorem IsReading.endsAfter_add (h : now.IsReading) (hd : d.IsTerm) :
    (now + d).EndsAfter now where
  later := h.isPlain.lt_add hd.pos
  inRange := (h.isCivil_add hd.toIsDelay).inRange

theorem le_of_lt {a b : Instant} (h : a < b) : a ≤ b := by
  rw [lt_def] at h
  rw [le_def]
  omega

/-- A term that is cut off at a later instant ends later, too. -/
theorem IsReading.endsAfter_min
    (h : now.IsReading) (hd : d.IsTerm) (hlater : now < t) :
    (min (now + d) t).EndsAfter now where
  later := lt_min (h.endsAfter_add hd).later hlater
  inRange := by
    have hle : now ≤ min (now + d) t :=
      le_of_lt (lt_min (h.endsAfter_add hd).later hlater)
    exact h.inRange_of_le hd.toIsDelay hle (min_le_left _ _)

theorem IsCivil.fits_since {a b : Instant} (ha : a.IsCivil) (hb : b.IsCivil) :
    (a.since b).Fits := by
  have hfirst := ha.inRange.seconds_bounds
  have hlast := hb.inRange.seconds_bounds
  have hplain := ha.isPlain
  have hplain' := hb.isPlain
  rw [ha.isPlain.since_eq hb.isPlain]
  simp only [IsPlain, Span.Fits, Span.longest, Span.millis, toNanos, Span.perSecond] at *
  omega

theorem IsPlain.ofNanos_toNanos (h : t.IsPlain) : ofNanos t.toNanos = t := by
  simp only [IsPlain] at h
  obtain ⟨seconds, nanos⟩ := t
  simp only [ofNanos, toNanos, Span.perSecond, mk.injEq] at *
  omega

/-- The wait until an instant ends then, or at once if the instant has passed. -/
theorem IsPlain.add_max_since {a b : Instant} (ha : a.IsPlain) (hb : b.IsPlain) :
    b + Span.max (a.since b) .zero = if b ≤ a then a else b := by
  rw [hb.add_eq, ha.since_eq hb]
  by_cases h : b ≤ a
  · have hle := (hb.le_iff ha).mp h
    have hmax : Span.max ⟨a.toNanos - b.toNanos⟩ .zero = ⟨a.toNanos - b.toNanos⟩ :=
      if_pos (show (0 : ℤ) ≤ a.toNanos - b.toNanos by omega)
    rw [if_pos h, hmax]
    simpa using ha.ofNanos_toNanos
  · have hlt := mt (hb.le_iff ha).mpr h
    have hmax : Span.max ⟨a.toNanos - b.toNanos⟩ .zero = .zero :=
      if_neg (show ¬(0 : ℤ) ≤ a.toNanos - b.toNanos by omega)
    rw [if_neg h, hmax]
    simpa [Span.zero] using hb.ofNanos_toNanos

end Instant

end AccountAuthority
