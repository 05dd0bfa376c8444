import AccountAuthority.Time.Calendar
import Mathlib.Tactic.IntervalCases

/-!
# Days and dates

Every day number stands for a valid date, and the date stands for the day
number.  An era of 400 years is taken apart into centuries, spans of four years,
years and days, from which the year of the era can be read off.
-/

namespace AccountAuthority.CivilDate

/-- The day `n` of an era lies in the century `c`, there in the span `q` of four
years, there in the year `y`, and is its day `d`, all counted from zero.  Only
the year before a leap day has a day 365. -/
structure EraDay (n c q y d : Int) : Prop where
  century : 0 ≤ c ∧ c ≤ 3
  quarter : 0 ≤ q ∧ q ≤ 24
  year : 0 ≤ y ∧ y ≤ 3
  day : 0 ≤ d ∧ d ≤ 365
  sum : n = 36524 * c + 1461 * q + 365 * y + d
  leap : d = 365 → y = 3 ∧ (q = 24 → c = 3)

theorem exists_eraDay {n : Int} (h₀ : 0 ≤ n) (h₁ : n < 146097) :
    ∃ c q y d, EraDay n c q y d := by
  obtain ⟨c, r, hc, hr, hn⟩ : ∃ c r, (0 ≤ c ∧ c ≤ 3) ∧
      (0 ≤ r ∧ (r < 36524 ∨ (c = 3 ∧ r = 36524))) ∧ n = 36524 * c + r :=
    ⟨min (n / 36524) 3, n - 36524 * min (n / 36524) 3,
      by omega, by omega, by omega⟩
  -- The last day of a span of four years belongs to its last year.
  exact ⟨c, r / 1461, min (r % 1461 / 365) 3,
    r % 1461 - 365 * min (r % 1461 / 365) 3,
    hc, by omega, by omega, by omega, by omega, by omega⟩

namespace EraDay

variable {n c q y d : Int}

theorem century_eq (h : EraDay n c q y d) : n / 36524 - n / 146096 = c := by
  obtain ⟨hc, hq, hy, hd, hsum, hleap⟩ := h
  obtain ⟨r, hr⟩ : ∃ r, r = 1461 * q + 365 * y + d := ⟨_, rfl⟩
  have hlast : r ≤ 36523 ∨ (c = 3 ∧ r = 36524) := by omega
  have hn : n = 36524 * c + r := by omega
  have hr₀ : 0 ≤ r := by omega
  clear hsum hr hleap
  rcases hlast with hlt | ⟨rfl, rfl⟩
  · have hdiv : n / 36524 = c := by omega
    have hera : n / 146096 = 0 := by omega
    omega
  · omega

theorem yearOfEra_eq (h : EraDay n c q y d) :
    (n - n / 1460 + n / 36524 - n / 146096) / 365 = 100 * c + 4 * q + y := by
  have hcentury := h.century_eq
  obtain ⟨hc, hq, hy, hd, hsum, hleap⟩ := h
  have hquarter : n / 1460 = 25 * c + q + (24 * c + q + 365 * y + d) / 1460 := by
    omega
  have hshift : (24 * c + q + 365 * y + d) / 1460 = 0 ∨
      ((24 * c + q + 365 * y + d) / 1460 = 1 ∧ y = 3 ∧ 1 ≤ d) := by omega
  rcases hshift with hzero | ⟨hone, hlast, hpos⟩
  · have hd' : d ≤ 364 := by omega
    omega
  · omega

end EraDay

theorem isLeapYear_add_era (year era : Int) :
    isLeapYear (year + era * 400) = isLeapYear year := by
  have h₄ : (year + era * 400) % 4 = year % 4 := by omega
  have h₁₀₀ : (year + era * 400) % 100 = year % 100 := by omega
  have h₄₀₀ : (year + era * 400) % 400 = year % 400 := by omega
  simp only [isLeapYear, h₄, h₁₀₀, h₄₀₀]

/-- The year of the era that a day lies in, and the place of the day in that
year. -/
theorem exists_yearOfEra {n : Int} (h₀ : 0 ≤ n) (h₁ : n < 146097) :
    ∃ year day, (n - n / 1460 + n / 36524 - n / 146096) / 365 = year ∧
      n - (365 * year + year / 4 - year / 100) = day ∧
      (0 ≤ year ∧ year ≤ 399) ∧ (0 ≤ day ∧ day ≤ 365) ∧
      (day = 365 → isLeapYear (year + 1) = true) := by
  obtain ⟨c, q, y, d, h⟩ := exists_eraDay h₀ h₁
  refine ⟨100 * c + 4 * q + y, d, h.yearOfEra_eq, ?_⟩
  obtain ⟨hc, hq, hy, hd, hsum, hleap⟩ := h
  have h₄ : (100 * c + 4 * q + y) / 4 = 25 * c + q := by omega
  have h₁₀₀ : (100 * c + 4 * q + y) / 100 = c := by omega
  refine ⟨?_, by omega, hd, fun hlast => ?_⟩
  · rw [h₄, h₁₀₀]
    omega
  · obtain ⟨rfl, hcentury⟩ := hleap hlast
    have hfour : (100 * c + 4 * q + 3 + 1) % 4 = 0 := by omega
    have hrule : (100 * c + 4 * q + 3 + 1) % 100 ≠ 0 ∨
        (100 * c + 4 * q + 3 + 1) % 400 = 0 := by
      by_cases hq' : q = 24
      · right
        omega
      · left
        omega
    simpa [isLeapYear, hfour] using hrule

/-- The date of the day `day` of a year that begins in March. -/
def ofMarch (year day : Int) : CivilDate :=
  let month := (5 * day + 2) / 153
  let dayOfMonth := (day - (153 * month + 2) / 5 + 1).toNat
  if month < 10 then ⟨year, (month + 3).toNat, dayOfMonth⟩
  else ⟨year + 1, (month - 9).toNat, dayOfMonth⟩

section

variable {year era day : Int}

theorem toDays_ofMarch
    (hyear : 0 ≤ year ∧ year ≤ 399) (hday : 0 ≤ day ∧ day ≤ 365) :
    (ofMarch (year + era * 400) day).toDays =
      era * 146097 + (365 * year + year / 4 - year / 100 + day) - 719468 := by
  obtain ⟨month, hmonth⟩ : ∃ month, month = (5 * day + 2) / 153 := ⟨_, rfl⟩
  have hera : (year + era * 400) / 400 = era := by omega
  have hyearOfEra : (year + era * 400) % 400 = year := by omega
  have hdayOfMonth : 0 ≤ day - (153 * month + 2) / 5 + 1 := by omega
  have hfirst : 0 ≤ month ∧ month ≤ 11 := by omega
  simp only [ofMarch, ← hmonth]
  clear hmonth
  by_cases hlt : month < 10
  · have hthird : ¬(month + 3).toNat ≤ 2 := by omega
    have hcast : ((month + 3).toNat : Int) - 3 = month := by omega
    simp only [if_pos hlt, toDays, if_neg hthird, hera, hyearOfEra, hcast,
      Int.toNat_of_nonneg hdayOfMonth]
    omega
  · have hthird : (month - 9).toNat ≤ 2 := by omega
    have hcast : ((month - 9).toNat : Int) + 9 = month := by omega
    have hlast : year + era * 400 + 1 - 1 = year + era * 400 := by omega
    simp only [if_neg hlt, toDays, if_pos hthird, hlast, hera, hyearOfEra, hcast,
      Int.toNat_of_nonneg hdayOfMonth]
    omega

/-- The months from March on have the lengths that the date is computed by. -/
theorem isValid_ofMarch
    {y : Int} (hday : 0 ≤ day ∧ day ≤ 365)
    (hleap : day = 365 → isLeapYear (y + 1) = true) :
    (ofMarch y day).isValid = true := by
  obtain ⟨month, hmonth⟩ : ∃ month, month = (5 * day + 2) / 153 := ⟨_, rfl⟩
  have hmonths : 0 ≤ month ∧ (month ≤ 10 ∨ month = 11) := by omega
  obtain ⟨hlo, hhi | rfl⟩ := hmonths
  · simp only [ofMarch, ← hmonth]
    interval_cases month
    all_goals
      simp [isValid, daysInMonth]
      omega
  · -- February, the length of which depends on the year.
    simp only [ofMarch, ← hmonth]
    by_cases hlast : day = 365
    · simp [isValid, daysInMonth, hleap hlast, hlast]
    · simp [isValid, daysInMonth]
      split
      all_goals omega

end

/-- A day number is that of a day of a year of an era. -/
theorem exists_ofMarch (days : Int) :
    ∃ year era day, ofDays days = ofMarch (year + era * 400) day ∧
      days + 719468 =
        era * 146097 + (365 * year + year / 4 - year / 100 + day) ∧
      (0 ≤ year ∧ year ≤ 399) ∧ (0 ≤ day ∧ day ≤ 365) ∧
      (day = 365 → isLeapYear (year + era * 400 + 1) = true) := by
  obtain ⟨n, hn⟩ : ∃ n, n = (days + 719468) % 146097 := ⟨_, rfl⟩
  obtain ⟨era, hera⟩ : ∃ era, era = (days + 719468) / 146097 := ⟨_, rfl⟩
  have hsum : days + 719468 = era * 146097 + n := by omega
  obtain ⟨year, day, hyear, hday, hyears, hdays, hleap⟩ :=
    exists_yearOfEra (n := n) (by omega) (by omega)
  refine ⟨year, era, day, ?_, by omega, hyears, hdays, fun hlast => ?_⟩
  · simp only [ofDays, ← hn, ← hera, hyear, hday, ofMarch]
    clear hn hera hsum hleap hyears hday hyear
    obtain ⟨month, hmonth⟩ : ∃ month, month = (5 * day + 2) / 153 := ⟨_, rfl⟩
    have hmonths : 0 ≤ month := by omega
    simp only [← hmonth]
    by_cases hlt : month < 10
    · have hthird : ¬month + 3 ≤ 2 := by omega
      simp only [if_pos hlt, if_neg hthird]
    · have hthird : month - 9 ≤ 2 := by omega
      simp only [if_neg hlt, if_pos hthird]
  · have hshift : year + era * 400 + 1 = year + 1 + era * 400 := by omega
    rw [hshift, isLeapYear_add_era]
    exact hleap hlast

theorem toDays_ofDays (days : Int) : (ofDays days).toDays = days := by
  obtain ⟨year, era, day, hofDays, hsum, hyear, hday, -⟩ := exists_ofMarch days
  rw [hofDays, toDays_ofMarch hyear hday]
  omega

theorem isValid_ofDays (days : Int) : (ofDays days).isValid = true := by
  obtain ⟨year, era, day, hofDays, -, -, hday, hleap⟩ := exists_ofMarch days
  rw [hofDays]
  exact isValid_ofMarch hday hleap

theorem daysInMonth_le (year : Int) (month : Nat) : daysInMonth year month ≤ 31 := by
  unfold daysInMonth
  split
  · split <;> decide
  all_goals decide

theorem bounds_of_isValid {d : CivilDate} (h : d.isValid = true) :
    (1 ≤ d.month ∧ d.month ≤ 12) ∧ 1 ≤ d.day ∧ d.day ≤ 31 := by
  simp only [isValid, Bool.and_eq_true, decide_eq_true_eq] at h
  obtain ⟨⟨⟨hlo, hhi⟩, hfirst⟩, hlast⟩ := h
  exact ⟨⟨hlo, hhi⟩, hfirst, hlast.trans (daysInMonth_le _ _)⟩

end AccountAuthority.CivilDate
