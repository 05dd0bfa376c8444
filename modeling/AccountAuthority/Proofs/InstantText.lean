import AccountAuthority.Proofs.CivilDays
import AccountAuthority.Proofs.Instants
import AccountAuthority.Time.Rfc3339
import Mathlib.Tactic.NormNum

/-!
# Instants that are read back

The text of an instant is read as the instant, as long as the calendar reaches
its year.  Each part of the text is read by its own function up to the part that
follows, and the date that has been read has the day number that it was made of.
A leap second is written as second 60, and what is read as second 60 is a leap
second again.
-/

namespace AccountAuthority

theorem Text.isBlank_of_isDigit {c : Char} (h : c.isDigit = true) :
    Text.isBlank c = false := by
  obtain ⟨hlo, hhi⟩ := Char.isDigit_iff_toNat.mp h
  have hlo : 48 ≤ c.toNat := hlo
  have hhi : c.toNat ≤ 57 := hhi
  simp [Text.isBlank]
  omega

theorem Text.trimStartChars_cons
    {c : Char} (h : Text.isBlank c = false) (cs : List Char) :
    Text.trimStartChars (c :: cs) = c :: cs := by
  simp [Text.trimStartChars, h]

theorem Text.trimStartChars_append
    {ds : List Char} (hne : ds ≠ []) (hds : ∀ c ∈ ds, c.isDigit = true)
    (cs : List Char) : Text.trimStartChars (ds ++ cs) = ds ++ cs := by
  cases ds with
  | nil => exact absurd rfl hne
  | cons c ds =>
      exact trimStartChars_cons (isBlank_of_isDigit (hds c List.mem_cons_self)) _

theorem Json.digitsValue_eq (ds : List Char) :
    Json.digitsValue ds = Nat.ofDigitChars 10 ds 0 := by
  simp only [Json.digitsValue, Nat.ofDigitChars_eq_foldl, Nat.mul_comm]

namespace Instant

/-- What has been read is passed on.  Later proofs rewrite with this equation,
since checking it by computation would open what reads the rest. -/
theorem ok_bind
    {ε α β : Type} (a : α) (f : α → Except ε β) : (.ok a >>= f) = f a :=
  rfl

/-! ## Numbers -/

section

variable {width n : ℕ}

theorem isDigit_of_mem_padded {c : Char} (h : c ∈ padded width n) :
    c.isDigit = true := by
  simp only [padded, List.mem_append] at h
  rcases h with hzero | hdigit
  · rw [List.eq_of_mem_replicate hzero]
    rfl
  · rw [Nat.toString_eq_ofList_toDigits, String.toList_ofList] at hdigit
    exact Nat.isDigit_of_mem_toDigits (b := 10) (by decide) (by decide) hdigit

theorem padded_ne_nil : padded width n ≠ [] := by
  have hpos := Nat.length_toDigits_pos (b := 10) (n := n)
  simp [padded, ← List.length_eq_zero_iff]
  omega

/-- A number that fits into the width is written in just that many digits. -/
theorem length_padded (hn : n < 10 ^ width) (hwidth : 0 < width) :
    (padded width n).length = width := by
  have hle := (Nat.length_toDigits_le_iff (by decide) hwidth).mpr hn
  simp [padded]
  omega

theorem digitsValue_padded : Json.digitsValue (padded width n) = n := by
  rw [Json.digitsValue_eq, padded, Nat.toString_eq_ofList_toDigits,
    String.toList_ofList, Nat.ofDigitChars_append, Nat.ofDigitChars_replicate_zero,
    Nat.mul_zero, Nat.ofDigitChars_ten_toDigits]

end

/-- What follows a number does not begin with a digit. -/
def EndsNumber (cs : List Char) : Prop :=
  ∀ c ∈ cs.head?, c.isDigit = false

theorem takeWhile_isDigit_append
    {ds cs : List Char} (hds : ∀ c ∈ ds, c.isDigit = true) (hcs : EndsNumber cs) :
    (ds ++ cs).takeWhile Char.isDigit = ds := by
  rw [List.takeWhile_append_of_pos hds]
  cases cs with
  | nil => exact List.append_nil ds
  | cons c cs =>
      have hc : c.isDigit = false := hcs c rfl
      simp [hc]

/-- A number is read up to the width, or up to what is not a digit. -/
theorem digitsUpTo_append
    {width : ℕ} {ds cs : List Char} (hne : ds ≠ [])
    (hds : ∀ c ∈ ds, c.isDigit = true) (hlength : ds.length ≤ width)
    (hcs : ds.length = width ∨ EndsNumber cs) :
    digitsUpTo width (ds ++ cs) = .ok (Json.digitsValue ds, cs) := by
  have hends : EndsNumber (cs.take (width - ds.length)) := by
    rcases hcs with heq | hcs
    · simp [EndsNumber, heq]
    · intro c hc
      refine hcs c ?_
      cases cs with
      | nil => simp at hc
      | cons d cs =>
          cases hleft : width - ds.length with
          | zero => simp [hleft] at hc
          | succ n => simpa [hleft] using hc
  have htaken : ((ds ++ cs).take width).takeWhile Char.isDigit = ds := by
    rw [List.take_append, List.take_of_length_le hlength]
    exact takeWhile_isDigit_append hds hends
  rw [digitsUpTo, htaken]
  simp [hne]

theorem two_padded
    {lo hi n : ℕ} (hlo : lo ≤ n) (hhi : n ≤ hi) (hn : n < 100) (cs : List Char) :
    two lo hi (padded 2 n ++ cs) = .ok (n, cs) := by
  have hlength : (padded 2 n).length = 2 := length_padded hn (by decide)
  rw [two, Text.trimStartChars_append padded_ne_nil fun _ => isDigit_of_mem_padded,
    digitsUpTo_append padded_ne_nil (fun _ => isDigit_of_mem_padded) hlength.le
      (Or.inl hlength)]
  simp [ok_bind, digitsValue_padded, hlo, hhi]

theorem separator_cons
    {c : Char} (hc : Text.isBlank c = false) (cs : List Char) :
    separator c (c :: cs) = .ok cs := by
  rw [separator, Text.trimStartChars_cons hc]
  exact if_pos rfl

/-! ## The year and the fraction -/

theorem isYear_iff {y : ℤ} : isYear y = true ↔ -262143 ≤ y ∧ y ≤ 262142 := by
  rw [isYear, Bool.and_eq_true, decide_eq_true_iff, decide_eq_true_iff]
  rfl

/-- A text that begins with a digit has no sign. -/
theorem year_of_digits
    {ds cs : List Char} (hne : ds ≠ []) (hds : ∀ c ∈ ds, c.isDigit = true)
    {parsed : ℕ × List Char} (hread : digitsUpTo 4 (ds ++ cs) = .ok parsed) :
    year (ds ++ cs) = yearOf false parsed := by
  rw [year, Text.trimStartChars_append hne hds]
  cases ds with
  | nil => exact absurd rfl hne
  | cons c ds =>
      have hc := hds c List.mem_cons_self
      have hminus : c ≠ '-' := by
        rintro rfl
        exact absurd hc (by decide)
      have hplus : c ≠ '+' := by
        rintro rfl
        exact absurd hc (by decide)
      split
      next heq => exact absurd (List.cons.inj heq).1 hminus
      next heq => exact absurd (List.cons.inj heq).1 hplus
      · rw [hread, ok_bind]

theorem year_of_minus (cs : List Char) :
    year ('-' :: cs) = digitsUpTo cs.length cs >>= yearOf true := by
  rw [year, Text.trimStartChars_cons (by rfl)]
  rfl

theorem year_of_plus (cs : List Char) :
    year ('+' :: cs) = digitsUpTo cs.length cs >>= yearOf false := by
  rw [year, Text.trimStartChars_cons (by rfl)]
  rfl

theorem yearOf_eq
    {y : ℤ} (hy : isYear y = true) {negative : Bool} {n : ℕ}
    (hn : (if negative then -(n : ℤ) else n) = y) (cs : List Char) :
    yearOf negative (n, cs) = .ok (y, cs) := by
  obtain ⟨hlo, hhi⟩ := isYear_iff.mp hy
  have hfits : -0x80000000 ≤ y ∧ y < 0x80000000 :=
    ⟨Int.le_trans (by decide) hlo, Int.lt_of_le_of_lt hhi (by decide)⟩
  simp only [yearOf, hn]
  rw [if_pos hfits]

theorem year_yearChars {y : ℤ} (hy : isYear y = true) {cs : List Char}
    (hcs : EndsNumber cs) : year (yearChars y ++ cs) = .ok (y, cs) := by
  have hdigits (n : ℕ) : ∀ c ∈ padded 4 n, c.isDigit = true :=
    fun _ => isDigit_of_mem_padded
  have hsigned (n : ℕ) :
      digitsUpTo (padded 4 n ++ cs).length (padded 4 n ++ cs) = .ok (n, cs) := by
    rw [digitsUpTo_append padded_ne_nil (hdigits n) (by simp) (Or.inr hcs),
      digitsValue_padded]
  unfold yearChars
  by_cases hshort : 0 ≤ y ∧ y ≤ 9999
  · obtain ⟨hlo, hhi⟩ := hshort
    have hlength : (padded 4 y.toNat).length = 4 := by
      refine length_padded ?_ (by decide)
      norm_num
      omega
    have hread : digitsUpTo 4 (padded 4 y.toNat ++ cs) = .ok (y.toNat, cs) := by
      rw [digitsUpTo_append padded_ne_nil (hdigits _) hlength.le (Or.inl hlength),
        digitsValue_padded]
    rw [if_pos ⟨hlo, hhi⟩, year_of_digits padded_ne_nil (hdigits _) hread]
    refine yearOf_eq hy ?_ cs
    rw [if_neg Bool.false_ne_true, Int.toNat_of_nonneg hlo]
  · rw [if_neg hshort, List.cons_append]
    by_cases hneg : y < 0
    · rw [if_pos hneg, year_of_minus, hsigned, ok_bind]
      refine yearOf_eq hy ?_ cs
      rw [if_pos rfl]
      omega
    · rw [if_neg hneg, year_of_plus, hsigned, ok_bind]
      refine yearOf_eq hy ?_ cs
      rw [if_neg Bool.false_ne_true]
      omega

theorem endsNumber_cons {c : Char} (hc : c.isDigit = false) (cs : List Char) :
    EndsNumber (c :: cs) := by
  intro d hd
  obtain rfl := Option.some.inj hd
  exact hc

/-- Places that are left out are zeros. -/
theorem fraction_padded
    {width n : ℕ} (hn : n < 10 ^ width) (hwidth : 0 < width) (hle : width ≤ 9)
    {cs : List Char} (hcs : EndsNumber cs) :
    fraction ('.' :: (padded width n ++ cs)) = .ok (n * 10 ^ (9 - width), cs) := by
  have hlength := length_padded hn hwidth
  have hdigits : (padded width n ++ cs).takeWhile Char.isDigit = padded width n :=
    takeWhile_isDigit_append (fun _ => isDigit_of_mem_padded) hcs
  have hkept : (padded width n).take 9 = padded width n :=
    List.take_of_length_le (hlength.trans_le hle)
  simp only [fraction, hdigits, hkept, digitsValue_padded, hlength]
  rw [if_neg (by simp [padded_ne_nil]), List.drop_left' hlength]
  rfl

theorem fraction_fractionChars
    {nanos : ℕ} (hnanos : nanos < 1000000000) {cs : List Char}
    (hcs : EndsNumber cs) (hdot : ∀ rest, cs ≠ '.' :: rest) :
    fraction (fractionChars nanos ++ cs) = .ok (nanos, cs) := by
  unfold fractionChars
  split
  next hzero =>
    rw [hzero, List.nil_append, fraction]
    exact hdot
  split
  next hmillis =>
    rw [List.cons_append, fraction_padded (by omega) (by decide) (by decide) hcs]
    congr 2
    omega
  split
  next hmicros =>
    rw [List.cons_append, fraction_padded (by omega) (by decide) (by decide) hcs]
    congr 2
    omega
  · rw [List.cons_append, fraction_padded (by omega) (by decide) (by decide) hcs]
    congr 2
    omega

/-! ## The whole text -/

/-- The second of its minute and the nanoseconds into it that an instant is
written with, where `ofDay` is its second of the day. -/
def written (t : Instant) (ofDay : ℕ) : ℕ × ℕ :=
  if t.isLeap then (ofDay % 60 + 1, t.nanos - 1000000000)
  else (ofDay % 60, t.nanos)

theorem bounds_of_written
    {t : Instant} (ht : t.IsProper) {ofDay second nanos : ℕ}
    (hwritten : t.written ofDay = (second, nanos)) :
    second ≤ 60 ∧ nanos < 1000000000 := by
  have hnanos := ht.nanos
  unfold written at hwritten
  split at hwritten
  next => obtain ⟨rfl, rfl⟩ := Prod.mk.inj hwritten; omega
  next hplain =>
    obtain ⟨rfl, rfl⟩ := Prod.mk.inj hwritten
    have : t.IsPlain := isPlain_iff.mpr (Bool.eq_false_iff.mpr hplain)
    simp only [IsPlain] at this
    omega

/-- A date and a time are those of the instant that they were made of. -/
theorem ofLocal_written
    {t : Instant} (ht : t.IsProper)
    (hyear : isYear (CivilDate.ofDays (t.seconds / 86400)).year = true)
    {ofDay second nanos : ℕ} (hofDay : (ofDay : ℤ) = t.seconds % 86400)
    (hwritten : t.written ofDay = (second, nanos)) :
    ofLocal (CivilDate.ofDays (t.seconds / 86400)) (ofDay / 3600)
      (ofDay / 60 % 60) second nanos 0 = .ok t := by
  have hvalid := CivilDate.isValid_ofDays (t.seconds / 86400)
  have hread : (if second = 60 then (59, nanos + 1000000000) else (second, nanos)) =
      (ofDay % 60, t.nanos) := by
    unfold written at hwritten
    split at hwritten
    next hleap =>
      obtain ⟨rfl, rfl⟩ := Prod.mk.inj hwritten
      have hlast := ht.leap hleap
      have hnanos : 1000000000 ≤ t.nanos := by simpa [isLeap] using hleap
      have hsecond : ofDay % 60 = 59 := by omega
      rw [hsecond, if_pos rfl, Nat.sub_add_cancel hnanos]
    next =>
      obtain ⟨rfl, rfl⟩ := Prod.mk.inj hwritten
      exact if_neg (by omega)
  have hseconds : t.seconds / 86400 * 86400 + ((ofDay / 3600 : ℕ) * 3600 +
      (ofDay / 60 % 60 : ℕ) * 60 + (ofDay % 60 : ℕ)) - 0 = t.seconds := by
    omega
  rw [ofLocal, if_pos ⟨hvalid, hyear, by decide, by decide⟩, hread]
  simp only [CivilDate.toDays_ofDays, hseconds]
  rw [if_pos hyear]

/-- The calendar reaches the year that an instant lies in. -/
def InRange (t : Instant) : Prop :=
  isYear (CivilDate.ofDays (t.seconds / 86400)).year = true

theorem ofChars_toChars {t : Instant} (ht : t.IsProper) (hrange : t.InRange) :
    ofChars t.toChars = .ok t := by
  obtain ⟨ofDay, hofDay⟩ : ∃ ofDay : ℕ, (ofDay : ℤ) = t.seconds % 86400 :=
    ⟨(t.seconds % 86400).toNat, by omega⟩
  have hlast : ofDay < 86400 := by omega
  obtain ⟨second, nanos, hwritten⟩ : ∃ second nanos, t.written ofDay = (second, nanos) :=
    ⟨_, _, rfl⟩
  have hlocal := ofLocal_written ht hrange hofDay hwritten
  obtain ⟨hsecond, hnanos⟩ := bounds_of_written ht hwritten
  have hvalid := CivilDate.isValid_ofDays (t.seconds / 86400)
  have htoNat : (t.seconds % 86400).toNat = ofDay := by omega
  have hyear : isYear (CivilDate.ofDays (t.seconds / 86400)).year = true := hrange
  rw [written] at hwritten
  rw [toChars]
  simp only [htoNat, hwritten, List.append_assoc, List.cons_append]
  generalize CivilDate.ofDays (t.seconds / 86400) = date at *
  obtain ⟨hmonth, hday⟩ := CivilDate.bounds_of_isValid hvalid
  have hminus (cs : List Char) : EndsNumber ('-' :: cs) := endsNumber_cons rfl cs
  have hzone : EndsNumber ['Z'] := endsNumber_cons rfl []
  rw [ofChars, year_yearChars hyear (hminus _), ok_bind]
  dsimp only
  rw [separator_cons rfl, ok_bind, two_padded hmonth.1 hmonth.2 (by omega), ok_bind]
  dsimp only
  rw [separator_cons rfl, ok_bind, two_padded hday.1 hday.2 (by omega), ok_bind]
  dsimp only
  rw [dateEnd, ok_bind, two_padded (by omega) (by omega) (by omega), ok_bind]
  dsimp only
  rw [separator_cons rfl, ok_bind, two_padded (by omega) (by omega) (by omega), ok_bind]
  dsimp only
  rw [separator_cons rfl, ok_bind, two_padded (Nat.zero_le _) hsecond (by omega), ok_bind]
  dsimp only
  rw [fraction_fractionChars hnanos hzone (by simp), ok_bind]
  dsimp only
  have hread : zone ['Z'] = .ok (0, []) := rfl
  have hover : (Text.trimStartChars []).isEmpty = true := rfl
  rw [Text.trimStartChars_cons rfl, hread, ok_bind, if_pos hover]
  exact hlocal

/-- The text of an instant is read as the instant. -/
theorem parse_toString {t : Instant} (ht : t.IsProper) (hrange : t.InRange) :
    parse (toString t) = .ok t := by
  have hchars : (toString t).toList = t.toChars := String.toList_ofList
  rw [parse, hchars, ofChars_toChars ht hrange]

end Instant

end AccountAuthority
