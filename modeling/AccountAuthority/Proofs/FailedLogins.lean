import AccountAuthority.Proofs.LoginCourses

/-!
# Failed logins

Logins with one source run one after the other, while the clock does not go back.
A window that opens at some time holds no more failures than are allowed, and as
long as it is open nothing follows them.  So an interval as long as a window meets
at most two windows, and of the first one it meets only what is left over from the
failure that opened it.
-/

namespace AccountAuthority

namespace RateLimiter

/-- The attempts one after the other, each with the limiter that it meets. -/
def encounters (c : ServiceSettings) : RateLimiter → List LoginAttempt → List LoginEncounter
  | _, [] => []
  | l, a :: attempts =>
      ⟨a, l⟩ :: ((⟨a, l⟩ : LoginEncounter).course c).limiter.encounters c attempts

/-- The limiter after attempts. -/
def afterLogins (c : ServiceSettings) (l : RateLimiter) (attempts : List LoginAttempt) :
    RateLimiter :=
  attempts.foldl (fun l a => ((⟨a, l⟩ : LoginEncounter).course c).limiter) l

/-- What the clock shows in the course of attempts. -/
def readings (c : ServiceSettings) (l : RateLimiter) (attempts : List LoginAttempt) :
    List Instant :=
  (l.encounters c attempts).flatMap fun e => (e.course c).readings

variable {c : ServiceSettings}

theorem readings_cons (l : RateLimiter) (a : LoginAttempt) (attempts : List LoginAttempt) :
    l.readings c (a :: attempts) = ((⟨a, l⟩ : LoginEncounter).course c).readings ++
      ((⟨a, l⟩ : LoginEncounter).course c).limiter.readings c attempts :=
  List.flatMap_cons

theorem encounters_append (l : RateLimiter) (attempts attempts' : List LoginAttempt) :
    l.encounters c (attempts ++ attempts') =
      l.encounters c attempts ++ (l.afterLogins c attempts).encounters c attempts' := by
  induction attempts generalizing l with
  | nil => rfl
  | cons a attempts ih =>
      rw [List.cons_append, encounters, encounters, ih]
      rfl

theorem readings_append (l : RateLimiter) (attempts attempts' : List LoginAttempt) :
    l.readings c (attempts ++ attempts') =
      l.readings c attempts ++ (l.afterLogins c attempts).readings c attempts' := by
  simp only [readings, encounters_append, List.flatMap_append]

theorem afterLogins_append (l : RateLimiter) (attempts attempts' : List LoginAttempt) :
    l.afterLogins c (attempts ++ attempts') =
      (l.afterLogins c attempts).afterLogins c attempts' :=
  List.foldl_append ..

theorem exists_split_of_mem_encounters
    {l : RateLimiter} {attempts : List LoginAttempt} {e : LoginEncounter}
    (h : e ∈ l.encounters c attempts) :
    ∃ before after, attempts = before ++ e.toLoginAttempt :: after ∧
      e.limiter = l.afterLogins c before := by
  induction attempts generalizing l with
  | nil => exact absurd h List.not_mem_nil
  | cons a attempts ih =>
      rcases List.mem_cons.mp h with rfl | h
      · exact ⟨[], attempts, rfl, rfl⟩
      · obtain ⟨before, after, rfl, hlimiter⟩ := ih h
        exact ⟨a :: before, after, rfl, hlimiter⟩

theorem checkedAt_mem_readings
    {l : RateLimiter} {attempts : List LoginAttempt} {a : LoginAttempt}
    (ha : a ∈ attempts) : a.checkedAt ∈ l.readings c attempts := by
  induction attempts generalizing l with
  | nil => exact absurd ha List.not_mem_nil
  | cons b attempts ih =>
      rw [readings_cons]
      rcases List.mem_cons.mp ha with rfl | ha
      · rw [LoginEncounter.readings_eq]
        exact List.mem_append_left _ List.mem_cons_self
      · exact List.mem_append_right _ (ih ha)

theorem afterLogins_concat (l : RateLimiter) (attempts : List LoginAttempt)
    (a : LoginAttempt) :
    l.afterLogins c (attempts ++ [a]) =
      ((⟨a, l.afterLogins c attempts⟩ : LoginEncounter).course c).limiter :=
  afterLogins_append ..

end RateLimiter

/-- Readings of a clock that does not go back, none of them inside of a leap
second. -/
structure ReadInOrder (readings : List Instant) : Prop where
  plain : ∀ t ∈ readings, t.IsPlain
  sorted : readings.Pairwise (· ≤ ·)

namespace ReadInOrder

variable {ts us : List Instant}

theorem left (h : ReadInOrder (ts ++ us)) : ReadInOrder ts where
  plain t ht := h.plain t (List.mem_append_left us ht)
  sorted := (List.pairwise_append.mp h.sorted).1

theorem right (h : ReadInOrder (ts ++ us)) : ReadInOrder us where
  plain t ht := h.plain t (List.mem_append_right ts ht)
  sorted := (List.pairwise_append.mp h.sorted).2.1

theorem le (h : ReadInOrder (ts ++ us)) {t u : Instant} (ht : t ∈ ts) (hu : u ∈ us) :
    t ≤ u :=
  (List.pairwise_append.mp h.sorted).2.2 t ht u hu

end ReadInOrder

/-! ## What a login leaves of a window -/

namespace LoginEncounter

variable {c : ServiceSettings} {e : LoginEncounter}

/-- The login makes a few calls of the limiter for its source, one of which counts
a failure only if it fails. -/
theorem exists_calls (c : ServiceSettings) (e : LoginEncounter) :
    ∃ calls : List LimiterCall, (e.course c).limiter = e.limiter.run calls ∧
      ∀ s now, .failure s now ∈ calls → e.Fails c ∧ now = e.failedAt := by
  by_cases hfails : e.Fails c
  · refine ⟨[.check e.source e.checkedAt, .failure e.source e.failedAt], ?_, ?_⟩
    · rw [course_of_fails hfails]
      rfl
    · intro s now hmem
      simp only [List.mem_cons, reduceCtorEq, LimiterCall.failure.injEq,
        List.not_mem_nil, or_false, false_or] at hmem
      exact ⟨hfails, hmem.2⟩
  · by_cases hsucceeds : e.Succeeds c
    · refine ⟨[.check e.source e.checkedAt, .success e.source],
        (course_of_succeeds hsucceeds).1, ?_⟩
      intro s now hmem
      simp at hmem
    · refine ⟨[.check e.source e.checkedAt],
        (course_of_neither hfails hsucceeds).1, ?_⟩
      intro s now hmem
      simp at hmem

/-- The window that is open when the limiter is asked. -/
abbrev openAtCheck (e : LoginEncounter) : Option FailureWindow :=
  e.limiter.openWindow? e.source.key e.checkedAt

theorem get?_checked : e.checked.windows.get? e.source.key = e.openAtCheck :=
  (RateLimiter.get?_check ..).trans (if_pos rfl)

theorem closesAt_checked (w : FailureWindow) :
    e.checked.closesAt w = e.limiter.closesAt w :=
  congrArg (w.startedAt + ·)
    (RateLimiter.window_apply (.check e.source e.checkedAt) e.limiter)

/-- A login that fails met no lock.  Its failure is counted in the window that is
open at the check, if it is still open, and else opens a window. -/
theorem kept_of_fails (h : e.Fails c) :
    (∃ w, e.openAtCheck = some w ∧ w.failures < e.limiter.maxFailures ∧
      e.failedAt < e.limiter.closesAt w ∧
      (e.course c).limiter.windows.get? e.source.key =
        some { w with failures := w.failures + 1 }) ∨
    ((∀ w, e.openAtCheck = some w →
        w.failures < e.limiter.maxFailures ∧ e.limiter.closesAt w ≤ e.failedAt) ∧
      (e.course c).limiter.windows.get? e.source.key =
        some ⟨e.source.key, e.failedAt, 1⟩) := by
  have hroom := RateLimiter.check_eq_ok_iff.mp (fails_iff.mp h).1
  have hkept : (e.course c).limiter.windows.get? e.source.key =
      let w := (e.checked.openWindow? e.source.key e.failedAt).getD
        ⟨e.source.key, e.failedAt, 0⟩
      some { w with failures := w.failures + 1 } := by
    rw [course_of_fails h]
    exact (RateLimiter.get?_recordFailure ..).trans (if_pos rfl)
  cases hopen : e.openAtCheck with
  | none =>
      right
      rw [RateLimiter.openWindow?_of_none (get?_checked.trans hopen)] at hkept
      exact ⟨fun w hw => (nomatch hw), hkept⟩
  | some w =>
      rw [RateLimiter.openWindow?_of_some (get?_checked.trans hopen),
        closesAt_checked] at hkept
      by_cases hcloses : e.limiter.closesAt w ≤ e.failedAt
      · right
        rw [if_pos hcloses] at hkept
        refine ⟨fun v hv => ?_, hkept⟩
        obtain rfl := Option.some.inj hv
        exact ⟨hroom w hopen, hcloses⟩
      · left
        rw [if_neg hcloses] at hkept
        exact ⟨w, rfl, hroom w hopen, Instant.not_le.mp hcloses, hkept⟩

theorem kept_of_succeeds (h : e.Succeeds c) :
    (e.course c).limiter.windows.get? e.source.key = none := by
  rw [(course_of_succeeds h).1]
  exact (RateLimiter.get?_recordSuccess ..).trans (if_pos rfl)

theorem kept_of_neither (hfails : ¬e.Fails c) (hsucceeds : ¬e.Succeeds c) :
    (e.course c).limiter.windows.get? e.source.key = e.openAtCheck := by
  rw [(course_of_neither hfails hsucceeds).1, get?_checked]

end LoginEncounter

/-- The limiter locks after `m` failures for the span `d`, and the window that it
keeps under a text holds some failures, but no more. -/
structure RateLimiter.Sound (key : String) (m : ℕ) (d : Span) (l : RateLimiter) :
    Prop where
  maxFailures : l.maxFailures = m
  window : l.window = d
  starts : l.StartsPlain
  counted : ∀ w, l.windows.get? key = some w → 1 ≤ w.failures ∧ w.failures ≤ m

namespace RateLimiter

variable {c : ServiceSettings} {key : String} {m : ℕ} {d : Span} {l : RateLimiter}
  {attempts : List LoginAttempt}

theorem sound_create (key : String) (maxFailures : ℕ) (windowSeconds : ℤ) :
    (create maxFailures windowSeconds).Sound key (Max.max maxFailures 1)
      (.seconds windowSeconds) where
  maxFailures := rfl
  window := rfl
  starts := startsPlain_create maxFailures windowSeconds
  counted := fun _ h => nomatch h

theorem Sound.closesAt_eq (h : l.Sound key m d) (w : FailureWindow) :
    l.closesAt w = w.startedAt + d :=
  congrArg (w.startedAt + ·) h.window

theorem Sound.course
    {e : LoginEncounter} (h : e.limiter.Sound key m d) (hm : 1 ≤ m)
    (hkey : e.source.key = key) (hplain : ∀ t ∈ (e.course c).readings, t.IsPlain) :
    (e.course c).limiter.Sound key m d := by
  obtain ⟨calls, hcalls, hfailures⟩ := e.exists_calls c
  refine ⟨?_, ?_, ?_, ?_⟩
  · rw [hcalls, maxFailures_run, h.maxFailures]
  · rw [hcalls, window_run, h.window]
  · rw [hcalls]
    refine h.starts.run fun s now hmem => ?_
    obtain ⟨hfails, rfl⟩ := hfailures s now hmem
    apply hplain
    simp [LoginEncounter.readings_of_fails hfails]
  · subst hkey
    intro w hw
    have hopen : ∀ v, e.openAtCheck = some v → 1 ≤ v.failures ∧ v.failures ≤ m :=
      fun v hv => h.counted v (openWindow?_eq_some_iff.mp hv).1
    by_cases hfails : e.Fails c
    · rcases LoginEncounter.kept_of_fails hfails with ⟨v, hv, hroom, -, hkept⟩ | ⟨-, hkept⟩
      · obtain rfl := Option.some.inj (hkept.symm.trans hw)
        rw [h.maxFailures] at hroom
        exact ⟨Nat.le_add_left .., hroom⟩
      · obtain rfl := Option.some.inj (hkept.symm.trans hw)
        exact ⟨Nat.le_refl 1, hm⟩
    · by_cases hsucceeds : e.Succeeds c
      · rw [LoginEncounter.kept_of_succeeds hsucceeds] at hw
        exact nomatch hw
      · rw [LoginEncounter.kept_of_neither hfails hsucceeds] at hw
        exact hopen w hw

theorem Sound.afterLogins
    (h : l.Sound key m d) (hm : 1 ≤ m) (hkey : ∀ a ∈ attempts, a.source.key = key)
    (hplain : ∀ t ∈ l.readings c attempts, t.IsPlain) :
    (l.afterLogins c attempts).Sound key m d := by
  induction attempts generalizing l with
  | nil => exact h
  | cons a attempts ih =>
      obtain ⟨ha, hkey⟩ := List.forall_mem_cons.mp hkey
      rw [readings_cons] at hplain
      refine ih (h.course hm ha fun t ht => ?_) hkey fun t ht => ?_
      · exact hplain t (List.mem_append_left _ ht)
      · exact hplain t (List.mem_append_right _ ht)

end RateLimiter

/-! ## The failures within an interval -/

/-- The login fails, and while it runs some time of the interval passes that
begins at `t` and has the length `d`. -/
def LoginEncounter.FailsWithin
    (c : ServiceSettings) (t : Instant) (d : Span) (e : LoginEncounter) : Prop :=
  e.Fails c ∧ e.checkedAt < t + d ∧ t ≤ e.failedAt

instance (c : ServiceSettings) (e : LoginEncounter) : Decidable (e.Fails c) :=
  decidable_of_iff (e.verdict = .ok () ∧ (e.found.toOption.any fun found =>
    !c.hasher.verifyStored e.password (found.bind LoginRecord.passwordHash)) = true) <| by
      rw [LoginEncounter.fails_iff]
      cases e.found <;> simp [Except.toOption]

instance (c : ServiceSettings) (t : Instant) (d : Span) (e : LoginEncounter) :
    Decidable (e.FailsWithin c t d) :=
  inferInstanceAs (Decidable (_ ∧ _))

namespace RateLimiter

/-- The number of attempts that fail within an interval. -/
def failuresWithin (c : ServiceSettings) (l : RateLimiter) (attempts : List LoginAttempt)
    (t : Instant) (d : Span) : ℕ :=
  (l.encounters c attempts).countP fun e => e.FailsWithin c t d

/-- How matters may stand at the time `now` when `n` attempts have failed within
the interval. -/
inductive Tallied (key : String) (m : ℕ) (t : Instant) (d : Span) (l : RateLimiter)
    (now : Instant) (n : ℕ) : Prop
  /-- The interval is over. -/
  | past (hpast : t + d ≤ now) (hn : n ≤ 2 * m - 1)
  /-- A window has opened within the interval, after fewer failures than fill one. -/
  | opened (w : FailureWindow) (hkept : l.windows.get? key = some w)
      (hstart : t ≤ w.startedAt) (hnow : t ≤ now) (hn : n + 1 ≤ m + w.failures)
  /-- No window has opened within the interval.  If one is open, it holds besides
  the failures of the interval the one that it opened with. -/
  | early (hn : n + 1 ≤ m)
      (hkept : ∀ w, l.windows.get? key = some w → n + 1 ≤ w.failures)
      (hnow : 1 ≤ n → t ≤ now)

variable {c : ServiceSettings} {key : String} {m n : ℕ} {t now : Instant} {d : Span}
  {l : RateLimiter} {attempts : List LoginAttempt}

theorem Tallied.mono
    {now' : Instant} (h : l.Tallied key m t d now n) (hnow : now ≤ now') :
    l.Tallied key m t d now' n := by
  cases h with
  | past hpast hn => exact .past (Instant.le_trans hpast hnow) hn
  | opened w hkept hstart ht hn =>
      exact .opened w hkept hstart (Instant.le_trans ht hnow) hn
  | early hn hkept ht => exact .early hn hkept fun h => Instant.le_trans (ht h) hnow

theorem Tallied.le (h : l.Tallied key m t d now n) (hsound : l.Sound key m d) :
    n ≤ 2 * m - 1 := by
  cases h with
  | past _ hn => exact hn
  | opened w hkept _ _ hn =>
      have hle := (hsound.counted w hkept).2
      omega
  | early hn => omega

/-- A window that opened within the interval closes after it. -/
theorem Sound.le_closesAt
    {w : FailureWindow} (h : l.Sound key m d) (hkept : l.windows.get? key = some w)
    (ht : t.IsPlain) (hstart : t ≤ w.startedAt) : t + d ≤ l.closesAt w := by
  have hplain : w.startedAt.IsPlain := h.starts key w hkept
  rw [h.closesAt_eq, (ht.isPlain_add d).le_iff (hplain.isPlain_add d), ht.add_eq,
    hplain.add_eq, Instant.toNanos_ofNanos, Instant.toNanos_ofNanos]
  rw [ht.le_iff hplain] at hstart
  omega

theorem Tallied.step_of_neither
    {e : LoginEncounter} (h : e.limiter.Tallied key m t d now n)
    (hsound : e.limiter.Sound key m d) (hkey : e.source.key = key) (ht : t.IsPlain)
    (hnow : now ≤ e.checkedAt) (hfails : ¬e.Fails c) (hsucceeds : ¬e.Succeeds c) :
    (e.course c).limiter.Tallied key m t d e.checkedAt n := by
  have hle := h.le hsound
  have hafter := LoginEncounter.kept_of_neither hfails hsucceeds
  subst hkey
  cases h with
  | past hpast hn => exact .past (Instant.le_trans hpast hnow) hn
  | opened w hkept hstart hlate hn =>
      rw [LoginEncounter.openAtCheck, openWindow?_of_some hkept] at hafter
      by_cases hcloses : e.limiter.closesAt w ≤ e.checkedAt
      · exact .past (Instant.le_trans (hsound.le_closesAt hkept ht hstart) hcloses) hle
      · rw [if_neg hcloses] at hafter
        exact .opened w hafter hstart (Instant.le_trans hlate hnow) hn
  | early hn hkept hlate =>
      refine .early hn (fun w hw => ?_) fun h => Instant.le_trans (hlate h) hnow
      exact hkept w (openWindow?_eq_some_iff.mp (hafter.symm.trans hw)).1

/-- A login that begins before the interval is over, when a window has opened
within it, meets that window. -/
theorem tallied_of_opened
    {e : LoginEncounter} {w : FailureWindow} (hsound : e.limiter.Sound key m d)
    (hkey : e.source.key = key) (ht : t.IsPlain) (hfails : e.Fails c)
    (hbefore : e.checkedAt < t + d) (hlate : t ≤ e.failedAt)
    (hkept : e.limiter.windows.get? key = some w) (hstart : t ≤ w.startedAt)
    (hn : n + 1 ≤ m + w.failures) :
    (e.course c).limiter.Tallied key m t d e.failedAt (n + 1) := by
  subst hkey
  have hcloses := hsound.le_closesAt hkept ht hstart
  have hopen : e.openAtCheck = some w := by
    refine openWindow?_eq_some_iff.mpr ⟨hkept, ?_⟩
    rw [← Instant.not_le]
    exact fun h => Instant.not_lt.mpr (Instant.le_trans hcloses h) hbefore
  have hafter := LoginEncounter.kept_of_fails hfails
  rw [hsound.maxFailures] at hafter
  rcases hafter with ⟨v, hv, hroom, -, hafter⟩ | ⟨hfull, -⟩
  · obtain rfl := Option.some.inj (hopen.symm.trans hv)
    exact .opened _ hafter hstart hlate (by dsimp only; omega)
  · obtain ⟨hroom, hclosed⟩ := hfull w hopen
    exact .past (Instant.le_trans hcloses hclosed) (by omega)

/-- A login that begins when no window has opened within the interval is counted
in an earlier window, or opens the first one within the interval if it is not too
early. -/
theorem tallied_of_early
    {e : LoginEncounter} (hsound : e.limiter.Sound key m d) (hkey : e.source.key = key)
    (hfails : e.Fails c) (hbefore : e.checkedAt < t + d) (hn : n + 1 ≤ m)
    (hkept : ∀ w, e.limiter.windows.get? key = some w → n + 1 ≤ w.failures)
    (hlate : 1 ≤ n → t ≤ e.failedAt) :
    (e.course c).limiter.Tallied key m t d e.failedAt
      (n + if e.FailsWithin c t d then 1 else 0) := by
  subst hkey
  have hcounted : ∀ v, e.openAtCheck = some v → n + 1 ≤ v.failures :=
    fun v hv => hkept v (openWindow?_eq_some_iff.mp hv).1
  have hafter := LoginEncounter.kept_of_fails hfails
  rw [hsound.maxFailures] at hafter
  by_cases hlate' : t ≤ e.failedAt
  · rw [if_pos ⟨hfails, hbefore, hlate'⟩]
    rcases hafter with ⟨v, hv, hroom, -, hafter⟩ | ⟨-, hafter⟩
    · have hv := hcounted v hv
      refine .early (by omega) (fun w hw => ?_) fun _ => hlate'
      obtain rfl := Option.some.inj (hafter.symm.trans hw)
      exact Nat.succ_le_succ hv
    · exact .opened _ hafter hlate' hlate' (by dsimp only; omega)
  · -- The failure is counted before the interval begins, and so were all others.
    have hnone : n = 0 := by
      by_contra hn
      exact hlate' (hlate (Nat.one_le_iff_ne_zero.mpr hn))
    have hnot : ¬e.FailsWithin c t d := fun h => hlate' h.2.2
    rw [if_neg hnot, hnone]
    refine .early (by omega) (fun w hw => ?_) fun h => nomatch h
    rcases hafter with ⟨v, -, -, -, hafter⟩ | ⟨-, hafter⟩
    · obtain rfl := Option.some.inj (hafter.symm.trans hw)
      exact Nat.le_add_left ..
    · obtain rfl := Option.some.inj (hafter.symm.trans hw)
      exact Nat.le_refl 1

theorem Tallied.step_of_fails
    {e : LoginEncounter} (h : e.limiter.Tallied key m t d now n)
    (hsound : e.limiter.Sound key m d) (hkey : e.source.key = key) (ht : t.IsPlain)
    (hnow : now ≤ e.checkedAt) (hclock : e.checkedAt ≤ e.failedAt) (hfails : e.Fails c) :
    (e.course c).limiter.Tallied key m t d e.failedAt
      (n + if e.FailsWithin c t d then 1 else 0) := by
  have hle := h.le hsound
  have hnow' : now ≤ e.failedAt := Instant.le_trans hnow hclock
  by_cases hbefore : e.checkedAt < t + d
  · cases h with
    | past hpast _ =>
        exact absurd hbefore (Instant.not_lt.mpr (Instant.le_trans hpast hnow))
    | opened w hkept hstart hlate hn =>
        have hlate : t ≤ e.failedAt := Instant.le_trans hlate hnow'
        rw [if_pos ⟨hfails, hbefore, hlate⟩]
        exact tallied_of_opened hsound hkey ht hfails hbefore hlate hkept hstart hn
    | early hn hkept hlate =>
        exact tallied_of_early hsound hkey hfails hbefore hn hkept
          fun h => Instant.le_trans (hlate h) hnow'
  · -- The interval was over when the login began.
    have hnot : ¬e.FailsWithin c t d := fun h => hbefore h.2.1
    rw [if_neg hnot]
    exact .past (Instant.le_trans (Instant.not_lt.mp hbefore) hclock) hle

theorem failuresWithin_cons (a : LoginAttempt) :
    l.failuresWithin c (a :: attempts) t d =
      (if (⟨a, l⟩ : LoginEncounter).FailsWithin c t d then 1 else 0) +
        ((⟨a, l⟩ : LoginEncounter).course c).limiter.failuresWithin c attempts t d := by
  rw [failuresWithin, encounters, List.countP_cons, Nat.add_comm]
  simp only [decide_eq_true_eq]
  rfl

theorem Tallied.add_failuresWithin_le
    (h : l.Tallied key m t d now n) (hsound : l.Sound key m d) (hm : 1 ≤ m)
    (hkey : ∀ a ∈ attempts, a.source.key = key) (ht : t.IsPlain)
    (hread : ReadInOrder (l.readings c attempts))
    (hnow : ∀ u ∈ l.readings c attempts, now ≤ u)
    (hnot : ∀ e ∈ l.encounters c attempts, ¬e.Succeeds c) :
    n + l.failuresWithin c attempts t d ≤ 2 * m - 1 := by
  induction attempts generalizing l now n with
  | nil => exact h.le hsound
  | cons a attempts ih =>
      let e : LoginEncounter := ⟨a, l⟩
      obtain ⟨ha, hkey⟩ := List.forall_mem_cons.mp hkey
      obtain ⟨hfirst, hnot⟩ := List.forall_mem_cons.mp hnot
      have hnow : now ≤ e.checkedAt := hnow _ (checkedAt_mem_readings List.mem_cons_self)
      rw [readings_cons] at hread
      have hsound' : (e.course c).limiter.Sound key m d :=
        Sound.course hsound hm ha hread.left.plain
      rw [failuresWithin_cons]
      by_cases hfails : e.Fails c
      · have hreadings := LoginEncounter.readings_of_fails hfails
        have hclock : e.checkedAt ≤ e.failedAt := by
          have hsorted := hread.left.sorted
          rw [hreadings] at hsorted
          exact List.pairwise_pair.mp hsorted
        have hstep := h.step_of_fails (e := e) hsound ha ht hnow hclock hfails
        rw [← Nat.add_assoc]
        refine ih hstep hsound' hkey hread.right (fun u hu => ?_) hnot
        refine hread.le ?_ hu
        rw [hreadings]
        simp
      · have hnone : ¬e.FailsWithin c t d := fun h => hfails h.1
        have hstep := h.step_of_neither (e := e) hsound ha ht hnow hfails hfirst
        rw [if_neg hnone, Nat.zero_add]
        refine ih hstep hsound' hkey hread.right (fun u hu => ?_) hnot
        refine hread.le ?_ hu
        rw [LoginEncounter.readings_eq]
        exact List.mem_cons_self

/-- In a run of attempts none of which succeeds, fewer than twice as many fail
within an interval as long as a window as fill a window. -/
theorem Sound.failuresWithin_le
    (h : l.Sound key m d) (hm : 1 ≤ m) (hkey : ∀ a ∈ attempts, a.source.key = key)
    (ht : t.IsPlain) (hread : ReadInOrder (l.readings c attempts))
    (hnot : ∀ e ∈ l.encounters c attempts, ¬e.Succeeds c) :
    l.failuresWithin c attempts t d ≤ 2 * m - 1 := by
  cases attempts with
  | nil => exact Nat.zero_le _
  | cons a attempts =>
      have hstart : l.Tallied key m t d a.checkedAt 0 := by
        refine .early hm (fun w hw => ?_) fun h => nomatch h
        exact (h.counted w hw).1
      rw [← Nat.zero_add (l.failuresWithin ..)]
      refine hstart.add_failuresWithin_le h hm hkey ht hread (fun u hu => ?_) hnot
      rw [readings_cons, LoginEncounter.readings_eq, List.cons_append] at hread hu
      rcases List.mem_cons.mp hu with rfl | hu
      · exact Instant.le_refl _
      · exact List.rel_of_pairwise_cons hread.sorted hu

/-! ## Full windows -/

theorem Sound.verdict_of_full
    {a : LoginAttempt} {w : FailureWindow} (h : l.Sound key m d) (hkey : a.source.key = key)
    (hkept : l.windows.get? key = some w) (hfull : w.failures = m)
    (hopen : a.checkedAt < w.startedAt + d) :
    ∃ seconds, (⟨a, l⟩ : LoginEncounter).verdict = .error seconds := by
  subst hkey
  refine ⟨_, check_eq_error_iff.mpr ⟨w, openWindow?_eq_some_iff.mpr ⟨hkept, ?_⟩, ?_, rfl⟩⟩
  · rwa [h.closesAt_eq]
  · rw [h.maxFailures, hfull]

theorem Sound.afterLogins_of_full
    {w : FailureWindow} (h : l.Sound key m d) (hkey : ∀ a ∈ attempts, a.source.key = key)
    (hkept : l.windows.get? key = some w) (hfull : w.failures = m)
    (hopen : ∀ a ∈ attempts, a.checkedAt < w.startedAt + d) :
    l.afterLogins c attempts = l := by
  induction attempts with
  | nil => rfl
  | cons a attempts ih =>
      obtain ⟨ha, hkey⟩ := List.forall_mem_cons.mp hkey
      obtain ⟨hfirst, hopen⟩ := List.forall_mem_cons.mp hopen
      obtain ⟨seconds, hverdict⟩ := h.verdict_of_full ha hkept hfull hfirst
      obtain ⟨seconds, hcourse⟩ := LoginEncounter.isRefused_of_error (c := c) hverdict
      have hsame : ((⟨a, l⟩ : LoginEncounter).course c).limiter = l :=
        congrArg Course.limiter hcourse
      change (((⟨a, l⟩ : LoginEncounter).course c).limiter).afterLogins c attempts = l
      rw [hsame]
      exact ih hkey hopen

theorem Sound.isRefused_of_full
    {w : FailureWindow} {e : LoginEncounter} (h : l.Sound key m d)
    (hkey : ∀ a ∈ attempts, a.source.key = key)
    (hread : ReadInOrder (l.readings c attempts))
    (hkept : l.windows.get? key = some w) (hfull : w.failures = m)
    (he : e ∈ l.encounters c attempts) (hopen : e.checkedAt < w.startedAt + d) :
    e.IsRefused c := by
  obtain ⟨before, after, rfl, hlimiter⟩ := exists_split_of_mem_encounters he
  rw [readings_append] at hread
  have hbefore : ∀ a ∈ before, a.checkedAt < w.startedAt + d := by
    intro a ha
    have hle : a.checkedAt ≤ e.checkedAt :=
      hread.le (checkedAt_mem_readings ha) (checkedAt_mem_readings List.mem_cons_self)
    rw [← Instant.not_le] at hopen ⊢
    exact fun hclosed => hopen (Instant.le_trans hclosed hle)
  have hsame : l.afterLogins c before = l :=
    h.afterLogins_of_full (fun a ha => hkey a (List.mem_append_left _ ha)) hkept hfull
      hbefore
  rw [hsame] at hlimiter
  have ha : e.source.key = key := hkey _ (List.mem_append_right _ List.mem_cons_self)
  obtain ⟨seconds, hverdict⟩ := h.verdict_of_full ha hkept hfull hopen
  rw [← hlimiter] at hverdict
  exact LoginEncounter.isRefused_of_error hverdict

theorem Sound.isVerified_of_closed
    {a : LoginAttempt} {w : FailureWindow} (h : l.Sound key m d) (hkey : a.source.key = key)
    (hkept : l.windows.get? key = some w) (hclosed : w.startedAt + d ≤ a.checkedAt) :
    (⟨a, l⟩ : LoginEncounter).IsVerified c := by
  subst hkey
  refine LoginEncounter.isVerified_iff.mpr (check_eq_ok_iff.mpr fun v hv => ?_)
  obtain ⟨hv, hopen⟩ := openWindow?_eq_some_iff.mp hv
  obtain rfl := Option.some.inj (hkept.symm.trans hv)
  rw [h.closesAt_eq] at hopen
  exact absurd hclosed (Instant.not_le.mpr hopen)

end RateLimiter

/-- The window opened at an attempt that failed.  No attempt since then has
succeeded, and as many as the window counts have failed, the first one included. -/
def FailureWindow.OpenedIn (c : ServiceSettings) (w : FailureWindow)
    (encounters : List LoginEncounter) : Prop :=
  ∃ earlier e later, encounters = earlier ++ e :: later ∧
    e.Fails c ∧ e.failedAt = w.startedAt ∧ (∀ x ∈ later, ¬x.Succeeds c) ∧
    (e :: later).countP (fun x => x.Fails c) = w.failures

theorem FailureWindow.OpenedIn.concat
    {c : ServiceSettings} {w : FailureWindow} {encounters : List LoginEncounter}
    {e : LoginEncounter} (h : w.OpenedIn c encounters) (hnot : ¬e.Succeeds c) :
    { w with failures := w.failures + if e.Fails c then 1 else 0 }.OpenedIn c
      (encounters ++ [e]) := by
  obtain ⟨earlier, x, later, rfl, hx, hstart, hlater, hcount⟩ := h
  refine ⟨earlier, x, later ++ [e], by simp, hx, hstart, ?_, ?_⟩
  · intro y hy
    rcases List.mem_append.mp hy with hy | hy
    · exact hlater y hy
    · rw [List.mem_singleton.mp hy]
      exact hnot
  · rw [← List.cons_append, List.countP_append, hcount]
    simp

namespace RateLimiter

variable {c : ServiceSettings} {key : String} {l : RateLimiter}
  {attempts : List LoginAttempt}

theorem openedIn_of_kept
    {w : FailureWindow} (hnone : l.windows.get? key = none)
    (hkey : ∀ a ∈ attempts, a.source.key = key)
    (hkept : (l.afterLogins c attempts).windows.get? key = some w) :
    w.OpenedIn c (l.encounters c attempts) := by
  induction attempts using List.reverseRecOn generalizing w with
  | nil => exact nomatch hnone.symm.trans hkept
  | append_singleton attempts a ih =>
      let e : LoginEncounter := ⟨a, l.afterLogins c attempts⟩
      have ha : e.source.key = key := hkey a (List.mem_append_right _ List.mem_cons_self)
      have hencounters : l.encounters c (attempts ++ [a]) =
          l.encounters c attempts ++ [e] := encounters_append ..
      have hbefore : ∀ v, e.openAtCheck = some v → v.OpenedIn c (l.encounters c attempts) := by
        intro v hv
        refine ih (fun b hb => hkey b (List.mem_append_left _ hb)) ?_
        rw [← ha]
        exact (openWindow?_eq_some_iff.mp hv).1
      rw [afterLogins_concat] at hkept
      change (e.course c).limiter.windows.get? key = some w at hkept
      rw [← ha] at hkept
      rw [hencounters]
      by_cases hfails : e.Fails c
      · rcases LoginEncounter.kept_of_fails hfails with ⟨v, hv, -, -, hafter⟩ | ⟨-, hafter⟩
        · -- One more failure is counted in the same window.
          obtain rfl := Option.some.inj (hafter.symm.trans hkept)
          have hconcat := (hbefore v hv).concat hfails.not_succeeds
          rwa [if_pos hfails] at hconcat
        · obtain rfl := Option.some.inj (hafter.symm.trans hkept)
          exact ⟨l.encounters c attempts, e, [], rfl, hfails, rfl,
            fun _ h => absurd h List.not_mem_nil, by simp [hfails]⟩
      · by_cases hsucceeds : e.Succeeds c
        · rw [LoginEncounter.kept_of_succeeds hsucceeds] at hkept
          exact nomatch hkept
        · rw [LoginEncounter.kept_of_neither hfails hsucceeds] at hkept
          have hconcat := (hbefore w hkept).concat hsucceeds
          rwa [if_neg hfails] at hconcat

end RateLimiter

/-- Logins with one source, while the clock does not go back, for a limit of `m`
failures in a window.  As long as none of them succeeds, at most `2 * m - 1` of them
fail within any interval as long as a window.  A window counts the failures since
it opened, which are never more than `m`; and when it holds as many, all logins
are refused until it closes, whatever their passwords are, and the next one after
that is verified.

A login whose user is let in has succeeded; one that has succeeded can still end
with an error of the signer or of the repository. -/
theorem failed_logins_bounded
    (c : ServiceSettings) (maxFailures : ℕ) (windowSeconds : ℤ) (key : String)
    (attempts : List LoginAttempt) (hkey : ∀ a ∈ attempts, a.source.key = key)
    (hread : ReadInOrder
      ((RateLimiter.create maxFailures windowSeconds).readings c attempts)) :
    let l := RateLimiter.create maxFailures windowSeconds
    let m := Max.max maxFailures 1
    let d := Span.seconds windowSeconds
    (∀ before stretch after, attempts = before ++ stretch ++ after →
      (∀ e ∈ (l.afterLogins c before).encounters c stretch, ¬e.Succeeds c) →
      ∀ t : Instant, t.IsPlain →
        (l.afterLogins c before).failuresWithin c stretch t d ≤ 2 * m - 1) ∧
    (∀ before after w, attempts = before ++ after →
      (l.afterLogins c before).windows.get? key = some w →
      w.OpenedIn c (l.encounters c before) ∧ w.failures ≤ m ∧
      (maxFailures < UInt32.size → w.failures < UInt32.size) ∧
      (w.failures = m →
        (∀ e ∈ (l.afterLogins c before).encounters c after,
          e.checkedAt < w.startedAt + d → e.IsRefused c) ∧
        (∀ refused next rest, after = refused ++ next :: rest →
          (∀ a ∈ refused, a.checkedAt < w.startedAt + d) →
          w.startedAt + d ≤ next.checkedAt →
          (⟨next, l.afterLogins c (before ++ refused)⟩ : LoginEncounter).IsVerified c))) ∧
    (∀ e ∈ l.encounters c attempts,
      (e.Fails c → (e.course c).result = .error .invalidCredentials) ∧
      (e.IsGranted c → e.Succeeds c) ∧
      (e.Succeeds c → e.IsGranted c ∨
        (∃ text, (e.course c).result = .error (.internal text)) ∨
        ∃ cause, (e.course c).result = .error (.repository cause))) := by
  intro l m d
  have hm : 1 ≤ m := Nat.le_max_right ..
  have hreached : ∀ before after, attempts = before ++ after →
      (l.afterLogins c before).Sound key m d := by
    rintro before after rfl
    rw [RateLimiter.readings_append] at hread
    exact (RateLimiter.sound_create key maxFailures windowSeconds).afterLogins hm
      (fun a ha => hkey a (List.mem_append_left _ ha)) hread.left.plain
  refine ⟨?_, ?_, fun e _ => ⟨?_, LoginEncounter.IsGranted.succeeds,
    LoginEncounter.Succeeds.isGranted_or⟩⟩
  · rintro before stretch after rfl hnot t ht
    rw [RateLimiter.readings_append, RateLimiter.readings_append] at hread
    refine (hreached before (stretch ++ after) (List.append_assoc ..)).failuresWithin_le hm
      (fun a ha => hkey a ?_) ht hread.left.right hnot
    exact List.mem_append_left _ (List.mem_append_right _ ha)
  · rintro before after w rfl hkept
    have hsound := hreached before after rfl
    rw [RateLimiter.readings_append] at hread
    have hbefore : ∀ a ∈ before, a.source.key = key :=
      fun a ha => hkey a (List.mem_append_left _ ha)
    have hafter : ∀ a ∈ after, a.source.key = key :=
      fun a ha => hkey a (List.mem_append_right _ ha)
    have hcounted := (hsound.counted w hkept).2
    refine ⟨RateLimiter.openedIn_of_kept rfl hbefore hkept, hcounted, ?_, ?_⟩
    · intro hsize
      exact Nat.lt_of_le_of_lt hcounted (Nat.max_lt.mpr ⟨hsize, by decide⟩)
    · intro hfull
      refine ⟨fun e he => hsound.isRefused_of_full hafter hread.right hkept hfull he, ?_⟩
      rintro refused next rest rfl hopen hclosed
      have hrefused : ∀ a ∈ refused, a.source.key = key :=
        fun a ha => hafter a (List.mem_append_left _ ha)
      rw [RateLimiter.afterLogins_append,
        hsound.afterLogins_of_full hrefused hkept hfull hopen]
      exact hsound.isVerified_of_closed
        (hafter next (List.mem_append_right _ List.mem_cons_self)) hkept hclosed
  · intro hfails
    rw [LoginEncounter.course_of_fails hfails]

/-- A login with a password for an address that no account has. -/
def guessAt (second : ℤ) : LoginAttempt where
  email := "a@e.com"
  password := "guess"
  device := {}
  around
    | _, .repository (.findLogin _) => .ok none
    | n, r => Surroundings.still ⟨second, 0⟩ [] n r

/-- Two failures fill a window of a minute.  The most failures within a minute
are three: one that fills a window just before it closes, and two that fill the
next one. -/
theorem failed_logins_bounded_of_guesses :
    let l := RateLimiter.create 2 60
    let attempts := [0, 59, 60, 61, 62].map guessAt
    let key := "a@e.com|-"
    (∀ a ∈ attempts, a.source.key = key) ∧ ReadInOrder (l.readings plainSettings attempts) ∧
      (∀ e ∈ l.encounters plainSettings attempts, ¬e.Succeeds plainSettings) ∧
      l.failuresWithin plainSettings attempts ⟨59, 0⟩ (.seconds 60) ≤ 3 ∧
      l.failuresWithin plainSettings attempts ⟨59, 0⟩ (.seconds 60) = 3 := by
  intro l attempts key
  have hkey : ∀ a ∈ attempts, a.source.key = key := by decide +kernel
  have hreadings : l.readings plainSettings attempts = [⟨0, 0⟩, ⟨0, 0⟩, ⟨59, 0⟩, ⟨59, 0⟩,
      ⟨60, 0⟩, ⟨60, 0⟩, ⟨61, 0⟩, ⟨61, 0⟩, ⟨62, 0⟩] := by decide +kernel
  have hread : ReadInOrder (l.readings plainSettings attempts) := by
    rw [hreadings]
    exact ⟨by decide, by decide⟩
  have hnot : ∀ e ∈ l.encounters plainSettings attempts, ¬e.Succeeds plainSettings := by
    intro e he hsucceeds
    obtain ⟨before, after, hsplit, -⟩ := RateLimiter.exists_split_of_mem_encounters he
    have hmem : e.toLoginAttempt ∈ attempts := by
      rw [hsplit]
      exact List.mem_append_right _ List.mem_cons_self
    obtain ⟨second, -, hguess⟩ := List.mem_map.mp hmem
    obtain ⟨-, record, hfound, -⟩ := LoginEncounter.succeeds_iff.mp hsucceeds
    rw [← hguess] at hfound
    exact nomatch hfound
  obtain ⟨hbound, -⟩ := failed_logins_bounded plainSettings 2 60 key attempts hkey hread
  refine ⟨hkey, hread, hnot, ?_, by decide +kernel⟩
  exact hbound [] attempts [] (List.append_nil _).symm hnot ⟨59, 0⟩ (by decide)

end AccountAuthority
