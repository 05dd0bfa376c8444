import AccountAuthority.Proofs.SeparateLimits
import AccountAuthority.Proofs.UnknownAddresses

/-!
# Waiting times

Whoever is locked out is told a number of seconds to wait.  These are the whole
seconds until the window closes, or one second if there are none, and what is
left beyond the whole seconds is cut off.  So nobody who comes back before the
time is let in, each second that passes is one second less to wait, and one
second more than was told is always enough.  The time itself is enough just when
nothing has been cut off: when the window closes after a whole number of seconds,
or within one second.
-/

namespace AccountAuthority

/-- The seconds to wait for what is left of a lock. -/
def Span.wait (left : Span) : ℕ :=
  (Max.max left.wholeSeconds 1).toNat

namespace Span

variable {left : Span}

theorem one_le_wait (left : Span) : 1 ≤ left.wait := by
  unfold wait
  omega

/-- The whole seconds of what is left, in nanoseconds. -/
theorem wholeSeconds_bounds (h : 0 ≤ left.nanos) :
    left.wholeSeconds * perSecond ≤ left.nanos ∧
      left.nanos < (left.wholeSeconds + 1) * perSecond := by
  rw [wholeSeconds, Int.tdiv_eq_ediv_of_nonneg h, perSecond]
  omega

/-- After fewer seconds than are to be waited, just those are left to wait. -/
theorem wait_sub {v : ℕ} (h : 0 < left.nanos) (hv : v < left.wait) :
    ¬left ≤ .seconds v ∧ (⟨left.nanos - (seconds v).nanos⟩ : Span).wait = left.wait - v := by
  obtain ⟨hlow, hhigh⟩ := wholeSeconds_bounds (Int.le_of_lt h)
  have hleft : ¬left.nanos ≤ (seconds v).nanos := by
    simp only [wait, perSecond, seconds] at *
    omega
  have hrest : 0 ≤ (⟨left.nanos - (seconds v).nanos⟩ : Span).nanos := by
    dsimp only
    omega
  obtain ⟨hlow', hhigh'⟩ := wholeSeconds_bounds hrest
  refine ⟨hleft, ?_⟩
  simp only [wait, perSecond, seconds] at *
  omega

/-- The seconds to wait are enough unless there is more than one and they are not
whole. -/
theorem le_seconds_wait_iff (h : 0 < left.nanos) :
    left ≤ .seconds left.wait ↔ left.nanos ≤ perSecond ∨ perSecond ∣ left.nanos := by
  obtain ⟨hlow, hhigh⟩ := wholeSeconds_bounds (Int.le_of_lt h)
  change left.nanos ≤ (seconds left.wait).nanos ↔ _
  simp only [wait, perSecond, seconds] at *
  omega

theorem le_seconds_wait_add_one (h : 0 < left.nanos) :
    left ≤ .seconds (left.wait + 1) := by
  obtain ⟨hlow, hhigh⟩ := wholeSeconds_bounds (Int.le_of_lt h)
  change left.nanos ≤ (seconds (left.wait + 1)).nanos
  simp only [wait, perSecond, seconds] at *
  omega

end Span

theorem Instant.IsPlain.le_add_iff
    {a b : Instant} (ha : a.IsPlain) (hb : b.IsPlain) (d : Span) :
    a ≤ b + d ↔ a.since b ≤ d := by
  change _ ↔ (a.since b).nanos ≤ d.nanos
  rw [ha.le_iff (hb.isPlain_add d), hb.add_eq, toNanos_ofNanos, ha.since_eq hb]
  dsimp only
  omega

namespace RateLimiter

variable {l : RateLimiter} {email : String} {ip : Option String} {now : Instant}
  {seconds : ℕ}

/-- Whoever is locked out leaves the limiter as it is. -/
theorem check_of_error (h : (l.check email ip now).1 = .error seconds) :
    (l.check email ip now).2 = l := by
  obtain ⟨w, hopen, hfull, -⟩ := check_eq_error_iff.mp h
  obtain ⟨hkept, hlater⟩ := openWindow?_eq_some_iff.mp hopen
  unfold check
  simp only [hkept, if_neg (Instant.not_le.mpr hlater), if_pos hfull]

/-- All windows were opened at instants in `T`. -/
def StartsIn (T : Instant → Prop) (l : RateLimiter) : Prop :=
  ∀ key w, l.windows.get? key = some w → T w.startedAt

theorem startsIn_create {T : Instant → Prop} (maxFailures : ℕ) (windowSeconds : ℤ) :
    (create maxFailures windowSeconds).StartsIn T :=
  fun _ _ h => nomatch h

/-- A new window is opened at a reading of the clock. -/
theorem StartsIn.apply
    {T : Instant → Prop} (h : l.StartsIn T) {c : LimiterCall}
    (hc : ∀ s now, c = .failure s now → T now) : (c.apply l).StartsIn T := by
  intro key w hkept
  cases c with
  | check s now =>
      rw [LimiterCall.apply, get?_check] at hkept
      split at hkept
      · exact h key w (openWindow?_eq_some_iff.mp hkept).1
      · exact h key w hkept
  | failure s now =>
      rw [LimiterCall.apply, get?_recordFailure] at hkept
      split at hkept
      · cases hopen : l.openWindow? key now with
        | none =>
            rw [hopen] at hkept
            obtain rfl := Option.some.inj hkept
            exact hc s now rfl
        | some v =>
            rw [hopen] at hkept
            obtain rfl := Option.some.inj hkept
            exact h key v (openWindow?_eq_some_iff.mp hopen).1
      · exact h key w hkept
  | success s =>
      rw [LimiterCall.apply, get?_recordSuccess] at hkept
      split at hkept
      · cases hkept
      · exact h key w hkept

/-- No window was opened inside of a leap second. -/
def StartsPlain (l : RateLimiter) : Prop :=
  ∀ key w, l.windows.get? key = some w → w.startedAt.IsPlain

theorem startsPlain_create (maxFailures : ℕ) (windowSeconds : ℤ) :
    (create maxFailures windowSeconds).StartsPlain :=
  startsIn_create maxFailures windowSeconds

theorem StartsPlain.apply
    (h : l.StartsPlain) {c : LimiterCall} (hc : ∀ s now, c = .failure s now → now.IsPlain) :
    (c.apply l).StartsPlain :=
  StartsIn.apply h hc

theorem StartsPlain.run
    (h : l.StartsPlain) {calls : List LimiterCall}
    (hcalls : ∀ s now, .failure s now ∈ calls → now.IsPlain) :
    (l.run calls).StartsPlain := by
  induction calls generalizing l with
  | nil => exact h
  | cons c calls ih =>
      refine ih (h.apply fun s now hc => ?_) fun s now hmem => ?_
      · exact hcalls s now (hc ▸ List.mem_cons_self)
      · exact hcalls s now (List.mem_cons_of_mem c hmem)

/-- A lock goes on, with a shorter and shorter wait, until nothing of it is
left. -/
theorem check_add
    (hnow : now.IsPlain) (hwindows : l.StartsPlain)
    (h : (l.check email ip now).1 = .error seconds) :
    ∃ left : Span, 0 < left.nanos ∧ seconds = left.wait ∧
      ∀ d : Span, (l.check email ip (now + d)).1 =
        if left ≤ d then .ok () else .error (⟨left.nanos - d.nanos⟩ : Span).wait := by
  obtain ⟨w, hopen, hfull, htold⟩ := check_eq_error_iff.mp h
  obtain ⟨hkept, hlater⟩ := openWindow?_eq_some_iff.mp hopen
  have hcloses : (l.closesAt w).IsPlain :=
    (hwindows _ w hkept).isPlain_add l.window
  refine ⟨(l.closesAt w).since now, ?_, htold.symm, fun d => ?_⟩
  · rw [← Instant.not_le, hcloses.le_iff hnow] at hlater
    rw [hcloses.since_eq hnow]
    dsimp only
    omega
  · rw [check_answer, openWindow?_of_some hkept]
    by_cases hleft : l.closesAt w ≤ now + d
    · rw [if_pos hleft, if_pos ((hcloses.le_add_iff hnow d).mp hleft)]
    · have hrest : (l.closesAt w).since (now + d) =
          ⟨((l.closesAt w).since now).nanos - d.nanos⟩ := by
        rw [hcloses.since_eq (hnow.isPlain_add d), hcloses.since_eq hnow, hnow.add_eq,
          Instant.toNanos_ofNanos]
        simp only [Span.mk.injEq]
        omega
      rw [if_neg hleft, if_neg (mt (hcloses.le_add_iff hnow d).mpr hleft), ← hrest]
      exact if_pos hfull

end RateLimiter

/-- A login that is locked out ends with the time to wait, and changes nothing. -/
theorem Service.serve_login_of_locked
    {c : ServiceSettings} {o : Circumstances} {d : LoginDesk} {email password : String}
    {device : Device} {seconds : ℕ}
    (h : (d.limiter.check (Email.normalize email) device.ipAddress
      (o.around 0 .now)).1 = .error seconds) :
    (login c email password device).run.serve o 0 d =
      (.error (.rateLimited seconds), d) := by
  have hsame := RateLimiter.check_of_error h
  rw [login, Program.serve_now]
  refine (Program.serve_checkLogin ..).trans ?_
  rw [h, hsame]
  rfl

/-- The time to wait that a login and the response to it tell is the one of the
check.  As long as it has not passed, a check tells the rest of it, and one second
after it has passed the source is let in.  When it has just passed, the source is
let in if and only if no fraction of a second has been cut off. -/
theorem told_wait_cuts_fraction
    (l : RateLimiter) (s : LoginSource) (now : Instant) (seconds : ℕ)
    (hnow : now.IsPlain) (hwindows : l.StartsPlain)
    (htold : (l.check s.email s.ip now).1 = .error seconds) :
    1 ≤ seconds ∧
    (∃ left : Span, seconds = left.wait ∧
      ∀ others : List LimiterCall, (∀ c ∈ others, c.source.key ≠ s.key) →
        let answer (d : Span) : Except ℕ Unit :=
          (((l.check s.email s.ip now).2.run others).check s.email s.ip (now + d)).1
        (∀ d, answer d = .ok () ↔ left ≤ d) ∧
        (∀ v < seconds, answer (.seconds v) = .error (seconds - v)) ∧
        (answer (.seconds seconds) = .ok () ↔
          left.nanos ≤ Span.perSecond ∨ Span.perSecond ∣ left.nanos) ∧
        answer (.seconds (seconds + 1)) = .ok ()) ∧
    (∀ (c : ServiceSettings) (o : Circumstances) (d : LoginDesk)
      (email password : String) (device : Device),
      d.limiter = l → Email.normalize email = s.email → device.ipAddress = s.ip →
      o.around 0 .now = now →
      (Service.login c email password device).run.serve o 0 d =
        (.error (.rateLimited seconds), d)) ∧
    (ServiceError.rateLimited seconds).toFailure.response.headers.lookup "retry-after" =
      some (toString seconds) := by
  obtain ⟨left, hpositive, rfl, hchecks⟩ := RateLimiter.check_add hnow hwindows htold
  refine ⟨left.one_le_wait, ⟨left, rfl, fun others hothers => ?_⟩, ?_, rfl⟩
  · intro answer
    have hanswer : ∀ d : Span, answer d =
        if left ≤ d then .ok () else .error (⟨left.nanos - d.nanos⟩ : Span).wait := by
      intro d
      have hagree := RateLimiter.agreeAt_run hothers l
      simp only [answer, RateLimiter.check_of_error htold, hagree.check_answer, hchecks]
    have hok : ∀ d, answer d = .ok () ↔ left ≤ d := by
      intro d
      rw [hanswer]
      by_cases hleft : left ≤ d <;> simp [hleft]
    refine ⟨hok, fun v hv => ?_, ?_, ?_⟩
    · obtain ⟨hlocked, hrest⟩ := Span.wait_sub hpositive hv
      rw [hanswer, if_neg hlocked, hrest]
    · rw [hok, Span.le_seconds_wait_iff hpositive]
    · rw [hok]
      exact_mod_cast Span.le_seconds_wait_add_one hpositive
  · rintro c o d email password device rfl hemail hip hclock
    refine Service.serve_login_of_locked ?_
    rw [hemail, hip, hclock, htold]

/-- A lock of a minute, ten and a half seconds after its failure; meanwhile there
is a failure at another internet address. -/
theorem told_wait_cuts_fraction_of_half :
    let s : LoginSource := ⟨"a@e.com", some "10.0.0.1"⟩
    let s' : LoginSource := ⟨"a@e.com", some "10.0.0.2"⟩
    let l := (RateLimiter.create 1 60).run [.failure s ⟨0, 0⟩]
    let now : Instant := ⟨10, 500000000⟩
    let l' := (l.check s.email s.ip now).2.run [.failure s' now]
    now.IsPlain ∧ l.StartsPlain ∧ (l.check s.email s.ip now).1 = .error 49 ∧
      s'.key ≠ s.key ∧
      (l'.check s.email s.ip (now + Span.seconds 48)).1 = .error 1 ∧
      (l'.check s.email s.ip (now + Span.seconds 50)).1 = .ok () := by
  intro s s' l now l'
  have hnow : now.IsPlain := by decide
  have hwindows : l.StartsPlain := by
    refine (RateLimiter.startsPlain_create 1 60).run fun t at_ hmem => ?_
    cases List.mem_singleton.mp hmem
    decide
  have htold : (l.check s.email s.ip now).1 = .error 49 := by decide +kernel
  have hapart : s'.key ≠ s.key := by decide +kernel
  obtain ⟨-, ⟨left, -, hlater⟩, -⟩ :=
    told_wait_cuts_fraction l s now 49 hnow hwindows htold
  have hothers : ∀ c ∈ [LimiterCall.failure s' now], c.source.key ≠ s.key := by
    intro c hc
    rw [List.mem_singleton.mp hc]
    exact hapart
  obtain ⟨-, hbefore, -, hafter⟩ := hlater _ hothers
  exact ⟨hnow, hwindows, htold, hapart, hbefore 48 (by decide), hafter⟩

/-- Half a second after a failure that locks for two seconds, one second is told,
and after that second the lock still stands. -/
theorem not_told_wait_sufficient :
    ¬∀ (l : RateLimiter) (s : LoginSource) (now : Instant) (seconds : ℕ),
      now.IsPlain → l.StartsPlain → (l.check s.email s.ip now).1 = .error seconds →
      (l.check s.email s.ip (now + Span.seconds seconds)).1 = .ok () := by
  intro h
  let s : LoginSource := ⟨"a@e.com", none⟩
  have hwindows : ((RateLimiter.create 1 2).run [.failure s ⟨0, 0⟩]).StartsPlain := by
    refine (RateLimiter.startsPlain_create 1 2).run fun t at_ hmem => ?_
    cases List.mem_singleton.mp hmem
    decide
  have hlater := h _ s ⟨0, 500000000⟩ 1 (by decide) hwindows (by decide +kernel)
  revert hlater
  decide +kernel

end AccountAuthority
