import AccountAuthority.Proofs.Dialogues
import AccountAuthority.Proofs.ServedDeletions
import AccountAuthority.Proofs.TimelyCalls
import AccountAuthority.Proofs.TokenLifetimes
import AccountAuthority.Proofs.WaitingTimes

/-!
# Configurations that are accepted

Whatever numbers a configuration sets, if it is accepted then no time that the services,
the limiter or the worker work out leaves the range of times.  Calls may run at the same
time and in any order, the clock may jump, and the repository and the queue may fail:
each request is answered from what all calls share, and the schedules and windows that
are kept there were worked out from readings of the clock, too.
-/

namespace AccountAuthority

/-! ## Bounds of the settings -/

namespace AuthorityConfig

variable {cfg : AuthorityConfig} {c : ServiceSettings}

/-- The spans that the services, the worker and the limiter are set up with. -/
def lengths (cfg : AuthorityConfig) (c : ServiceSettings) : List Span :=
  [.seconds c.accessTtlSeconds, c.refreshTtl, c.sessionTtl, c.verificationTtl, c.resetTtl,
    c.gracePeriod, c.blockedRetry, cfg.worker.blockedRetry, WorkerSettings.lease,
    cfg.limiter.window]

/-- The bounds of the numbers that become spans. -/
theorem bounds_of_validate (h : cfg.validate = .ok ()) :
    (1 ≤ cfg.signing.accessTtlSeconds ∧ cfg.signing.accessTtlSeconds ≤ 86400) ∧
    (1 ≤ cfg.session.refreshTtlDays ∧ cfg.session.refreshTtlDays ≤ 3650) ∧
    (1 ≤ cfg.session.sessionTtlDays ∧ cfg.session.sessionTtlDays ≤ 3650) ∧
    (1 ≤ cfg.recovery.verificationTtlHours ∧ cfg.recovery.verificationTtlHours ≤ 720) ∧
    (1 ≤ cfg.recovery.resetTtlMinutes ∧ cfg.recovery.resetTtlMinutes ≤ 1440) ∧
    (1 ≤ cfg.loginLimit.windowSeconds ∧ cfg.loginLimit.windowSeconds ≤ 86400) ∧
    (0 ≤ cfg.deletion.gracePeriodDays ∧ cfg.deletion.gracePeriodDays ≤ 3650) ∧
    (1 ≤ cfg.deletion.blockedRetryHours ∧ cfg.deletion.blockedRetryHours ≤ 720) := by
  have hall : ∀ x ∈ cfg.spans, x.2.1.lo ≤ x.2.2 ∧ x.2.2 ≤ x.2.1.hi := by
    rintro ⟨name, range, value⟩ hmem
    simpa [IntegerRange.contains] using contains_of_validate h hmem
  simpa [spans] using hall

theorem isTerm_window (h : cfg.validate = .ok ()) : cfg.limiter.window.IsTerm := by
  obtain ⟨-, -, -, -, -, ⟨hlo, hhi⟩, -⟩ := bounds_of_validate h
  exact Span.isTerm_seconds hlo (by omega)

theorem isTerm_blockedRetry (h : cfg.validate = .ok ()) :
    cfg.worker.blockedRetry.IsTerm := by
  obtain ⟨-, -, -, -, -, -, -, hlo, hhi⟩ := bounds_of_validate h
  exact Span.isTerm_seconds (by omega) (by omega)

theorem inBounds_of_validate
    (h : cfg.validate = .ok ()) (hservices : cfg.services = .ok c) : c.InBounds := by
  obtain ⟨haccess, hrefresh, hsession, hverification, hreset, -, hgrace, -⟩ :=
    bounds_of_validate h
  unfold services at hservices
  cases hhasher : PasswordHasher.argon2 cfg.password with
  | error text =>
      rw [hhasher] at hservices
      cases hservices
  | ok hasher =>
      rw [hhasher] at hservices
      obtain rfl := Except.ok.inj hservices
      exact {
        refreshTtl := Span.isTerm_seconds (by omega) (by omega)
        sessionTtl := Span.isTerm_seconds (by omega) (by omega)
        accessTtl := Span.isTerm_seconds haccess.1 (Int.le_trans haccess.2 (by decide))
        verificationTtl := Span.isTerm_seconds (by omega) (by omega)
        resetTtl := Span.isTerm_seconds (by omega) (by omega)
        gracePeriod := Span.isDelay_days hgrace.1 hgrace.2
        blockedRetry := isTerm_blockedRetry h }

theorem fits_lengths
    (h : cfg.validate = .ok ()) (hservices : cfg.services = .ok c) :
    ∀ d ∈ cfg.lengths c, d.Fits := by
  have hc := inBounds_of_validate h hservices
  simp only [lengths, List.forall_mem_cons]
  exact ⟨hc.accessTtl.fits, hc.refreshTtl.fits, hc.sessionTtl.fits, hc.verificationTtl.fits,
    hc.resetTtl.fits, hc.gracePeriod.fits, hc.blockedRetry.fits,
    (isTerm_blockedRetry h).fits, WorkerSettings.isTerm_lease.fits, (isTerm_window h).fits,
    List.forall_mem_nil _⟩

end AuthorityConfig

/-! ## What calls share -/

/-- The store, the queue and the limiter, which all calls share. -/
structure Shared where
  store : Store := .empty
  queue : Queue := .empty
  limiter : RateLimiter

/-- The circumstances of one request: what the clock shows, the identifiers for what is
put in, whether the repository or the queue fails, and what everybody else answers. -/
structure Moment where
  clock : Instant
  fresh : FreshIds
  jobId : String
  repositoryFails : Option RepositoryError
  queueFails : Option QueueError
  others : (r : ServiceRequest) → r.Answer

namespace Shared

/-- A request is answered. -/
def answer (m : Moment) (r : ServiceRequest) (s : Shared) : r.Answer × Shared :=
  match r with
  | .repository r =>
    match m.repositoryFails with
    | some e => (.error e, s)
    | none => (.ok (s.store.perform r m.fresh).1,
        { s with store := (s.store.perform r m.fresh).2 })
  | .queue r =>
    match m.queueFails with
    | some e => (.error e, s)
    | none => ((s.queue.perform r m.jobId).1,
        { s with queue := (s.queue.perform r m.jobId).2 })
  | .now => (m.clock, s)
  | .checkLogin email ip now =>
    ((s.limiter.check email ip now).1, { s with limiter := (s.limiter.check email ip now).2 })
  | .loginFailed email ip now =>
    ((), { s with limiter := s.limiter.recordFailure email ip now })
  | .loginSucceeded email ip =>
    ((), { s with limiter := s.limiter.recordSuccess email ip })
  | r => (m.others r, s)

end Shared

/-- The schedules that are kept can be represented, and the windows of the limiter, which
all last for `window`, were opened at readings of a clock. -/
structure Shared.Dated (window : Span) (s : Shared) : Prop where
  schedules : ∀ u ∈ s.store.users.rows, ∀ t, u.deletionScheduledFor = some t → t.IsCivil
  window : s.limiter.window = window
  windows : s.limiter.StartsIn Instant.IsReading

namespace Store

variable {c : ServiceSettings} {s : Store}

/-- Nothing but a request for deletion gives a user a schedule. -/
theorem isCivil_schedule_perform
    (hs : ∀ u ∈ s.users.rows, ∀ t, u.deletionScheduledFor = some t → t.IsCivil)
    {r : RepositoryRequest} (hr : r.Timely c) (fresh : FreshIds) :
    ∀ u ∈ (s.perform r fresh).2.users.rows, ∀ t,
      u.deletionScheduledFor = some t → t.IsCivil := by
  intro v hv t ht
  have happlied : v ∈ (Operation.apply ⟨r, fresh⟩ s).users.rows := hv
  rcases Operation.user_origin happlied with ⟨hnew, -⟩ | ⟨u, hu, hstep⟩
  · have hnone : v.deletionScheduledFor = none := by
      cases r with
      | createUser u hash | createExternalUser u identity =>
          obtain rfl := List.mem_singleton.mp hnew
          exact hr
      | _ => exact absurd hnew List.not_mem_nil
    rw [ht] at hnone
    cases hnone
  · cases hstep with
    | kept => exact hs v hu t ht
    | noted | roleSet | statusSet => exact hs u hu t ht
    | scheduled actor due now live hexchange =>
        obtain rfl : r = .requestDeletion actor u.id due now :=
          congrArg Exchange.request hexchange
        obtain rfl := Option.some.inj ht
        obtain ⟨-, -, hdue⟩ := hr
        exact hdue
    | withdrawn | scrubbed => cases ht

/-- The store answers with times that can be represented. -/
theorem timelyAnswer_perform
    (hs : ∀ u ∈ s.users.rows, ∀ t, u.deletionScheduledFor = some t → t.IsCivil)
    {r : RepositoryRequest} (hr : r.Timely c) (fresh : FreshIds) :
    r.TimelyAnswer (s.perform r fresh).1 := by
  cases r with
  | rotate r =>
      intro x new h
      obtain ⟨t, y, ht, hy, hlive, htime, hhead⟩ := rotate_granted h
      obtain ⟨s', hrotate, -⟩ := rotate_of_head fresh.token ht hy hlive htime hhead
      obtain ⟨-, -, -, hexpiry⟩ := hr
      change (s.rotate r fresh.token).1 = _ at h
      rw [hrotate] at h
      obtain rfl := (RotateOutcome.rotated.inj h).2
      exact hexpiry y.expiresAt (Session.isExpired_eq_false_iff.mp htime.2)
  | requestDeletion actor target due now =>
      intro t ht
      obtain ⟨-, -, hdue⟩ := hr
      obtain ⟨outcome, s', hanswered⟩ : ∃ outcome s',
          s.requestDeletion actor target due now fresh = (outcome, s') := ⟨_, _, rfl⟩
      change (s.requestDeletion actor target due now fresh).1.announced? = some t at ht
      rw [hanswered] at ht
      rcases requestDeletion_cases _ actor target due now fresh hanswered with
        ⟨hnone, -⟩ | ⟨u, hu, -, ⟨scheduledFor, hscheduled, hsome, -⟩ | ⟨hsome, -⟩⟩
      · rw [hnone] at ht
        cases ht
      · rw [hsome] at ht
        obtain rfl := Option.some.inj ht
        exact hs u (Table.get?_eq_some_iff.mp hu).1 _ hscheduled
      · rw [hsome] at ht
        obtain rfl := Option.some.inj ht
        exact hdue
  | finalizeDeletion user trace now =>
      intro t ht
      have hstep := s.finalizeDeletion_step user trace now fresh
      change (s.finalizeDeletion user trace now fresh).1 = .notDue t at ht
      rw [ht] at hstep
      cases hstep with
      | early u _ _ hu hscheduled => exact hs u (Table.get?_eq_some_iff.mp hu).1 _ hscheduled
  | _ => trivial

end Store

/-- One request that keeps to representable times is answered with such times, and what
is kept stays so. -/
theorem Shared.Dated.answer
    {c : ServiceSettings} {window : Span} {s : Shared} (hs : s.Dated window)
    {m : Moment} (hclock : m.clock.IsReading) {r : ServiceRequest} (hr : r.Timely c) :
    r.TimelyAnswer (s.answer m r).1 ∧ (s.answer m r).2.Dated window := by
  have hlimiter (call : LimiterCall)
      (hcall : ∀ source now, call = .failure source now → now.IsReading) :
      ({ s with limiter := call.apply s.limiter } : Shared).Dated window :=
    ⟨hs.schedules, (RateLimiter.window_apply call s.limiter).trans hs.window,
      hs.windows.apply hcall⟩
  cases r with
  | repository r =>
      cases hfails : m.repositoryFails with
      | some e =>
          simp only [Shared.answer, hfails]
          exact ⟨trivial, hs⟩
      | none =>
          simp only [Shared.answer, hfails]
          exact ⟨s.store.timelyAnswer_perform hs.schedules hr m.fresh,
            Store.isCivil_schedule_perform hs.schedules hr m.fresh, hs.window, hs.windows⟩
  | queue r =>
      refine ⟨trivial, ?_⟩
      cases hfails : m.queueFails with
      | some e =>
          simp only [Shared.answer, hfails]
          exact hs
      | none =>
          simp only [Shared.answer, hfails]
          exact ⟨hs.schedules, hs.window, hs.windows⟩
  | now => exact ⟨hclock, hs⟩
  | checkLogin email ip now =>
      exact ⟨trivial, hlimiter (.check ⟨email, ip⟩ now) nofun⟩
  | loginFailed email ip now =>
      refine ⟨trivial, hlimiter (.failure ⟨email, ip⟩ now) fun source time h => ?_⟩
      cases h
      exact hr
  | loginSucceeded email ip => exact ⟨trivial, hlimiter (.success ⟨email, ip⟩) nofun⟩
  | _ => exact ⟨trivial, hs⟩

/-! ## Activities at the same time -/

/-- Activities that are under way, and what they share. -/
structure Traffic (ι : Type) where
  activities : ι → Program Backend Unit
  shared : Shared

/-- One step: whose request is answered, and under which circumstances. -/
structure Step (ι : Type) extends Moment where
  activity : ι

namespace Traffic

variable {ι : Type} [DecidableEq ι]

/-- The request of one activity is answered; one that has ended does nothing. -/
def step (p : Traffic ι) (t : Step ι) : Traffic ι :=
  match p.activities t.activity with
  | .done _ => p
  | .ask r next =>
    let (answer, shared) := p.shared.answer t.toMoment r
    ⟨Function.update p.activities t.activity (next answer), shared⟩

theorem step_of_done
    {p : Traffic ι} {t : Step ι} {a : Unit} (h : p.activities t.activity = .done a) :
    p.step t = p := by
  unfold step
  rw [h]

theorem step_of_ask
    {p : Traffic ι} {t : Step ι} {r : ServiceRequest}
    {next : r.Answer → Program Backend Unit}
    (h : p.activities t.activity = .ask r next) :
    p.step t = ⟨Function.update p.activities t.activity
      (next (p.shared.answer t.toMoment r).1), (p.shared.answer t.toMoment r).2⟩ := by
  unfold step
  rw [h]

/-- The request of a step with its answer, if it has one. -/
def answered? (p : Traffic ι) (t : Step ι) : Option Backend.Answered :=
  match p.activities t.activity with
  | .done _ => none
  | .ask r _ => some ⟨r, (p.shared.answer t.toMoment r).1⟩

/-- The requests of some steps with their answers. -/
def answered (p : Traffic ι) : List (Step ι) → List Backend.Answered
  | [] => []
  | t :: ts => (p.answered? t).toList ++ (p.step t).answered ts

/-- What has become of the activities after some steps. -/
def run (p : Traffic ι) (ts : List (Step ι)) : Traffic ι :=
  ts.foldl step p

/-- All that the activities will ask for keeps to representable times, and so does what
they share. -/
structure Timely (c : ServiceSettings) (window : Span) (p : Traffic ι) : Prop where
  activities : ∀ i, (p.activities i).Timely c fun _ => True
  shared : p.shared.Dated window

variable {c : ServiceSettings} {window : Span} {p : Traffic ι}

theorem Timely.step (h : p.Timely c window) {t : Step ι} (hclock : t.clock.IsReading) :
    (p.step t).Timely c window ∧
      ∀ e ∈ p.answered? t, e.1.Timely c ∧ e.1.TimelyAnswer e.2 := by
  unfold answered?
  cases hactivity : p.activities t.activity with
  | done a =>
      rw [step_of_done hactivity]
      exact ⟨h, fun e he => absurd he (Option.not_mem_none e)⟩
  | ask r next =>
      have hprogram := h.activities t.activity
      rw [hactivity] at hprogram
      obtain ⟨hr, hnext⟩ := Program.timely_ask_iff.mp hprogram
      obtain ⟨hanswer, hshared⟩ := h.shared.answer hclock hr
      rw [step_of_ask hactivity]
      refine ⟨⟨fun i => ?_, hshared⟩, fun e he => ?_⟩
      · dsimp only
        by_cases hi : i = t.activity
        · subst hi
          rw [Function.update_self]
          exact hnext _ hanswer
        · rw [Function.update_of_ne hi]
          exact h.activities i
      · obtain rfl := Option.mem_some_iff.mp he
        exact ⟨hr, hanswer⟩

theorem Timely.run
    (h : p.Timely c window) {ts : List (Step ι)} (hclock : ∀ t ∈ ts, t.clock.IsReading) :
    (p.run ts).Timely c window ∧
      ∀ e ∈ p.answered ts, e.1.Timely c ∧ e.1.TimelyAnswer e.2 := by
  induction ts generalizing p with
  | nil => exact ⟨h, List.forall_mem_nil _⟩
  | cons t ts ih =>
      obtain ⟨hnext, hfirst⟩ := h.step (hclock t List.mem_cons_self)
      obtain ⟨hrun, hrest⟩ := ih hnext fun u hu => hclock u (List.mem_cons_of_mem t hu)
      refine ⟨hrun, fun e he => ?_⟩
      rcases List.mem_append.mp he with he | he
      · exact hfirst e (Option.mem_toList.mp he)
      · exact hrest e he

end Traffic

/-! ## Accepted configurations -/

namespace AuthorityConfig

variable {cfg : AuthorityConfig} {c : ServiceSettings} {now : Instant}

/-- What is given out at an instant, taken on or put off then, and has a time to last,
ends at one of these. -/
def ends (cfg : AuthorityConfig) (c : ServiceSettings) (now : Instant) : List Instant :=
  [now + Span.seconds c.accessTtlSeconds, now + c.refreshTtl,
    Session.expiry c.sessionTtl now, VerificationToken.expiry c.verificationTtl now,
    VerificationToken.expiry c.resetTtl now, Job.blockedUntil c.blockedRetry now,
    Job.blockedUntil cfg.worker.blockedRetry now, now + WorkerSettings.lease,
    now + cfg.limiter.window]

theorem endsAfter_of_mem_ends
    (h : cfg.validate = .ok ()) (hservices : cfg.services = .ok c) (hnow : now.IsReading) :
    ∀ t ∈ cfg.ends c now, t.EndsAfter now := by
  have hc := inBounds_of_validate h hservices
  simp only [ends, List.forall_mem_cons]
  exact ⟨hnow.endsAfter_add hc.accessTtl, hnow.endsAfter_add hc.refreshTtl,
    hnow.endsAfter_add hc.sessionTtl, hnow.endsAfter_add hc.verificationTtl,
    hnow.endsAfter_add hc.resetTtl, hnow.endsAfter_add hc.blockedRetry,
    hnow.endsAfter_add (isTerm_blockedRetry h), hnow.endsAfter_add WorkerSettings.isTerm_lease,
    hnow.endsAfter_add (isTerm_window h), List.forall_mem_nil _⟩

end AuthorityConfig

/-- The window can be represented until it closes, and so can the time from any reading
of a clock until then. -/
structure RateLimiter.ClosesInTime (l : RateLimiter) (w : FailureWindow) : Prop where
  closes : (l.closesAt w).EndsAfter w.startedAt
  wait : ∀ now : Instant, now.IsReading → ((l.closesAt w).since now).Fits

theorem Shared.Dated.closesInTime
    {window : Span} {s : Shared} (hs : s.Dated window) (hwindow : window.IsTerm)
    {key : String} {w : FailureWindow} (hw : s.limiter.windows.get? key = some w) :
    s.limiter.ClosesInTime w := by
  have hstart := hs.windows key w hw
  have hterm : s.limiter.window.IsTerm := hs.window ▸ hwindow
  exact ⟨hstart.endsAfter_add hterm, fun now hnow =>
    (hstart.isCivil_add hterm.toIsDelay).fits_since hnow.isCivil⟩

/-- Under a configuration that is accepted, and that services are set up from, no time
leaves the range of times, as long as the clock shows years from 0 to 9999 and no leap
seconds, be it forwards or backwards.
The spans that are set up can be represented, and so can the waits of failed jobs; what is
given out at a reading, or put off from then, ends after it.  Whatever calls, deletions
and polls are under way at the same time, in whatever order their requests are answered,
and however often the repository and the queue fail: every request asks for times that
can be represented only, counting all that is worked out for it and by it, and it is
answered with such times; what it lets run out does so strictly later, and no delay that
it asks for is negative.  The windows of the limiter can be represented until they close.
What is shared at first may be empty, or anything with schedules and windows that are
dated properly. -/
theorem accepted_configuration_keeps_time
    {cfg : AuthorityConfig} {c : ServiceSettings} (hvalid : cfg.validate = .ok ())
    (hservices : cfg.services = .ok c) {ι : Type} [DecidableEq ι]
    (activities : ι → Activity) {start : Shared}
    (hstart : start.Dated cfg.limiter.window) {steps : List (Step ι)}
    (hclock : ∀ t ∈ steps, t.clock.IsReading) :
    let p : Traffic ι := ⟨fun i => (activities i).program c cfg.worker, start⟩
    let limiter := (p.run steps).shared.limiter
    ((∀ d ∈ cfg.lengths c, d.Fits) ∧
      ∀ attempts draw, (cfg.worker.retry.backoff attempts draw).Fits) ∧
    (∀ now : Instant, now.IsReading → ∀ t ∈ cfg.ends c now, t.EndsAfter now) ∧
    (∀ e ∈ p.answered steps, e.1.Timely c ∧ e.1.TimelyAnswer e.2) ∧
    ∀ key w, limiter.windows.get? key = some w → limiter.ClosesInTime w := by
  intro p limiter
  have hretry := AuthorityConfig.isTerm_blockedRetry hvalid
  have hc := AuthorityConfig.inBounds_of_validate hvalid hservices
  have hp : p.Timely c cfg.limiter.window :=
    ⟨fun i => (activities i).timely hc hretry.toIsDelay, hstart⟩
  obtain ⟨hrun, hanswered⟩ := hp.run hclock
  refine ⟨⟨AuthorityConfig.fits_lengths hvalid hservices, fun attempts draw =>
    (cfg.worker.isDelay_backoff attempts draw).fits⟩, fun now hnow =>
      AuthorityConfig.endsAfter_of_mem_ends hvalid hservices hnow, hanswered, ?_⟩
  intro key w hw
  exact hrun.shared.closesInTime (AuthorityConfig.isTerm_window hvalid) hw

/-- A configuration that sets everything as long as it may be. -/
def longestAuthority : AuthorityConfig where
  database := { url := "" }
  signing := { privateKeyPath := "", publicKeyPath := "", accessTtlSeconds := 86400 }
  session := { refreshTtlDays := 3650, sessionTtlDays := 3650 }
  recovery := { verificationTtlHours := 720, resetTtlMinutes := 1440 }
  loginLimit := { windowSeconds := 86400 }
  deletion := { gracePeriodDays := 3650, blockedRetryHours := 720 }

/-- Its services. -/
def longestServices : ServiceSettings :=
  longestAuthority.services.toOption.getD plainSettings

/-- One user, and nothing else. -/
def oneUser : Shared where
  store := { users := (∅ : Table User).insert (.create ⟨1⟩ "a@e.com" none ⟨0, 0⟩) }
  limiter := longestAuthority.limiter

/-- The user asks to be deleted in the last second of the year 9999, and again when the
clock has been set back to the first second of the year 0. -/
def leavingTwice : List (Step Bool) :=
  let moment (clock : Instant) : Moment := {
    clock, fresh := ⟨⟨0⟩, ⟨0⟩, ⟨0⟩⟩, jobId := "", repositoryFails := none,
    queueFails := none, others := Surroundings.still clock [] 0 }
  let first := moment ⟨253402300799, 999999999⟩
  let second := moment ⟨-62167219200, 0⟩
  [⟨first, false⟩, ⟨first, false⟩, ⟨first, false⟩,
    ⟨second, true⟩, ⟨second, true⟩, ⟨second, true⟩]

theorem accepted_configuration_keeps_time_longest :
    let leaving (_ : Bool) : Activity := .service (.requestDeletion {} ⟨1⟩)
    let p : Traffic Bool :=
      ⟨fun i => (leaving i).program longestServices longestAuthority.worker, oneUser⟩
    longestAuthority.validate = .ok () ∧ longestAuthority.services = .ok longestServices ∧
      oneUser.Dated longestAuthority.limiter.window ∧
      (∀ t ∈ leavingTwice, t.clock.IsReading) ∧
      (p.answered leavingTwice).length = 6 ∧
      ∀ e ∈ p.answered leavingTwice, e.1.Timely longestServices ∧ e.1.TimelyAnswer e.2 := by
  intro leaving p
  have hvalid : longestAuthority.validate = .ok () := rfl
  have hservices : longestAuthority.services = .ok longestServices := rfl
  have hstart : oneUser.Dated longestAuthority.limiter.window := by
    refine ⟨fun u hu t ht => ?_, rfl, RateLimiter.startsIn_create _ _⟩
    obtain rfl := List.mem_singleton.mp hu
    cases ht
  have hclock : ∀ t ∈ leavingTwice, t.clock.IsReading := by
    have hreadings : ∀ t ∈ leavingTwice, t.clock.IsPlain ∧
        0 ≤ (CivilDate.ofDays (t.clock.seconds / 86400)).year ∧
        (CivilDate.ofDays (t.clock.seconds / 86400)).year ≤ 9999 := by
      decide +kernel
    exact fun t ht => ⟨(hreadings t ht).1, (hreadings t ht).2⟩
  have hlength : (p.answered leavingTwice).length = 6 := by decide +kernel
  obtain ⟨-, -, hanswered, -⟩ :=
    accepted_configuration_keeps_time hvalid hservices leaving hstart hclock
  exact ⟨hvalid, hservices, hstart, hclock, hlength, hanswered⟩

end AccountAuthority
