import AccountAuthority.Config.Wiring
import AccountAuthority.Proofs.AwaitedDeletions
import AccountAuthority.Proofs.DueDeletions

/-!
# No deletion is forgotten

A deletion that has been requested keeps its job until it is carried out or
withdrawn.  So a poll that can claim all jobs that are due serves all users whose
jobs they are: it deletes them, or it keeps the last administrator for a while.
-/

namespace AccountAuthority

open Store

/-- The books have come from earlier ones by these operations. -/
structure Books.Follows (start : Books) (ops : List Operation) (b : Books) :
    Prop where
  log : b.log = start.log ++ ops
  store : b.store = start.store.run ops

/-- A deletion has been held back at an instant, since its user was the only
active administrator when it was tried, and waits for another while. -/
structure Books.HeldBack (start : Books) (retry : Span) (now : Instant)
    (id : UserId) (b : Books) : Prop where
  job : ∃ j, b.queue.jobs.get? (Job.deletionId id) = some j ∧ j.state = .pending ∧
    j.runAt = Job.blockedUntil retry now
  tried : ∃ pre op post, b.log = start.log ++ pre ++ op :: post ∧
    op.request = .finalizeDeletion id none now ∧
    (start.store.run pre).OnlyActiveAdmin id

/-- What becomes of a deletion that is due: the user has been deleted, or the
deletion has been held back. -/
def Books.Served (start : Books) (retry : Span) (now : Instant) (id : UserId)
    (b : Books) : Prop :=
  b.store.Deleted id ∨ start.HeldBack retry now id b

namespace Store.FinalizeStep

variable {s s' : Store} {id : UserId} {now : Instant} {outcome : FinalizeOutcome}

/-- Nobody else is concerned. -/
theorem mem_users_of_ne
    (h : s.FinalizeStep id now outcome s') {u : User} (hu : u ∈ s.users.rows)
    (hne : u.id ≠ id) : u ∈ s'.users.rows := by
  cases h with
  | idle _ _ _ husers | early _ _ _ _ _ _ husers | blocked _ _ _ _ _ _ _ husers =>
      rwa [husers]
  | deleted v _ _ hv husers =>
      rw [husers]
      refine Table.mem_rows_insert.mpr (Or.inr ⟨hu, ?_⟩)
      rwa [key_user, key_user, User.scrub, id_of_get?_user s hv]

theorem deleted_stays
    (h : s.FinalizeStep id now outcome s') {user : UserId} (hs : s.Deleted user) :
    s'.Deleted user := by
  obtain ⟨u, hu, hdeleted⟩ := hs
  cases h with
  | idle _ _ _ husers | early _ _ _ _ _ _ husers | blocked _ _ _ _ _ _ _ husers =>
      exact ⟨u, by rw [husers, hu], hdeleted⟩
  | deleted v _ _ hv husers =>
      rw [Deleted, husers]
      by_cases heq : user = v.id
      · exact ⟨v.scrub now, (Table.get?_insert ..).trans (if_pos heq), rfl⟩
      · exact ⟨u, (Table.get?_insert ..).trans ((if_neg heq).trans hu), hdeleted⟩

end Store.FinalizeStep

namespace Books

variable {start b b' : Books} {w : WorkerSettings} {job : Job} {jobs : List Job}
  {user id : UserId} {retry : Span} {now : Instant}

theorem Follows.concat
    {ops : List Operation} (h : start.Follows ops b) {op : Operation}
    (hlog : b'.log = b.log ++ [op]) (hstore : b'.store = op.apply b.store) :
    start.Follows (ops ++ [op]) b' where
  log := by rw [hlog, h.log, List.append_assoc]
  store := by rw [hstore, h.store, Store.run_concat]

/-- The job of nobody else is touched. -/
theorem mem_jobs_of_ne
    (hjob : job ∈ b.queue.jobs.rows) {time : Instant} {op : Operation}
    {outcome : FinalizeOutcome} (h : Worker.Handles w job user time op outcome b b')
    {j : Job} (hj : j ∈ b.queue.jobs.rows) (hne : j.id ≠ job.id) :
    j ∈ b'.queue.jobs.rows := by
  obtain ⟨later, draw, jobId, hqueue⟩ := h.queue
  rw [hqueue]
  cases outcome with
  | notDue | blockedLastAdmin | finalized | skipped =>
      exact (Queue.mem_change hjob _ _).mpr (Or.inr ⟨hj, hne⟩)

/-- Who has been served stays so while the rest of the batch is handled. -/
theorem Served.handled
    (hserved : start.Served retry now id b) (hb : b.Backed (job :: jobs))
    {time : Instant} {op : Operation} {outcome : FinalizeOutcome}
    (h : Worker.Handles w job user time op outcome b b') :
    start.Served retry now id b' := by
  obtain ⟨hjob, hrunning⟩ := hb.queue.leased job List.mem_cons_self
  refine hserved.imp h.step.deleted_stays fun hheld => ?_
  obtain ⟨⟨j, hget, hpending, hrunAt⟩, pre, op', post, hbefore, hrequest, honly⟩ :=
    hheld
  obtain ⟨hj, hid⟩ := Table.get?_eq_some_iff.mp hget
  refine ⟨⟨j, ?_, hpending, hrunAt⟩, pre, op', post ++ [op], ?_, hrequest, honly⟩
  · refine Table.get?_eq_some_iff.mpr ⟨mem_jobs_of_ne hjob h hj ?_, hid⟩
    intro heq
    rw [Queue.eq_of_id_eq hj hjob heq, hrunning] at hpending
    cases hpending
  · rw [h.log, hbefore]
    simp

/-- Whose job is handled is served, if the deletion is due. -/
theorem Backed.served
    (hb : b.Backed (job :: jobs)) {op : Operation} {outcome : FinalizeOutcome}
    (h : Worker.Handles w job user now op outcome b b') {u : User}
    {scheduledFor : Instant} (hu : u ∈ b.store.users.rows) (hid : u.id = user)
    (hscheduled : u.deletionScheduledFor = some scheduledFor)
    (hdue : scheduledFor ≤ now) {ops : List Operation}
    (hfollows : start.Follows ops b) : start.Served w.blockedRetry now user b' := by
  obtain ⟨hjob, hrunning⟩ := hb.queue.leased job List.mem_cons_self
  obtain ⟨later, draw, jobId, hqueue⟩ := h.queue
  have hget : b.store.users.get? user = some u :=
    Table.get?_eq_some_iff.mpr ⟨hu, hid⟩
  cases h.step with
  | idle _ _ hnobody _ =>
      exfalso
      rcases hnobody u hget with hdeleted | hnone
      · exact (hb.users u hu scheduledFor hscheduled).live hdeleted
      · rw [hscheduled] at hnone
        cases hnone
  | early v s _ hv hs hearly _ =>
      rw [hget] at hv
      obtain rfl := Option.some.inj hv
      rw [hscheduled] at hs
      obtain rfl := Option.some.inj hs
      exact absurd hearly (Instant.not_lt.mpr hdue)
  | blocked v s _ hv hs _ honly _ =>
      refine Or.inr ⟨⟨job.reschedule (Job.blockedUntil w.blockedRetry now) later,
        ?_, ?_, ?_⟩, ops, op, [], ?_, h.asked, ?_⟩
      · rw [hqueue]
        exact Table.get?_eq_some_iff.mpr ⟨(Queue.mem_change hjob _ _).mpr (Or.inl rfl),
          (h.isFor.reschedule _ later).id⟩
      · exact Job.reschedule_state hrunning _ later
      · exact Job.reschedule_runAt hrunning _ later
      · rw [h.log, hfollows.log]
      · rwa [← hfollows.store]
  | deleted v _ _ hv husers =>
      refine Or.inl ⟨v.scrub now, ?_, rfl⟩
      rw [husers, Table.get?_insert, if_pos]
      exact (id_of_get?_user _ hv).symm

/-- While a batch is handled, a user has been served or still has a job in
it. -/
structure Serving (start : Books) (retry : Span) (now : Instant) (u : User)
    (jobs : List Job) (b : Books) : Prop where
  backed : b.Backed jobs
  follows : ∃ ops, start.Follows ops b
  user : start.Served retry now u.id b ∨
    (u ∈ b.store.users.rows ∧ ∃ j ∈ jobs, j.id = Job.deletionId u.id)

theorem Serving.leads_process
    {u : User} (h : start.Serving w.blockedRetry now u (job :: jobs) b)
    (hnow : now.IsPlain) (hretry : 0 ≤ w.blockedRetry.nanos)
    {scheduledFor : Instant} (hscheduled : u.deletionScheduledFor = some scheduledFor)
    (hdue : scheduledFor ≤ now) :
    (Worker.process w job).Leads (· = now)
      (fun _ => start.Serving w.blockedRetry now u jobs) b := by
  have hb := h.backed
  obtain ⟨ops, hfollows⟩ := h.follows
  obtain ⟨hjob, -⟩ := hb.queue.leased job List.mem_cons_self
  obtain ⟨user, hfor⟩ := hb.queue.isFor job hjob
  refine Worker.leads_process_of_isFor hfor ?_
  rintro _ op outcome b' rfl hhandles
  refine ⟨hb.handled hhandles hnow hretry,
    ⟨_, hfollows.concat hhandles.log hhandles.store⟩, ?_⟩
  rcases h.user with hserved | ⟨hu, j, hj, hid⟩
  · exact Or.inl (hserved.handled hb hhandles)
  by_cases huser : u.id = user
  · rw [huser]
    exact Or.inl (hb.served hhandles hu huser hscheduled hdue hfollows)
  · refine Or.inr ⟨hhandles.step.mem_users_of_ne hu huser, j, ?_, hid⟩
    refine (List.mem_cons.mp hj).resolve_left ?_
    rintro rfl
    exact huser (Job.deletionId_injective (hid.symm.trans hfor.id))

/-- A poll that can claim all that is due serves the users whose jobs are due. -/
theorem Backed.leads_poll_served
    (hb : b.Backed []) (hnow : now.IsPlain) (hretry : 0 ≤ w.blockedRetry.nanos)
    (hbatch : (b.queue.dueJobs Job.deletionType now).length ≤ w.batch) {u : User}
    {scheduledFor : Instant} (hu : u ∈ b.store.users.rows)
    (hscheduled : u.deletionScheduledFor = some scheduledFor) {j : Job}
    (hj : b.queue.jobs.get? (Job.deletionId u.id) = some j) (hdue : j.runAt ≤ now) :
    (Worker.poll w).Leads (· = now)
      (fun _ => b.Served w.blockedRetry now u.id) b := by
  obtain ⟨hrow, hid⟩ := Table.get?_eq_some_iff.mp hj
  obtain ⟨j', hrow', hid', hwaits⟩ := (hb.users u hu scheduledFor hscheduled).job
  obtain rfl := Queue.eq_of_id_eq hrow hrow' (hid.trans hid'.symm)
  obtain ⟨hpending, hle⟩ := hwaits.resolve_left List.not_mem_nil
  obtain ⟨user, hfor⟩ := hb.queue.isFor j hrow
  have hjobDue : j.isDue now = true :=
    (Job.isDue_iff (by simp [hpending])).mpr ⟨hpending, hdue⟩
  have hpoll : (Worker.poll w).Leads (· = now)
      (fun _ => b.Serving w.blockedRetry now u []) b := by
    refine Worker.leads_poll (Φ := b.Serving w.blockedRetry now u)
      (fun job jobs b' h => ?_) ?_
    · exact h.leads_process hnow hretry hscheduled (Instant.le_trans hle hdue)
    · rintro _ jobId rfl
      refine ⟨hb.enter_claim _ _ _ _ jobId, ⟨[], by simp, rfl⟩, Or.inr ⟨hu, ?_⟩⟩
      exact ⟨_, Queue.leased_mem_claimed hbatch hrow hfor.type hjobDue, hid⟩
  refine hpoll.mono fun _ b' h => h.user.resolve_right ?_
  rintro ⟨-, j, hj, -⟩
  exact List.not_mem_nil hj

end Books

/-- Every number of a configuration that becomes a span of time is within its
bounds. -/
theorem AuthorityConfig.contains_of_validate
    {cfg : AuthorityConfig} (h : cfg.validate = .ok ()) {name : String}
    {range : IntegerRange} {value : ℤ} (hmem : (name, range, value) ∈ cfg.spans) :
    range.contains value = true := by
  have hfault : cfg.fault? = none := by
    unfold validate at h
    split at h
    · cases h
    next hnone => exact hnone
  unfold fault? at hfault
  split at hfault
  · cases hfault
  split at hfault
  · cases hfault
  next hfind => simpa using List.find?_eq_none.mp hfind _ hmem

/-- A deletion that is held back waits for a while, not less than no time. -/
theorem AuthorityConfig.blockedRetry_nonneg
    {cfg : AuthorityConfig} (h : cfg.validate = .ok ()) :
    0 ≤ cfg.worker.blockedRetry.nanos := by
  have hmem : ("DELETION_BLOCKED_RETRY_HOURS", ⟨1, 720⟩,
      cfg.deletion.blockedRetryHours) ∈ cfg.spans := by simp [spans]
  have hhours := contains_of_validate h hmem
  simp only [IntegerRange.contains, decide_eq_true_eq] at hhours
  simp only [worker, Span.hours, Span.seconds, Span.perSecond]
  omega

/-- However calls run one after the other under a configuration that is
accepted, at times outside of leap seconds from which the calendar reaches the
schedules: a user whose deletion is scheduled has a job for it, which waits at
least as long, can be read and has not failed.  If a poll may claim all jobs
that are due at its time, a user whose job is due is deleted by it, or the
deletion is held back for the last active administrator.  Only the worker has to
be set up by the configuration: the services may have any settings. -/
theorem scheduled_deletion_served
    {cfg : AuthorityConfig} (hvalid : cfg.validate = .ok ())
    {c : ServiceSettings} {errands : List Errand}
    (hclock : ∀ e ∈ errands, e.ClockIn (e.call.Bears c)) {u : User}
    {scheduledFor : Instant}
    (hu : u ∈ (Books.empty.run c cfg.worker errands).store.users.rows)
    (hscheduled : u.deletionScheduledFor = some scheduledFor) :
    let b := Books.empty.run c cfg.worker errands
    ∃ j, b.queue.jobs.get? (Job.deletionId u.id) = some j ∧ j.IsFor u.id ∧
      j.state = .pending ∧ scheduledFor ≤ j.runAt ∧
      ∀ (now : Instant) (o : Circumstances), now.IsPlain →
        (∀ n, o.around n .now = now) →
        (b.queue.dueJobs Job.deletionType now).length ≤ cfg.deletion.batchSize →
        j.runAt ≤ now →
          b.Served (.hours cfg.deletion.blockedRetryHours) now u.id
            (b.after c cfg.worker ⟨.poll, o⟩) := by
  intro b
  have hretry := AuthorityConfig.blockedRetry_nonneg hvalid
  have hb : b.Backed [] := Books.backed_run hretry hclock
  obtain ⟨j, hj, hid, hwaits⟩ := (hb.users u hu scheduledFor hscheduled).job
  obtain ⟨hpending, hle⟩ := hwaits.resolve_left List.not_mem_nil
  have hget : b.queue.jobs.get? (Job.deletionId u.id) = some j :=
    Table.get?_eq_some_iff.mpr ⟨hj, hid⟩
  have hfor : j.IsFor u.id := by
    obtain ⟨user, hfor⟩ := hb.queue.isFor j hj
    rwa [← Job.deletionId_injective (hfor.id.symm.trans hid)]
  refine ⟨j, hget, hfor, hpending, hle, fun now o hnow ho hbatch hdue => ?_⟩
  have hlimit : (b.queue.dueJobs Job.deletionType now).length ≤ cfg.worker.batch :=
    hbatch.trans (Nat.le_max_left _ _)
  have hpoll := hb.leads_poll_served hnow hretry hlimit hu hscheduled hget hdue
  have hprogram : (ServiceCall.poll.program c cfg.worker).Leads (· = now)
      (fun _ => b.Served cfg.worker.blockedRetry now u.id) b :=
    Program.leads_bind.mpr (hpoll.mono fun _ _ h => Program.leads_pure.mpr h)
  exact hprogram.carryOut ho 0

/-! ## A deletion that is due at once -/

/-- A configuration under which deletions are due as soon as they are
requested. -/
def sampleAuthority : AuthorityConfig where
  database := { url := "" }
  signing := { privateKeyPath := "", publicKeyPath := "" }
  deletion := { gracePeriodDays := 0 }

/-- Its services. -/
def sampleServices : ServiceSettings :=
  sampleAuthority.services.toOption.getD plainSettings

/-- Somebody registers and asks to be deleted. -/
def registeredAndLeaving : List Errand := [
  ⟨.register "a@e.com" "correct horse battery" none {}, .numbered 0 ⟨0, 0⟩⟩,
  ⟨.requestDeletion {} ⟨1⟩, .numbered 20 ⟨10, 0⟩⟩]

theorem scheduled_deletion_served_sample :
    let b := Books.empty.run sampleServices sampleAuthority.worker
      registeredAndLeaving
    ∃ u ∈ b.store.users.rows, u.deletionScheduledFor = some ⟨10, 0⟩ ∧
      b.Served (.hours 24) ⟨20, 0⟩ u.id
        (b.after sampleServices sampleAuthority.worker
          ⟨.poll, .numbered 40 ⟨20, 0⟩⟩) := by
  intro b
  have husers : ∃ u ∈ b.store.users.rows,
      u.deletionScheduledFor = some ⟨10, 0⟩ := by decide +kernel
  have hjobs : b.queue.jobs.rows.length ≤ 10 ∧
      ∀ j ∈ b.queue.jobs.rows, j.runAt ≤ ⟨20, 0⟩ := by decide +kernel
  have hrange : (User.deletionDue sampleServices.gracePeriod ⟨10, 0⟩).InRange := by
    unfold Instant.InRange
    decide +kernel
  have hclock : ∀ e ∈ registeredAndLeaving,
      e.ClockIn (e.call.Bears sampleServices) := by
    intro e he n
    rcases List.mem_cons.mp he with rfl | he
    · exact Instant.isPlain_iff.mpr rfl
    · obtain rfl := List.mem_singleton.mp he
      exact ⟨Instant.isPlain_iff.mpr rfl, hrange⟩
  have hvalid : sampleAuthority.validate = .ok () := rfl
  obtain ⟨u, hu, hscheduled⟩ := husers
  obtain ⟨j, hget, -, -, -, hserved⟩ :=
    scheduled_deletion_served hvalid hclock hu hscheduled
  obtain ⟨hfew, hdue⟩ := hjobs
  have hjob : j.runAt ≤ ⟨20, 0⟩ := hdue j (Table.get?_eq_some_iff.mp hget).1
  exact ⟨u, hu, hscheduled, hserved ⟨20, 0⟩ (.numbered 40 ⟨20, 0⟩)
    (Instant.isPlain_iff.mpr rfl) (fun _ => rfl)
    (Queue.length_dueJobs_le.trans hfew) hjob⟩

end AccountAuthority
