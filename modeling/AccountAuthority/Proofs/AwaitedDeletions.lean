import AccountAuthority.Proofs.LastAdmin
import AccountAuthority.Proofs.ProperCalls
import AccountAuthority.Proofs.QueuedJobs

/-!
# Deletions that are waited for

As long as calls and polls do not overtake each other, every user whose deletion
is scheduled has a job that waits, and that runs no earlier than the schedule
says.  While a worker handles a batch, the job may also be one of those that are
still to be handled.  Whatever the worker finds out about a user, it leaves no
schedule without a job.
-/

namespace AccountAuthority

open Store

/-! ## Requests and attempts -/

/-- What the attempt to delete a user answers and leaves behind. -/
inductive Store.FinalizeStep (s : Store) (id : UserId) (now : Instant) :
    FinalizeOutcome → Store → Prop
  | idle (reason : SkipReason) (s' : Store)
      (nobody : ∀ u, s.users.get? id = some u →
        u.status = .deleted ∨ u.deletionScheduledFor = none)
      (users : s'.users = s.users) :
      FinalizeStep s id now (.skipped reason) s'
  | early (u : User) (scheduledFor : Instant) (s' : Store)
      (get? : s.users.get? id = some u)
      (scheduled : u.deletionScheduledFor = some scheduledFor)
      (early : now < scheduledFor) (users : s'.users = s.users) :
      FinalizeStep s id now (.notDue scheduledFor) s'
  | blocked (u : User) (scheduledFor : Instant) (s' : Store)
      (get? : s.users.get? id = some u)
      (scheduled : u.deletionScheduledFor = some scheduledFor)
      (due : scheduledFor ≤ now) (only : s.OnlyActiveAdmin id)
      (users : s'.users = s.users) : FinalizeStep s id now .blockedLastAdmin s'
  | deleted (u : User) (sessions : ℕ) (s' : Store)
      (get? : s.users.get? id = some u)
      (users : s'.users = s.users.insert (u.scrub now)) :
      FinalizeStep s id now (.finalized id sessions) s'

namespace Store

theorem finalizeDeletion_step
    (s : Store) (id : UserId) (trace : Option String) (now : Instant)
    (fresh : FreshIds) :
    s.FinalizeStep id now (s.finalizeDeletion id trace now fresh).1
      (s.finalizeDeletion id trace now fresh).2 := by
  unfold finalizeDeletion
  split
  next hnone =>
    refine .idle _ _ (fun u hu => ?_) rfl
    rw [hnone] at hu
    cases hu
  next u hu =>
    split
    next hdeleted =>
      refine .idle _ _ (fun v hv => Or.inl ?_) rfl
      rw [hu] at hv
      obtain rfl := Option.some.inj hv
      exact hdeleted
    split
    next hunscheduled =>
      refine .idle _ _ (fun v hv => Or.inr ?_) rfl
      rw [hu] at hv
      obtain rfl := Option.some.inj hv
      exact hunscheduled
    next scheduledFor hscheduled =>
      split
      next hearly => exact .early u scheduledFor _ hu hscheduled hearly rfl
      next hdue =>
        dsimp only
        split
        next hblocks =>
          exact .blocked u scheduledFor _ hu hscheduled (Instant.not_lt.mp hdue)
            (blocks_iff.mp hblocks) rfl
        · exact .deleted u _ _ hu rfl

/-- What is announced is in the record of the user, now or before. -/
theorem requestDeletion_cases
    (s : Store) (actor : Actor) (target : UserId) (due now : Instant)
    (fresh : FreshIds) {outcome : DeletionRequestOutcome} {s' : Store}
    (h : s.requestDeletion actor target due now fresh = (outcome, s')) :
    (outcome.announced? = none ∧ s'.users = s.users) ∨
    ∃ u, s.users.get? target = some u ∧ u.status ≠ .deleted ∧
      ((∃ scheduledFor, u.deletionScheduledFor = some scheduledFor ∧
          outcome.announced? = some scheduledFor ∧ s'.users = s.users) ∨
        (outcome.announced? = some due ∧
          s'.users = s.users.insert (u.scheduled actor due now))) := by
  unfold requestDeletion at h
  split at h
  · obtain ⟨rfl, rfl⟩ := Prod.mk.inj h
    exact Or.inl ⟨rfl, rfl⟩
  next u hu =>
    split at h
    · obtain ⟨rfl, rfl⟩ := Prod.mk.inj h
      exact Or.inl ⟨rfl, rfl⟩
    next hlive =>
      split at h
      next hsome =>
        obtain ⟨rfl, rfl⟩ := Prod.mk.inj h
        obtain ⟨scheduledFor, hscheduled⟩ := Option.isSome_iff_exists.mp hsome
        exact Or.inr ⟨u, hu, hlive,
          Or.inl ⟨scheduledFor, hscheduled, hscheduled, rfl⟩⟩
      · obtain ⟨rfl, rfl⟩ := Prod.mk.inj h
        exact Or.inr ⟨u, hu, hlive, Or.inr ⟨rfl, rfl⟩⟩

end Store

/-! ## Users and their jobs -/

/-- A user whose deletion is scheduled for an instant has a job that waits until
then, or that a worker has claimed and not handled yet. -/
structure Queue.Backs (q : Queue) (claimed : List Job) (u : User)
    (scheduledFor : Instant) : Prop where
  live : u.status ≠ .deleted
  plain : scheduledFor.IsPlain
  inRange : scheduledFor.InRange
  job : ∃ j ∈ q.jobs.rows, j.id = Job.deletionId u.id ∧
    (j ∈ claimed ∨ (j.state = .pending ∧ scheduledFor ≤ j.runAt))

/-- All jobs are for deletions, and all users whose deletion is scheduled have
their jobs. -/
structure Books.Backed (claimed : List Job) (b : Books) : Prop where
  queue : b.queue.HoldsDeletions claimed
  users : ∀ u ∈ b.store.users.rows, ∀ scheduledFor,
    u.deletionScheduledFor = some scheduledFor →
      b.queue.Backs claimed u scheduledFor

namespace Queue.Backs

variable {q : Queue} {claimed : List Job} {u : User} {scheduledFor : Instant}

theorem of_record
    (h : q.Backs claimed u scheduledFor) {v : User} (hid : v.id = u.id)
    (hlive : v.status ≠ .deleted) : q.Backs claimed v scheduledFor where
  live := hlive
  plain := h.plain
  inRange := h.inRange
  job := hid ▸ h.job

theorem insert_other
    (h : q.Backs [] u scheduledFor) {j : Job} {user : UserId}
    (hfor : j.IsFor user) (hne : u.id ≠ user) :
    Queue.Backs { jobs := q.jobs.insert j } [] u scheduledFor where
  live := h.live
  plain := h.plain
  inRange := h.inRange
  job := by
    obtain ⟨j', hj', hid, hwaits⟩ := h.job
    refine ⟨j', Table.mem_rows_insert.mpr (Or.inr ⟨hj', fun heq => hne ?_⟩), hid,
      hwaits⟩
    exact Job.deletionId_injective (hid.symm.trans (heq.trans hfor.id))

theorem claim
    (h : q.Backs [] u scheduledFor) (type : String) (now : Instant) (lease : Span)
    (limit : ℕ) :
    (q.claim type now lease limit).2.Backs (q.claim type now lease limit).1 u
      scheduledFor where
  live := h.live
  plain := h.plain
  inRange := h.inRange
  job := by
    obtain ⟨j, hj, hid, hwaits⟩ := h.job
    by_cases hclaimed : j.id ∈ (q.claim type now lease limit).1.map Job.id
    · obtain ⟨j', hj', hid'⟩ := List.mem_map.mp hclaimed
      exact ⟨j', mem_claim.mpr (Or.inl hj'), hid'.trans hid, Or.inl hj'⟩
    · exact ⟨j, mem_claim.mpr (Or.inr ⟨hj, hclaimed⟩), hid,
        Or.inr (hwaits.resolve_left List.not_mem_nil)⟩

variable {job : Job} {jobs : List Job} {user : UserId}

theorem change_other
    (h : q.Backs (job :: jobs) u scheduledFor) (hjob : job ∈ q.jobs.rows)
    (hfor : job.IsFor user) (hne : u.id ≠ user) (f : Job → Job)
    (hf : ∀ j, (f j).id = j.id) :
    (q.change job.id f hf).Backs jobs u scheduledFor where
  live := h.live
  plain := h.plain
  inRange := h.inRange
  job := by
    obtain ⟨j, hj, hid, hwaits⟩ := h.job
    have hother : j.id ≠ job.id := fun heq => hne <|
      Job.deletionId_injective (hid.symm.trans (heq.trans hfor.id))
    refine ⟨j, (mem_change hjob f hf).mpr (Or.inr ⟨hj, hother⟩), hid, ?_⟩
    refine hwaits.imp_left fun hclaimed => ?_
    exact (List.mem_cons.mp hclaimed).resolve_left fun heq => hother (heq ▸ rfl)

theorem reschedule
    (h : q.Backs (job :: jobs) u scheduledFor) (hjob : job ∈ q.jobs.rows)
    (hrunning : job.state = .running) (hfor : job.IsFor u.id) {runAt : Instant}
    (hle : scheduledFor ≤ runAt) (later : Instant) :
    (q.reschedule job.id runAt later).Backs jobs u scheduledFor where
  live := h.live
  plain := h.plain
  inRange := h.inRange
  job := by
    refine ⟨job.reschedule runAt later, (mem_change hjob _ _).mpr (Or.inl rfl),
      (hfor.reschedule runAt later).id, Or.inr ⟨?_, ?_⟩⟩
    · exact Job.reschedule_state hrunning runAt later
    · rwa [Job.reschedule_runAt hrunning]

end Queue.Backs

/-! ## Calls -/

namespace Books

theorem backed_empty : Books.empty.Backed [] where
  queue := .empty
  users := fun _ hu => absurd hu List.not_mem_nil

/-- Nothing but a deletion gives a user a schedule, and nothing takes a user
away. -/
theorem stable_backed : Books.Stable (Books.Backed []) := by
  intro b r fresh hb hr hdeletion
  refine ⟨hb.queue, fun v hv scheduledFor hscheduled => ?_⟩
  have happlied : v ∈ (Operation.apply ⟨r, fresh⟩ b.store).users.rows := hv
  rcases Operation.user_origin happlied with ⟨hnew, -⟩ | ⟨u, hu, hstep⟩
  · have hnone := (hr.stays v hnew).unscheduled
    rw [hscheduled] at hnone
    cases hnone
  · have hlive := hr.setsLiveStatus
    cases hstep with
    | kept => exact hb.users v hu scheduledFor hscheduled
    | noted verifiedAt now live =>
        exact (hb.users u hu scheduledFor hscheduled).of_record rfl live
    | roleSet role now live =>
        exact (hb.users u hu scheduledFor hscheduled).of_record rfl live
    | statusSet status now live asked =>
        refine (hb.users u hu scheduledFor hscheduled).of_record rfl ?_
        rintro rfl
        exact hlive asked
    | scheduled actor due now live hexchange =>
        obtain rfl : r = .requestDeletion actor u.id due now :=
          congrArg Exchange.request hexchange
        cases hdeletion
    | withdrawn | scrubbed => cases hscheduled

end Books

/-- A clock reading that a deletion can be scheduled at. -/
def ServiceSettings.CanSchedule (c : ServiceSettings) (now : Instant) : Prop :=
  now.IsPlain ∧ (User.deletionDue c.gracePeriod now).InRange

theorem Queue.HoldsDeletions.exists_deletionJob
    {q : Queue} (h : q.HoldsDeletions []) (c : ServiceSettings) (user : UserId)
    {scheduledFor now : Instant} (hplain : scheduledFor.IsPlain)
    (hrange : scheduledFor.InRange) (hnow : now.IsPlain) (jobId : String) :
    ∃ j, (q.perform (Service.deletionJob c user scheduledFor now) jobId).2 =
        { jobs := q.jobs.insert j } ∧
      j.IsFor user ∧ j.state = .pending ∧ scheduledFor ≤ j.runAt := by
  obtain ⟨j, hjobs, hid, hpayload, hstate, hattempts, hrunAt, htype⟩ :=
    q.exists_enqueued Job.deletionType
      (DeletionPayload.toJson ⟨user, scheduledFor⟩)
      (some (Service.jobDelay scheduledFor now)) (Job.deletionId user)
      (some (Service.jobAttempts c)) now jobId
  have htype : j.type = Job.deletionType := by
    rcases htype with htype | ⟨j', hj', -, htype⟩
    · exact htype
    · obtain ⟨user', hfor⟩ := h.isFor j' hj'
      exact htype.trans hfor.type
  have hread := DeletionPayload.read_toJson user hplain.isProper hrange
  refine ⟨j, congrArg Queue.mk hjobs, ⟨hid, htype, ?_, hattempts⟩, hstate, ?_⟩
  · exact ⟨scheduledFor, hpayload ▸ hread⟩
  · rw [hrunAt]
    exact hplain.le_add_since hnow

/-- The job of a user is put in, and the other users keep theirs. -/
theorem Books.Backed.enter_deletionJob
    {b b' : Books} (hb : b.Backed []) (c : ServiceSettings) {v : User}
    {scheduledFor now : Instant} (hlive : v.status ≠ .deleted)
    (hscheduled : v.deletionScheduledFor = some scheduledFor)
    (hplain : scheduledFor.IsPlain) (hrange : scheduledFor.InRange)
    (hnow : now.IsPlain) (hqueue : b'.queue = b.queue)
    (husers : ∀ u ∈ b'.store.users.rows,
      u = v ∨ (u ∈ b.store.users.rows ∧ u.id ≠ v.id)) (jobId : String) :
    (b'.enter (Service.deletionJob c v.id scheduledFor now) jobId).Backed [] := by
  obtain ⟨j, hjobs, hfor, hpending, hle⟩ :=
    hb.queue.exists_deletionJob c v.id hplain hrange hnow jobId
  have hqueue' : (b'.enter (Service.deletionJob c v.id scheduledFor now)
      jobId).queue = { jobs := b.queue.jobs.insert j } := by
    rw [enter_queue, hqueue, hjobs]
  constructor
  · rw [hqueue']
    exact hb.queue.insert hfor (by simp [hpending])
  · intro u hu s hs
    rw [hqueue']
    rcases husers u hu with rfl | ⟨hu, hne⟩
    · rw [hscheduled] at hs
      obtain rfl := Option.some.inj hs
      exact ⟨hlive, hplain, hrange, j, Table.mem_rows_insert.mpr (Or.inl rfl),
        hfor.id, Or.inr ⟨hpending, hle⟩⟩
    · exact (hb.users u hu s hs).insert_other hfor hne

/-- A request puts in the job along with the schedule, and once more if it is
repeated. -/
theorem Service.keeps_requestDeletion_backed
    (c : ServiceSettings) (actor : Actor) (target : UserId) :
    Keeps c.CanSchedule (Books.Backed []) (requestDeletion c actor target) := by
  intro b hb
  refine leads_requestDeletion fun now fresh hnow => ?_
  intro due outcome b'
  obtain ⟨hnow, hrange⟩ := hnow
  have hplain : due.IsPlain := hnow.isPlain_add c.gracePeriod
  have hqueue : b'.queue = b.queue := rfl
  have hanswered : b.store.requestDeletion actor target due now fresh =
      (outcome, b'.store) := rfl
  rcases requestDeletion_cases _ actor target due now fresh hanswered with
    ⟨hnone, husers⟩ | ⟨u, hu, hlive, hcases⟩
  · refine ⟨fun s jobId hs => ?_, fun _ => ⟨hb.queue, fun u hu => ?_⟩⟩
    · rw [hnone] at hs
      cases hs
    · rw [husers] at hu
      exact hb.users u hu
  obtain ⟨hmem, rfl : u.id = target⟩ := Table.get?_eq_some_iff.mp hu
  rcases hcases with ⟨scheduledFor, hscheduled, hsome, husers⟩ | ⟨hsome, husers⟩
  · refine ⟨fun s jobId hs => ?_, fun hnone => ?_⟩
    · rw [hsome] at hs
      obtain rfl := Option.some.inj hs
      have hbacks := hb.users u hmem scheduledFor hscheduled
      refine hb.enter_deletionJob c hlive hscheduled hbacks.plain hbacks.inRange
        hnow hqueue (fun v hv => ?_) jobId
      rw [husers] at hv
      by_cases hid : v.id = u.id
      · exact Or.inl (Table.eq_of_key_eq hv hmem hid)
      · exact Or.inr ⟨hv, hid⟩
    · rw [hsome] at hnone
      cases hnone
  · refine ⟨fun s jobId hs => ?_, fun hnone => ?_⟩
    · rw [hsome] at hs
      obtain rfl := Option.some.inj hs
      refine hb.enter_deletionJob (v := u.scheduled actor due now) c hlive rfl
        hplain hrange hnow hqueue (fun v hv => ?_) jobId
      rw [husers] at hv
      exact Table.mem_rows_insert.mp hv
    · rw [hsome] at hnone
      cases hnone

/-! ## Polls -/

section

variable {w : WorkerSettings} {T : Instant → Prop} {b b' : Books} {job : Job}
  {jobs : List Job} {user : UserId}

/-- What handling the job of a user does: an operation at an instant tries the
deletion, and the queue is told what has become of it. -/
structure Worker.Handles (w : WorkerSettings) (job : Job) (user : UserId)
    (time : Instant) (op : Operation) (outcome : FinalizeOutcome) (b b' : Books) :
    Prop where
  isFor : job.IsFor user
  asked : op.request = .finalizeDeletion user none time
  log : b'.log = b.log ++ [op]
  store : b'.store = op.apply b.store
  step : b.store.FinalizeStep user time outcome b'.store
  queue : ∃ later draw jobId, b'.queue = (b.queue.perform (note w job
    (outcome.noted w.blockedRetry time) later draw) jobId).2

theorem Worker.leads_process_of_isFor
    (hfor : job.IsFor user) {φ : Books → Prop}
    (h : ∀ time op outcome b', T time →
      Handles w job user time op outcome b b' → φ b') :
    (process w job).Leads T (fun _ => φ) b := by
  obtain ⟨announced, hread⟩ := hfor.payload
  refine leads_process (fun e time jobId _ he => ?_) ?_
  · rw [hread] at he
    cases he
  intro payload time fresh htime hpayload
  rw [hread] at hpayload
  obtain rfl := Except.ok.inj hpayload
  intro outcome b' later draw jobId _ _
  exact h time ⟨.finalizeDeletion user none time, fresh⟩ outcome _ htime {
    isFor := hfor
    asked := rfl
    log := rfl
    store := rfl
    step := b.store.finalizeDeletion_step user none time fresh
    queue := ⟨later, draw, jobId, rfl⟩ }

namespace Books.Backed

theorem enter_claim
    (hb : b.Backed []) (type : String) (now : Instant) (lease : Span) (limit : ℕ)
    (jobId : String) :
    (b.enter (.claim type now lease limit) jobId).Backed
      (b.queue.claim type now lease limit).1 where
  queue := hb.queue.claim type now lease limit
  users := fun u hu s hs => (hb.users u hu s hs).claim type now lease limit

/-- The job is done, and no schedule is left for its user. -/
theorem completed
    (hb : b.Backed (job :: jobs)) (hfor : job.IsFor user)
    (husers : ∀ u ∈ b'.store.users.rows, ∀ scheduledFor,
      u.deletionScheduledFor = some scheduledFor →
        u ∈ b.store.users.rows ∧ u.id ≠ user)
    {later : Instant} (hqueue : b'.queue = b.queue.complete job.id later) :
    b'.Backed jobs := by
  obtain ⟨hjob, hrunning⟩ := hb.queue.leased job List.mem_cons_self
  constructor
  · rw [hqueue]
    exact hb.queue.change _ (fun _ h => h.complete later)
      (by simp [Job.complete_state hrunning])
  · intro u hu s hs
    obtain ⟨hu, hne⟩ := husers u hu s hs
    rw [hqueue]
    exact (hb.users u hu s hs).change_other hjob hfor hne _ _

/-- The job waits again, long enough for its user. -/
theorem rescheduled
    (hb : b.Backed (job :: jobs)) (hfor : job.IsFor user) {v : User}
    {scheduledFor runAt later : Instant}
    (hv : b.store.users.get? user = some v)
    (hscheduled : v.deletionScheduledFor = some scheduledFor)
    (hle : scheduledFor ≤ runAt) (husers : b'.store.users = b.store.users)
    (hqueue : b'.queue = b.queue.reschedule job.id runAt later) :
    b'.Backed jobs := by
  obtain ⟨hjob, hrunning⟩ := hb.queue.leased job List.mem_cons_self
  constructor
  · rw [hqueue]
    exact hb.queue.change _ (fun _ h => h.reschedule runAt later)
      (by simp [Job.reschedule_state hrunning])
  · intro u hu s hs
    rw [husers] at hu
    rw [hqueue]
    have hbacks := hb.users u hu s hs
    by_cases hid : u.id = user
    · have hget := Table.get?_key hu
      rw [key_user, hid, hv] at hget
      obtain rfl := Option.some.inj hget
      rw [hscheduled] at hs
      obtain rfl := Option.some.inj hs
      exact hbacks.reschedule hjob hrunning (hid ▸ hfor) hle later
    · exact hbacks.change_other hjob hfor hid _ _

/-- Whatever has become of a deletion, all schedules that are left have their
jobs. -/
theorem handled
    (hb : b.Backed (job :: jobs)) {time : Instant} {op : Operation}
    {outcome : FinalizeOutcome} (h : Worker.Handles w job user time op outcome b b')
    (htime : time.IsPlain) (hretry : 0 ≤ w.blockedRetry.nanos) :
    b'.Backed jobs := by
  obtain ⟨later, draw, jobId, hqueue⟩ := h.queue
  cases h.step with
  | idle reason _ hnobody husers =>
      refine hb.completed h.isFor (fun u hu s hs => ?_) hqueue
      rw [husers] at hu
      refine ⟨hu, fun hid => ?_⟩
      have hget := Table.get?_key hu
      rw [key_user, hid] at hget
      rcases hnobody u hget with hdeleted | hnone
      · exact (hb.users u hu s hs).live hdeleted
      · rw [hs] at hnone
        cases hnone
  | early v scheduledFor _ hv hscheduled _ husers =>
      exact hb.rescheduled h.isFor hv hscheduled (Instant.le_refl _) husers hqueue
  | blocked v scheduledFor _ hv hscheduled hdue _ husers =>
      exact hb.rescheduled h.isFor hv hscheduled
        (Instant.le_trans hdue (htime.le_add hretry)) husers hqueue
  | deleted v sessions _ hv husers =>
      refine hb.completed h.isFor (fun u hu s hs => ?_) hqueue
      rw [husers] at hu
      rcases Table.mem_rows_insert.mp hu with rfl | ⟨hu, hne⟩
      · cases hs
      · rw [← id_of_get?_user b.store hv]
        exact ⟨hu, hne⟩

end Books.Backed

theorem Worker.leads_poll_backed
    (hT : ∀ t, T t → t.IsPlain) (hretry : 0 ≤ w.blockedRetry.nanos)
    (hb : b.Backed []) : (poll w).Leads T (fun _ => Books.Backed []) b := by
  refine leads_poll (Φ := Books.Backed) (fun job jobs b hb => ?_) ?_
  · obtain ⟨hjob, -⟩ := hb.queue.leased job List.mem_cons_self
    obtain ⟨user, hfor⟩ := hb.queue.isFor job hjob
    refine leads_process_of_isFor hfor fun time op outcome b' htime h => ?_
    exact hb.handled h (hT time htime) hretry
  · exact fun time jobId _ => hb.enter_claim _ time _ _ jobId

end

/-- The clock readings that a call can be made with: outside of leap seconds,
and such that the calendar reaches the instant that a deletion is scheduled
for. -/
def ServiceCall.Bears (c : ServiceSettings) : ServiceCall → Instant → Prop
  | requestDeletion _ _, now => c.CanSchedule now
  | _, now => now.IsPlain

theorem ServiceCall.Bears.isPlain
    {c : ServiceSettings} {call : ServiceCall} {now : Instant}
    (h : call.Bears c now) : now.IsPlain := by
  cases call with
  | requestDeletion => exact h.1
  | _ => exact h

/-- After any calls in a row, all users whose deletion is scheduled have their
jobs. -/
theorem Books.backed_run
    {c : ServiceSettings} {w : WorkerSettings} (hretry : 0 ≤ w.blockedRetry.nanos)
    {errands : List Errand} (hclock : ∀ e ∈ errands, e.ClockIn (e.call.Bears c)) :
    (Books.empty.run c w errands).Backed [] := by
  refine run_induction backed_empty fun e he b hb => ?_
  have hleads : (e.call.program c w).Leads (e.call.Bears c)
      (fun _ => Books.Backed []) b := by
    refine ServiceCall.leads stable_backed e.call (fun actor target hcall => ?_)
      (fun b => ?_) hb
    · rw [hcall]
      exact Service.keeps_requestDeletion_backed c actor target
    · exact Worker.leads_poll_backed (fun _ => ServiceCall.Bears.isPlain) hretry
  exact hleads.carryOut (hclock e he) 0

end AccountAuthority
