import AccountAuthority.Proofs.InactiveUsers
import AccountAuthority.Proofs.SequentialCalls
import AccountAuthority.Proofs.StaleOutcomes

/-!
# Spent attempts

A deletion job is put in with a number of attempts, and put back to its start by
every further request for the deletion.  In between it has spent as many attempts
as there were failures, whatever else is done with it.  A failure with another run
time leaves it waiting as long as attempts are left.

The number is held in 32 bits with a sign.  From 2 to the 31 on, a configured
number comes out negative, and the first failure is the last.  The attempts that
are spent fit into such a number, as long as work on the job is not over.
-/

namespace AccountAuthority

/-- The failures that it takes until a deletion job is dead. -/
def ServiceSettings.attemptBudget (c : ServiceSettings) : ℕ :=
  if c.jobMaxAttempts < 2147483648 then max c.jobMaxAttempts 1 else 1

theorem ServiceSettings.lt_jobAttempts_iff
    {c : ServiceSettings} (hsize : c.jobMaxAttempts < UInt32.size) (n : ℕ) :
    (n + 1 : ℤ) < Service.jobAttempts c ↔ n + 1 < c.attemptBudget := by
  have hvalue : UInt32.size = 4294967296 := rfl
  have hmax : Nat.max c.jobMaxAttempts 1 = max c.jobMaxAttempts 1 := rfl
  rw [hvalue] at hsize
  unfold Service.jobAttempts attemptBudget
  rw [hvalue, hmax, Int.bmod_def]
  push_cast
  split_ifs <;> omega

namespace Job

/-- The attempts that the job has spent, and those that it has been given. -/
def account (j : Job) : ℤ × ℤ :=
  (j.attempts, j.maxAttempts)

theorem account_eq_iff {j : Job} {spent given : ℤ} :
    j.account = (spent, given) ↔ j.attempts = spent ∧ j.maxAttempts = given :=
  Prod.mk_inj

/-- One more attempt is spent. -/
def charge (x : ℤ × ℤ) : ℤ × ℤ :=
  (x.1 + 1, x.2)

theorem account_complete (j : Job) (now : Instant) :
    (j.complete now).account = j.account := by
  unfold complete
  split <;> rfl

theorem account_reschedule (j : Job) (runAt now : Instant) :
    (j.reschedule runAt now).account = j.account := by
  unfold reschedule
  split <;> rfl

theorem account_fail
    (j : Job) (error : String) (retryAt : Option Instant) (now : Instant) :
    (j.fail error retryAt now).account = charge j.account := by
  unfold fail
  cases retryAt with
  | none => rfl
  | some at_ =>
      dsimp only
      split <;> rfl

theorem fail_of_lt
    {j : Job} (h : j.attempts + 1 < j.maxAttempts) (error : String) (at_ now : Instant) :
    (j.fail error (some at_) now).state = .pending ∧
      (j.fail error (some at_) now).runAt = at_ := by
  simp [fail, h]

theorem fail_of_not_lt
    {j : Job} (h : ¬j.attempts + 1 < j.maxAttempts) (error : String) (at_ now : Instant) :
    (j.fail error (some at_) now).state = .dead := by
  simp [fail, h]

end Job

theorem QueueCall.account_effect
    {c : QueueCall} {id : String} (h : c.reported? = some id) (j : Job) :
    (c.effect j).account =
      if c.failed? = some id then Job.charge j.account else j.account := by
  obtain ⟨caller, request, freshId⟩ := c
  cases request with
  | complete id' now =>
      rw [if_neg (by simp [failed?])]
      exact j.account_complete now
  | reschedule id' runAt now =>
      rw [if_neg (by simp [failed?])]
      exact j.account_reschedule runAt now
  | fail id' error retryAt now =>
      have hfailed : failed? ⟨caller, .fail id' error retryAt now, freshId⟩ = some id := h
      rw [if_pos hfailed]
      exact j.account_fail error retryAt now
  | _ => cases h

namespace Queue

variable {q q' : Queue} {id : String} {c : QueueCall} {calls : List QueueCall}

/-- The account of the job, if there is one. -/
def account? (q : Queue) (id : String) : Option (ℤ × ℤ) :=
  (q.jobs.get? id).map Job.account

/-- A call that does not put the job in charges its account if it reports a
failure, and else leaves it. -/
theorem account?_apply (hentered : c.entered? ≠ some id) :
    (c.apply q).account? id =
      if c.failed? = some id then (q.account? id).map Job.charge else q.account? id := by
  by_cases hclaims : c.Claims q id
  · obtain ⟨type, now, lease, limit, j, hrequest, hj, -, hleased⟩ :=
      exists_due_of_claims hclaims
    have hfailed : c.failed? ≠ some id := by simp [QueueCall.failed?, hrequest]
    rw [if_neg hfailed, account?, account?, hj, hleased]
    rfl
  · by_cases hreported : c.reported? = some id
    · rw [account?, get?_apply_of_reported q hreported, Option.map_map, account?]
      cases hj : q.jobs.get? id with
      | none => simp
      | some j =>
          have hcharged := QueueCall.account_effect hreported j
          split_ifs at hcharged ⊢ <;> simp [hcharged]
    · have hfailed : c.failed? ≠ some id :=
        fun h => hreported (QueueCall.reported?_iff.mpr (Or.inr h))
      rw [if_neg hfailed, account?,
        get?_apply_of_untouched hentered hreported hclaims, account?]

/-- The account after calls that do not put the job in. -/
theorem account?_run
    {spent given : ℤ} (hq : q.account? id = some (spent, given))
    (hentered : ∀ c ∈ calls, c.entered? ≠ some id) :
    (q.run calls).account? id =
      some (spent + calls.countP (fun c => c.failed? = some id), given) := by
  induction calls using List.reverseRecOn with
  | nil => simpa using hq
  | append_singleton calls c ih =>
      have hbefore := ih fun c hc => hentered c (List.mem_append_left _ hc)
      have hlast := hentered c (List.mem_append_right _ List.mem_cons_self)
      rw [run_concat, account?_apply hlast, hbefore, List.countP_append]
      by_cases hfailed : c.failed? = some id
      · simp [hfailed, Job.charge, add_assoc]
      · simp [hfailed]

/-- A failure that is reported leaves the job dead unless it has another run time
and attempts left. -/
theorem exists_fail
    {spent given : ℤ} (hq : q.account? id = some (spent, given)) (error : String)
    (retryAt : Option Instant) (now : Instant) :
    ∃ j, (q.fail id error retryAt now).1 = .ok j.state ∧
      (q.fail id error retryAt now).2.jobs.get? id = some j ∧
      j.attempts = spent + 1 ∧
      match retryAt with
      | none => j.state = .dead
      | some at_ =>
        (spent + 1 < given → j.state = .pending ∧ j.runAt = at_) ∧
          (¬spent + 1 < given → j.state = .dead) := by
  obtain ⟨j, hget, hj⟩ := Option.map_eq_some_iff.mp hq
  have hcharged := j.account_fail error retryAt now
  obtain ⟨rfl, rfl⟩ := Job.account_eq_iff.mp hj
  refine ⟨j.fail error retryAt now, ?_, ?_, congrArg Prod.fst hcharged, ?_⟩
  · simp only [fail, hget]
  · rw [get?_fail, if_pos rfl, hget]
    rfl
  · cases retryAt with
    | none => rfl
    | some at_ =>
        exact ⟨fun h => Job.fail_of_lt h error at_ now,
          fun h => Job.fail_of_not_lt h error at_ now⟩

end Queue

/-! ## The width of the counter -/

namespace Job

/-- As long as work on the job is not over, it has attempts left, of which a job has
one at least. -/
structure WithinBudget (j : Job) : Prop where
  nonneg : 0 ≤ j.attempts
  lt : ¬j.IsOver → j.attempts < max 1 j.maxAttempts

variable {j : Job} {now : Instant}

theorem withinBudget_of_attempts_eq_zero (h : j.attempts = 0) : j.WithinBudget where
  nonneg := Int.le_of_eq h.symm
  lt _ := by
    rw [h]
    exact lt_max_of_lt_left one_pos

theorem not_isOver_of_isDue (h : j.isDue now = true) : ¬j.IsOver := by
  intro hover
  unfold isDue at h
  rcases hover with hstate | hstate
  · rw [hstate] at h
    cases h
  · rw [hstate] at h
    cases h

theorem WithinBudget.leased
    (h : j.WithinBudget) (hdue : j.isDue now = true) (lease : Span) :
    (j.leased lease now).WithinBudget where
  nonneg := h.nonneg
  lt _ := h.lt (not_isOver_of_isDue hdue)

theorem WithinBudget.complete (h : j.WithinBudget) (now : Instant) :
    (j.complete now).WithinBudget := by
  by_cases hrunning : j.state = .running
  · rw [Job.complete, if_pos hrunning]
    exact ⟨h.nonneg, fun hlive => absurd (Or.inl rfl) hlive⟩
  · rwa [complete_of_not_running hrunning]

theorem WithinBudget.reschedule (h : j.WithinBudget) (runAt now : Instant) :
    (j.reschedule runAt now).WithinBudget := by
  by_cases hrunning : j.state = .running
  · rw [Job.reschedule, if_pos hrunning]
    have hlive : ¬j.IsOver := fun hover => hover.state_ne hrunning
    exact ⟨h.nonneg, fun _ => h.lt hlive⟩
  · rwa [reschedule_of_not_running hrunning]

/-- A failure counts, and work goes on only if that leaves attempts. -/
theorem WithinBudget.fail
    (h : j.WithinBudget) (error : String) (retryAt : Option Instant) (now : Instant) :
    (j.fail error retryAt now).WithinBudget := by
  obtain ⟨hspent, hgiven⟩ := account_eq_iff.mp (j.account_fail error retryAt now)
  refine ⟨?_, fun hlive => ?_⟩
  · rw [hspent]
    exact Int.add_nonneg h.nonneg (by decide)
  · rw [hspent, hgiven]
    by_contra hspentAll
    have hdead : (j.fail error retryAt now).state = .dead := by
      cases retryAt with
      | none => rfl
      | some at_ =>
          refine fail_of_not_lt (fun hleft => hspentAll ?_) error at_ now
          exact lt_max_of_lt_right hleft
    exact hlive (Or.inr hdead)

theorem WithinBudget.effect (h : j.WithinBudget) (c : QueueCall) :
    (c.effect j).WithinBudget := by
  obtain ⟨caller, request, freshId⟩ := c
  cases request with
  | complete id now => exact h.complete now
  | reschedule id runAt now => exact h.reschedule runAt now
  | fail id error retryAt now => exact h.fail error retryAt now
  | _ => exact h

end Job

namespace Queue

/-- All jobs are within their budgets. -/
def WithinBudgets (q : Queue) : Prop :=
  ∀ id j, q.jobs.get? id = some j → j.WithinBudget

theorem withinBudgets_empty : empty.WithinBudgets :=
  fun _ _ h => nomatch h

variable {q : Queue}

theorem WithinBudgets.apply (h : q.WithinBudgets) (c : QueueCall) :
    (c.apply q).WithinBudgets := by
  intro id j hj
  by_cases hclaims : c.Claims q id
  · obtain ⟨type, now, lease, limit, j', -, hj', hdue, hleased⟩ :=
      exists_due_of_claims hclaims
    obtain rfl := Option.some.inj (hleased.symm.trans hj)
    exact (h id j' hj').leased hdue lease
  by_cases hentered : c.entered? = some id
  · obtain ⟨j', hj', -, hattempts⟩ := exists_of_entered q hentered
    obtain rfl := Option.some.inj (hj'.symm.trans hj)
    exact Job.withinBudget_of_attempts_eq_zero hattempts
  by_cases hreported : c.reported? = some id
  · rw [get?_apply_of_reported q hreported] at hj
    obtain ⟨j', hj', rfl⟩ := Option.map_eq_some_iff.mp hj
    exact (h id j' hj').effect c
  · rw [get?_apply_of_untouched hentered hreported hclaims] at hj
    exact h id j hj

theorem WithinBudgets.run (h : q.WithinBudgets) (calls : List QueueCall) :
    (q.run calls).WithinBudgets := by
  induction calls using List.reverseRecOn with
  | nil => exact h
  | append_singleton calls c ih =>
      rw [run_concat]
      exact ih.apply c

/-- The attempts of a job can be counted in 32 bits with a sign, and so can one more
failure as long as work on the job is not over, if the attempts that it has been given
are such a number. -/
theorem attempts_lt_of_run
    (calls : List QueueCall) {id : String} {j : Job}
    (hj : (empty.run calls).jobs.get? id = some j) (hlive : ¬j.IsOver)
    (hgiven : j.maxAttempts < 2147483648) :
    0 ≤ j.attempts ∧ j.attempts + 1 < 2147483648 := by
  have hbudget : j.WithinBudget := withinBudgets_empty.run calls id j hj
  have hlt := hbudget.lt hlive
  refine ⟨hbudget.nonneg, ?_⟩
  omega

end Queue

/-! ## Requests -/

/-- The instant that a request for a deletion has ended with. -/
def DeletionRequestOutcome.scheduledBy :
    Except ServiceError DeletionRequestOutcome → Option Instant
  | .ok outcome => outcome.announced?
  | .error _ => none

/-- The job that is put in by a request for a deletion. -/
abbrev Service.deletionCall
    (c : ServiceSettings) (user : UserId) (scheduledFor now : Instant) (jobId : String) :
    QueueCall :=
  ⟨0, deletionJob c user scheduledFor now, jobId⟩

/-- A request for a deletion puts the job in if it ends with an instant, and else
leaves the queue as it is. -/
theorem Service.queue_requestDeletion
    (c : ServiceSettings) (actor : Actor) (user : UserId) (o : Circumstances) (b : Books) :
    let r := (requestDeletion c actor user).run.carryOut o 0 b
    match DeletionRequestOutcome.scheduledBy r.1 with
    | none => r.2.queue = b.queue
    | some scheduledFor => ∃ now jobId,
        r.2.queue = (deletionCall c user scheduledFor now jobId).apply b.queue := by
  have hleads : Leads (fun _ => True) (fun b' => b'.queue = b.queue) b
      (requestDeletion c actor user) fun outcome b' =>
        match outcome.announced? with
        | none => b'.queue = b.queue
        | some scheduledFor => ∃ now jobId,
            b'.queue = (deletionCall c user scheduledFor now jobId).apply b.queue := by
    refine leads_requestDeletion fun time fresh _ => ⟨fun scheduledFor jobId h => ?_, ?_⟩
    · rw [h]
      exact ⟨time, jobId, rfl⟩
    · intro h
      rw [h]
      rfl
  unfold Leads at hleads
  have hresult := hleads.carryOut (o := o) (fun _ => trivial) 0
  generalize (requestDeletion c actor user).run.carryOut o 0 b = r at hresult ⊢
  obtain ⟨result, b'⟩ := r
  cases result with
  | ok outcome => exact hresult
  | error e => exact hresult

namespace Queue

variable {q : Queue} {c : ServiceSettings} {user : UserId}

/-- The job that deletes the user, if there is one, has been given the attempts of
the settings. -/
def Budgeted (c : ServiceSettings) (user : UserId) (q : Queue) : Prop :=
  ∀ x ∈ q.account? (Job.deletionId user), x.2 = Service.jobAttempts c

/-- A job that has been given `n` attempts, if it is there already, is put in with
`n` attempts, or put back to its start. -/
theorem exists_entered
    {id : String} {n : ℤ} (h : ∀ x ∈ q.account? id, x.2 = n) (type : String)
    (payload : Json) (delay : Option Span) (now : Instant) (jobId : String) :
    ∃ j, (q.enqueue type payload delay (some id) (some n) now jobId).2.jobs.get? id =
        some j ∧
      j.state = .pending ∧ j.account = (0, n) := by
  unfold enqueue
  dsimp only [Option.getD_some]
  cases hget : q.jobs.get? id with
  | none =>
      dsimp only
      rw [Table.get?_insert, key_job, if_pos rfl]
      exact ⟨_, rfl, rfl, rfl⟩
  | some j =>
      have hid : j.id = id := (Table.get?_eq_some_iff.mp hget).2
      have hgiven : j.maxAttempts = n := h j.account (by rw [account?, hget]; rfl)
      dsimp only
      rw [Table.get?_insert, key_job, ← hgiven]
      exact ⟨_, if_pos hid.symm, rfl, rfl⟩

/-- A request that ends with an instant leaves the job at its start. -/
theorem Budgeted.exists_requested
    {b : Books} (h : b.queue.Budgeted c user) {actor : Actor} {o : Circumstances}
    {scheduledFor : Instant}
    (hscheduled : DeletionRequestOutcome.scheduledBy
      ((Service.requestDeletion c actor user).run.carryOut o 0 b).1 = some scheduledFor) :
    ∃ j, ((Service.requestDeletion c actor user).run.carryOut o 0 b).2.queue.jobs.get?
        (Job.deletionId user) = some j ∧
      j.state = .pending ∧ j.account = (0, Service.jobAttempts c) := by
  have hqueue := Service.queue_requestDeletion c actor user o b
  dsimp only at hqueue
  rw [hscheduled] at hqueue
  obtain ⟨now, jobId, hqueue⟩ := hqueue
  rw [hqueue]
  exact exists_entered h ..

theorem Budgeted.apply
    {call : QueueCall} (h : q.Budgeted c user)
    (hentered : call.entered? ≠ some (Job.deletionId user)) :
    (call.apply q).Budgeted c user := by
  intro x hx
  rw [account?_apply hentered] at hx
  split at hx
  · obtain ⟨y, hy, rfl⟩ := Option.map_eq_some_iff.mp hx
    exact h y hy
  · exact h x hx

end Queue

/-- What may happen between requests for the deletion of a user, and a request. -/
inductive DeletionStep where
  | request (actor : Actor) (o : Circumstances)
  | work (r : RepositoryRequest) (fresh : FreshIds)
  | call (q : QueueCall)

namespace DeletionStep

/-- The books after a step. -/
def apply (c : ServiceSettings) (user : UserId) : DeletionStep → Books → Books
  | request actor o, b => ((Service.requestDeletion c actor user).run.carryOut o 0 b).2
  | work r fresh, b => b.perform r fresh
  | call q, b => { b with queue := q.apply b.queue }

/-- Somebody else than the service puts the job in. -/
def PutsIn (id : String) : DeletionStep → Prop
  | call q => q.entered? = some id
  | request .. | work .. => False

end DeletionStep

namespace Books

variable {c : ServiceSettings} {user : UserId}

/-- The books after steps. -/
def follow (c : ServiceSettings) (user : UserId) (b : Books) (steps : List DeletionStep) :
    Books :=
  steps.foldl (fun b s => s.apply c user b) b

theorem budgeted_apply
    {b : Books} {s : DeletionStep} (h : b.queue.Budgeted c user)
    (hs : ¬s.PutsIn (Job.deletionId user)) : (s.apply c user b).queue.Budgeted c user := by
  cases s with
  | request actor o =>
      cases hscheduled : DeletionRequestOutcome.scheduledBy
          ((Service.requestDeletion c actor user).run.carryOut o 0 b).1 with
      | none =>
          have hqueue := Service.queue_requestDeletion c actor user o b
          dsimp only at hqueue
          rw [hscheduled] at hqueue
          rwa [DeletionStep.apply, hqueue]
      | some scheduledFor =>
          obtain ⟨j, hget, -, haccount⟩ := h.exists_requested hscheduled
          intro x hx
          rw [DeletionStep.apply, Queue.account?, hget] at hx
          obtain rfl := Option.some.inj hx
          rw [haccount]
  | work r fresh => exact h
  | call q => exact h.apply hs

theorem budgeted_follow
    {b : Books} {steps : List DeletionStep} (h : b.queue.Budgeted c user)
    (hsteps : ∀ s ∈ steps, ¬s.PutsIn (Job.deletionId user)) :
    (b.follow c user steps).queue.Budgeted c user := by
  induction steps generalizing b with
  | nil => exact h
  | cons s steps ih =>
      obtain ⟨hs, hsteps⟩ := List.forall_mem_cons.mp hsteps
      exact ih (budgeted_apply h hs) hsteps

end Books

/-- A request for the deletion of a user puts the job in with no attempts spent,
also when there was one before.  As long as it is not put in again, it has spent
one attempt for each failure, and no other call spends any.  The failure that is
reported next leaves the job waiting for the time it is given if the failures are
then still fewer than the attempts, and dead if they are not or no time is
given. -/
theorem deletion_attempts_budget
    (c : ServiceSettings) (user : UserId) (b : Books) (before : List DeletionStep)
    (actor : Actor) (o : Circumstances) (scheduledFor : Instant) (since : List QueueCall)
    (hsize : c.jobMaxAttempts < UInt32.size)
    (hnew : b.queue.jobs.get? (Job.deletionId user) = none)
    (hbefore : ∀ s ∈ before, ¬s.PutsIn (Job.deletionId user))
    (hscheduled : DeletionRequestOutcome.scheduledBy
      ((Service.requestDeletion c actor user).run.carryOut o 0
        (b.follow c user before)).1 = some scheduledFor)
    (hsince : ∀ q ∈ since, q.entered? ≠ some (Job.deletionId user)) :
    let requested := (b.follow c user (before ++ [.request actor o])).queue
    let spent := since.countP fun q => q.failed? = some (Job.deletionId user)
    (∃ j, requested.jobs.get? (Job.deletionId user) = some j ∧
      j.state = .pending ∧ j.attempts = 0) ∧
    (∃ j, (requested.run since).jobs.get? (Job.deletionId user) = some j ∧
      j.attempts = spent) ∧
    ∀ error retryAt now,
      let failed := (requested.run since).fail (Job.deletionId user) error retryAt now
      ∃ j, failed.1 = .ok j.state ∧
        failed.2.jobs.get? (Job.deletionId user) = some j ∧ j.attempts = spent + 1 ∧
        match retryAt with
        | none => j.state = .dead
        | some at_ =>
          (spent + 1 < c.attemptBudget → j.state = .pending ∧ j.runAt = at_) ∧
            (c.attemptBudget ≤ spent + 1 → j.state = .dead) := by
  intro requested spent
  have hbudgeted : (b.follow c user before).queue.Budgeted c user := by
    refine Books.budgeted_follow (fun x hx => ?_) hbefore
    rw [Queue.account?, hnew] at hx
    exact nomatch hx
  obtain ⟨j₀, hget₀, hstate₀, haccount₀⟩ := hbudgeted.exists_requested hscheduled
  have hrequested : requested = ((Service.requestDeletion c actor user).run.carryOut o 0
      (b.follow c user before)).2.queue := by
    simp only [requested, Books.follow, List.foldl_append]
    rfl
  rw [← hrequested] at hget₀
  have hstart : requested.account? (Job.deletionId user) =
      some (0, Service.jobAttempts c) := by
    rw [Queue.account?, hget₀, Option.map_some, haccount₀]
  have haccount : (requested.run since).account? (Job.deletionId user) =
      some ((spent : ℤ), Service.jobAttempts c) := by
    simpa using Queue.account?_run hstart hsince
  obtain ⟨j, hget, hj⟩ := Option.map_eq_some_iff.mp haccount
  refine ⟨⟨j₀, hget₀, hstate₀, (Job.account_eq_iff.mp haccount₀).1⟩,
    ⟨j, hget, (Job.account_eq_iff.mp hj).1⟩, fun error retryAt now => ?_⟩
  obtain ⟨j, hanswer, hafter, hattempts, hstate⟩ :=
    Queue.exists_fail haccount error retryAt now
  refine ⟨j, hanswer, hafter, hattempts, ?_⟩
  cases retryAt with
  | none => exact hstate
  | some at_ =>
      have hleft := ServiceSettings.lt_jobAttempts_iff hsize spent
      exact ⟨fun h => hstate.1 (hleft.mpr h),
        fun h => hstate.2 (mt hleft.mp (Nat.not_lt.mpr h))⟩

/-! ## Two attempts, and more than fit -/

/-- A worker claims the deletions that are due. -/
def claimDeletions (time : ℤ) : QueueCall :=
  ⟨1, .claim Job.deletionType ⟨time, 0⟩ WorkerSettings.lease 10, ""⟩

/-- It gives the deletion of the sample user back. -/
def giveDeletionBack (time : ℤ) : QueueCall :=
  ⟨1, .reschedule (Job.deletionId sampleUser.id) ⟨time, 0⟩ ⟨time, 0⟩, ""⟩

/-- It reports that the deletion has failed and is to be tried again soon. -/
def failDeletion (time : ℤ) : QueueCall :=
  ⟨1, .fail (Job.deletionId sampleUser.id) "" (some ⟨time + 30, 0⟩) ⟨time, 0⟩, ""⟩

/-- The deletion has been requested and has failed once, and is requested again.
Of the two attempts none is spent until it fails. -/
theorem deletion_attempts_budget_of_two :
    let c : ServiceSettings := { plainSettings with jobMaxAttempts := 2 }
    let b : Books := { store := userWithPassword }
    let id := Job.deletionId sampleUser.id
    let before : List DeletionStep :=
      [.request {} (.numbered 0 ⟨0, 0⟩), .call (claimDeletions 1), .call (failDeletion 2)]
    let o : Circumstances := .numbered 10 ⟨10, 0⟩
    let since := [claimDeletions 20, giveDeletionBack 21, claimDeletions 22]
    let requested := (b.follow c sampleUser.id (before ++ [.request {} o])).queue
    c.jobMaxAttempts < UInt32.size ∧ b.queue.jobs.get? id = none ∧
      (∀ s ∈ before, ¬s.PutsIn id) ∧
      DeletionRequestOutcome.scheduledBy
        ((Service.requestDeletion c {} sampleUser.id).run.carryOut o 0
          (b.follow c sampleUser.id before)).1 = some ⟨0, 0⟩ ∧
      (∀ q ∈ since, q.entered? ≠ some id) ∧
      (∃ j, ((requested.run since).fail id "" (some ⟨60, 0⟩) ⟨30, 0⟩).2.jobs.get? id =
        some j ∧ j.attempts = 1 ∧ j.state = .pending ∧ j.runAt = ⟨60, 0⟩) ∧
      ∃ j, ((requested.run (since ++ [failDeletion 30])).fail id "" (some ⟨90, 0⟩)
        ⟨60, 0⟩).2.jobs.get? id = some j ∧ j.attempts = 2 ∧ j.state = .dead := by
  intro c b id before o since requested
  have hsize : c.jobMaxAttempts < UInt32.size := by decide
  have hbefore : ∀ s ∈ before, ¬s.PutsIn id := by
    simp [before, DeletionStep.PutsIn, claimDeletions, failDeletion, QueueCall.entered?]
  have hscheduled : DeletionRequestOutcome.scheduledBy
      ((Service.requestDeletion c {} sampleUser.id).run.carryOut o 0
        (b.follow c sampleUser.id before)).1 = some ⟨0, 0⟩ := by decide +kernel
  have hsince : ∀ q ∈ since ++ [failDeletion 30], q.entered? ≠ some id := by
    simp [since, claimDeletions, giveDeletionBack, failDeletion, QueueCall.entered?]
  have hfirst : ∀ q ∈ since, q.entered? ≠ some id :=
    fun q hq => hsince q (List.mem_append_left _ hq)
  obtain ⟨-, -, hfails⟩ := deletion_attempts_budget c sampleUser.id b before {} o ⟨0, 0⟩
    since hsize rfl hbefore hscheduled hfirst
  obtain ⟨-, -, hfails'⟩ := deletion_attempts_budget c sampleUser.id b before {} o ⟨0, 0⟩
    (since ++ [failDeletion 30]) hsize rfl hbefore hscheduled hsince
  obtain ⟨j, -, hget, hattempts, hpending, -⟩ := hfails "" (some ⟨60, 0⟩) ⟨30, 0⟩
  obtain ⟨j', -, hget', hattempts', -, hdead⟩ := hfails' "" (some ⟨90, 0⟩) ⟨60, 0⟩
  have hnone : since.countP (fun q => q.failed? = some id) = 0 := by decide +kernel
  have hone : (since ++ [failDeletion 30]).countP (fun q => q.failed? = some id) = 1 := by
    decide +kernel
  rw [hnone] at hattempts hpending
  rw [hone] at hattempts' hdead
  obtain ⟨hstate, hrun⟩ := hpending (by decide)
  exact ⟨hsize, rfl, hbefore, hscheduled, hfirst, ⟨j, hget, hattempts, hstate, hrun⟩,
    j', hget', hattempts', hdead (by decide)⟩

/-- With 2 to the 31 attempts configured, the job is dead after the first
failure. -/
theorem not_attempts_as_configured :
    ¬∀ (c : ServiceSettings) (user : UserId) (b : Books) (actor : Actor)
      (o : Circumstances) (scheduledFor : Instant) (since : List QueueCall)
      (error : String) (at_ now : Instant),
      c.jobMaxAttempts < UInt32.size →
      b.queue.jobs.get? (Job.deletionId user) = none →
      let r := (Service.requestDeletion c actor user).run.carryOut o 0 b
      DeletionRequestOutcome.scheduledBy r.1 = some scheduledFor →
      (∀ q ∈ since, q.entered? ≠ some (Job.deletionId user)) →
      since.countP (fun q => q.failed? = some (Job.deletionId user)) + 1 <
        max c.jobMaxAttempts 1 →
      ∃ j, ((r.2.queue.run since).fail (Job.deletionId user) error (some at_) now).2.jobs.get?
        (Job.deletionId user) = some j ∧ j.state = .pending ∧ j.runAt = at_ := by
  intro h
  obtain ⟨j, hget, hstate, -⟩ := h { plainSettings with jobMaxAttempts := 2147483648 }
    sampleUser.id { store := userWithPassword } {} (.numbered 0 ⟨0, 0⟩) ⟨0, 0⟩
    [claimDeletions 1] "" ⟨60, 0⟩ ⟨30, 0⟩ (by decide) rfl (by decide +kernel)
    (by simp [claimDeletions, QueueCall.entered?]) (by decide +kernel)
  have hdead := congrArg (Option.map Job.state) hget
  rw [Option.map_some, hstate] at hdead
  revert hdead
  decide +kernel

end AccountAuthority
