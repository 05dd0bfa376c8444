import AccountAuthority.Proofs.JobLeases

/-!
# Outcomes that come too late

A worker that has lost its claim of a job may still report an outcome.  No call
says under which claim it is made, so that what a completion or a rescheduling
does depends on the job alone: it counts if the job is running.  A running job is
as the last claim of it has left it.  Hence a late outcome does nothing unless
there is a later claim that still stands, and then it counts for that one.
-/

namespace AccountAuthority

/-- Work on the job has come to its end. -/
def Job.IsOver (j : Job) : Prop :=
  j.state = .completed ∨ j.state = .dead

instance (j : Job) : Decidable j.IsOver :=
  inferInstanceAs (Decidable (_ ∨ _))

namespace Job

variable {j : Job}

theorem IsOver.state_ne (h : j.IsOver) : j.state ≠ .running := by
  rcases h with hstate | hstate <;> simp [hstate]

theorem complete_of_not_running (h : j.state ≠ .running) (now : Instant) :
    j.complete now = j :=
  if_neg h

theorem reschedule_of_not_running (h : j.state ≠ .running) (runAt now : Instant) :
    j.reschedule runAt now = j :=
  if_neg h

theorem complete_state_ne (j : Job) (now : Instant) :
    (j.complete now).state ≠ .running := by
  by_cases h : j.state = .running
  · rw [complete_state h]
    decide
  · rwa [complete_of_not_running h]

theorem reschedule_state_ne (j : Job) (runAt now : Instant) :
    (j.reschedule runAt now).state ≠ .running := by
  by_cases h : j.state = .running
  · rw [reschedule_state h]
    decide
  · rwa [reschedule_of_not_running h]

theorem fail_state_ne
    (j : Job) (error : String) (retryAt : Option Instant) (now : Instant) :
    (j.fail error retryAt now).state ≠ .running := by
  unfold Job.fail
  cases retryAt with
  | none => exact nofun
  | some at_ =>
      dsimp only
      split <;> exact nofun

end Job

namespace QueueCall

/-- The job that the call reports as completed, or gives back. -/
def released? (c : QueueCall) : Option String :=
  match c.request with
  | .complete id _ | .reschedule id _ _ => some id
  | _ => none

/-- The job that the call reports as failed. -/
def failed? (c : QueueCall) : Option String :=
  match c.request with
  | .fail id _ _ _ => some id
  | _ => none

theorem reported?_iff {c : QueueCall} {id : String} :
    c.reported? = some id ↔ c.released? = some id ∨ c.failed? = some id := by
  obtain ⟨caller, request, freshId⟩ := c
  cases request <;> simp [reported?, released?, failed?]

/-- What the call makes of the job that it reports on. -/
def effect (c : QueueCall) (j : Job) : Job :=
  match c.request with
  | .complete _ now => j.complete now
  | .reschedule _ runAt now => j.reschedule runAt now
  | .fail _ error retryAt now => j.fail error retryAt now
  | _ => j

theorem effect_state_ne
    {c : QueueCall} {id : String} (h : c.reported? = some id) (j : Job) :
    (c.effect j).state ≠ .running := by
  obtain ⟨caller, request, freshId⟩ := c
  cases request with
  | complete id' now => exact j.complete_state_ne now
  | reschedule id' runAt now => exact j.reschedule_state_ne runAt now
  | fail id' error retryAt now => exact j.fail_state_ne error retryAt now
  | _ => cases h

/-- The call ends every earlier claim of the job: it puts the job in again, or
gets it, or work on the job is over afterwards. -/
def Supersedes (id : String) (c : QueueCall) (q : Queue) : Prop :=
  c.entered? = some id ∨ c.Claims q id ∨
    ∃ j ∈ (c.apply q).jobs.get? id, j.IsOver

instance (id : String) (c : QueueCall) (q : Queue) : Decidable (c.Supersedes id q) :=
  inferInstanceAs (Decidable (_ ∨ _ ∨ _))

/-- The call may change a job that is not running: it puts the job in, or reports
it as failed, or gets it. -/
def Rouses (id : String) (c : QueueCall) (q : Queue) : Prop :=
  c.entered? = some id ∨ c.failed? = some id ∨ c.Claims q id

instance (id : String) (c : QueueCall) (q : Queue) : Decidable (c.Rouses id q) :=
  inferInstanceAs (Decidable (_ ∨ _ ∨ _))

end QueueCall

namespace Queue

/-- One of the calls has the property, in the queue that it finds. -/
def Sees (q : Queue) (P : QueueCall → Queue → Prop) : List QueueCall → Prop
  | [] => False
  | c :: calls => P c q ∨ (c.apply q).Sees P calls

instance decidableSees (q : Queue) (P : QueueCall → Queue → Prop)
    [∀ c q, Decidable (P c q)] : (calls : List QueueCall) → Decidable (q.Sees P calls)
  | [] => inferInstanceAs (Decidable False)
  | c :: calls =>
      have := decidableSees (c.apply q) P calls
      inferInstanceAs (Decidable (_ ∨ _))

/-- The job is running. -/
def Runs (q : Queue) (id : String) : Prop :=
  ∃ j ∈ q.jobs.get? id, j.state = .running

/-- In the end the job runs, under a claim made in the course of the calls that
none of them has ended. -/
def RunsAnew (q : Queue) (id : String) (calls : List QueueCall) : Prop :=
  (q.run calls).Runs id ∧ ∃ pre c post, calls = pre ++ c :: post ∧
    c.Claims (q.run pre) id ∧
    ¬(q.run (pre ++ [c])).Sees (QueueCall.Supersedes id) post

variable {q : Queue} {id : String} {c : QueueCall} {calls : List QueueCall}

theorem sees_concat {P : QueueCall → Queue → Prop} :
    q.Sees P (calls ++ [c]) ↔ q.Sees P calls ∨ P c (q.run calls) := by
  induction calls generalizing q with
  | nil => simp [Sees]
  | cons c' calls ih =>
      simp only [List.cons_append, Sees, ih, or_assoc]
      rfl

/-! ## Jobs that are not running -/

theorem not_runs
    {j : Job} (hj : q.jobs.get? id = some j) (hstate : j.state ≠ .running) :
    ¬q.Runs id := by
  rintro ⟨j', hj', hrunning⟩
  obtain rfl := Option.some.inj (hj.symm.trans hj')
  exact hstate hrunning

theorem get?_apply_enqueue
    (q : Queue) (caller : ℕ) (type : String) (payload : Json) (delay : Option Span)
    (jobId : Option String) (maxAttempts : Option Int) (now : Instant)
    (freshId : String) :
    ∃ j, (QueueCall.apply ⟨caller, .enqueue type payload delay jobId maxAttempts now,
        freshId⟩ q).jobs.get? (jobId.getD freshId) = some j ∧
      j.state = .pending ∧ j.runAt = Job.firstRun delay now ∧ j.attempts = 0 := by
  obtain ⟨j, hjobs, hid, -, hstate, hattempts, hrun, -⟩ := exists_enqueued q type
    payload delay (jobId.getD freshId) maxAttempts now freshId
  refine ⟨j, ?_, hstate, hrun, hattempts⟩
  change (q.enqueue type payload delay (some (jobId.getD freshId)) maxAttempts
    now freshId).2.jobs.get? _ = _
  rw [hjobs, Table.get?_insert, key_job, if_pos hid.symm]

theorem exists_of_entered (q : Queue) (h : c.entered? = some id) :
    ∃ j, (c.apply q).jobs.get? id = some j ∧ j.state = .pending ∧ j.attempts = 0 := by
  obtain ⟨caller, request, freshId⟩ := c
  cases request with
  | enqueue type payload delay jobId maxAttempts now =>
      obtain ⟨j, hget, hstate, -, hattempts⟩ := get?_apply_enqueue q caller type
        payload delay jobId maxAttempts now freshId
      obtain rfl : jobId.getD freshId = id := Option.some.inj h
      exact ⟨j, hget, hstate, hattempts⟩
  | _ => cases h

theorem get?_apply_of_reported (q : Queue) (h : c.reported? = some id) :
    (c.apply q).jobs.get? id = (q.jobs.get? id).map c.effect := by
  obtain ⟨caller, request, freshId⟩ := c
  cases request with
  | complete id' now =>
      obtain rfl : id' = id := Option.some.inj h
      exact get?_change_self
  | reschedule id' runAt now =>
      obtain rfl : id' = id := Option.some.inj h
      exact get?_change_self
  | fail id' error retryAt now =>
      obtain rfl : id' = id := Option.some.inj h
      exact (get?_fail q id' error retryAt now).trans (if_pos rfl)
  | _ => cases h

theorem get?_change_of_not_runs
    {f : Job → Job} {hf : ∀ j, (f j).id = j.id}
    (hidle : ∀ j : Job, j.state ≠ .running → f j = j) (hruns : ¬q.Runs id) :
    (q.change id f hf).jobs.get? id = q.jobs.get? id := by
  rw [get?_change_self]
  cases hget : q.jobs.get? id with
  | none => rfl
  | some j => exact congrArg some (hidle j fun hstate => hruns ⟨j, hget, hstate⟩)

theorem get?_apply_of_released
    (hreleased : c.released? = some id) (hruns : ¬q.Runs id) :
    (c.apply q).jobs.get? id = q.jobs.get? id := by
  obtain ⟨caller, request, freshId⟩ := c
  cases request with
  | complete id' now =>
      obtain rfl : id' = id := Option.some.inj hreleased
      exact get?_change_of_not_runs (fun j h => j.complete_of_not_running h now) hruns
  | reschedule id' runAt now =>
      obtain rfl : id' = id := Option.some.inj hreleased
      exact get?_change_of_not_runs
        (fun j h => j.reschedule_of_not_running h runAt now) hruns
  | _ => cases hreleased

/-- A job that is not running changes only when it is put in, reported as failed,
or leased. -/
theorem get?_apply_of_not_runs
    (hruns : ¬q.Runs id) (hrouses : ¬c.Rouses id q) :
    (c.apply q).jobs.get? id = q.jobs.get? id := by
  obtain ⟨hentered, hfailed, hclaims⟩ : c.entered? ≠ some id ∧
      c.failed? ≠ some id ∧ ¬c.Claims q id := by
    simpa [QueueCall.Rouses, not_or] using hrouses
  by_cases hreleased : c.released? = some id
  · exact get?_apply_of_released hreleased hruns
  · refine get?_apply_of_untouched hentered ?_ hclaims
    rw [Ne, QueueCall.reported?_iff, not_or]
    exact ⟨hreleased, hfailed⟩

theorem get?_run_of_not_runs
    (hruns : ¬q.Runs id) (hrouses : ¬q.Sees (QueueCall.Rouses id) calls) :
    (q.run calls).jobs.get? id = q.jobs.get? id := by
  induction calls using List.reverseRecOn with
  | nil => rfl
  | append_singleton calls c ih =>
      rw [sees_concat, not_or] at hrouses
      have hsame := ih hrouses.1
      rw [run_concat, get?_apply_of_not_runs _ hrouses.2, hsame]
      simpa only [Runs, hsame] using hruns

/-! ## Running jobs -/

theorem not_runs_apply_of_entered (h : c.entered? = some id) :
    ¬(c.apply q).Runs id := by
  obtain ⟨j, hget, hstate, -⟩ := exists_of_entered q h
  exact not_runs hget (by simp [hstate])

theorem not_runs_apply_of_reported (h : c.reported? = some id) :
    ¬(c.apply q).Runs id := by
  rintro ⟨j', hj', hrunning⟩
  have hmap := (get?_apply_of_reported q h).symm.trans hj'
  obtain ⟨j, -, rfl⟩ := Option.map_eq_some_iff.mp hmap
  exact QueueCall.effect_state_ne h j hrunning

/-- A job that runs after a call that has not leased it is as it was before, so
that the call has ended no claim. -/
theorem get?_apply_of_runs
    (hruns : (c.apply q).Runs id) (hclaims : ¬c.Claims q id) :
    (c.apply q).jobs.get? id = q.jobs.get? id := by
  refine get?_apply_of_untouched ?_ ?_ hclaims
  · exact fun h => not_runs_apply_of_entered h hruns
  · exact fun h => not_runs_apply_of_reported h hruns

theorem not_supersedes_of_runs
    (hruns : (c.apply q).Runs id) (hclaims : ¬c.Claims q id) :
    ¬c.Supersedes id q := by
  rintro (hentered | hclaimed | ⟨j, hj, hover⟩)
  · exact not_runs_apply_of_entered hentered hruns
  · exact hclaims hclaimed
  · exact not_runs hj hover.state_ne hruns

/-- By induction from the last call: while the job runs without being leased, the
call changes nothing, and the first call that leases it is the one to be found. -/
theorem runsAnew_of_superseded
    (hruns : (q.run calls).Runs id)
    (hsuperseded : q.Sees (QueueCall.Supersedes id) calls) : q.RunsAnew id calls := by
  induction calls using List.reverseRecOn with
  | nil => exact absurd hsuperseded not_false
  | append_singleton calls c ih =>
      refine ⟨hruns, ?_⟩
      rw [run_concat] at hruns
      by_cases hclaims : c.Claims (q.run calls) id
      · exact ⟨calls, c, [], rfl, hclaims, not_false⟩
      · have hsame := get?_apply_of_runs hruns hclaims
        have hnot := not_supersedes_of_runs hruns hclaims
        have hbefore : (q.run calls).Runs id := by simpa only [Runs, hsame] using hruns
        obtain ⟨-, pre, c', post, rfl, hclaimed, hstands⟩ :=
          ih hbefore ((sees_concat.mp hsuperseded).resolve_right hnot)
        refine ⟨pre, c', post ++ [c], by simp, hclaimed, ?_⟩
        rw [sees_concat, not_or]
        refine ⟨hstands, ?_⟩
        rwa [← run_append, List.append_assoc, List.singleton_append]

theorem not_claims_of_isOver
    {j : Job} (hj : q.jobs.get? id = some j) (hover : j.IsOver) : ¬c.Claims q id := by
  intro hclaims
  obtain ⟨type, now, lease, limit, j', -, hj', hdue, -⟩ := exists_due_of_claims hclaims
  obtain rfl := Option.some.inj (hj.symm.trans hj')
  unfold Job.isDue at hdue
  rcases hover with hstate | hstate <;> simp [hstate] at hdue

end Queue

/-- Once the claim of a worker has been ended, its completions and reschedulings
leave the job as it is unless the job runs under a later claim.  A job that is
completed or dead changes only when it is put in again or reported as failed.  A
job that has been put in stays as it is until it is put in again, reported as
failed, or leased. -/
theorem late_outcomes_ignored (q : Queue) :
    (∀ (id : String) (claim outcome : QueueCall) (since : List QueueCall),
      claim.Claims q id →
      (claim.apply q).Sees (QueueCall.Supersedes id) since →
      outcome.caller = claim.caller → outcome.released? = some id →
      (outcome.apply ((claim.apply q).run since)).jobs.get? id =
          ((claim.apply q).run since).jobs.get? id ∨
        (claim.apply q).RunsAnew id since) ∧
    (∀ (id : String) (j : Job) (c : QueueCall),
      q.jobs.get? id = some j → j.IsOver →
      c.entered? ≠ some id → c.failed? ≠ some id →
      (c.apply q).jobs.get? id = some j) ∧
    ∀ (caller : ℕ) (type : String) (payload : Json) (delay : Option Span)
      (jobId : Option String) (maxAttempts : Option Int) (now : Instant)
      (freshId : String) (calls : List QueueCall),
      let entered := QueueCall.apply
        ⟨caller, .enqueue type payload delay jobId maxAttempts now, freshId⟩ q
      ¬entered.Sees (QueueCall.Rouses (jobId.getD freshId)) calls →
      ∃ j, (entered.run calls).jobs.get? (jobId.getD freshId) = some j ∧
        j.state = .pending ∧ j.runAt = Job.firstRun delay now ∧ j.attempts = 0 := by
  refine ⟨?_, ?_, ?_⟩
  · intro id claim outcome since _ hsuperseded _ hreleased
    by_cases hruns : ((claim.apply q).run since).Runs id
    · exact Or.inr (Queue.runsAnew_of_superseded hruns hsuperseded)
    · exact Or.inl (Queue.get?_apply_of_released hreleased hruns)
  · intro id j c hj hover hentered hfailed
    have hidle : ¬q.Runs id := Queue.not_runs hj hover.state_ne
    have hrouses : ¬c.Rouses id q := by
      rintro (h | h | h)
      exacts [hentered h, hfailed h, Queue.not_claims_of_isOver hj hover h]
    exact (Queue.get?_apply_of_not_runs hidle hrouses).trans hj
  · intro caller type payload delay jobId maxAttempts now freshId calls entered hrouses
    obtain ⟨j, hget, hstate, hrest⟩ := Queue.get?_apply_enqueue q caller type payload
      delay jobId maxAttempts now freshId
    have hidle : ¬entered.Runs (jobId.getD freshId) :=
      Queue.not_runs hget (by simp [hstate])
    exact ⟨j, (Queue.get?_run_of_not_runs hidle hrouses).trans hget, hstate, hrest⟩

/-! ## An outcome that counts for another claim -/

/-- A worker reports the job as completed. -/
def completeAt (caller : ℕ) (time : ℤ) : QueueCall :=
  ⟨caller, .complete "a" ⟨time, 0⟩, ""⟩

/-- The job is put in again, to run after some seconds. -/
def enterAt (caller : ℕ) (time delay : ℤ) : QueueCall :=
  ⟨caller, .enqueue "t" .null (some (.seconds delay)) (some "a") none ⟨time, 0⟩, ""⟩

theorem late_outcomes_ignored_sample :
    let q := (claimAt 1 0 10).apply oneJobDue
    let entered := (enterAt 3 5 60).apply q
    let done := q.run [completeAt 1 5]
    ((claimAt 1 0 10).Claims oneJobDue "a" ∧
      q.Sees (QueueCall.Supersedes "a") [enterAt 3 5 60] ∧
      ((completeAt 1 7).apply entered).jobs.get? "a" = entered.jobs.get? "a") ∧
    (∃ j, done.jobs.get? "a" = some j ∧ j.IsOver ∧
      ((claimAt 2 20 10).apply done).jobs.get? "a" = some j) ∧
    ¬entered.Sees (QueueCall.Rouses "a") [completeAt 1 7, claimAt 2 8 10] ∧
      ∃ j, (entered.run [completeAt 1 7, claimAt 2 8 10]).jobs.get? "a" = some j ∧
        j.state = .pending ∧ j.runAt = ⟨65, 0⟩ ∧ j.attempts = 0 := by
  intro q entered done
  have hclaims : (claimAt 1 0 10).Claims oneJobDue "a" := by decide +kernel
  have hsuperseded : q.Sees (QueueCall.Supersedes "a") [enterAt 3 5 60] := by
    decide +kernel
  have hnone : ¬q.RunsAnew "a" [enterAt 3 5 60] := by
    rintro ⟨hruns, -⟩
    exact Queue.not_runs_apply_of_entered (q := q) (c := enterAt 3 5 60) rfl hruns
  have hdone : ∃ j ∈ done.jobs.get? "a", j.IsOver := by decide +kernel
  have hrouses : ¬entered.Sees (QueueCall.Rouses "a")
      [completeAt 1 7, claimAt 2 8 10] := by decide +kernel
  refine ⟨⟨hclaims, hsuperseded, ?_⟩, ?_, hrouses, ?_⟩
  · exact ((late_outcomes_ignored oneJobDue).1 "a" (claimAt 1 0 10) (completeAt 1 7) _
      hclaims hsuperseded rfl rfl).resolve_right hnone
  · obtain ⟨j, hj, hover⟩ := hdone
    exact ⟨j, hj, hover, (late_outcomes_ignored done).2.1 "a" j (claimAt 2 20 10) hj
      hover nofun nofun⟩
  · exact (late_outcomes_ignored q).2.2 3 "t" .null (some (.seconds 60)) (some "a")
      none ⟨5, 0⟩ "" _ hrouses

/-- The lease of the first worker lapses and a second worker gets the job.  What
the first worker then reports completes the job. -/
theorem not_late_outcomes_ignored :
    ¬∀ (q : Queue) (id : String) (claim outcome : QueueCall) (since : List QueueCall),
      claim.Claims q id →
      (claim.apply q).Sees (QueueCall.Supersedes id) since →
      (∀ c ∈ since, c.caller ≠ claim.caller) →
      outcome.caller = claim.caller → outcome.reported? = some id →
      (outcome.apply ((claim.apply q).run since)).jobs.get? id =
        ((claim.apply q).run since).jobs.get? id := by
  intro h
  have hsame := h oneJobDue "a" (claimAt 1 0 10) (completeAt 1 25) [claimAt 2 20 10]
    (by decide +kernel) (by decide +kernel) (by decide) rfl rfl
  have hstates := congrArg (Option.map Job.state) hsame
  revert hstates
  decide +kernel

end AccountAuthority
