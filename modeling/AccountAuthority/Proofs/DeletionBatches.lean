import AccountAuthority.Proofs.Dialogues
import AccountAuthority.Proofs.SequentialCalls
import Mathlib.Data.List.Forall2

/-!
# Batches of deletions

A worker claims the deletion jobs that are due and handles them one after the
other.  Of the queue, the repository and the clock nothing is assumed but that they
answer, be it with an error.  Each job of the batch is handled in its turn and takes
exactly one report to the queue; the account is deleted exactly if the payload of
the job can be read.  An error costs no other job its turn.
-/

namespace AccountAuthority

/-- What becomes of a deletion that is tried at `now`. -/
def DeletionResult.ofAnswer (blockedRetry : Span) (now : Instant) :
    Except RepositoryError FinalizeOutcome → DeletionResult
  | .error e => .failed e
  | .ok outcome => outcome.noted blockedRetry now

theorem Service.dialogue_ask
    {σ β : Type} (answer : Backend.Respondent σ) (s : σ) (r : ServiceRequest)
    (k : r.Answer → Program Backend β) :
    (Service.ask r >>= k).dialogue answer s =
      let rest := (k (answer r s).1).dialogue answer (answer r s).2
      ⟨⟨r, (answer r s).1⟩ :: rest.asked, rest.result, rest.state⟩ := rfl

namespace Worker

/-! ## One job -/

/-- The report of a result on a job to the queue, and what the job then counts
as. -/
inductive Reports (w : WorkerSettings) (job : Job) :
    DeletionResult → List Backend.Answered → Except QueueError Applied → Prop
  | completed (outcome : FinalizeOutcome) (now : Instant)
      (taken : Except QueueError Unit) :
      Reports w job (.completed outcome)
        [⟨.now, now⟩, ⟨.queue (.complete job.id now), taken⟩]
        (taken.map fun _ => .completed)
  | rescheduled (runAt now : Instant) (taken : Except QueueError Unit) :
      Reports w job (.rescheduled runAt)
        [⟨.now, now⟩, ⟨.queue (.reschedule job.id runAt now), taken⟩]
        (taken.map fun _ => .rescheduled)
  | failed (e : RepositoryError) (now : Instant) (draw : Jitter)
      (taken : Except QueueError JobState) :
      Reports w job (.failed e)
        [⟨.now, now⟩, ⟨.jitter, draw⟩,
          ⟨.queue (.fail job.id e.chain (some (w.retryAt job.attempts draw now)) now),
            taken⟩]
        (taken.map fun _ => .failed)

/-- All that is asked in order to handle a job, and what the job then counts as. -/
inductive Attends (w : WorkerSettings) (job : Job) :
    List Backend.Answered → Except QueueError Applied → Prop
  | unreadable (e : DeletionPayload.ReadError)
      (read : DeletionPayload.read job.payload = .error e)
      (now : Instant) (taken : Except QueueError JobState) :
      Attends w job
        [⟨.now, now⟩, ⟨.queue (.fail job.id e.message none now), taken⟩]
        (taken.map fun _ => .failed)
  | finalized (payload : DeletionPayload)
      (read : DeletionPayload.read job.payload = .ok payload)
      (now : Instant) (found : Except RepositoryError FinalizeOutcome)
      {report : List Backend.Answered} {counted : Except QueueError Applied}
      (reports : Reports w job (.ofAnswer w.blockedRetry now found) report counted) :
      Attends w job
        (⟨.now, now⟩ ::
          ⟨.repository (.finalizeDeletion payload.user none now), found⟩ :: report)
        counted

section

variable {σ : Type} (answer : Backend.Respondent σ) (w : WorkerSettings) (job : Job)
  (s : σ)

theorem dialogue_tell (r : QueueRequest) (applied : Applied) :
    (tell r applied).dialogue answer s =
      let taken : Except QueueError r.Answer := (answer (.queue r) s).1
      ⟨[⟨.queue r, taken⟩], taken.map fun _ => applied, (answer (.queue r) s).2⟩ := by
  rw [tell, Service.dialogue_ask]
  generalize answer (.queue r) s = answered
  obtain ⟨taken, s'⟩ := answered
  cases taken <;> rfl

theorem dialogue_finalize
    (blockedRetry : Span) (payload : DeletionPayload) (trace : Option String) :
    (Service.finalize blockedRetry payload trace).dialogue answer s =
      let now : Instant := (answer .now s).1
      let request : ServiceRequest :=
        .repository (.finalizeDeletion payload.user trace now)
      let found := answer request (answer .now s).2
      ⟨[⟨.now, now⟩, ⟨request, found.1⟩],
        .ofAnswer blockedRetry now found.1, found.2⟩ := by
  rw [Service.finalize, Service.dialogue_ask, Service.dialogue_ask]
  dsimp only
  generalize answer (.repository (.finalizeDeletion payload.user trace _)) _ = found
  obtain ⟨found, s'⟩ := found
  cases found with
  | error e => rfl
  | ok outcome => cases outcome <;> rfl

/-- The report of a result. -/
def report (w : WorkerSettings) (job : Job) :
    DeletionResult → Program Backend (Except QueueError Applied)
  | .completed _ => do tell (.complete job.id (← Service.ask .now)) .completed
  | .rescheduled runAt => do
      tell (.reschedule job.id runAt (← Service.ask .now)) .rescheduled
  | .failed e => do
      let now ← Service.ask .now
      let draw ← Service.ask .jitter
      tell (.fail job.id e.chain (some (w.retryAt job.attempts draw now)) now) .failed

theorem process_of_read
    {payload : DeletionPayload} (h : DeletionPayload.read job.payload = .ok payload) :
    process w job = Service.finalize w.blockedRetry payload none >>= report w job := by
  simp only [process, h]
  exact congrArg _ (funext fun result => by cases result <;> rfl)

theorem report_reports (result : DeletionResult) :
    Reports w job result ((report w job result).dialogue answer s).asked
      ((report w job result).dialogue answer s).result := by
  cases result with
  | completed outcome =>
      rw [report, Service.dialogue_ask, dialogue_tell]
      exact .completed outcome _ _
  | rescheduled runAt =>
      rw [report, Service.dialogue_ask, dialogue_tell]
      exact .rescheduled runAt _ _
  | failed e =>
      rw [report, Service.dialogue_ask, Service.dialogue_ask, dialogue_tell]
      exact .failed e _ _ _

/-- A job is handled by what is asked for it, whatever the answers are. -/
theorem process_attends :
    Attends w job ((process w job).dialogue answer s).asked
      ((process w job).dialogue answer s).result := by
  cases hread : DeletionPayload.read job.payload with
  | error e =>
      simp only [process, hread]
      rw [Service.dialogue_ask, dialogue_tell]
      exact .unreadable e hread _ _
  | ok payload =>
      rw [process_of_read w job hread, Program.dialogue_bind, dialogue_finalize]
      exact .finalized payload hread _ _ (report_reports answer w job _ _)

end

/-! ## What a request is about -/

/-- The user whose account is to be deleted by a request. -/
def finalized? : Backend.Answered → Option UserId
  | ⟨.repository (.finalizeDeletion user _ _), _⟩ => some user
  | _ => none

/-- The job of which a request reports the result, and what the job counts as by
the answer. -/
def report? : Backend.Answered → Option (String × Except QueueError Applied)
  | ⟨.queue (.complete id _), taken⟩ =>
      some (id, Except.map (fun _ => .completed) taken)
  | ⟨.queue (.reschedule id _ _), taken⟩ =>
      some (id, Except.map (fun _ => .rescheduled) taken)
  | ⟨.queue (.fail id _ _ _), taken⟩ =>
      some (id, Except.map (fun _ => .failed) taken)
  | _ => none

section

variable {w : WorkerSettings} {job : Job} {asked : List Backend.Answered}
  {counted : Except QueueError Applied}

theorem Reports.reports {result : DeletionResult}
    (h : Reports w job result asked counted) :
    asked.filterMap report? = [(job.id, counted)] := by
  cases h <;> rfl

theorem Reports.finalized {result : DeletionResult}
    (h : Reports w job result asked counted) :
    asked.filterMap finalized? = [] := by
  cases h <;> rfl

/-- One report is made of a job. -/
theorem Attends.reports (h : Attends w job asked counted) :
    asked.filterMap report? = [(job.id, counted)] := by
  cases h with
  | unreadable e hread now taken => rfl
  | finalized payload hread now found hreports => exact hreports.reports

/-- The account is deleted once if the payload can be read, and else not. -/
theorem Attends.finalized_eq (h : Attends w job asked counted) :
    asked.filterMap finalized? =
      ((DeletionPayload.read job.payload).toOption.map (·.user)).toList := by
  cases h with
  | unreadable e hread now taken =>
      rw [hread]
      rfl
  | finalized payload hread now found hreports =>
      rw [hread]
      exact congrArg (payload.user :: ·) hreports.finalized

end

end Worker

/-! ## The batch -/

/-- How a job of a batch was handled: what was asked, and what the job counts
as. -/
structure Handling where
  asked : List Backend.Answered
  counted : Except QueueError Applied

/-- The numbers are those of the jobs that count as each. -/
structure PollSummary.Tallies (t : PollSummary)
    (counted : List (Except QueueError Applied)) : Prop where
  claimed : t.claimed = counted.length
  completed : t.completed = counted.count (.ok .completed)
  rescheduled : t.rescheduled = counted.count (.ok .rescheduled)
  failed : t.failed = counted.count (.ok .failed)
  unrecorded : t.unrecorded = counted.countP fun c => !c.isOk

namespace PollSummary

variable (t : PollSummary) (counted : List (Except QueueError Applied))

theorem foldl_count :
    counted.foldl count t =
      { claimed := t.claimed
        completed := t.completed + counted.count (.ok .completed)
        rescheduled := t.rescheduled + counted.count (.ok .rescheduled)
        failed := t.failed + counted.count (.ok .failed)
        unrecorded := t.unrecorded + counted.countP fun c => !c.isOk } := by
  induction counted generalizing t with
  | nil => rfl
  | cons c counted ih =>
      rw [List.foldl_cons, ih]
      rcases c with e | applied
      · simp [count, Except.isOk, Except.toBool]
        omega
      · cases applied <;> simp [count, Except.isOk, Except.toBool] <;> omega

theorem tallies_foldl_count :
    (counted.foldl count ⟨counted.length, 0, 0, 0, 0⟩).Tallies counted := by
  rw [foldl_count]
  constructor <;> simp

variable {t counted}

/-- Every job counts as one of the four. -/
theorem Tallies.claimed_eq (h : t.Tallies counted) :
    t.claimed = t.completed + t.rescheduled + t.failed + t.unrecorded := by
  rw [h.claimed, h.completed, h.rescheduled, h.failed, h.unrecorded]
  clear h
  induction counted with
  | nil => rfl
  | cons c counted ih =>
      rw [List.length_cons, ih]
      rcases c with e | applied
      · simp [Except.isOk, Except.toBool]
        omega
      · cases applied <;> simp [Except.isOk, Except.toBool] <;> omega

end PollSummary

namespace Worker

section

variable {σ : Type} (answer : Backend.Respondent σ) (w : WorkerSettings)

/-- The jobs are handled in their order, each as if it were the only one. -/
theorem processAll_attends (t : PollSummary) (jobs : List Job) (s : σ) :
    ∃ handlings : List Handling,
      List.Forall₂ (fun job h => Attends w job h.asked h.counted) jobs handlings ∧
      ((processAll w t jobs).dialogue answer s).asked =
        handlings.flatMap Handling.asked ∧
      ((processAll w t jobs).dialogue answer s).result =
        (handlings.map Handling.counted).foldl PollSummary.count t := by
  induction jobs generalizing t s with
  | nil => exact ⟨[], .nil, rfl, rfl⟩
  | cons job jobs ih =>
      have hattends := process_attends answer w job s
      rw [processAll, Program.dialogue_bind]
      generalize (process w job).dialogue answer s = first at hattends ⊢
      obtain ⟨handlings, hall, hasked, hresult⟩ := ih (t.count first.result) first.state
      refine ⟨⟨first.asked, first.result⟩ :: handlings, .cons hattends hall, ?_, ?_⟩
      · simp only [hasked, List.flatMap_cons]
      · simp only [hresult, List.map_cons, List.foldl_cons]

end

/-- The requests of a batch, as they follow from those for each job. -/
theorem requests_of_handlings
    {w : WorkerSettings} {jobs : List Job} {handlings : List Handling}
    (h : List.Forall₂ (fun job h => Attends w job h.asked h.counted) jobs handlings) :
    (handlings.flatMap Handling.asked).filterMap finalized? =
        jobs.filterMap (fun job =>
          (DeletionPayload.read job.payload).toOption.map (·.user)) ∧
      (handlings.flatMap Handling.asked).filterMap report? =
        (jobs.map Job.id).zip (handlings.map Handling.counted) := by
  induction h with
  | nil => exact ⟨rfl, rfl⟩
  | cons hattends _ ih =>
      simp only [List.flatMap_cons, List.filterMap_append, ih, hattends.reports,
        hattends.finalized_eq, List.map_cons, List.zip_cons_cons, List.singleton_append,
        List.filterMap_cons, and_true]
      split
      next hnone => rw [hnone]; rfl
      next user hsome => rw [hsome]; rfl

end Worker

/-- The claim is the first that a poll asks of the queue.  If it fails, nothing else
is asked for.  Otherwise the claimed jobs are handled, each once and in their order,
whatever is answered about the others: accounts are deleted for just those whose
payload can be read, each job takes one report, and the numbers are those of the
jobs by their reports. -/
theorem poll_isolates_failures
    {σ : Type} (answer : Backend.Respondent σ) (w : WorkerSettings) (s : σ) :
    let poll := (Worker.poll w).dialogue answer s
    let now : Instant := (answer .now s).1
    let claim : ServiceRequest :=
      .queue (.claim Job.deletionType now WorkerSettings.lease w.batch)
    let claimed : Except QueueError (List Job) := (answer claim (answer .now s).2).1
    match claimed with
    | .error e =>
        poll.asked = [⟨.now, now⟩, ⟨claim, claimed⟩] ∧ poll.result = .error e
    | .ok jobs =>
        ∃ (handlings : List Handling) (summary : PollSummary),
          poll.asked =
              ⟨.now, now⟩ :: ⟨claim, claimed⟩ :: handlings.flatMap Handling.asked ∧
          List.Forall₂ (fun job h => Worker.Attends w job h.asked h.counted)
            jobs handlings ∧
          poll.asked.filterMap Worker.finalized? = jobs.filterMap (fun job =>
            (DeletionPayload.read job.payload).toOption.map (·.user)) ∧
          poll.asked.filterMap Worker.report? =
            (jobs.map Job.id).zip (handlings.map Handling.counted) ∧
          poll.result = .ok summary ∧
          summary.claimed = jobs.length ∧
          summary.Tallies (handlings.map Handling.counted) ∧
          summary.claimed = summary.completed + summary.rescheduled +
            summary.failed + summary.unrecorded := by
  dsimp only
  rw [Worker.poll, Service.dialogue_ask, Service.dialogue_ask]
  dsimp only
  generalize (answer .now s).1 = now
  generalize answer (.queue (.claim Job.deletionType now WorkerSettings.lease w.batch))
    (answer .now s).2 = answered
  obtain ⟨claimed, s'⟩ := answered
  cases claimed with
  | error e => exact ⟨rfl, rfl⟩
  | ok jobs =>
      obtain ⟨handlings, hall, hasked, hresult⟩ :=
        Worker.processAll_attends answer w ⟨jobs.length, 0, 0, 0, 0⟩ jobs s'
      obtain ⟨hfinalized, hreports⟩ := Worker.requests_of_handlings hall
      have hlength : jobs.length = (handlings.map Handling.counted).length := by
        rw [hall.length_eq, List.length_map]
      have htallies := PollSummary.tallies_foldl_count (handlings.map Handling.counted)
      rw [← hlength, ← hresult] at htallies
      dsimp only
      rw [Program.dialogue_bind]
      dsimp only [Program.dialogue_pure]
      rw [List.append_nil, hasked]
      exact ⟨handlings, _, rfl, hall, hfinalized, hreports, rfl,
        htallies.claimed.trans hlength.symm, htallies, htallies.claimed_eq⟩

end AccountAuthority
