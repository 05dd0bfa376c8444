import AccountAuthority.Job.DeletionPayload
import AccountAuthority.Retry
import AccountAuthority.Service.Backend

/-!
# Carrying out deletions

A worker claims the deletion jobs that are due and deletes the accounts.  Whatever becomes of one
job, the others of its batch are handled.
-/

namespace AccountAuthority

/-- What became of a deletion. -/
inductive DeletionResult where
  | completed (outcome : FinalizeOutcome)
  /-- To be tried again at an instant; nothing went wrong. -/
  | rescheduled (runAt : Instant)
  | failed (cause : RepositoryError)
  deriving DecidableEq, Repr

namespace RepositoryError

/-- The text of an error followed by the texts of what caused it. -/
def chain (e : RepositoryError) : String :=
  match e with
  | transient cause | database cause =>
    let root := match cause with
      | .server s => ": " ++ s.message
      | _ => ""
    e.message ++ ": " ++ cause.message ++ root
  | _ => e.message

end RepositoryError

/-- When a deletion that was held back at `now` is tried again. -/
def Job.blockedUntil (blockedRetry : Span) (now : Instant) : Instant :=
  now + blockedRetry

namespace Service

/-- Delete the account of a payload if it is due by the user's own record. -/
def finalize (blockedRetry : Span) (payload : DeletionPayload) (trace : Option String) :
    Program Backend DeletionResult := do
  let now ← ask .now
  match ← ask (.repository (.finalizeDeletion payload.user trace now)) with
  | .error e => pure (.failed e)
  | .ok (.notDue scheduledFor) => pure (.rescheduled scheduledFor)
  | .ok .blockedLastAdmin => pure (.rescheduled (Job.blockedUntil blockedRetry now))
  | .ok outcome => pure (.completed outcome)

end Service

structure WorkerSettings where
  blockedRetry : Span
  /-- The seconds between polls; zero counts as one. -/
  pollIntervalSeconds : Nat
  batchSize : Nat
  maxAttempts : Nat

namespace WorkerSettings

/-- How long a claim holds. -/
def lease : Span := .minutes 5

/-- How long the worker waits before a poll. -/
def pollInterval (w : WorkerSettings) : Span :=
  .seconds (Nat.max w.pollIntervalSeconds 1)

/-- The number of jobs that are claimed at most. -/
def batch (w : WorkerSettings) : Nat :=
  Nat.max w.batchSize 1

/-- How long a failed job waits. -/
def retry (w : WorkerSettings) : RetryConfig where
  maxAttempts := Nat.max w.maxAttempts 1
  initialBackoff := .seconds 30
  maxBackoff := .seconds 3600
  multiplier := 2.0
  jitter := true

/-- When a job that failed at `now` is tried again. -/
def retryAt (w : WorkerSettings) (attempts : Int) (draw : Jitter) (now : Instant) : Instant :=
  now + w.retry.backoff attempts.toNat draw

end WorkerSettings

/-- What became of a claimed job. -/
inductive Applied where
  | completed
  | rescheduled
  | failed
  deriving DecidableEq, Repr

/-- What became of the jobs of a batch. -/
structure PollSummary where
  claimed : Nat
  completed : Nat := 0
  rescheduled : Nat := 0
  failed : Nat := 0
  /-- The queue did not take note of the result. -/
  unrecorded : Nat := 0
  deriving DecidableEq, Repr

namespace PollSummary

def count (s : PollSummary) : Except QueueError Applied → PollSummary
  | .ok .completed => { s with completed := s.completed + 1 }
  | .ok .rescheduled => { s with rescheduled := s.rescheduled + 1 }
  | .ok .failed => { s with failed := s.failed + 1 }
  | .error _ => { s with unrecorded := s.unrecorded + 1 }

def fields (s : PollSummary) : List (String × Json) := [
  ("claimed", .int s.claimed),
  ("completed", .int s.completed),
  ("rescheduled", .int s.rescheduled),
  ("failed", .int s.failed),
  ("unrecorded", .int s.unrecorded)]

end PollSummary

namespace Worker

open Service

/-- Tell the queue what became of a job. -/
def tell (r : QueueRequest) (applied : Applied) : Program Backend (Except QueueError Applied) := do
  match ← ask (.queue r) with
  | .ok _ => pure (.ok applied)
  | .error e => pure (.error e)

/-- Handle a claimed job.  A job whose payload cannot be read is dead at once. -/
def process (w : WorkerSettings) (job : Job) : Program Backend (Except QueueError Applied) := do
  match DeletionPayload.read job.payload with
  | .error e => tell (.fail job.id e.message none (← ask .now)) .failed
  | .ok payload =>
    match ← finalize w.blockedRetry payload none with
    | .completed _ => tell (.complete job.id (← ask .now)) .completed
    | .rescheduled runAt => tell (.reschedule job.id runAt (← ask .now)) .rescheduled
    | .failed e =>
      let now ← ask .now
      let draw ← ask .jitter
      tell (.fail job.id e.chain (some (w.retryAt job.attempts draw now)) now) .failed

/-- Handle claimed jobs in their order. -/
def processAll (w : WorkerSettings) (s : PollSummary) : List Job → Program Backend PollSummary
  | [] => pure s
  | job :: jobs => do
    let result ← process w job
    processAll w (s.count result) jobs

/-- Claim the jobs that are due and handle them. -/
def poll (w : WorkerSettings) : Program Backend (Except QueueError PollSummary) := do
  match ← ask (.queue (.claim Job.deletionType (← ask .now) WorkerSettings.lease w.batch)) with
  | .error e => pure (.error e)
  | .ok jobs => do
    let summary ← processAll w ⟨jobs.length, 0, 0, 0, 0⟩ jobs
    pure (.ok summary)

/-- Wait and poll again and again; an error of one poll does not stop the worker. -/
def run (w : WorkerSettings) : (polls : Nat) → Program Backend Unit
  | 0 => pure ()
  | polls + 1 => do
    ask (.pause w.pollInterval)
    let _ ← poll w
    run w polls

end Worker

end AccountAuthority
