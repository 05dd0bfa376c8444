import AccountAuthority.Job.Basic
import AccountAuthority.Program
import AccountAuthority.Table

/-!
# The job queue

The operations on jobs as data, and a queue in memory that performs them.  A claim leases due
jobs to a worker for a while; completing or rescheduling counts only for a running job, and a
failure counts an attempt.
-/

namespace AccountAuthority

/-- The operations on jobs. -/
inductive QueueRequest where
  /-- Put in a job, or put the job with the same identifier back to its start. -/
  | enqueue (type : String) (payload : Json) (delay : Option Span) (id : Option String)
      (maxAttempts : Option Int) (now : Instant)
  /-- Lease up to `limit` due jobs of a type. -/
  | claim (type : String) (now : Instant) (lease : Span) (limit : Nat)
  | complete (id : String) (now : Instant)
  /-- Give a leased job back; this counts no attempt. -/
  | reschedule (id : String) (runAt now : Instant)
  /-- Count an attempt.  Without another run time, or when the attempts are used up, the job is
  dead. -/
  | fail (id : String) (error : String) (retryAt : Option Instant) (now : Instant)
  | find (id : String)
  deriving Repr

namespace QueueRequest

@[reducible] def Answer : QueueRequest → Type
  | enqueue .. => String
  | claim .. => List Job
  | complete .. | reschedule .. => Unit
  | fail .. => JobState
  | find _ => Option Job

def name : QueueRequest → String
  | enqueue .. => "queue.enqueue"
  | claim .. => "queue.claim_due"
  | complete .. => "queue.complete"
  | reschedule .. => "queue.reschedule"
  | fail .. => "queue.fail"
  | find _ => "queue.find"

end QueueRequest

/-- The run time of a job that is put in with a delay. -/
def Job.firstRun (delay : Option Span) (now : Instant) : Instant :=
  now + delay.getD Span.zero

namespace Job

/-- The job after it has been put in once more. -/
def restart (j : Job) (payload : Json) (runAt now : Instant) : Job :=
  { j with
    payload := payload
    state := .pending
    runAt := runAt
    attempts := 0
    lastError := none
    lockedUntil := none
    updatedAt := now }

/-- The job under a lease. -/
def leased (j : Job) (lease : Span) (now : Instant) : Job :=
  { j with state := .running, lockedUntil := some (now + lease), updatedAt := now }

/-- The job after its completion, if it was running. -/
def complete (j : Job) (now : Instant) : Job :=
  if j.state = .running then
    { j with state := .completed, lockedUntil := none, updatedAt := now }
  else j

/-- The job after it has been given back, if it was running. -/
def reschedule (j : Job) (runAt now : Instant) : Job :=
  if j.state = .running then
    { j with state := .pending, runAt := runAt, lockedUntil := none, updatedAt := now }
  else j

/-- The job after a failed attempt. -/
def fail (j : Job) (error : String) (retryAt : Option Instant) (now : Instant) : Job :=
  let j := { j with
    attempts := j.attempts + 1
    lastError := some error
    lockedUntil := none
    updatedAt := now }
  match retryAt with
  | some at_ => if j.attempts < j.maxAttempts then { j with state := .pending, runAt := at_ }
    else { j with state := .dead }
  | none => { j with state := .dead }

end Job

/-- A queue in memory. -/
structure Queue where
  jobs : Table Job := ∅

namespace Queue

def empty : Queue := {}

instance : Inhabited Queue := ⟨empty⟩

/-- The jobs of a type, the first to run first. -/
def jobsOfType (q : Queue) (type : String) : List Job :=
  (q.jobs.rows.filter fun j => j.type = type).mergeSort fun a b => a.runAt ≤ b.runAt

/-- The jobs of a type that can be claimed, the first to run first. -/
def dueJobs (q : Queue) (type : String) (now : Instant) : List Job :=
  (q.jobs.rows.filter fun j => j.type = type && j.isDue now).mergeSort
    fun a b => a.runAt ≤ b.runAt

/-- Put in a job; `freshId` is its identifier if it is given none. -/
def enqueue (q : Queue) (type : String) (payload : Json) (delay : Option Span)
    (id : Option String) (maxAttempts : Option Int) (now : Instant) (freshId : String) :
    String × Queue :=
  let id := id.getD freshId
  let runAt := Job.firstRun delay now
  let job := match q.jobs.get? id with
    | some j => j.restart payload runAt now
    | none =>
      { id := id, type := type, payload := payload, runAt := runAt,
        maxAttempts := maxAttempts.getD Job.defaultMaxAttempts, createdAt := now, updatedAt := now }
  (id, { jobs := q.jobs.insert job })

/-- Lease up to `limit` due jobs. -/
def claim (q : Queue) (type : String) (now : Instant) (lease : Span) (limit : Nat) :
    List Job × Queue :=
  let claimed := ((q.dueJobs type now).take limit).map fun j => j.leased lease now
  (claimed, { jobs := claimed.foldl (fun t j => t.insert j) q.jobs })

/-- Change the job with an identifier, if there is one. -/
def change (q : Queue) (id : String) (f : Job → Job) (h : ∀ j, (f j).id = j.id) : Queue :=
  { jobs := q.jobs.update id f h }

/-- Mark a leased job as completed. -/
def complete (q : Queue) (id : String) (now : Instant) : Queue :=
  q.change id (fun j => j.complete now) (by intro j; unfold Job.complete; split <;> rfl)

/-- Give a leased job back. -/
def reschedule (q : Queue) (id : String) (runAt now : Instant) : Queue :=
  q.change id (fun j => j.reschedule runAt now)
    (by intro j; unfold Job.reschedule; split <;> rfl)

/-- Count a failed attempt. -/
def fail (q : Queue) (id error : String) (retryAt : Option Instant) (now : Instant) :
    Except QueueError JobState × Queue :=
  match q.jobs.get? id with
  | none => (.error (.corruptRow ("Job " ++ id ++ " not found")), q)
  | some j =>
    let failed := j.fail error retryAt now
    (.ok failed.state, { jobs := q.jobs.insert failed })

/-- Perform a request: its answer and the queue afterwards. -/
def perform (r : QueueRequest) (freshId : String) (q : Queue) :
    Except QueueError r.Answer × Queue :=
  match r with
  | .enqueue type payload delay id maxAttempts now =>
    let (id, q) := q.enqueue type payload delay id maxAttempts now freshId
    (.ok id, q)
  | .claim type now lease limit =>
    let (jobs, q) := q.claim type now lease limit
    (.ok jobs, q)
  | .complete id now => (.ok (), q.complete id now)
  | .reschedule id runAt now => (.ok (), q.reschedule id runAt now)
  | .fail id error retryAt now => q.fail id error retryAt now
  | .find id => (.ok (q.jobs.get? id), q)

end Queue

end AccountAuthority
