import AccountAuthority.Job.DeletionPayload
import AccountAuthority.Service.Backend

/-!
# The life of accounts

Changes of role and status, requests for deletion and their withdrawal, and the audit trail.  A
request for deletion puts in the job that carries it out.
-/

namespace AccountAuthority

/-- The user of an outcome, or the refusal as an error. -/
def LifecycleOutcome.toUser : LifecycleOutcome → Except ServiceError User
  | changed user | unchanged user => .ok user
  | userNotFound => .error .userNotFound
  | userDeleted => .error .userDeleted
  | blockedLastAdmin => .error .blockedLastAdmin

/-- When a deletion that is requested at `now` is due. -/
def User.deletionDue (gracePeriod : Span) (now : Instant) : Instant :=
  now + gracePeriod

namespace Service

variable (c : ServiceSettings)

def changeRole (actor : Actor) (target : UserId) (role : Role) : Service LifecycleOutcome := do
  repository (.changeRole actor target role (← now))

/-- Suspend a user or make them active again. -/
def changeStatus (actor : Actor) (target : UserId) (status : Status) (reason : Option String) :
    Service LifecycleOutcome := do
  if status = .deleted then
    throw (.validation "Status DELETED is only set by account deletion")
  else repository (.changeStatus actor target status reason (← now))

/-- The number of attempts of a deletion job: at least one, and as 32 bits with a sign hold it. -/
def jobAttempts : Int :=
  (Nat.max c.jobMaxAttempts 1 : Int).bmod UInt32.size

/-- How long a job for an instant has to wait. -/
def jobDelay (scheduledFor now : Instant) : Span :=
  Span.max (scheduledFor.since now) .zero

/-- The job that deletes a user at an instant. -/
def deletionJob (user : UserId) (scheduledFor now : Instant) : QueueRequest :=
  .enqueue Job.deletionType (DeletionPayload.toJson ⟨user, scheduledFor⟩)
    (some (jobDelay scheduledFor now)) (some (Job.deletionId user)) (some (jobAttempts c)) now

/-- Schedule the deletion of a user.  When it is scheduled already, the job is put in again for the
instant that was announced. -/
def requestDeletion (actor : Actor) (target : UserId) : Service DeletionRequestOutcome := do
  let now ← now
  let outcome ← repository
    (.requestDeletion actor target (User.deletionDue c.gracePeriod now) now)
  match outcome with
  | .requested user | .alreadyRequested user =>
    match user.deletionScheduledFor with
    | some scheduledFor =>
      let _ ← queue (deletionJob c target scheduledFor now)
    | none => pure ()
  | .userNotFound | .userDeleted => pure ()
  pure outcome

/-- Withdraw a request for deletion.  Its job stays, and finds nothing to do. -/
def cancelDeletion (actor : Actor) (target : UserId) : Service DeletionCancelOutcome := do
  repository (.cancelDeletion actor target (← now))

def auditTrail (target : UserId) : Service (List AuditEvent) :=
  repository (.listAudit target)

end Service

end AccountAuthority
