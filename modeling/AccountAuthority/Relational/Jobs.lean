import AccountAuthority.Job.Queue
import AccountAuthority.Relational.Row
import AccountAuthority.Relational.Sql

/-!
# The job queue in the database

Every request to the queue is one statement.  A claim skips the jobs that another worker has
locked, so that several workers can share the queue.
-/

namespace AccountAuthority

instance : OfDatabase QueueError := ⟨.database⟩

/-- Perform a request to the queue in the database. -/
def QueueRequest.overDatabase (r : QueueRequest) : Sql Statement QueueError r.Answer :=
  match r with
  | .enqueue type payload delay id maxAttempts now => do
    let id ← match id with
      | some id => pure id
      | none => do pure (toString (← Sql.freshId (S := Statement)))
    let _ ← Sql.execute (.putJob id type payload (Job.firstRun delay now)
      (maxAttempts.getD Job.defaultMaxAttempts) now)
    pure id
  | .claim type now lease limit => do
    let rows ← Sql.fetchAll (.claimJobs type now (now + lease) limit) JobRow.read
    Sql.ofExcept (rows.mapM JobRow.toJob)
  | .complete id now => do
    let _ ← Sql.execute (.completeJob id now)
  | .reschedule id runAt now => do
    let _ ← Sql.execute (.rescheduleJob id runAt now)
  | .fail id error retryAt now => do
    match ← Sql.fetchOptional (.failJob id error retryAt now) Row.first with
    | some state => Sql.ofExcept ((Coded.read state).mapError .corruptRow)
    | none => throw (.corruptRow ("Job " ++ id ++ " not found"))
  | .find id => do
    let row ← Sql.fetchOptional (.selectJob id) JobRow.read
    Sql.ofExcept (row.mapM JobRow.toJob)

end AccountAuthority
