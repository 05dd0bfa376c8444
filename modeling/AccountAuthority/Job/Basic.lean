import AccountAuthority.Account.User
import AccountAuthority.Database.Error

/-!
# Jobs

A job is a piece of work that waits for its run time, is leased to a worker, and ends completed or
dead.  The identifier of a job is a text; putting in a job under an identifier that is in use moves
the job that has it.
-/

namespace AccountAuthority

inductive JobState where
  | pending
  | running
  | completed
  | dead
  deriving DecidableEq, Repr

instance : Coded JobState where
  values := [.pending, .running, .completed, .dead]
  code
    | .pending => "PENDING"
    | .running => "RUNNING"
    | .completed => "COMPLETED"
    | .dead => "DEAD"
  noun := "job state"

/-- A piece of work with its history. -/
structure Job where
  id : String
  type : String
  payload : Json
  state : JobState := .pending
  runAt : Instant
  attempts : Int := 0
  maxAttempts : Int
  lastError : Option String := none
  lockedUntil : Option Instant := none
  createdAt : Instant
  updatedAt : Instant
  deriving Repr

instance : Keyed Job String := ⟨Job.id⟩

namespace Job

/-- The number of attempts of a job that does not say how many it has. -/
def defaultMaxAttempts : Int := 5

/-- The type of the jobs that carry out the deletion of an account. -/
def deletionType : String := "account.deletion.finalize"

/-- The job that carries out the deletion of a user; there is one for each user. -/
def deletionId (user : UserId) : String :=
  "account-deletion:" ++ toString user

/-- Whether the job can be claimed: it waits and its run time has come, or the lease on it has
lapsed. -/
def isDue (j : Job) (now : Instant) : Bool :=
  match j.state with
  | .pending => j.runAt ≤ now
  | .running =>
    match j.lockedUntil with
    | some until_ => until_ ≤ now
    | none => false
  | .completed | .dead => false

def fields (j : Job) : List (String × Json) := [
  ("job_type", .str j.type),
  ("payload", j.payload),
  ("state", .str (code j.state)),
  ("run_at_utc", j.runAt.toJson),
  ("attempts", .int j.attempts),
  ("max_attempts", .int j.maxAttempts),
  ("last_error", .ofText? j.lastError),
  ("locked_until_utc", Instant.optionToJson j.lockedUntil),
  ("created_utc", j.createdAt.toJson),
  ("updated_utc", j.updatedAt.toJson)]

/-- A job with its identifier. -/
def record (j : Job) : Json :=
  .obj (("job_id", .str j.id) :: j.fields)

end Job

/-- Why an operation on the queue failed. -/
inductive QueueError where
  | database (cause : DatabaseError)
  | payload (text : String)
  | corruptRow (text : String)
  deriving DecidableEq, Repr

namespace QueueError

def kind : QueueError → String
  | database _ => "database"
  | payload _ => "payload"
  | corruptRow _ => "corrupt_row"

def message : QueueError → String
  | database cause => "Database error: " ++ cause.message
  | payload text => "Invalid payload: " ++ text
  | corruptRow text => "Corrupt job row: " ++ text

end QueueError

end AccountAuthority
