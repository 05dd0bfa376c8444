import AccountAuthority.Database.Error

/-!
# Errors of a repository

A failed operation is either a conflict with a concurrent transaction, which goes away when the
operation is tried again from scratch, or it is there to stay.
-/

namespace AccountAuthority

/-- Why an operation on the repository failed. -/
inductive RepositoryError where
  | transient (cause : DatabaseError)
  | uniqueViolation (constraint : String)
  | database (cause : DatabaseError)
  | corruptRow (text : String)
  deriving DecidableEq, Repr

namespace RepositoryError

/-- The SQL states of serialization failures and of deadlocks. -/
def conflictStates : List String := ["40001", "40P01"]

/-- What a database error means to the repository. -/
def ofDatabase (e : DatabaseError) : RepositoryError :=
  match e with
  | .server s =>
    if conflictStates.any fun c => s.state = some c then .transient e
    else if s.isUnique then .uniqueViolation (s.constraint.getD "")
    else .database e
  | _ => .database e

/-- Whether trying again from scratch can help. -/
def isTransient : RepositoryError → Bool
  | transient _ => true
  | _ => false

/-- Whether the named unique constraint was violated. -/
def isUniqueViolationOn (name : String) : RepositoryError → Bool
  | uniqueViolation constraint => constraint = name
  | _ => false

def kind : RepositoryError → String
  | transient _ => "transient"
  | uniqueViolation _ => "unique_violation"
  | database _ => "database"
  | corruptRow _ => "corrupt_row"

def message : RepositoryError → String
  | transient cause => "Transient conflict: " ++ cause.message
  | uniqueViolation constraint => "Unique constraint violated: " ++ constraint
  | database cause => "Database error: " ++ cause.message
  | corruptRow text => "Corrupt row: " ++ text

end RepositoryError

end AccountAuthority
