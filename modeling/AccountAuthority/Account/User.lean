import AccountAuthority.Code
import AccountAuthority.Email
import AccountAuthority.Table
import AccountAuthority.Time.Rfc3339

/-!
# Users

An account with its role, its status and its deletion request, if there is one.  A user whose
status is `deleted` is what is left of a scrubbed account.
-/

namespace AccountAuthority

abbrev UserId := Uuid

abbrev SessionId := Uuid

inductive Role where
  | user
  | admin
  deriving DecidableEq, Repr

instance : Coded Role where
  values := [.user, .admin]
  code
    | .user => "USER"
    | .admin => "ADMIN"
  noun := "user role"

/-- Where an account stands in its life. -/
inductive Status where
  | active
  | suspended
  | deleted
  deriving DecidableEq, Repr

instance : Coded Status where
  values := [.active, .suspended, .deleted]
  code
    | .active => "ACTIVE"
    | .suspended => "SUSPENDED"
    | .deleted => "DELETED"
  noun := "user status"

structure User where
  id : UserId
  email : String
  displayName : Option String := none
  avatarUrl : Option String := none
  role : Role := .user
  status : Status := .active
  emailVerifiedAt : Option Instant := none
  deletionRequestedAt : Option Instant := none
  deletionScheduledFor : Option Instant := none
  deletionSession : Option SessionId := none
  deletionTrace : Option String := none
  deletedAt : Option Instant := none
  createdAt : Instant
  updatedAt : Instant
  deriving DecidableEq, Repr

instance : Keyed User UserId := ⟨User.id⟩

namespace User

/-- A new account: active, without privileges, its address in normal form. -/
def create (id : UserId) (email : String) (displayName : Option String) (now : Instant) : User where
  id := id
  email := Email.normalize email
  displayName := displayName
  createdAt := now
  updatedAt := now

/-- Whether the user can administrate right now. -/
def isActiveAdmin (u : User) : Bool :=
  u.role = .admin && u.status = .active

def emailVerified (u : User) : Bool :=
  u.emailVerifiedAt.isSome

/-- What is left of a user whose account has been deleted. -/
def scrub (u : User) (now : Instant) : User :=
  { u with
    email := Email.tombstone u.id
    role := .user
    status := .deleted
    displayName := none
    avatarUrl := none
    deletionRequestedAt := none
    deletionScheduledFor := none
    deletionSession := none
    deletionTrace := none
    deletedAt := some now
    updatedAt := now }

def fields (u : User) : List (String × Json) := [
  ("email", .str u.email),
  ("display_name", .ofText? u.displayName),
  ("avatar_url", .ofText? u.avatarUrl),
  ("role", .str (code u.role)),
  ("status", .str (code u.status)),
  ("email_verified_utc", Instant.optionToJson u.emailVerifiedAt),
  ("deletion_requested_utc", Instant.optionToJson u.deletionRequestedAt),
  ("deletion_scheduled_utc", Instant.optionToJson u.deletionScheduledFor),
  ("deletion_requested_session_id", Uuid.optionToJson u.deletionSession),
  ("deletion_requested_trace_id", .ofText? u.deletionTrace),
  ("deleted_utc", Instant.optionToJson u.deletedAt),
  ("created_utc", u.createdAt.toJson),
  ("updated_utc", u.updatedAt.toJson),
  ("active_admin", .bool u.isActiveAdmin)]

end User

/-- What callers are shown of a user: no credentials and no bookkeeping. -/
structure UserView where
  id : UserId
  email : String
  displayName : Option String
  avatarUrl : Option String
  role : Role
  status : Status
  emailVerified : Bool
  deletionScheduledFor : Option Instant
  deriving DecidableEq, Repr

def User.view (u : User) : UserView where
  id := u.id
  email := u.email
  displayName := u.displayName
  avatarUrl := u.avatarUrl
  role := u.role
  status := u.status
  emailVerified := u.emailVerified
  deletionScheduledFor := u.deletionScheduledFor

def UserView.fields (v : UserView) : List (String × Json) := [
  ("user_id", v.id.toJson),
  ("email", .str v.email),
  ("display_name", .ofText? v.displayName),
  ("avatar_url", .ofText? v.avatarUrl),
  ("role", .str (code v.role)),
  ("status", .str (code v.status)),
  ("email_verified", .bool v.emailVerified),
  ("deletion_scheduled_utc", Instant.optionToJson v.deletionScheduledFor)]

end AccountAuthority
