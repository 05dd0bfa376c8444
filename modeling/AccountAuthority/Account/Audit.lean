import AccountAuthority.Account.User

/-!
# The audit trail

Events in the life of an account, who caused them, and what they say.  Events are only ever
appended.
-/

namespace AccountAuthority

inductive AuditEventType where
  | statusChanged
  | roleChanged
  | deletionRequested
  | deletionCancelled
  | deletionBlocked
  | deletionFinalized
  deriving DecidableEq, Repr

instance : Coded AuditEventType where
  values := [.statusChanged, .roleChanged, .deletionRequested, .deletionCancelled,
    .deletionBlocked, .deletionFinalized]
  code
    | .statusChanged => "USER_STATUS_CHANGED"
    | .roleChanged => "USER_ROLE_CHANGED"
    | .deletionRequested => "ACCOUNT_DELETION_REQUESTED"
    | .deletionCancelled => "ACCOUNT_DELETION_CANCELLED"
    | .deletionBlocked => "ACCOUNT_DELETION_BLOCKED"
    | .deletionFinalized => "ACCOUNT_DELETION_FINALIZED"
  noun := "audit event type"

/-- Who acts: a user, perhaps out of a session, or the system when there is no user. -/
structure Actor where
  user : Option UserId := none
  session : Option SessionId := none
  trace : Option String := none
  deriving DecidableEq, Repr

/-- The actor of a deletion: the system, on behalf of the session that asked for it. -/
def Actor.ofDeletion (user : User) (trace : Option String) : Actor where
  user := none
  session := user.deletionSession
  trace := trace.or user.deletionTrace

/-- An entry of the audit trail. -/
structure AuditEvent where
  id : Uuid
  type : AuditEventType
  actorUser : Option UserId
  actorSession : Option SessionId
  target : UserId
  trace : Option String
  data : Json
  createdAt : Instant
  deriving Repr

namespace AuditEvent

/-- A new entry about `target` that names the actor. -/
def create (id : Uuid) (type : AuditEventType) (actor : Actor) (target : UserId) (data : Json)
    (now : Instant) : AuditEvent where
  id := id
  type := type
  actorUser := actor.user
  actorSession := actor.session
  target := target
  trace := actor.trace
  data := data
  createdAt := now

def fields (e : AuditEvent) : List (String × Json) := [
  ("event_type", .str (code e.type)),
  ("actor_user_id", Uuid.optionToJson e.actorUser),
  ("actor_session_id", Uuid.optionToJson e.actorSession),
  ("target_user_id", e.target.toJson),
  ("trace_id", .ofText? e.trace),
  ("event_data", e.data),
  ("created_utc", e.createdAt.toJson)]

/-- An entry with its identifier. -/
def record (e : AuditEvent) : Json :=
  .obj (("event_id", e.id.toJson) :: e.fields)

/-! ## What events say -/

def roleChange (before after : Role) : Json :=
  .obj [("from", .str (code before)), ("to", .str (code after))]

/-- A status was changed, and so many sessions were revoked with it. -/
def statusChange (before after : Status) (reason : Option String) (revoked : Nat) : Json :=
  .obj [("from", .str (code before)), ("to", .str (code after)), ("reason", .ofText? reason),
    ("revoked_sessions", .int revoked)]

/-- The deletion that was requested or cancelled. -/
def schedule (scheduledFor : Instant) : Json :=
  .obj [("scheduled_utc", scheduledFor.toJson)]

/-- A due deletion was held back. -/
def blocked (scheduledFor : Instant) : Json :=
  .obj [("reason", .str "blocked_last_admin"), ("scheduled_utc", scheduledFor.toJson)]

/-- The status was changed by a deletion. -/
def deletion (before : Status) : Json :=
  .obj [("from", .str (code before)), ("to", .str (code Status.deleted)),
    ("reason", .str "account_deletion")]

/-- A deletion was carried out. -/
def finalization (requestedAt : Option Instant) (scheduledFor : Instant) (sessions : Nat) : Json :=
  .obj [("requested_utc", Instant.optionToJson requestedAt),
    ("scheduled_utc", scheduledFor.toJson), ("sessions_deleted", .int sessions)]

end AuditEvent

end AccountAuthority
