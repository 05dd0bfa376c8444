import AccountAuthority.Account.AdminGuard
import AccountAuthority.Relational.Accounts

/-!
# The life of accounts in the database

The units of work on roles, statuses and deletions.  Those that can take away the last active
administrator lock all active administrators before they look at anything else.
-/

namespace AccountAuthority.Relational

/-- Lock all active administrators. -/
def lockActiveAdmins : Relational (List UserId) :=
  Sql.fetchAll .lockActiveAdmins Row.first

/-- The user with an identifier, locked. -/
def lockUser (id : UserId) : Relational (Option User) := do
  userOf? (← findUserRow id true)

/-- Append an entry to the audit trail. -/
def record (type : AuditEventType) (actor : Actor) (target : UserId) (data : Json)
    (now : Instant) : Relational Unit := do
  send (.insertAudit (AuditEvent.create (← Sql.freshId) type actor target data now))

/-- Whether a change of the target would take away the last active administrator. -/
def blocks (admins : List UserId) (target : UserId) : Bool :=
  AdminGuard.evaluate admins target = .blockedLastAdmin

def changeRole (actor : Actor) (target : UserId) (role : Role) (now : Instant) :
    Relational LifecycleOutcome := do
  let admins ← lockActiveAdmins
  match ← lockUser target with
  | none => pure .userNotFound
  | some user =>
    if user.status = .deleted then pure .userDeleted
    else if user.role = role then pure (.unchanged user)
    else if role ≠ .admin ∧ blocks admins target then pure .blockedLastAdmin
    else
      let row ← Sql.fetchOne (.setRole target role now) UserRow.read
      record .roleChanged actor target (AuditEvent.roleChange user.role role) now
      pure (.changed (← userOf row))

/-- Change the status of a user; a suspension revokes their sessions. -/
def changeStatus (actor : Actor) (target : UserId) (status : Status) (reason : Option String)
    (now : Instant) : Relational LifecycleOutcome := do
  let admins ← lockActiveAdmins
  match ← lockUser target with
  | none => pure .userNotFound
  | some user =>
    if user.status = .deleted then pure .userDeleted
    else if user.status = status then pure (.unchanged user)
    else if status ≠ .active ∧ blocks admins target then pure .blockedLastAdmin
    else
      let row ← Sql.fetchOne (.setStatus target status now) UserRow.read
      let revoked ←
        if status = .suspended then revokeAll target none .userSuspended now else pure 0
      record .statusChanged actor target
        (AuditEvent.statusChange user.status status reason revoked) now
      pure (.changed (← userOf row))

/-- Schedule the deletion of a user, unless it is scheduled already. -/
def requestDeletion (actor : Actor) (target : UserId) (scheduledFor now : Instant) :
    Relational DeletionRequestOutcome := do
  match ← lockUser target with
  | none => pure .userNotFound
  | some user =>
    if user.status = .deleted then pure .userDeleted
    else if user.deletionScheduledFor.isSome then pure (.alreadyRequested user)
    else
      let row ← Sql.fetchOne (.scheduleDeletion target actor scheduledFor now) UserRow.read
      record .deletionRequested actor target (AuditEvent.schedule scheduledFor) now
      pure (.requested (← userOf row))

def cancelDeletion (actor : Actor) (target : UserId) (now : Instant) :
    Relational DeletionCancelOutcome := do
  match ← lockUser target with
  | none => pure .userNotFound
  | some user =>
    if user.status = .deleted then pure .userDeleted
    else
      match user.deletionScheduledFor with
      | none => pure .notRequested
      | some scheduledFor =>
        let row ← Sql.fetchOne (.unscheduleDeletion target now) UserRow.read
        record .deletionCancelled actor target (AuditEvent.schedule scheduledFor) now
        pure (.cancelled (← userOf row))

/-- Delete what belongs to a user and scrub the user; the answer is the number of sessions. -/
def erase (user : UserId) (now : Instant) : Relational Nat := do
  -- The refresh tokens go with their sessions.
  let sessions ← Sql.affected (.deleteSessions user)
  send (.deleteIdentities user)
  send (.deleteVerificationTokens user)
  send (.scrubUser user now)
  pure sessions

/-- Delete a user whose deletion is due; the last active administrator is kept. -/
def finalizeDeletion (id : UserId) (trace : Option String) (now : Instant) :
    Relational FinalizeOutcome := do
  let admins ← lockActiveAdmins
  match ← lockUser id with
  | none => pure (.skipped .userNotFound)
  | some user =>
    if user.status = .deleted then pure (.skipped .alreadyDeleted)
    else
      match user.deletionScheduledFor with
      | none => pure (.skipped .notScheduled)
      | some scheduledFor =>
        if now < scheduledFor then pure (.notDue scheduledFor)
        else
          let actor := Actor.ofDeletion user trace
          if blocks admins id then
            record .deletionBlocked actor id (AuditEvent.blocked scheduledFor) now
            pure .blockedLastAdmin
          else
            let sessions ← erase id now
            record .statusChanged actor id (AuditEvent.deletion user.status) now
            record .deletionFinalized actor id
              (AuditEvent.finalization user.deletionRequestedAt scheduledFor sessions) now
            pure (.finalized id sessions)

end AccountAuthority.Relational
