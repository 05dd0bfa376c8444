import AccountAuthority.Account.AdminGuard
import AccountAuthority.Store.Basic

/-!
# The life of accounts in the store

Changes of role and status, requests for deletion and their withdrawal, and deletion itself.  Each
leaves its entries in the audit trail.
-/

namespace AccountAuthority.Store

def updateUser (s : Store) (user : User) : Store :=
  { s with users := s.users.insert user }

/-- Whether the change of a user would take away the last active administrator. -/
def blocks (s : Store) (target : UserId) : Bool :=
  AdminGuard.evaluate s.activeAdmins target = .blockedLastAdmin

/-- Change the role of a user.  The last active administrator keeps theirs. -/
def changeRole (s : Store) (actor : Actor) (target : UserId) (role : Role) (now : Instant)
    (fresh : FreshIds) : LifecycleOutcome × Store :=
  match s.users.get? target with
  | none => (.userNotFound, s)
  | some user =>
    if user.status = .deleted then (.userDeleted, s)
    else if user.role = role then (.unchanged user, s)
    else if role ≠ .admin ∧ s.blocks target then (.blockedLastAdmin, s)
    else
      let changed := { user with role := role, updatedAt := now }
      (.changed changed,
        (s.updateUser changed).record
          (AuditEvent.create fresh.event .roleChanged actor target
            (AuditEvent.roleChange user.role role) now))

/-- Change the status of a user.  A suspension revokes all sessions of the user, and the last
active administrator stays active. -/
def changeStatus (s : Store) (actor : Actor) (target : UserId) (status : Status)
    (reason : Option String) (now : Instant) (fresh : FreshIds) : LifecycleOutcome × Store :=
  match s.users.get? target with
  | none => (.userNotFound, s)
  | some user =>
    if user.status = .deleted then (.userDeleted, s)
    else if user.status = status then (.unchanged user, s)
    else if status ≠ .active ∧ s.blocks target then (.blockedLastAdmin, s)
    else
      let changed := { user with status := status, updatedAt := now }
      let s := s.updateUser changed
      let (revoked, s) :=
        if status = .suspended then s.revokeAll target none .userSuspended now else (0, s)
      (.changed changed,
        s.record (AuditEvent.create fresh.event .statusChanged actor target
          (AuditEvent.statusChange user.status status reason revoked) now))

/-- Schedule the deletion of a user, unless it is scheduled already. -/
def requestDeletion (s : Store) (actor : Actor) (target : UserId) (scheduledFor now : Instant)
    (fresh : FreshIds) : DeletionRequestOutcome × Store :=
  match s.users.get? target with
  | none => (.userNotFound, s)
  | some user =>
    if user.status = .deleted then (.userDeleted, s)
    else if user.deletionScheduledFor.isSome then (.alreadyRequested user, s)
    else
      let changed := { user with
        deletionRequestedAt := some now
        deletionScheduledFor := some scheduledFor
        deletionSession := actor.session
        deletionTrace := actor.trace
        updatedAt := now }
      (.requested changed,
        (s.updateUser changed).record
          (AuditEvent.create fresh.event .deletionRequested actor target
            (AuditEvent.schedule scheduledFor) now))

def cancelDeletion (s : Store) (actor : Actor) (target : UserId) (now : Instant)
    (fresh : FreshIds) : DeletionCancelOutcome × Store :=
  match s.users.get? target with
  | none => (.userNotFound, s)
  | some user =>
    if user.status = .deleted then (.userDeleted, s)
    else
      match user.deletionScheduledFor with
      | none => (.notRequested, s)
      | some scheduledFor =>
        let changed := { user with
          deletionRequestedAt := none
          deletionScheduledFor := none
          deletionSession := none
          deletionTrace := none
          updatedAt := now }
        (.cancelled changed,
          (s.updateUser changed).record
            (AuditEvent.create fresh.event .deletionCancelled actor target
              (AuditEvent.schedule scheduledFor) now))

/-- Remove all that belongs to a user but the user: sessions with their tokens, identities,
verification tokens and the password. -/
def removeBelongings (s : Store) (user : UserId) : Store :=
  let ids := (s.sessions.rows.filter fun x => x.user = user).map Session.id
  { s with
    sessions := s.sessions.filter fun x => x.user ≠ user
    tokens := s.tokens.filter fun t => !ids.contains t.session
    identities := s.identities.filter fun i => i.user ≠ user
    verificationTokens := s.verificationTokens.filter fun t => t.user ≠ user
    passwords := s.passwords.erase user }

/-- Delete a user whose deletion is due.  What belongs to the user goes and the user is scrubbed;
the last active administrator is kept, which is only noted. -/
def finalizeDeletion (s : Store) (id : UserId) (trace : Option String) (now : Instant)
    (fresh : FreshIds) : FinalizeOutcome × Store :=
  match s.users.get? id with
  | none => (.skipped .userNotFound, s)
  | some user =>
    if user.status = .deleted then (.skipped .alreadyDeleted, s)
    else
      match user.deletionScheduledFor with
      | none => (.skipped .notScheduled, s)
      | some scheduledFor =>
        if now < scheduledFor then (.notDue scheduledFor, s)
        else
          let actor := Actor.ofDeletion user trace
          if s.blocks id then
            (.blockedLastAdmin,
              s.record (AuditEvent.create fresh.event .deletionBlocked actor id
                (AuditEvent.blocked scheduledFor) now))
          else
            let sessions := (s.sessions.rows.filter fun x => x.user = id).length
            let s := (s.removeBelongings id).updateUser (user.scrub now)
            let s := s.record
              (AuditEvent.create fresh.event .statusChanged actor id
                (AuditEvent.deletion user.status) now)
            (.finalized id sessions,
              s.record (AuditEvent.create fresh.nextEvent .deletionFinalized actor id
                (AuditEvent.finalization user.deletionRequestedAt scheduledFor sessions) now))

/-- The entries of the audit trail about a user. -/
def listAudit (s : Store) (target : UserId) : List AuditEvent :=
  s.audit.filter fun e => e.target = target

end AccountAuthority.Store
