import AccountAuthority.Proofs.HeededAnswers
import AccountAuthority.Relational.Lifecycle
import AccountAuthority.Relational.Sessions

/-!
# Units of work

What a unit of work of the repository needs of the rows that its statements give,
and that every unit heeds the answers to its statements.  This is shown along the
programs of the units, from one statement to the next.
-/

namespace AccountAuthority

/-! ## What the repository makes of its rows -/

/-- The codes in the row of a user are understood. -/
def UserRow.Understood (row : UserRow) : Prop :=
  ∃ user, row.toUser = .ok user

/-- The codes in the row of a session are understood. -/
def SessionRow.Understood (row : SessionRow) : Prop :=
  ∃ session, row.toSession = .ok session

/-- The rows that a statement gives within a unit of work are as the unit needs
them: those that it looks at can be read, and the codes in them are understood.
Some units do without the codes of a user who is looked up. -/
def Statement.Answered (codes : Bool) (s : Statement) (reply : Reply) : Prop :=
  match s with
  | .selectUser .. =>
      reply.FirstReads UserRow.read fun row => codes = true → row.Understood
  | .selectUserByIdentity .. => reply.FirstReads UserRow.read UserRow.Understood
  | .setRole .. | .setStatus .. | .scheduleDeletion .. | .unscheduleDeletion .. =>
      reply.OneReads UserRow.read UserRow.Understood
  | .selectUserIdByEmail .. | .selectIdentityOwner .. | .selectIdentityOfUser ..
  | .selectSessionOfUser .. | .lockSessionByKey .. | .lockUnrevokedSession .. =>
      reply.FirstReads Row.first fun _ : Uuid => True
  | .lockActiveAdmins | .revokeSessionsOfUser .. =>
      reply.AllRead (Row.first (α := Uuid))
  | .selectVerificationToken .. =>
      reply.FirstReads VerificationTokenRow.read fun _ => True
  | .selectRefreshToken .. => reply.FirstReads RefreshToken.read fun _ => True
  | .selectSession .. => reply.FirstReads SessionRow.read SessionRow.Understood
  | .touchSession .. => reply.OneReads SessionRow.read SessionRow.Understood
  | _ => True

open Sql Statement

namespace Relational

variable {α : Type} {codes : Bool}

/-! ## Parts of units -/

theorem heeds_send {s : Statement} (hs : ∀ reply, s.Answered codes reply) :
    Heeds (Answered codes) True (send s) :=
  heeds_fetch (f := fun _ => .ok ()) (fun _ => failsWith_pure)
    fun reply => ⟨fun _ => ⟨(), rfl⟩, fun _ => hs reply⟩

theorem heeds_findId
    {s : Statement}
    (hs : ∀ reply, s.Answered codes reply ↔
      reply.FirstReads Row.first fun _ : Uuid => True) :
    Heeds (Answered codes) True (findId s) :=
  heeds_fetchOptional Row.failsWith_first hs

theorem heeds_userOf {row : UserRow} :
    Heeds (Answered codes) row.Understood (userOf row) :=
  heeds_ofExcept row.failsWith_toUser

theorem heeds_userOf? {row : Option UserRow} :
    Heeds (Answered codes) (∀ r ∈ row, r.Understood) (userOf? row) :=
  heeds_ofExcept_mapM UserRow.failsWith_toUser row

theorem heeds_lockUser {id : UserId} :
    Heeds (Answered true) True (lockUser id) :=
  heeds_fetchOptional_bind UserRow.failsWith_read (fun _ => by simp [Answered])
    fun _ => heeds_userOf?

theorem heeds_findUserRow {id : UserId} {lock : Bool} :
    Heeds (Answered false) True (findUserRow id lock) :=
  heeds_fetchOptional UserRow.failsWith_read fun _ => by simp [Answered]

theorem heeds_findUserByIdentity {provider subject : String} :
    Heeds (Answered codes) True (findUserByIdentity provider subject) :=
  heeds_fetchOptional_bind UserRow.failsWith_read (fun _ => Iff.rfl)
    fun _ => heeds_userOf?

theorem heeds_findRefreshToken {hash : String} :
    Heeds (Answered codes) True (findRefreshToken hash) :=
  heeds_fetchOptional RefreshToken.failsWith_read fun _ => Iff.rfl

theorem heeds_findSession {id : SessionId} :
    Heeds (Answered codes) True (findSession id) :=
  heeds_fetchOptional_bind SessionRow.failsWith_read (fun _ => Iff.rfl) fun row =>
    heeds_ofExcept_mapM SessionRow.failsWith_toSession row

theorem heeds_revoke {session : SessionId} {reason : RevocationReason} {now : Instant} :
    Heeds (Answered codes) True (revoke session reason now) := by
  refine heeds_bind (heeds_affected fun _ => trivial) fun n => ?_
  split
  · exact heeds_pure _
  · exact heeds_bind (heeds_send fun _ => trivial) fun _ => heeds_pure _

theorem heeds_revokeAll
    {user : UserId} {keep : Option SessionId} {reason : RevocationReason}
    {now : Instant} : Heeds (Answered codes) True (revokeAll user keep reason now) := by
  refine heeds_bind (heeds_fetchAll Row.failsWith_first fun _ => Iff.rfl)
    fun revoked => ?_
  split
  · exact heeds_pure _
  · exact heeds_bind (heeds_send fun _ => trivial) fun _ => heeds_pure _

theorem heeds_lockActiveAdmins : Heeds (Answered codes) True lockActiveAdmins :=
  heeds_fetchAll Row.failsWith_first fun _ => Iff.rfl

theorem heeds_record
    {type : AuditEventType} {actor : Actor} {target : UserId} {data : Json}
    {now : Instant} :
    Heeds (Answered codes) True (record type actor target data now) :=
  heeds_bind heeds_freshId fun _ => heeds_send fun _ => trivial

/-- A change to a user ends with its record and the user as changed. -/
theorem heeds_record_userOf
    {type : AuditEventType} {actor : Actor} {target : UserId} {data : Json}
    {now : Instant} {row : UserRow} {f : User → α} :
    Heeds (Answered codes) row.Understood
      (record type actor target data now >>= fun _ =>
        userOf row >>= fun user => pure (f user)) :=
  heeds_bind heeds_record fun _ => heeds_map heeds_userOf f

/-! ## Units on accounts -/

theorem heeds_createUser {user : User} {hash : String} :
    Heeds (Answered codes) True (createUser user hash) := by
  refine heeds_bind (heeds_findId fun _ => Iff.rfl) fun found => ?_
  cases found with
  | some _ => exact heeds_pure _
  | none => exact heeds_bind (heeds_send fun _ => trivial) fun _ => heeds_pure _

theorem heeds_createExternalUser {user : User} {identity : ExternalIdentity} :
    Heeds (Answered codes) True (createExternalUser user identity) := by
  refine heeds_bind heeds_findUserByIdentity fun existing => ?_
  cases existing with
  | some _ => exact heeds_pure _
  | none =>
      refine heeds_bind (heeds_findId fun _ => Iff.rfl) fun found => ?_
      cases found with
      | some _ => exact heeds_pure _
      | none =>
          refine heeds_bind (heeds_send fun _ => trivial) fun _ => ?_
          exact heeds_bind (heeds_send fun _ => trivial) fun _ => heeds_pure _

theorem heeds_linkIdentity {identity : ExternalIdentity} :
    Heeds (Answered false) True (linkIdentity identity) := by
  refine heeds_bind heeds_findUserRow fun row => ?_
  cases row with
  | none => exact heeds_pure _
  | some row =>
      dsimp only
      split
      · exact heeds_pure _
      refine heeds_bind (heeds_findId fun _ => Iff.rfl) fun owner => ?_
      cases owner with
      | some owner => exact heeds_pure _
      | none =>
          refine heeds_bind (heeds_findId fun _ => Iff.rfl) fun found => ?_
          cases found with
          | some _ => exact heeds_pure _
          | none => exact heeds_bind (heeds_send fun _ => trivial) fun _ => heeds_pure _

theorem heeds_resetPassword {tokenHash newHash : String} {now : Instant} :
    Heeds (Answered false) True (resetPassword tokenHash newHash now) := by
  refine heeds_bind (heeds_fetchOptional VerificationTokenRow.failsWith_read
    fun _ => Iff.rfl) fun found => ?_
  cases found with
  | none => exact heeds_pure _
  | some token =>
      dsimp only
      split
      · exact heeds_pure _
      split
      · exact heeds_pure _
      refine heeds_bind heeds_findUserRow fun row => ?_
      cases row with
      | none => exact heeds_pure _
      | some row =>
          dsimp only
          split
          · refine heeds_bind (heeds_affected fun _ => trivial) fun n => ?_
            split
            · exact heeds_pure _
            · refine heeds_bind (heeds_send fun _ => trivial) fun _ => ?_
              refine heeds_bind (heeds_send fun _ => trivial) fun _ => ?_
              exact heeds_bind heeds_revokeAll fun _ => heeds_pure _
          · exact heeds_pure _

theorem heeds_verifyEmail {tokenHash : String} {now : Instant} :
    Heeds (Answered false) True (verifyEmail tokenHash now) := by
  refine heeds_bind (heeds_fetchOptional VerificationTokenRow.failsWith_read
    fun _ => Iff.rfl) fun found => ?_
  cases found with
  | none => exact heeds_pure _
  | some token =>
      dsimp only
      split
      · exact heeds_pure _
      split
      · exact heeds_pure _
      refine heeds_bind heeds_findUserRow fun row => ?_
      cases row with
      | none => exact heeds_pure _
      | some row =>
          dsimp only
          split
          · exact heeds_pure _
          refine heeds_bind (heeds_send fun _ => trivial) fun _ => ?_
          split
          · exact heeds_pure _
          · exact heeds_bind (heeds_send fun _ => trivial) fun _ => heeds_pure _

theorem heeds_changePassword
    {user : UserId} {expected new : String} {keep : Option SessionId} {now : Instant} :
    Heeds (Answered false) True (changePassword user expected new keep now) := by
  refine heeds_bind (heeds_affected fun _ => trivial) fun n => ?_
  split
  · refine heeds_bind heeds_findUserRow fun row => ?_
    cases row with
    | none => exact heeds_pure _
    | some row => exact heeds_pure _
  · exact heeds_bind heeds_revokeAll fun _ => heeds_pure _

/-! ## Units on sessions -/

theorem heeds_replaceSession {activeKey : Option String} {now : Instant} :
    Heeds (Answered codes) True (replaceSession activeKey now) := by
  cases activeKey with
  | none => exact heeds_pure _
  | some key =>
      refine heeds_bind (heeds_findId fun _ => Iff.rfl) fun found => ?_
      cases found with
      | none => exact heeds_pure _
      | some old => exact heeds_bind heeds_revoke fun _ => heeds_pure _

theorem heeds_createSession {session : Session} {token : RefreshToken} {now : Instant} :
    Heeds (Answered codes) True (createSession session token now) := by
  refine heeds_bind heeds_replaceSession fun _ => ?_
  refine heeds_bind (heeds_send fun _ => trivial) fun _ => ?_
  exact heeds_bind (heeds_send fun _ => trivial) fun _ => heeds_pure _

theorem heeds_rotate {r : Rotation} : Heeds (Answered codes) True (rotate r) := by
  refine heeds_bind heeds_findRefreshToken fun token => ?_
  cases token with
  | none => exact heeds_pure _
  | some token =>
      refine heeds_bind heeds_findSession fun session => ?_
      cases session with
      | none => exact heeds_pure _
      | some session =>
          dsimp only
          split
          · exact heeds_pure _
          split
          · exact heeds_pure _
          split
          · exact heeds_pure _
          refine heeds_bind heeds_freshId fun id => ?_
          refine heeds_bind (heeds_affected fun _ => trivial) fun n => ?_
          split
          · exact heeds_pure _
          refine heeds_bind (heeds_send fun _ => trivial) fun _ => ?_
          refine heeds_fetchOne_bind SessionRow.failsWith_read (fun _ => Iff.rfl)
            fun row => ?_
          exact heeds_map (heeds_ofExcept row.failsWith_toSession) _

theorem heeds_revokeFound
    {session : SessionId} {reason : RevocationReason} {now : Instant} :
    Heeds (Answered codes) True (revokeFound session reason now) := by
  refine heeds_bind heeds_revoke fun live => ?_
  split
  all_goals exact heeds_pure _

theorem heeds_revokeByToken
    {hash : String} {reason : RevocationReason} {now : Instant} :
    Heeds (Answered codes) True (revokeByToken hash reason now) := by
  refine heeds_bind heeds_findRefreshToken fun token => ?_
  cases token with
  | none => exact heeds_pure _
  | some token => exact heeds_revokeFound

theorem heeds_revokeSession
    {user : UserId} {session : SessionId} {reason : RevocationReason} {now : Instant} :
    Heeds (Answered codes) True (revokeSession user session reason now) := by
  refine heeds_bind (heeds_findId fun _ => Iff.rfl) fun found => ?_
  cases found with
  | none => exact heeds_pure _
  | some _ => exact heeds_revokeFound

theorem heeds_revokeByKey {key : String} {reason : RevocationReason} {now : Instant} :
    Heeds (Answered codes) True (revokeByKey key reason now) := by
  refine heeds_bind (heeds_findId fun _ => Iff.rfl) fun found => ?_
  cases found with
  | none => exact heeds_pure _
  | some session => exact heeds_bind heeds_revoke fun _ => heeds_pure _

theorem heeds_setPushToken
    {user : UserId} {session : SessionId} {token : String} {platform : Option String}
    {now : Instant} :
    Heeds (Answered codes) True (setPushToken user session token platform now) := by
  refine heeds_bind (heeds_findId fun _ => Iff.rfl) fun found => ?_
  cases found with
  | none => exact heeds_pure _
  | some _ =>
      refine heeds_bind (heeds_send fun _ => trivial) fun _ => ?_
      exact heeds_bind (heeds_send fun _ => trivial) fun _ => heeds_pure _

/-! ## Units on the life of accounts -/

theorem heeds_changeRole
    {actor : Actor} {target : UserId} {role : Role} {now : Instant} :
    Heeds (Answered true) True (changeRole actor target role now) := by
  refine heeds_bind heeds_lockActiveAdmins fun admins => ?_
  refine heeds_bind heeds_lockUser fun user => ?_
  cases user with
  | none => exact heeds_pure _
  | some user =>
      dsimp only
      split
      · exact heeds_pure _
      split
      · exact heeds_pure _
      split
      · exact heeds_pure _
      refine heeds_fetchOne_bind UserRow.failsWith_read (fun _ => Iff.rfl) fun row => ?_
      exact heeds_record_userOf

theorem heeds_changeStatus
    {actor : Actor} {target : UserId} {status : Status} {reason : Option String}
    {now : Instant} :
    Heeds (Answered true) True (changeStatus actor target status reason now) := by
  refine heeds_bind heeds_lockActiveAdmins fun admins => ?_
  refine heeds_bind heeds_lockUser fun user => ?_
  cases user with
  | none => exact heeds_pure _
  | some user =>
      dsimp only
      split
      · exact heeds_pure _
      split
      · exact heeds_pure _
      split
      · exact heeds_pure _
      refine heeds_fetchOne_bind UserRow.failsWith_read (fun _ => Iff.rfl) fun row => ?_
      split
      · refine heeds_bind heeds_revokeAll fun _ => ?_
        exact heeds_record_userOf
      · refine heeds_bind (heeds_pure 0) fun _ => ?_
        exact heeds_record_userOf

theorem heeds_requestDeletion
    {actor : Actor} {target : UserId} {scheduledFor now : Instant} :
    Heeds (Answered true) True (requestDeletion actor target scheduledFor now) := by
  refine heeds_bind heeds_lockUser fun user => ?_
  cases user with
  | none => exact heeds_pure _
  | some user =>
      dsimp only
      split
      · exact heeds_pure _
      split
      · exact heeds_pure _
      refine heeds_fetchOne_bind UserRow.failsWith_read (fun _ => Iff.rfl) fun row => ?_
      exact heeds_record_userOf

theorem heeds_cancelDeletion {actor : Actor} {target : UserId} {now : Instant} :
    Heeds (Answered true) True (cancelDeletion actor target now) := by
  refine heeds_bind heeds_lockUser fun user => ?_
  cases user with
  | none => exact heeds_pure _
  | some user =>
      dsimp only
      split
      · exact heeds_pure _
      split
      · exact heeds_pure _
      refine heeds_fetchOne_bind UserRow.failsWith_read (fun _ => Iff.rfl) fun row => ?_
      exact heeds_record_userOf

theorem heeds_erase {user : UserId} {now : Instant} :
    Heeds (Answered codes) True (erase user now) := by
  refine heeds_bind (heeds_affected fun _ => trivial) fun n => ?_
  refine heeds_bind (heeds_send fun _ => trivial) fun _ => ?_
  refine heeds_bind (heeds_send fun _ => trivial) fun _ => ?_
  exact heeds_bind (heeds_send fun _ => trivial) fun _ => heeds_pure _

theorem heeds_finalizeDeletion {id : UserId} {trace : Option String} {now : Instant} :
    Heeds (Answered true) True (finalizeDeletion id trace now) := by
  refine heeds_bind heeds_lockActiveAdmins fun admins => ?_
  refine heeds_bind heeds_lockUser fun user => ?_
  cases user with
  | none => exact heeds_pure _
  | some user =>
      dsimp only
      split
      · exact heeds_pure _
      split
      · exact heeds_pure _
      split
      · exact heeds_pure _
      split
      · exact heeds_bind heeds_record fun _ => heeds_pure _
      refine heeds_bind heeds_erase fun _ => ?_
      refine heeds_bind heeds_record fun _ => ?_
      exact heeds_bind heeds_record fun _ => heeds_pure _

end Relational

end AccountAuthority
