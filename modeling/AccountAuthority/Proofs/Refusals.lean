import AccountAuthority.Proofs.RefreshRecords
import AccountAuthority.Proofs.UserSteps

/-!
# What refusals leave behind

An operation that turns a request down, or finds that there is nothing to do,
leaves all records as they were.  There is one exception: a change of password
that is turned down because the stored hash is another one still counts as a
change of the user.  Two further outcomes tell of a request that was not
granted and yet had an effect, which is said in full here: a deletion that
would take the last administrator is noted, and a used up refresh token costs
its session.
-/

namespace AccountAuthority

open Store

/-! ## Outcomes that are refusals -/

def CreateUserOutcome.isRefusal : CreateUserOutcome → Bool
  | created _ => false
  | emailTaken => true

def CreateExternalUserOutcome.isRefusal : CreateExternalUserOutcome → Bool
  | created _ => false
  | identityExists _ | emailTaken => true

def LinkOutcome.isRefusal : LinkOutcome → Bool
  | linked => false
  | alreadyLinked | identityLinkedToOtherUser | providerAlreadyLinked
  | userNotFound => true

def ResetPasswordOutcome.isRefusal : ResetPasswordOutcome → Bool
  | reset .. => false
  | invalidToken | expired | userInactive => true

/-- The verification of an address that has been verified before uses up its
token, so it is no refusal. -/
def VerifyEmailOutcome.isRefusal : VerifyEmailOutcome → Bool
  | verified _ | alreadyVerified _ => false
  | invalidToken | expired => true

def ChangePasswordOutcome.isRefusal : ChangePasswordOutcome → Bool
  | changed _ => false
  | credentialChanged | userNotFound => true

/-- The reuse of a token is no refusal, since it costs the session. -/
def RotateOutcome.isRefusal : RotateOutcome → Bool
  | rotated .. | revokedOrReused _ => false
  | notFound | expired | sessionRevoked _ => true

def RevokeOutcome.isRefusal : RevokeOutcome → Bool
  | revoked _ => false
  | alreadyRevoked | notFound => true

def PushTokenOutcome.isRefusal : PushTokenOutcome → Bool
  | updated => false
  | sessionNotFound => true

def LifecycleOutcome.isRefusal : LifecycleOutcome → Bool
  | changed _ => false
  | unchanged _ | userNotFound | userDeleted | blockedLastAdmin => true

def DeletionRequestOutcome.isRefusal : DeletionRequestOutcome → Bool
  | requested _ => false
  | alreadyRequested _ | userNotFound | userDeleted => true

def DeletionCancelOutcome.isRefusal : DeletionCancelOutcome → Bool
  | cancelled _ => false
  | notRequested | userNotFound | userDeleted => true

/-- The last administrator is kept, but the attempt is noted; so that is no
refusal. -/
def FinalizeOutcome.isRefusal : FinalizeOutcome → Bool
  | finalized .. | blockedLastAdmin => false
  | skipped _ | notDue _ => true

/-- Whether an answer turns the request down or finds nothing to do. -/
def RepositoryRequest.refusedBy (r : RepositoryRequest) (a : r.Answer) : Bool :=
  match r, a with
  | .createUser .., a => CreateUserOutcome.isRefusal a
  | .createExternalUser .., a => CreateExternalUserOutcome.isRefusal a
  | .linkIdentity _, a => LinkOutcome.isRefusal a
  | .resetPassword .., a => ResetPasswordOutcome.isRefusal a
  | .verifyEmail .., a => VerifyEmailOutcome.isRefusal a
  | .changePassword .., a => ChangePasswordOutcome.isRefusal a
  | .rotate _, a => RotateOutcome.isRefusal a
  | .revokeByToken .., a | .revokeSession .., a | .revokeDevice .., a =>
      RevokeOutcome.isRefusal a
  | .setPushToken .., a => PushTokenOutcome.isRefusal a
  | .changeRole .., a | .changeStatus .., a => LifecycleOutcome.isRefusal a
  | .requestDeletion .., a => DeletionRequestOutcome.isRefusal a
  | .cancelDeletion .., a => DeletionCancelOutcome.isRefusal a
  | .finalizeDeletion .., a => FinalizeOutcome.isRefusal a
  | .ping, _ | .findLogin _, _ | .findCredentials _, _ | .findUser _, _
  | .findExternalUser .., _ | .storeVerificationToken _, _
  | .createSession .., _ | .findRefreshContext _, _ | .listSessions .., _
  | .listAudit _, _ => false

/-! ## Refused or granted -/

/-- What an operation came to: it left the store alone, or it granted the
request. -/
inductive Settled {α : Type} (refusal : α → Bool) (s : Store) : α × Store → Prop
  | untouched (a : α) : Settled refusal s (a, s)
  | granted (a : α) (s' : Store) (h : refusal a = false) :
      Settled refusal s (a, s')

theorem Settled.eq_of_refusal
    {α : Type} {refusal : α → Bool} {s : Store} {p : α × Store}
    (h : Settled refusal s p) (hrefusal : refusal p.1 = true) : p.2 = s := by
  cases h with
  | untouched a => rfl
  | granted a s' hgranted =>
      rw [hgranted] at hrefusal
      cases hrefusal

namespace Store

variable (s : Store)

/-! ### Accounts -/

theorem createUser_settled (u : User) (hash : String) :
    Settled CreateUserOutcome.isRefusal s (s.createUser u hash) := by
  unfold createUser
  split
  · exact .untouched _
  · exact .granted _ _ rfl

theorem createExternalUser_settled (u : User) (identity : ExternalIdentity) :
    Settled CreateExternalUserOutcome.isRefusal s
      (s.createExternalUser u identity) := by
  unfold createExternalUser
  split
  · exact .untouched _
  split
  · exact .untouched _
  · exact .granted _ _ rfl

theorem linkIdentity_settled (identity : ExternalIdentity) :
    Settled LinkOutcome.isRefusal s (s.linkIdentity identity) := by
  unfold linkIdentity
  split
  · exact .untouched _
  split
  · exact .untouched _
  split
  · split <;> exact .untouched _
  split
  · exact .untouched _
  · exact .granted _ _ rfl

theorem resetPassword_settled (hash newHash : String) (now : Instant) :
    Settled ResetPasswordOutcome.isRefusal s
      (s.resetPassword hash newHash now) := by
  unfold resetPassword
  split
  · exact .untouched _
  split
  · exact .untouched _
  split
  · exact .untouched _
  split
  · exact .untouched _
  split
  · exact .untouched _
  · exact .granted _ _ rfl

theorem verifyEmail_settled (hash : String) (now : Instant) :
    Settled VerifyEmailOutcome.isRefusal s (s.verifyEmail hash now) := by
  unfold verifyEmail
  split
  · exact .untouched _
  split
  · exact .untouched _
  split
  · exact .untouched _
  split
  · exact .untouched _
  split
  · exact .untouched _
  split
  · exact .granted _ _ rfl
  · exact .granted _ _ rfl

/-! ### Sessions and refresh tokens -/

theorem revokeFound_settled
    (id : SessionId) (reason : RevocationReason) (now : Instant) :
    Settled RevokeOutcome.isRefusal s (s.revokeFound id reason now) := by
  unfold revokeFound revoke
  split
  next hrevoke =>
    exact .granted _ _ rfl
  next hrevoke =>
    split at hrevoke
    · cases hrevoke
      exact .untouched _
    split at hrevoke
    · cases hrevoke
      exact .untouched _
    · cases hrevoke

theorem revokeByToken_settled
    (hash : String) (reason : RevocationReason) (now : Instant) :
    Settled RevokeOutcome.isRefusal s (s.revokeByToken hash reason now) := by
  unfold revokeByToken
  split
  · exact .untouched _
  · exact revokeFound_settled s _ reason now

theorem revokeSession_settled
    (user : UserId) (id : SessionId) (reason : RevocationReason)
    (now : Instant) :
    Settled RevokeOutcome.isRefusal s (s.revokeSession user id reason now) := by
  unfold revokeSession
  split
  · exact .untouched _
  split
  · exact revokeFound_settled s id reason now
  · exact .untouched _

theorem revokeDevice_settled
    (user : UserId) (device : String) (reason : RevocationReason)
    (now : Instant) :
    Settled RevokeOutcome.isRefusal s (s.revokeDevice user device reason now) := by
  unfold revokeDevice
  split
  · exact .untouched _
  · exact .granted _ _ rfl

theorem rotate_settled (r : Rotation) (newId : TokenId) :
    Settled RotateOutcome.isRefusal s (s.rotate r newId) := by
  unfold rotate
  split
  · exact .untouched _
  split
  · exact .untouched _
  split
  · exact .untouched _
  split
  · exact .untouched _
  split
  · exact .granted _ _ rfl
  · exact .granted _ _ rfl

theorem setPushToken_settled
    (user : UserId) (id : SessionId) (token : String)
    (platform : Option String) (now : Instant) :
    Settled PushTokenOutcome.isRefusal s
      (s.setPushToken user id token platform now) := by
  unfold setPushToken
  split
  · exact .untouched _
  split
  · exact .granted _ _ rfl
  · exact .untouched _

/-! ### Lifecycle -/

section

variable (actor : Actor) (target : UserId) (now : Instant) (fresh : FreshIds)

theorem changeRole_settled (role : Role) :
    Settled LifecycleOutcome.isRefusal s
      (s.changeRole actor target role now fresh) := by
  unfold changeRole
  split
  · exact .untouched _
  split
  · exact .untouched _
  split
  · exact .untouched _
  split
  · exact .untouched _
  · exact .granted _ _ rfl

theorem changeStatus_settled (status : Status) (reason : Option String) :
    Settled LifecycleOutcome.isRefusal s
      (s.changeStatus actor target status reason now fresh) := by
  unfold changeStatus
  split
  · exact .untouched _
  split
  · exact .untouched _
  split
  · exact .untouched _
  split
  · exact .untouched _
  · exact .granted _ _ rfl

theorem requestDeletion_settled (scheduledFor : Instant) :
    Settled DeletionRequestOutcome.isRefusal s
      (s.requestDeletion actor target scheduledFor now fresh) := by
  unfold requestDeletion
  split
  · exact .untouched _
  split
  · exact .untouched _
  split
  · exact .untouched _
  · exact .granted _ _ rfl

theorem cancelDeletion_settled :
    Settled DeletionCancelOutcome.isRefusal s
      (s.cancelDeletion actor target now fresh) := by
  unfold cancelDeletion
  split
  · exact .untouched _
  split
  · exact .untouched _
  split
  · exact .untouched _
  · exact .granted _ _ rfl

theorem finalizeDeletion_settled (trace : Option String) :
    Settled FinalizeOutcome.isRefusal s
      (s.finalizeDeletion target trace now fresh) := by
  unfold finalizeDeletion
  split
  · exact .untouched _
  split
  · exact .untouched _
  split
  · exact .untouched _
  split
  · exact .untouched _
  dsimp only
  split
  · exact .granted _ _ rfl
  · exact .granted _ _ rfl

end

/-! ## Outcomes with an effect of their own -/

variable {s}

theorem changePassword_of_refusal
    {user : UserId} {expected new : String} {keep : Option SessionId}
    {now : Instant}
    (h : (s.changePassword user expected new keep now).1.isRefusal = true) :
    (s.changePassword user expected new keep now).2 = s ∨
      (s.changePassword user expected new keep now).1 = .credentialChanged ∧
        (s.changePassword user expected new keep now).2 = s.touchUser user now := by
  revert h
  unfold changePassword
  split
  · exact fun _ => Or.inl rfl
  split
  · exact fun _ => Or.inl rfl
  dsimp only
  split
  · exact fun _ => Or.inr ⟨rfl, rfl⟩
  · exact fun h => absurd h Bool.false_ne_true

/-- A deletion that would take the last administrator is noted in the audit
trail. -/
theorem finalizeDeletion_of_blocked
    {id : UserId} {trace : Option String} {now : Instant} {fresh : FreshIds}
    (h : (s.finalizeDeletion id trace now fresh).1 = .blockedLastAdmin) :
    ∃ u scheduledFor, s.users.get? id = some u ∧
      u.deletionScheduledFor = some scheduledFor ∧
      (s.finalizeDeletion id trace now fresh).2 =
        { s with audit := s.audit ++
          [AuditEvent.create fresh.event .deletionBlocked
            (Actor.ofDeletion u trace) id (AuditEvent.blocked scheduledFor) now] } := by
  revert h
  unfold finalizeDeletion
  split
  · exact fun h => by cases h
  next u hu =>
    split
    · exact fun h => by cases h
    split
    · exact fun h => by cases h
    next scheduledFor hscheduled =>
      split
      · exact fun h => by cases h
      dsimp only
      split
      · exact fun _ => ⟨u, scheduledFor, hu, hscheduled, rfl⟩
      · exact fun h => by cases h

/-- The revocation of one live session, written out. -/
theorem revoke_eq
    {x : Session} (hx : s.sessions.get? x.id = some x)
    (hlive : x.isRevoked = false) (reason : RevocationReason) (now : Instant) :
    let s' := (s.revoke x.id reason now).2
    s'.sessions.rows = s.sessions.rows.map (fun y =>
        if y.id = x.id then y.revoke reason now else y) ∧
      s'.tokens.rows = s.tokens.rows.map (fun t =>
        if t.session = x.id ∧ t.revokedAt = none then
          { t with revokedAt := some now }
        else t) ∧
      s' = { s with sessions := s'.sessions, tokens := s'.tokens } := by
  intro s'
  have hs' : s' = s.revokeWhere (fun y => y.id = x.id) reason now :=
    congrArg Prod.snd (revoke_of_live hx hlive reason now)
  have hany (t : RefreshToken) :
      (s.sessions.rows.any fun y => y.id = x.id && y.id = t.session) = true ↔
        t.session = x.id := by
    simp only [List.any_eq_true, Bool.and_eq_true, decide_eq_true_eq]
    constructor
    · rintro ⟨y, -, hyx, hyt⟩
      exact hyt.symm.trans hyx
    · intro ht
      exact ⟨x, (Table.get?_eq_some_iff.mp hx).1, rfl, ht.symm⟩
  rw [hs']
  refine ⟨?_, ?_, rfl⟩
  · rw [rows_sessions_revokeWhere]
    refine List.map_congr_left fun y _ => ?_
    simp only [decide_eq_true_eq]
  · rw [rows_tokens_revokeWhere]
    refine List.map_congr_left fun t _ => ?_
    rw [stamped]
    simp only [hany, and_comm]

/-- The reuse of a token revokes a live session and its live tokens. -/
theorem rotate_of_reuse
    {r : Rotation} {newId : TokenId} {id : SessionId}
    (h : (s.rotate r newId).1 = .revokedOrReused id) :
    ∃ x, s.sessions.get? id = some x ∧ x.isRevoked = false ∧
      (s.rotate r newId).2 = (s.revoke id .tokenReuse r.now).2 := by
  revert h
  unfold rotate
  split
  · exact fun h => by cases h
  next t _ =>
    split
    · exact fun h => by cases h
    next x hx =>
      split
      · exact fun h => by cases h
      next hlive =>
        split
        · exact fun h => by cases h
        split
        · intro h
          obtain rfl : x.id = id := RotateOutcome.revokedOrReused.inj h
          have hid : x.id = t.session := (Table.get?_eq_some_iff.mp hx).2
          exact ⟨x, hid ▸ hx, by simpa using hlive, rfl⟩
        · exact fun h => by cases h

/-- Every operation but a change of password is settled either way. -/
theorem perform_settled
    (s : Store) (r : RepositoryRequest) (fresh : FreshIds)
    (hr : ∀ user expected new keep now,
      r ≠ .changePassword user expected new keep now) :
    Settled r.refusedBy s (s.perform r fresh) := by
  cases r with
  | ping | findLogin | findCredentials | findUser | findExternalUser
  | storeVerificationToken | createSession | findRefreshContext
  | listSessions | listAudit => exact .granted _ _ rfl
  | createUser u hash => exact createUser_settled s u hash
  | createExternalUser u identity => exact createExternalUser_settled s u identity
  | linkIdentity identity => exact linkIdentity_settled s identity
  | resetPassword hash newHash now => exact resetPassword_settled s hash newHash now
  | verifyEmail hash now => exact verifyEmail_settled s hash now
  | changePassword user expected new keep now =>
      exact absurd rfl (hr user expected new keep now)
  | rotate rotation => exact rotate_settled s rotation fresh.token
  | revokeByToken hash reason now => exact revokeByToken_settled s hash reason now
  | revokeSession user id reason now =>
      exact revokeSession_settled s user id reason now
  | revokeDevice user device reason now =>
      exact revokeDevice_settled s user device reason now
  | setPushToken user id token platform now =>
      exact setPushToken_settled s user id token platform now
  | changeRole actor target role now =>
      exact changeRole_settled s actor target now fresh role
  | changeStatus actor target status reason now =>
      exact changeStatus_settled s actor target now fresh status reason
  | requestDeletion actor target scheduledFor now =>
      exact requestDeletion_settled s actor target now fresh scheduledFor
  | cancelDeletion actor target now =>
      exact cancelDeletion_settled s actor target now fresh
  | finalizeDeletion id trace now =>
      exact finalizeDeletion_settled s id now fresh trace

end Store

/-- What is left behind by the operations that do not grant a request.  A
refusal leaves the store as it was, but for the time at which the user was last
changed when a change of password is refused on account of the stored hash. -/
theorem perform_of_not_granted
    (s : Store) (r : RepositoryRequest) (fresh : FreshIds) :
    (r.refusedBy (s.perform r fresh).1 = true →
      (s.perform r fresh).2 = s ∨
        ∃ user expected new keep now,
          r = .changePassword user expected new keep now ∧
            (s.changePassword user expected new keep now).1 =
              .credentialChanged ∧
            (s.perform r fresh).2 = s.touchUser user now) ∧
    (∀ id trace now, (s.finalizeDeletion id trace now fresh).1 =
        .blockedLastAdmin →
      ∃ u scheduledFor, s.users.get? id = some u ∧
        u.deletionScheduledFor = some scheduledFor ∧
        (s.finalizeDeletion id trace now fresh).2 =
          { s with audit := s.audit ++
            [AuditEvent.create fresh.event .deletionBlocked
              (Actor.ofDeletion u trace) id (AuditEvent.blocked scheduledFor)
              now] }) ∧
    ∀ (rotation : Rotation) (newId : TokenId) (id : SessionId),
      (s.rotate rotation newId).1 = .revokedOrReused id →
      let s' := (s.rotate rotation newId).2
      s'.sessions.rows = s.sessions.rows.map (fun y =>
          if y.id = id then y.revoke .tokenReuse rotation.now else y) ∧
        s'.tokens.rows = s.tokens.rows.map (fun t =>
          if t.session = id ∧ t.revokedAt = none then
            { t with revokedAt := some rotation.now }
          else t) ∧
        s' = { s with sessions := s'.sessions, tokens := s'.tokens } := by
  refine ⟨fun h => ?_, fun id trace now h => finalizeDeletion_of_blocked h, ?_⟩
  · by_cases hr : ∃ user expected new keep now,
        r = .changePassword user expected new keep now
    · obtain ⟨user, expected, new, keep, now, rfl⟩ := hr
      refine (changePassword_of_refusal h).imp_right fun hcredential => ?_
      exact ⟨user, expected, new, keep, now, rfl, hcredential⟩
    · push Not at hr
      exact Or.inl ((perform_settled s r fresh hr).eq_of_refusal h)
  · intro rotation newId id h s'
    obtain ⟨x, hx, hlive, hafter⟩ := rotate_of_reuse h
    obtain rfl : x.id = id := (Table.get?_eq_some_iff.mp hx).2
    have hs' : s' = (s.revoke x.id .tokenReuse rotation.now).2 := hafter
    rw [hs']
    exact revoke_eq hx hlive .tokenReuse rotation.now

/-- The sample user with a stored password. -/
def passwordStore : Store :=
  (Store.empty.createUser sampleUser "stored").2

/-- A change of password that expects another hash than the stored one. -/
def staleChange : RepositoryRequest :=
  .changePassword sampleUser.id "other" "new" none ⟨1, 0⟩

/-- Not all refusals leave the store as it was. -/
theorem refusal_that_touches_user :
    ¬∀ (s : Store) (r : RepositoryRequest) (fresh : FreshIds),
      r.refusedBy (s.perform r fresh).1 = true → (s.perform r fresh).2 = s := by
  intro h
  have hsame := h passwordStore staleChange .zero (by decide)
  have htimes := congrArg (fun s => s.users.rows.map User.updatedAt) hsame
  exact absurd htimes (by decide)

theorem perform_of_not_granted_samples :
    (passwordStore.perform (.createUser sampleUser "again") .zero).2 =
        passwordStore ∧
      (passwordStore.perform staleChange .zero).2 =
        passwordStore.touchUser sampleUser.id ⟨1, 0⟩ ∧
      ((Store.empty.run (sampleRun.take 2)).rotate
        ⟨"first", "third", ⟨400⟩, {}, ⟨20, 0⟩⟩ ⟨4⟩).2.sessions.rows =
          [(sampleSession.touch {} ⟨10, 0⟩).revoke .tokenReuse ⟨20, 0⟩] := by
  refine ⟨?_, ?_, ?_⟩
  · obtain ⟨hrefusal, -, -⟩ :=
      perform_of_not_granted passwordStore (.createUser sampleUser "again") .zero
    rcases hrefusal (by decide) with hsame | ⟨_, _, _, _, _, hr, -, -⟩
    · exact hsame
    · cases hr
  · obtain ⟨hrefusal, -, -⟩ :=
      perform_of_not_granted passwordStore staleChange .zero
    rcases hrefusal (by decide) with hsame | ⟨_, _, _, _, _, hr, -, htouched⟩
    · have htimes := congrArg (fun s => s.users.rows.map User.updatedAt) hsame
      exact absurd htimes (by decide)
    · cases hr
      exact htouched
  · obtain ⟨-, -, hreuse⟩ :=
      perform_of_not_granted (Store.empty.run (sampleRun.take 2)) .ping .zero
    obtain ⟨hsessions, -, -⟩ := hreuse ⟨"first", "third", ⟨400⟩, {}, ⟨20, 0⟩⟩ ⟨4⟩
      sampleSession.id (by decide)
    rw [hsessions]
    decide

end AccountAuthority
