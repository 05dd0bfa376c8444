import AccountAuthority.Proofs.Operations
import AccountAuthority.Proofs.Revocations

/-!
# What operations do to sessions and refresh tokens

Some twenty operations write sessions or refresh tokens, but they do so in five
ways only: they revoke sessions with their tokens, open a session, replace the
head of a chain, remove all sessions of a user, or change push tokens, where a
session that gets one is then the only one to have it.  Every operation is at most
two such steps, and only the last one brings in new records.  Invariants of sessions
and tokens are proved for the steps.
-/

namespace AccountAuthority

open Store

@[simp] theorem key_session (x : Session) : key x = x.id := rfl

@[simp] theorem key_refreshToken (t : RefreshToken) : key t = t.id := rfl

/-- The same session, but for its push token. -/
def Session.SameButPush (x y : Session) : Prop :=
  ∃ token platform at?,
    y = { x with
      pushToken := token, pushPlatform := platform, pushUpdatedAt := at? }

/-- One change of sessions and refresh tokens.  The names in `N` may be given
to new records; the other records of the store may change in any way. -/
inductive SessionStep (N : List Name) (s s' : Store) : Prop
  | unchanged
      (sessions : s'.sessions = s.sessions)
      (tokens : s'.tokens = s.tokens)
  | pushed (f : Session → Session)
      (same : ∀ x : Session, x.SameButPush (f x))
      (sessions : s'.sessions.rows = s.sessions.rows.map f)
      (tokens : s'.tokens = s.tokens)
      (given : ∀ x ∈ s.sessions.rows, ∀ token, (f x).pushToken = some token →
        x.pushToken = some token ∨
          ∀ y ∈ s.sessions.rows, (f y).pushToken = some token → y = x)
  | revoked (p : Session → Bool) (reason : RevocationReason) (now : Instant)
      (live : ∀ x ∈ s.sessions.rows, p x = true → x.isRevoked = false)
      (sessions : s'.sessions = (s.revokeWhere p reason now).sessions)
      (tokens : s'.tokens = (s.revokeWhere p reason now).tokens)
  | opened (x : Session) (t : RefreshToken)
      (made : MadeTogether x t)
      (sessionName : .session x.id ∈ N)
      (tokenName : .token t.id ∈ N)
      (hashName : .tokenHash t.hash ∈ N)
      (sessions : s'.sessions = s.sessions.insert x)
      (tokens : s'.tokens = s.tokens.insert t)
  | rotated (x : Session) (old new : RefreshToken) (device : Device)
      (now : Instant)
      (session : s.sessions.get? old.session = some x)
      (live : x.isRevoked = false)
      (mem : old ∈ s.tokens.rows)
      (head : old.isChainHead = true)
      (made : new =
        { id := new.id, session := x.id, hash := new.hash
          expiresAt := new.expiresAt, createdAt := new.createdAt })
      (tokenName : .token new.id ∈ N)
      (hashName : .tokenHash new.hash ∈ N)
      (sessions : s'.sessions.rows = s.sessions.rows.map fun y =>
        if y.id = x.id then y.touch device now else y)
      (tokens : s'.tokens =
        (s.replaceToken old.id new.id now).tokens.insert new)
  | removed (user : UserId)
      (sessions : s'.sessions = (s.removeBelongings user).sessions)
      (tokens : s'.tokens = (s.removeBelongings user).tokens)

/-! ## What a step makes of one token -/

/-- What the replacement of the token `old` makes of a token. -/
def RefreshToken.replacing
    (old next : TokenId) (now : Instant) (t : RefreshToken) : RefreshToken :=
  if t.id = old then
    { t with revokedAt := some now, replacedBy := some next }
  else t

theorem Store.rows_replaceToken
    (s : Store) (old next : TokenId) (now : Instant) :
    (s.replaceToken old next now).tokens.rows =
      s.tokens.rows.map (RefreshToken.replacing old next now) := rfl

theorem Store.rows_sessions_removeBelongings (s : Store) (user : UserId) :
    (s.removeBelongings user).sessions.rows =
      s.sessions.rows.filter fun x => x.user ≠ user := rfl

/-- The removal of what belongs to a user keeps a token exactly when it keeps
the session of the token. -/
theorem Store.mem_tokens_removeBelongings
    {s : Store} {user : UserId} {t : RefreshToken} {x : Session}
    (hx : x ∈ s.sessions.rows) (hid : x.id = t.session) :
    t ∈ (s.removeBelongings user).tokens.rows ↔
      t ∈ s.tokens.rows ∧ x.user ≠ user := by
  simp only [removeBelongings, Table.rows_filter, List.mem_filter,
    Bool.not_eq_true', List.contains_eq_mem, decide_eq_false_iff_not,
    List.mem_map, not_exists, not_and, decide_eq_true_eq]
  constructor
  · rintro ⟨ht, hgone⟩
    exact ⟨ht, fun huser => hgone x ⟨hx, huser⟩ hid⟩
  · rintro ⟨ht, huser⟩
    refine ⟨ht, fun y ⟨hy, hyuser⟩ hyt => huser ?_⟩
    have hyx : y = x := Table.eq_of_key_eq hy hx (hyt.trans hid.symm)
    exact hyx ▸ hyuser

theorem Store.tokens_removeBelongings_sublist (s : Store) (user : UserId) :
    (s.removeBelongings user).tokens.rows.Sublist s.tokens.rows :=
  List.filter_sublist

namespace RefreshToken

variable (old next : TokenId) (now : Instant) (t : RefreshToken)

@[simp] theorem replacing_id : (t.replacing old next now).id = t.id := by
  unfold replacing
  split <;> rfl

@[simp] theorem replacing_session :
    (t.replacing old next now).session = t.session := by
  unfold replacing
  split <;> rfl

@[simp] theorem replacing_hash : (t.replacing old next now).hash = t.hash := by
  unfold replacing
  split <;> rfl

theorem replacing_self :
    t.replacing t.id next now =
      { t with revokedAt := some now, replacedBy := some next } :=
  if_pos rfl

variable {old t} in
theorem replacing_of_ne (hne : t.id ≠ old) : t.replacing old next now = t :=
  if_neg hne

end RefreshToken

namespace Store

variable (s : Store) (p : Session → Bool) (now : Instant) (t : RefreshToken)

@[simp] theorem stamped_id : (s.stamped p now t).id = t.id := by
  unfold stamped
  split <;> rfl

@[simp] theorem stamped_session : (s.stamped p now t).session = t.session := by
  unfold stamped
  split <;> rfl

@[simp] theorem stamped_hash : (s.stamped p now t).hash = t.hash := by
  unfold stamped
  split <;> rfl

@[simp] theorem stamped_replacedBy :
    (s.stamped p now t).replacedBy = t.replacedBy := by
  unfold stamped
  split <;> rfl

/-- A token is revoked afterwards if it was before or its session has been. -/
theorem stamped_revokedAt_isSome
    {x : Session} (hx : x ∈ s.sessions.rows) (hid : x.id = t.session) :
    (s.stamped p now t).revokedAt.isSome = (t.revokedAt.isSome || p x) := by
  have hany : (s.sessions.rows.any fun y => p y && y.id = t.session) = p x := by
    rw [Bool.eq_iff_iff, List.any_eq_true]
    constructor
    · rintro ⟨y, hy, hpy⟩
      simp only [Bool.and_eq_true, decide_eq_true_eq] at hpy
      have hyx : y = x := Table.eq_of_key_eq hy hx (hpy.2.trans hid.symm)
      exact hyx ▸ hpy.1
    · intro hp
      exact ⟨x, hx, by simp [hp, hid]⟩
  unfold stamped
  rw [hany]
  cases hrevoked : t.revokedAt <;> cases hp : p x <;> simp [hrevoked]

end Store

/-! ## Every operation is made of such steps -/

section Performing

variable {N : List Name} (s : Store)

theorem revoke_sessionStep
    (id : SessionId) (reason : RevocationReason) (now : Instant) :
    SessionStep N s (s.revoke id reason now).2 := by
  unfold revoke
  split
  · exact .unchanged rfl rfl
  next x hx =>
    split
    · exact .unchanged rfl rfl
    next hlive =>
      refine .revoked _ reason now (fun y hy hid => ?_) rfl rfl
      obtain ⟨hmem, hkey⟩ := Table.get?_eq_some_iff.mp hx
      have hyx : y = x := Table.eq_of_key_eq hy hmem (by
        rw [hkey]
        simpa using hid)
      simpa [hyx] using hlive

variable {s} in
/-- Whatever else is changed, the sessions of a user are revoked in one
step. -/
theorem SessionStep.of_revokeAll
    {s' : Store} (user : UserId) (except : Option SessionId)
    (reason : RevocationReason) (now : Instant)
    (hsessions : s'.sessions = (s.revokeAll user except reason now).2.sessions)
    (htokens : s'.tokens = (s.revokeAll user except reason now).2.tokens) :
    SessionStep N s s' := by
  rw [revokeAll_eq] at hsessions htokens
  refine .revoked _ reason now (fun x _ hp => ?_) hsessions htokens
  simp only [Bool.and_eq_true, Bool.not_eq_true'] at hp
  exact hp.1.2

theorem resetPassword_sessionStep
    (tokenHash newHash : String) (now : Instant) :
    SessionStep N s (s.resetPassword tokenHash newHash now).2 := by
  unfold resetPassword
  split
  · exact .unchanged rfl rfl
  split
  · exact .unchanged rfl rfl
  split
  · exact .unchanged rfl rfl
  split
  · exact .unchanged rfl rfl
  split
  · exact .unchanged rfl rfl
  · exact .of_revokeAll _ none .passwordReset now
      (sessions_revokeAll_congr rfl) (tokens_revokeAll_congr rfl rfl)

theorem verifyEmail_sessionStep (tokenHash : String) (now : Instant) :
    SessionStep N s (s.verifyEmail tokenHash now).2 := by
  unfold verifyEmail
  repeat' split
  all_goals exact .unchanged rfl rfl

theorem changePassword_sessionStep
    (user : UserId) (expected new : String) (keep : Option SessionId)
    (now : Instant) :
    SessionStep N s (s.changePassword user expected new keep now).2 := by
  unfold changePassword
  split
  · exact .unchanged rfl rfl
  split
  · exact .unchanged rfl rfl
  dsimp only
  split
  · exact .unchanged rfl rfl
  · exact .of_revokeAll user keep .passwordChanged now
      (sessions_revokeAll_congr rfl) (tokens_revokeAll_congr rfl rfl)

theorem createUser_sessionStep (user : User) (hash : String) :
    SessionStep N s (s.createUser user hash).2 := by
  unfold createUser
  split <;> exact .unchanged rfl rfl

theorem createExternalUser_sessionStep
    (user : User) (identity : ExternalIdentity) :
    SessionStep N s (s.createExternalUser user identity).2 := by
  unfold createExternalUser
  repeat' split
  all_goals exact .unchanged rfl rfl

theorem linkIdentity_sessionStep (identity : ExternalIdentity) :
    SessionStep N s (s.linkIdentity identity).2 := by
  unfold linkIdentity
  repeat' split
  all_goals exact .unchanged rfl rfl

theorem rotate_sessionStep (r : Rotation) (id : TokenId)
    (hid : .token id ∈ N) (hhash : .tokenHash r.newTokenHash ∈ N) :
    SessionStep N s (s.rotate r id).2 := by
  unfold rotate
  split
  · exact .unchanged rfl rfl
  next token htoken =>
    split
    · exact .unchanged rfl rfl
    next x hx =>
      split
      · exact .unchanged rfl rfl
      next hlive =>
        split
        · exact .unchanged rfl rfl
        split
        · exact revoke_sessionStep s x.id .tokenReuse r.now
        next hhead =>
          refine .rotated x token _ r.device r.now hx (by simpa using hlive)
            (List.mem_of_find?_eq_some htoken) (by simpa using hhead) rfl hid hhash
            rfl rfl

theorem revokeFound_sessionStep
    (id : SessionId) (reason : RevocationReason) (now : Instant) :
    SessionStep N s (s.revokeFound id reason now).2 := by
  have h := revoke_sessionStep (N := N) s id reason now
  unfold revokeFound
  split
  next hrevoke => rwa [hrevoke] at h
  next hrevoke => rwa [hrevoke] at h

theorem revokeByToken_sessionStep
    (hash : String) (reason : RevocationReason) (now : Instant) :
    SessionStep N s (s.revokeByToken hash reason now).2 := by
  unfold revokeByToken
  split
  · exact .unchanged rfl rfl
  · exact revokeFound_sessionStep s _ reason now

theorem revokeSession_sessionStep
    (user : UserId) (id : SessionId) (reason : RevocationReason)
    (now : Instant) :
    SessionStep N s (s.revokeSession user id reason now).2 := by
  unfold revokeSession
  split
  · exact .unchanged rfl rfl
  split
  · exact revokeFound_sessionStep s id reason now
  · exact .unchanged rfl rfl

theorem revokeDevice_sessionStep
    (user : UserId) (device : String) (reason : RevocationReason)
    (now : Instant) :
    SessionStep N s (s.revokeDevice user device reason now).2 := by
  unfold revokeDevice
  split
  · exact .unchanged rfl rfl
  · exact revoke_sessionStep s _ reason now

theorem changeStatus_sessionStep
    (actor : Actor) (target : UserId) (status : Status)
    (reason : Option String) (now : Instant) (fresh : FreshIds) :
    SessionStep N s
      (s.changeStatus actor target status reason now fresh).2 := by
  unfold changeStatus
  split
  · exact .unchanged rfl rfl
  split
  · exact .unchanged rfl rfl
  split
  · exact .unchanged rfl rfl
  split
  · exact .unchanged rfl rfl
  by_cases hstatus : status = .suspended
  · simp only [hstatus, if_true]
    exact .of_revokeAll target none .userSuspended now
      (sessions_revokeAll_congr rfl) (tokens_revokeAll_congr rfl rfl)
  · simp only [hstatus, if_false]
    exact .unchanged rfl rfl

theorem finalizeDeletion_sessionStep
    (user : UserId) (trace : Option String) (now : Instant)
    (fresh : FreshIds) :
    SessionStep N s (s.finalizeDeletion user trace now fresh).2 := by
  unfold finalizeDeletion
  split
  · exact .unchanged rfl rfl
  split
  · exact .unchanged rfl rfl
  split
  · exact .unchanged rfl rfl
  split
  · exact .unchanged rfl rfl
  dsimp only
  split
  · exact .unchanged rfl rfl
  · exact .removed user rfl rfl

theorem changeRole_sessionStep
    (actor : Actor) (target : UserId) (role : Role) (now : Instant)
    (fresh : FreshIds) :
    SessionStep N s (s.changeRole actor target role now fresh).2 := by
  unfold changeRole
  repeat' split
  all_goals exact .unchanged rfl rfl

theorem requestDeletion_sessionStep
    (actor : Actor) (target : UserId) (scheduledFor now : Instant)
    (fresh : FreshIds) :
    SessionStep N s
      (s.requestDeletion actor target scheduledFor now fresh).2 := by
  unfold requestDeletion
  repeat' split
  all_goals exact .unchanged rfl rfl

theorem cancelDeletion_sessionStep
    (actor : Actor) (target : UserId) (now : Instant) (fresh : FreshIds) :
    SessionStep N s (s.cancelDeletion actor target now fresh).2 := by
  unfold cancelDeletion
  repeat' split
  all_goals exact .unchanged rfl rfl

/-- A session is opened after the session that it replaces is revoked. -/
theorem createSession_sessionSteps
    (x : Session) (t : RefreshToken) (now : Instant)
    (hmade : MadeTogether x t)
    (hx : .session x.id ∈ N) (ht : .token t.id ∈ N)
    (hhash : .tokenHash t.hash ∈ N) :
    ∃ mid, SessionStep [] s mid ∧
      SessionStep N mid (s.createSession x t now).2 := by
  unfold createSession
  dsimp only
  split
  next id _ =>
    exact ⟨_, revoke_sessionStep s id .deviceReplaced now,
      .opened x t hmade hx ht hhash rfl rfl⟩
  · exact ⟨s, .unchanged rfl rfl, .opened x t hmade hx ht hhash rfl rfl⟩

variable {s} in
/-- No other session keeps a push token that is taken away. -/
theorem pushToken_ne_of_mem_detachPushToken
    {id : SessionId} {token : String} {now : Instant} {x : Session}
    (hx : x ∈ (s.detachPushToken id token now).sessions.rows) (hid : x.id ≠ id) :
    x.pushToken ≠ some token := by
  obtain ⟨y, -, rfl⟩ := List.mem_map.mp hx
  split
  · exact nofun
  next hkept =>
    rw [if_neg hkept] at hid
    exact fun htoken => hkept ⟨hid, htoken⟩

/-- A push token is taken from all other sessions before a session gets it. -/
theorem setPushToken_sessionSteps
    (user : UserId) (id : SessionId) (token : String)
    (platform : Option String) (now : Instant) :
    ∃ mid, SessionStep [] s mid ∧
      SessionStep N mid (s.setPushToken user id token platform now).2 := by
  unfold setPushToken
  split
  · exact ⟨s, .unchanged rfl rfl, .unchanged rfl rfl⟩
  split
  · refine ⟨s.detachPushToken id token now, .pushed _ ?_ rfl rfl ?_,
      .pushed _ ?_ rfl rfl ?_⟩
    · intro x
      split
      · exact ⟨none, none, some now, rfl⟩
      · exact ⟨_, _, _, rfl⟩
    · intro x _ t ht
      split at ht
      · cases ht
      · exact Or.inl ht
    · intro x
      split
      · exact ⟨some token, platform, some now, rfl⟩
      · exact ⟨_, _, _, rfl⟩
    · intro x hx t ht
      split at ht
      next hxid =>
        obtain rfl := Option.some.inj ht
        refine Or.inr fun y hy hyt => ?_
        split at hyt
        next hyid => exact Table.eq_of_key_eq hy hx (hyid.trans hxid.symm)
        next hyid => exact absurd hyt (pushToken_ne_of_mem_detachPushToken hy hyid)
      · exact Or.inl ht
  · exact ⟨s, .unchanged rfl rfl, .unchanged rfl rfl⟩

end Performing

/-- Every operation is two steps, of which the first one brings in no new
records. -/
theorem Operation.apply_sessionSteps
    (op : Operation) (s : Store) (hopen : op.request.OpensProperly) :
    ∃ mid, SessionStep [] s mid ∧
      SessionStep op.names mid (op.apply s) := by
  obtain ⟨r, fresh⟩ := op
  -- All but two operations are a single step.
  have single {s' : Store} (h : SessionStep (names ⟨r, fresh⟩) s s') :
      ∃ mid, SessionStep [] s mid ∧ SessionStep (names ⟨r, fresh⟩) mid s' :=
    ⟨s, .unchanged rfl rfl, h⟩
  cases r with
  | createSession x t now =>
      exact createSession_sessionSteps s x t now hopen
        (by simp [names]) (by simp [names]) (by simp [names])
  | setPushToken user id token platform now =>
      exact setPushToken_sessionSteps s user id token platform now
  | createUser user hash => exact single (createUser_sessionStep s user hash)
  | createExternalUser user identity =>
      exact single (createExternalUser_sessionStep s user identity)
  | linkIdentity identity => exact single (linkIdentity_sessionStep s identity)
  | resetPassword hash newHash now =>
      exact single (resetPassword_sessionStep s hash newHash now)
  | verifyEmail hash now => exact single (verifyEmail_sessionStep s hash now)
  | changePassword user expected new keep now =>
      exact single (changePassword_sessionStep s user expected new keep now)
  | rotate r =>
      exact single (rotate_sessionStep s r fresh.token
        (by simp [names]) (by simp [names]))
  | revokeByToken hash reason now =>
      exact single (revokeByToken_sessionStep s hash reason now)
  | revokeSession user id reason now =>
      exact single (revokeSession_sessionStep s user id reason now)
  | revokeDevice user device reason now =>
      exact single (revokeDevice_sessionStep s user device reason now)
  | changeRole actor target role now =>
      exact single (changeRole_sessionStep s actor target role now fresh)
  | changeStatus actor target status reason now =>
      exact single
        (changeStatus_sessionStep s actor target status reason now fresh)
  | requestDeletion actor target scheduledFor now =>
      exact single
        (requestDeletion_sessionStep s actor target scheduledFor now fresh)
  | cancelDeletion actor target now =>
      exact single (cancelDeletion_sessionStep s actor target now fresh)
  | finalizeDeletion user trace now =>
      exact single (finalizeDeletion_sessionStep s user trace now fresh)
  | ping | findLogin | findCredentials | findUser | findExternalUser
  | storeVerificationToken | findRefreshContext | listSessions | listAudit =>
      exact single (.unchanged rfl rfl)

end AccountAuthority
