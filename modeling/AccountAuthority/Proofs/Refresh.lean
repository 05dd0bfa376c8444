import AccountAuthority.Proofs.Interleaving
import AccountAuthority.Proofs.SessionSteps
import AccountAuthority.Service.Sessions

/-!
# A refresh as the repository sees it

A refresh reads the records of its token and then makes at most one write: the
revocation of the session when the token has been used before, or else its
rotation.  Whether it writes, and what, depends on what it has read, on the
clock, and on the signer.
-/

namespace AccountAuthority

variable (c : ServiceSettings) (raw : String) (device : Device)
  (o : Surroundings)

/-- A refresh as the repository sees it. -/
def refreshCall : Program RepositoryPort (Except ServiceError Grant) :=
  (Service.refresh c raw device).run.within o 0

/-- What the access token of a session is asked to say. -/
def accessRequest (user : User) (session : SessionId) : AccessRequest where
  user := user.id
  session := session
  emailVerified := user.emailVerified
  roles := [code user.role]
  ttlSeconds := c.accessTtlSeconds

/-- The refresh token that a refresh draws. -/
def nextToken : String :=
  BearerToken.ofBytes (o 3 (.randomBytes BearerToken.length))

/-- The rotation that a refresh asks for. -/
def refreshRotation : Rotation where
  tokenHash := c.tokenHash raw
  newTokenHash := c.tokenHash (nextToken o)
  ttl := c.refreshTtl
  device := device
  now := o 0 .now

/-- What a refresh answers to the outcome of its rotation. -/
def rotationAnswer (user : User) (access next : String) :
    RotateOutcome → Except ServiceError Grant
  | .rotated session _ => .ok (Service.grant c user session.id access next)
  | .notFound => .error .refreshTokenInvalid
  | .expired => .error .refreshTokenExpired
  | .sessionRevoked reason => .error (Service.revokedError reason)
  | .revokedOrReused _ => .error .refreshTokenReused

/-- What a refresh does when nothing but the state of its token stands in the
way. -/
def refreshWrite (ctx : RefreshContext) :
    Program RepositoryPort (Except ServiceError Grant) :=
  if ctx.token.isChainHead then
    match o 2 (.signAccess (accessRequest c ctx.user ctx.session.id)) with
    | .error text => .done (.error (.internal text))
    | .ok access =>
      .ask (.rotate (refreshRotation c raw device o)) fun outcome =>
        .done (rotationAnswer c ctx.user access (nextToken o) outcome)
  else
    .ask (.revokeSession ctx.user.id ctx.session.id .tokenReuse (o 2 .now))
      fun _ => .done (.error .refreshTokenReused)

/-- What a refresh does after it has read. -/
def afterReading (found : Option RefreshContext) :
    Program RepositoryPort (Except ServiceError Grant) :=
  match found with
  | none => .done (.error .refreshTokenInvalid)
  | some ctx =>
    match Service.refreshRefusal ctx (o 0 .now) with
    | some e => .done (.error e)
    | none => refreshWrite c raw device o ctx

theorem within_signFor
    {α : Type} (n : ℕ) (user : User) (session : SessionId)
    (k : String → Service α) :
    ((Service.signFor c user session >>= k).run).within o n =
      match o n (.signAccess (accessRequest c user session)) with
      | .error text => .done (.error (.internal text))
      | .ok access => (k access).run.within o (n + 1) := by
  -- The answer of the signer is looked at inside of three binds.
  change Program.within o (n + 1) (Program.bind (Program.bind (Program.bind
    (Program.done (o n (.signAccess (accessRequest c user session)))) _) _) _) = _
  cases o n (.signAccess (accessRequest c user session)) <;> rfl

theorem refreshCall_eq :
    refreshCall c raw device o =
      .ask (.findRefreshContext (c.tokenHash raw))
        (afterReading c raw device o) := by
  rw [refreshCall, Service.refresh, Program.within_now]
  refine (Program.within_repository ..).trans ?_
  congr 1
  funext found
  cases found with
  | none => rfl
  | some ctx =>
      simp only [afterReading]
      cases Service.refreshRefusal ctx (o 0 .now) with
      | some e => rfl
      | none =>
          simp only [refreshWrite]
          by_cases hhead : ctx.token.isChainHead = true
          · simp only [hhead, not_true_eq_false, if_false, if_true,
              within_signFor, Program.within_freshToken]
            cases o 2 (.signAccess (accessRequest c ctx.user ctx.session.id)) with
            | error text => rfl
            | ok access =>
                refine (Program.within_repository ..).trans ?_
                congr 1
                funext outcome
                cases outcome <;> rfl
          · simp only [hhead]
            rfl

theorem refreshWrite_of_head
    {ctx : RefreshContext} (hhead : ctx.token.isChainHead = true)
    {access : String}
    (hsign : o 2 (.signAccess (accessRequest c ctx.user ctx.session.id)) =
      .ok access) :
    refreshWrite c raw device o ctx =
      .ask (.rotate (refreshRotation c raw device o)) fun outcome =>
        .done (rotationAnswer c ctx.user access (nextToken o) outcome) := by
  rw [refreshWrite, if_pos hhead, hsign]

theorem refreshWrite_of_not_head
    {ctx : RefreshContext} (hhead : ctx.token.isChainHead = false) :
    refreshWrite c raw device o ctx =
      .ask (.revokeSession ctx.user.id ctx.session.id .tokenReuse (o 2 .now))
        fun _ => .done (.error .refreshTokenReused) := by
  rw [refreshWrite, if_neg (by simp [hhead])]

/-- What stands in the way of a refresh, other than that its token is used
up. -/
theorem refreshRefusal_eq_none_iff {ctx : RefreshContext} {now : Instant} :
    Service.refreshRefusal ctx now = none ↔
      ctx.user.status = .active ∧ ctx.session.isRevoked = false ∧
        ctx.token.isExpired now = false ∧ ctx.session.isExpired now = false := by
  unfold Service.refreshRefusal
  cases ctx.user.status <;> cases ctx.session.isRevoked <;>
    cases ctx.token.isExpired now <;> cases ctx.session.isExpired now <;>
    simp [ite_eq_iff]

theorem afterReading_of_no_refusal
    {ctx : RefreshContext}
    (h : Service.refreshRefusal ctx (o 0 .now) = none) :
    afterReading c raw device o (some ctx) = refreshWrite c raw device o ctx := by
  rw [afterReading, h]

/-- A refresh that goes on after it has read is going to write. -/
theorem exists_refreshWrite_of_ask
    {found : Option RefreshContext} {r : RepositoryRequest}
    {next : r.Answer → Program RepositoryPort (Except ServiceError Grant)}
    (h : afterReading c raw device o found = .ask r next) :
    ∃ ctx, found = some ctx ∧ Service.refreshRefusal ctx (o 0 .now) = none ∧
      refreshWrite c raw device o ctx = .ask r next := by
  unfold afterReading at h
  split at h
  · cases h
  next ctx =>
    split at h
    · cases h
    next hnone => exact ⟨ctx, rfl, hnone, h⟩

/-- A refresh reads once and writes at most once. -/
theorem refreshCall_asksAtMost : (refreshCall c raw device o).AsksAtMost 2 := by
  rw [refreshCall_eq]
  refine .ask _ fun found => ?_
  unfold afterReading
  split
  · exact .done 1 _
  split
  · exact .done 1 _
  unfold refreshWrite
  split
  · split
    · exact .done 1 _
    · exact .ask _ fun _ => .done 0 _
  · exact .ask _ fun _ => .done 0 _

/-- Settings in which a token is its own hash. -/
def sampleSettings : ServiceSettings where
  hasher := ⟨fun _ _ => "", fun _ _ => false⟩
  tokenHash := id
  refreshTtl := ⟨400⟩
  sessionTtl := ⟨1000⟩
  accessTtlSeconds := 60
  verificationTtl := ⟨0⟩
  resetTtl := ⟨0⟩
  gracePeriod := ⟨0⟩
  jobMaxAttempts := 1
  blockedRetry := ⟨0⟩

end AccountAuthority
