import AccountAuthority.Proofs.RepresentableTimes
import AccountAuthority.Proofs.SequentialCalls

/-!
# Calls that keep to representable times

The services and the worker add spans to what the clock shows, and hand the sums to the
repository, the queue and the signer.  What is asked for is said here with the sums that
whoever answers works out of it in turn.  A program is timely if all of that can be
represented as long as its surroundings keep their part: the clock shows readings, and
the instants that the repository tells can be represented.  That a call is timely is
shown piece by piece along its program.
-/

namespace AccountAuthority

/-! ## Timely requests -/

/-- An access token can be made at every reading of a clock, and runs out later than it
was made. -/
def AccessRequest.Timely (r : AccessRequest) : Prop :=
  (Span.seconds r.ttlSeconds).Fits ∧
    ∀ (i : AccessIssuer) (tokenId : Uuid) (now : Instant), now.IsReading →
      (now + Span.seconds r.ttlSeconds).EndsAfter now ∧
        (i.claims r tokenId now).issuedAt < (i.claims r tokenId now).expiresAt

/-- All that the repository is asked to keep, or to work out, can be represented; and
whatever runs out does so later than it was made. -/
def RepositoryRequest.Timely (c : ServiceSettings) : RepositoryRequest → Prop
  | createUser u _ | createExternalUser u _ => u.deletionScheduledFor = none
  | storeVerificationToken t => t.createdAt.IsReading ∧ t.expiresAt.EndsAfter t.createdAt
  | createSession x t now =>
      now.IsReading ∧ x.createdAt = now ∧ x.expiresAt.EndsAfter now ∧
        t.createdAt = now ∧ (now + c.refreshTtl).InRange ∧ t.expiresAt.EndsAfter now
  | rotate r =>
      r.now.IsReading ∧ r.ttl.Fits ∧ (r.now + r.ttl).InRange ∧
        ∀ sessionExpiry, r.now < sessionExpiry →
          (RefreshToken.expiry sessionExpiry r.ttl r.now).EndsAfter r.now
  | requestDeletion _ _ scheduledFor now =>
      now.IsReading ∧ now ≤ scheduledFor ∧ scheduledFor.IsCivil
  | _ => True

/-- All that the queue is asked to keep, or to work out, can be represented, and nothing
is put in with a negative delay. -/
def QueueRequest.Timely : QueueRequest → Prop
  | enqueue _ _ delay _ _ now =>
      now.IsReading ∧ (∀ d ∈ delay, 0 ≤ d.nanos ∧ d.Fits) ∧ (Job.firstRun delay now).InRange
  | claim _ now lease _ => lease.Fits ∧ (now + lease).EndsAfter now
  | reschedule _ runAt _ => runAt.InRange
  | fail _ _ retryAt now => ∀ t ∈ retryAt, now ≤ t ∧ t.InRange
  | _ => True

/-- All times that are worked out for a request or by it can be represented. -/
def ServiceRequest.Timely (c : ServiceSettings) : ServiceRequest → Prop
  | repository r => r.Timely c
  | queue r => r.Timely
  | signAccess r => r.Timely
  | checkLogin _ _ time | loginFailed _ _ time => time.IsReading
  | _ => True

/-- The times that the repository answers can be represented, and a new refresh token
runs out later than it was made. -/
def RepositoryRequest.TimelyAnswer : (r : RepositoryRequest) → r.Answer → Prop
  | rotate r, outcome => ∀ x t, outcome = .rotated x t → t.expiresAt.EndsAfter r.now
  | requestDeletion .., outcome => ∀ t, outcome.announced? = some t → t.IsCivil
  | finalizeDeletion .., outcome => ∀ t, outcome = .notDue t → t.IsCivil
  | _, _ => True

/-- What a call is told: the clock shows readings, and the repository answers with times
that can be represented. -/
def ServiceRequest.TimelyAnswer : (r : ServiceRequest) → r.Answer → Prop
  | now, t => t.IsReading
  | repository r, .ok answer => r.TimelyAnswer answer
  | _, _ => True

/-! ## Timely programs -/

namespace Program

variable {α β : Type} {c : ServiceSettings}

/-- As long as it is told times that can be represented, a program asks for such times
only, and it ends with a value that `ψ` holds of. -/
def Timely (c : ServiceSettings) (ψ : α → Prop) : Program Backend α → Prop
  | .done a => ψ a
  | .ask r next => r.Timely c ∧
      ∀ answer, r.TimelyAnswer answer → (next answer).Timely c ψ

@[simp] theorem timely_pure {ψ : α → Prop} {a : α} :
    (pure a : Program Backend α).Timely c ψ ↔ ψ a :=
  Iff.rfl

theorem timely_ask_iff
    {r : ServiceRequest} {ψ : α → Prop} {next : r.Answer → Program Backend α} :
    (Program.ask (I := Backend) r next).Timely c ψ ↔ r.Timely c ∧
      ∀ answer, r.TimelyAnswer answer → (next answer).Timely c ψ :=
  Iff.rfl

theorem Timely.bind
    {φ : α → Prop} {ψ : β → Prop} {p : Program Backend α} {f : α → Program Backend β}
    (hp : p.Timely c φ) (hf : ∀ a, φ a → (f a).Timely c ψ) :
    (p >>= f).Timely c ψ := by
  change (p.bind f).Timely c ψ
  induction p with
  | done a => exact hf a hp
  | ask r next ih => exact ⟨hp.1, fun answer htold => ih answer (hp.2 answer htold)⟩

/-- Ask, and go on with the answer. -/
theorem timely_ask
    {r : ServiceRequest} {ψ : α → Prop} {f : r.Answer → Program Backend α}
    (hr : r.Timely c) (hf : ∀ answer, r.TimelyAnswer answer → (f answer).Timely c ψ) :
    (Service.ask r >>= f).Timely c ψ :=
  ⟨hr, hf⟩

end Program

namespace Service

variable {α β : Type} {c : ServiceSettings}

/-- A service asks for times that can be represented only. -/
def IsTimely (c : ServiceSettings) (x : Service α) : Prop :=
  x.run.Timely c fun _ => True

@[simp] theorem isTimely_pure (a : α) : IsTimely c (pure a : Service α) :=
  trivial

@[simp] theorem isTimely_throw (e : ServiceError) : IsTimely c (throw e : Service α) :=
  trivial

theorem IsTimely.bind
    {x : Service α} {k : α → Service β} (hx : IsTimely c x)
    (hk : ∀ a, IsTimely c (k a)) : IsTimely c (x >>= k) := by
  refine Program.Timely.bind hx fun result _ => ?_
  cases result with
  | ok a => exact hk a
  | error e => trivial

theorem isTimely_ask
    {r : ServiceRequest} {k : r.Answer → Service α} (hr : r.Timely c)
    (hk : ∀ answer, IsTimely c (k answer)) : IsTimely c (liftM (ask r) >>= k) :=
  ⟨hr, fun answer _ => hk answer⟩

theorem isTimely_now
    {k : Instant → Service α} (hk : ∀ t, t.IsReading → IsTimely c (k t)) :
    IsTimely c (now >>= k) :=
  ⟨trivial, hk⟩

theorem isTimely_repository
    {r : RepositoryRequest} {k : r.Answer → Service α} (hr : r.Timely c)
    (hk : ∀ answer, r.TimelyAnswer answer → IsTimely c (k answer)) :
    IsTimely c (repository r >>= k) := by
  refine ⟨hr, fun answer htold => ?_⟩
  cases answer with
  | ok answer => exact hk answer htold
  | error e => trivial

/-- A request to the repository that is the last one. -/
theorem isTimely_asked {r : RepositoryRequest} (hr : r.Timely c) :
    @IsTimely (no_index r.Answer) c (repository r) := by
  refine ⟨hr, fun answer _ => ?_⟩
  cases answer with
  | ok answer => trivial
  | error e => trivial

theorem isTimely_freshId {k : Uuid → Service α} (hk : ∀ id, IsTimely c (k id)) :
    IsTimely c (freshId >>= k) :=
  isTimely_ask trivial hk

theorem isTimely_freshToken {k : String → Service α} (hk : ∀ raw, IsTimely c (k raw)) :
    IsTimely c (freshToken >>= k) :=
  ⟨trivial, fun bytes _ => hk (BearerToken.ofBytes bytes)⟩

theorem isTimely_notify (notice : Notice) : IsTimely c (notify notice) :=
  ⟨trivial, fun _ _ => trivial⟩

theorem isTimely_queue {r : QueueRequest} (hr : r.Timely) :
    @IsTimely (no_index r.Answer) c (queue r) := by
  refine ⟨hr, fun answer _ => ?_⟩
  cases answer with
  | ok answer => trivial
  | error e => trivial

theorem isTimely_refuseInvalid (errors : List FieldError) :
    IsTimely c (refuseInvalid errors) := by
  unfold refuseInvalid
  split <;> simp

theorem isTimely_hashPassword (password : String) :
    IsTimely c (hashPassword c password) :=
  isTimely_ask trivial fun _ => isTimely_pure _

theorem isTimely_providerIdentity (provider token : String) :
    IsTimely c (providerIdentity provider token) := by
  refine isTimely_ask trivial fun answer => ?_
  split
  · simp
  · simp
  split
  · split <;> simp
  · simp

end Service

-- From here on programs are taken apart by the lemmas above.
attribute [irreducible] Service.IsTimely Program.Timely

/-- The times that services are set up with can be represented, and what they let run
out lasts for some time. -/
structure ServiceSettings.InBounds (c : ServiceSettings) : Prop where
  refreshTtl : c.refreshTtl.IsTerm
  sessionTtl : c.sessionTtl.IsTerm
  accessTtl : (Span.seconds c.accessTtlSeconds).IsTerm
  verificationTtl : c.verificationTtl.IsTerm
  resetTtl : c.resetTtl.IsTerm
  gracePeriod : c.gracePeriod.IsDelay
  blockedRetry : c.blockedRetry.IsTerm

/-! ## Services that give something out -/

namespace Service

variable {c : ServiceSettings} (hc : c.InBounds)

include hc

theorem timely_accessRequest (user : User) (session : SessionId) :
    AccessRequest.Timely {
      user := user.id
      session := session
      emailVerified := user.emailVerified
      roles := [code user.role]
      ttlSeconds := c.accessTtlSeconds } := by
  refine ⟨hc.accessTtl.fits, fun i tokenId now hnow =>
    ⟨hnow.endsAfter_add hc.accessTtl, ?_⟩⟩
  change now.seconds < (now + Span.seconds c.accessTtlSeconds).seconds
  have hpos := hc.accessTtl.pos
  rw [hnow.isPlain.seconds_add]
  simp only [Span.seconds, Span.perSecond] at hpos ⊢
  omega

theorem isTimely_signFor (user : User) (session : SessionId) :
    IsTimely c (signFor c user session) := by
  refine isTimely_ask (timely_accessRequest hc user session) fun answer => ?_
  split <;> simp

theorem isTimely_issue (user : User) (methods : List AuthMethod) (device : Device) :
    IsTimely c (issue c user methods device) := by
  refine isTimely_now fun now hnow => isTimely_freshId fun id => ?_
  refine (isTimely_signFor hc user _).bind fun access => ?_
  refine isTimely_freshToken fun raw => isTimely_freshId fun tokenId => ?_
  refine isTimely_repository ?_ fun _ _ => isTimely_pure _
  have hsession := hnow.endsAfter_add hc.sessionTtl
  exact ⟨hnow, rfl, hsession, rfl, (hnow.endsAfter_add hc.refreshTtl).inRange,
    hnow.endsAfter_min hc.refreshTtl hsession.later⟩

theorem isTimely_openFor (user : User) (method : AuthMethod) (device : Device) :
    IsTimely c (openFor c user method device) := by
  unfold openFor
  split
  · simp
  · simp
  · exact isTimely_issue hc _ _ _

omit hc in
theorem isTimely_sendToken
    (user : User) (purpose : TokenPurpose) {ttl : Span} (httl : ttl.IsTerm) :
    IsTimely c (sendToken c user purpose ttl) := by
  refine isTimely_now fun now hnow => isTimely_freshToken fun raw => ?_
  refine isTimely_freshId fun id => isTimely_repository ?_ fun _ _ => isTimely_notify _
  exact ⟨hnow, hnow.endsAfter_add httl⟩

theorem isTimely_register
    (email password : String) (displayName : Option String) (device : Device) :
    IsTimely c (register c email password displayName device) := by
  refine (isTimely_refuseInvalid _).bind fun _ => ?_
  refine (isTimely_refuseInvalid _).bind fun _ => ?_
  refine (isTimely_hashPassword _).bind fun hash => ?_
  refine isTimely_freshId fun id => isTimely_now fun now _ => ?_
  refine isTimely_repository rfl fun outcome _ => ?_
  split
  · simp
  · exact (isTimely_sendToken _ _ hc.verificationTtl).bind fun _ =>
      isTimely_issue hc _ _ _

theorem isTimely_login (email password : String) (device : Device) :
    IsTimely c (login c email password device) := by
  refine isTimely_now fun now hnow => isTimely_ask hnow fun answer => ?_
  split
  · simp
  refine isTimely_repository trivial fun found _ => ?_
  dsimp only
  split
  · exact isTimely_now fun later hlater => isTimely_ask hlater fun _ => isTimely_throw _
  · split
    · exact isTimely_ask trivial fun _ => isTimely_openFor hc _ _ _
    · exact isTimely_openFor hc _ _ _

theorem isTimely_exchangeIdToken (provider token : String) (device : Device) :
    IsTimely c (exchangeIdToken c provider token device) := by
  refine (isTimely_providerIdentity provider token).bind fun found => ?_
  refine isTimely_repository trivial fun first _ => ?_
  split
  · exact isTimely_openFor hc _ _ _
  refine isTimely_repository trivial fun taken _ => ?_
  split
  · refine isTimely_repository trivial fun second _ => ?_
    split
    · exact isTimely_openFor hc _ _ _
    · simp
  · refine isTimely_now fun now _ => isTimely_freshId fun id => ?_
    refine isTimely_freshId fun identityId => isTimely_repository rfl fun outcome _ => ?_
    split
    · exact isTimely_openFor hc _ _ _
    · exact isTimely_openFor hc _ _ _
    · simp

theorem isTimely_refresh (rawToken : String) (device : Device) :
    IsTimely c (refresh c rawToken device) := by
  refine isTimely_now fun now hnow => isTimely_repository trivial fun found _ => ?_
  split
  · simp
  split
  · simp
  split
  · exact isTimely_now fun _ _ =>
      isTimely_repository trivial fun _ _ => isTimely_throw _
  · refine (isTimely_signFor hc _ _).bind fun access => ?_
    refine isTimely_freshToken fun raw => isTimely_repository ?_ fun outcome _ => ?_
    · exact ⟨hnow, hc.refreshTtl.fits, (hnow.endsAfter_add hc.refreshTtl).inRange,
        fun sessionExpiry hlater => hnow.endsAfter_min hc.refreshTtl hlater⟩
    · split <;> simp

theorem isTimely_requestReset (email : String) :
    IsTimely c (requestReset c email) := by
  refine isTimely_repository trivial fun found _ => ?_
  split
  · simp
  split
  · exact isTimely_sendToken _ _ hc.resetTtl
  · simp

omit hc in
/-- A job may be put in for an instant that is announced, be it over or not. -/
theorem timely_deletionJob
    (user : UserId) {scheduledFor now : Instant} (hscheduled : scheduledFor.IsCivil)
    (hnow : now.IsReading) : (deletionJob c user scheduledFor now).Timely := by
  refine ⟨hnow, fun d hd => ?_, ?_⟩
  · obtain rfl := Option.mem_some_iff.mp hd
    exact ⟨Span.nonneg_max_zero _, (hscheduled.fits_since hnow.isCivil).max_zero⟩
  · change (now + Span.max (scheduledFor.since now) .zero).InRange
    rw [hscheduled.isPlain.add_max_since hnow.isPlain]
    split
    · exact hscheduled.inRange
    · exact hnow.inRange

theorem isTimely_requestDeletion (actor : Actor) (target : UserId) :
    IsTimely c (requestDeletion c actor target) := by
  refine isTimely_now fun now hnow => isTimely_repository ?_ fun outcome htold => ?_
  · exact ⟨hnow, hnow.isPlain.le_add hc.gracePeriod.nonneg,
      hnow.isCivil_add hc.gracePeriod⟩
  cases outcome with
  | requested user | alreadyRequested user =>
      dsimp only
      split
      next scheduledFor hscheduled =>
        have hjob : (deletionJob c target scheduledFor now).Timely :=
          timely_deletionJob target (htold _ hscheduled) hnow
        exact (isTimely_queue hjob).bind fun _ => isTimely_pure _
      · simp
  | userNotFound | userDeleted => simp

end Service

/-! ## Other services -/

namespace Service

variable {c : ServiceSettings}

/-- Services that take the time, ask once and look at the outcome. -/
theorem isTimely_timed
    {α : Type} {r : Instant → RepositoryRequest}
    {k : (time : Instant) → (r time).Answer → Service α}
    (hr : ∀ time, (r time).Timely c) (hk : ∀ time a, IsTimely c (k time a)) :
    IsTimely c (now >>= fun time => repository (r time) >>= k time) :=
  isTimely_now fun time _ => isTimely_repository (hr time) fun a _ => hk time a

theorem isTimely_logout (rawToken : String) : IsTimely c (logout c rawToken) :=
  isTimely_timed (fun _ => trivial) fun _ outcome => by cases outcome <;> simp

theorem isTimely_revokeSession (user : UserId) (session : SessionId) :
    IsTimely c (revokeSession user session) :=
  isTimely_timed (fun _ => trivial) fun _ outcome => by cases outcome <;> simp

theorem isTimely_revokeDevice (user : UserId) (device : String) :
    IsTimely c (revokeDevice user device) :=
  isTimely_timed (fun _ => trivial) fun _ outcome => by cases outcome <;> simp

theorem isTimely_listSessions (user : UserId) (current : Option SessionId) :
    IsTimely c (listSessions user current) :=
  isTimely_timed (fun _ => trivial) fun _ _ => isTimely_pure _

theorem isTimely_registerPushToken
    (user : UserId) (session : SessionId) (token : String)
    (platform : Option String) :
    IsTimely c (registerPushToken user session token platform) := by
  unfold registerPushToken
  dsimp only
  split
  · exact (isTimely_throw _).bind fun _ => isTimely_timed (fun _ => trivial)
      fun _ outcome => by cases outcome <;> simp
  · exact isTimely_timed (fun _ => trivial) fun _ outcome => by cases outcome <;> simp

theorem isTimely_connectIdentity (user : UserId) (provider token : String) :
    IsTimely c (connectIdentity user provider token) := by
  refine (isTimely_providerIdentity provider token).bind fun found => ?_
  refine isTimely_freshId fun id => ?_
  exact isTimely_timed (fun _ => trivial) fun _ outcome => by cases outcome <;> simp

theorem isTimely_confirmReset (rawToken password : String) :
    IsTimely c (confirmReset c rawToken password) := by
  refine (isTimely_refuseInvalid _).bind fun _ => ?_
  refine (isTimely_hashPassword _).bind fun hash => ?_
  exact isTimely_timed (fun _ => trivial) fun _ outcome => by cases outcome <;> simp

theorem isTimely_changePassword
    (user : UserId) (session : Option SessionId) (current new : String) :
    IsTimely c (changePassword c user session current new) := by
  refine (isTimely_refuseInvalid _).bind fun _ => ?_
  refine isTimely_repository trivial fun found _ => ?_
  split
  · simp
  split
  · simp
  split
  · simp
  · refine (isTimely_hashPassword _).bind fun hash => ?_
    exact isTimely_timed (fun _ => trivial) fun _ outcome => by cases outcome <;> simp

theorem isTimely_verifyEmail (rawToken : String) :
    IsTimely c (verifyEmail c rawToken) :=
  isTimely_timed (fun _ => trivial) fun _ outcome => by cases outcome <;> simp

theorem isTimely_changeRole (actor : Actor) (target : UserId) (role : Role) :
    IsTimely c (changeRole actor target role) :=
  isTimely_now fun _ _ => isTimely_asked trivial

theorem isTimely_changeStatus
    (actor : Actor) (target : UserId) (status : Status) (reason : Option String) :
    IsTimely c (changeStatus actor target status reason) := by
  unfold changeStatus
  split
  · simp
  · exact isTimely_now fun _ _ => isTimely_asked trivial

theorem isTimely_cancelDeletion (actor : Actor) (target : UserId) :
    IsTimely c (cancelDeletion actor target) :=
  isTimely_now fun _ _ => isTimely_asked trivial

theorem isTimely_auditTrail (target : UserId) : IsTimely c (auditTrail target) :=
  isTimely_asked trivial

theorem IsTimely.program {α : Type} {x : Service α} (h : IsTimely c x) :
    Program.Timely c (fun _ => True) (do let _ ← x.run) := by
  unfold IsTimely at h
  exact h.bind fun _ _ => Program.timely_pure.mpr trivial

end Service

/-! ## The worker -/

/-- The instant that a deletion is put off to, if it is, can be represented. -/
def DeletionResult.Timely (result : DeletionResult) : Prop :=
  ∀ runAt, result = .rescheduled runAt → runAt.InRange

theorem Service.timely_finalize
    {c : ServiceSettings} {blockedRetry : Span} (hretry : blockedRetry.IsDelay)
    (payload : DeletionPayload) (trace : Option String) :
    (finalize blockedRetry payload trace).Timely c DeletionResult.Timely := by
  refine Program.timely_ask trivial fun now hnow => Program.timely_ask trivial ?_
  intro answer htold
  split
  · exact Program.timely_pure.mpr nofun
  next scheduledFor =>
    refine Program.timely_pure.mpr fun runAt h => ?_
    cases h
    exact (htold _ rfl).inRange
  · refine Program.timely_pure.mpr fun runAt h => ?_
    cases h
    exact (hnow.isCivil_add hretry).inRange
  · exact Program.timely_pure.mpr nofun

theorem WorkerSettings.isTerm_lease : lease.IsTerm :=
  Span.isTerm_seconds (by decide) (by decide)

namespace RetryConfig

/-- However a wait grows, it is cut off at the longest one. -/
theorem backoffMillis_le (c : RetryConfig) (retry : ℕ) :
    c.backoffMillis retry ≤ (Float.ofNat (wholeMillis c.maxBackoff)).toUInt64.toNat := by
  unfold backoffMillis
  dsimp only
  split
  · exact Nat.le_refl _
  · exact Nat.min_le_right _ _

theorem jitterMillis_le (ms : ℕ) (draw : Jitter) : jitterMillis ms draw ≤ ms / 4 :=
  Nat.min_le_right _ _

end RetryConfig

/-- Jitter included, a failed job waits for five quarters of an hour at the most. -/
theorem WorkerSettings.isDelay_backoff (w : WorkerSettings) (attempts : ℕ) (draw : Jitter) :
    (w.retry.backoff attempts draw).IsDelay := by
  have hcap : (Float.ofNat (RetryConfig.wholeMillis (.seconds 3600))).toUInt64.toNat =
      3600000 := by
    decide
  have hmillis : w.retry.backoffMillis attempts ≤ 3600000 :=
    Nat.le_trans (w.retry.backoffMillis_le attempts) (Nat.le_of_eq hcap)
  have hjitter := RetryConfig.jitterMillis_le (w.retry.backoffMillis attempts) draw
  rw [RetryConfig.backoff]
  generalize w.retry.backoffMillis attempts = ms at hmillis hjitter ⊢
  generalize RetryConfig.jitterMillis ms draw = extra at hjitter ⊢
  constructor
  all_goals
    simp only [Span.millis, Span.longestTerm, Span.days, Span.seconds, Span.perSecond]
    split <;> omega

namespace Worker

open Program

variable {c : ServiceSettings} {w : WorkerSettings}

theorem timely_tell {r : QueueRequest} (hr : r.Timely) (applied : Applied) :
    (tell r applied).Timely c fun _ => True := by
  refine timely_ask (r := .queue r) hr fun answer _ => ?_
  split <;> exact timely_pure.mpr trivial

variable (hw : w.blockedRetry.IsDelay)

include hw

theorem timely_process (job : Job) : (process w job).Timely c fun _ => True := by
  unfold process
  split
  · refine timely_ask trivial fun now _ => timely_tell ?_ _
    exact nofun
  refine (Service.timely_finalize hw _ _).bind fun result hresult => ?_
  split
  · refine timely_ask trivial fun now _ => timely_tell ?_ _
    trivial
  next runAt =>
    refine timely_ask trivial fun now _ => timely_tell ?_ _
    exact hresult runAt rfl
  · refine timely_ask trivial fun now hnow => timely_ask trivial fun draw _ => ?_
    refine timely_tell ?_ _
    intro t ht
    obtain rfl := Option.mem_some_iff.mp ht
    have hdelay := w.isDelay_backoff job.attempts.toNat draw
    exact ⟨hnow.isPlain.le_add hdelay.nonneg, (hnow.isCivil_add hdelay).inRange⟩

theorem timely_processAll (summary : PollSummary) (jobs : List Job) :
    (processAll w summary jobs).Timely c fun _ => True := by
  induction jobs generalizing summary with
  | nil => exact timely_pure.mpr trivial
  | cons job jobs ih => exact (timely_process hw job).bind fun _ _ => ih _

theorem timely_poll : (poll w).Timely c fun _ => True := by
  refine timely_ask trivial fun now hnow => timely_ask ?_ fun answer _ => ?_
  · exact ⟨WorkerSettings.isTerm_lease.fits,
      hnow.endsAfter_add WorkerSettings.isTerm_lease⟩
  · split
    · exact timely_pure.mpr trivial
    · exact (timely_processAll hw _ _).bind fun _ _ => timely_pure.mpr trivial

theorem timely_run (polls : ℕ) : (run w polls).Timely c fun _ => True := by
  induction polls with
  | zero => exact timely_pure.mpr trivial
  | succ polls ih =>
      exact timely_ask trivial fun _ _ => (timely_poll hw).bind fun _ _ => ih

end Worker

/-! ## All calls -/

theorem ServiceCall.timely
    {c : ServiceSettings} {w : WorkerSettings} (hc : c.InBounds)
    (hw : w.blockedRetry.IsDelay) (call : ServiceCall) :
    (call.program c w).Timely c fun _ => True := by
  cases call with
  | register => exact (Service.isTimely_register hc _ _ _ _).program
  | login => exact (Service.isTimely_login hc _ _ _).program
  | exchange => exact (Service.isTimely_exchangeIdToken hc _ _ _).program
  | connect => exact (Service.isTimely_connectIdentity _ _ _).program
  | refresh => exact (Service.isTimely_refresh hc _ _).program
  | logout => exact (Service.isTimely_logout _).program
  | revokeSession => exact (Service.isTimely_revokeSession _ _).program
  | revokeDevice => exact (Service.isTimely_revokeDevice _ _).program
  | listSessions => exact (Service.isTimely_listSessions _ _).program
  | registerPushToken => exact (Service.isTimely_registerPushToken _ _ _ _).program
  | requestReset => exact (Service.isTimely_requestReset hc _).program
  | confirmReset => exact (Service.isTimely_confirmReset _ _).program
  | changePassword => exact (Service.isTimely_changePassword _ _ _ _).program
  | verifyEmail => exact (Service.isTimely_verifyEmail _).program
  | changeRole => exact (Service.isTimely_changeRole _ _ _).program
  | changeStatus => exact (Service.isTimely_changeStatus _ _ _ _).program
  | requestDeletion => exact (Service.isTimely_requestDeletion hc _ _).program
  | cancelDeletion => exact (Service.isTimely_cancelDeletion _ _).program
  | auditTrail => exact (Service.isTimely_auditTrail _).program
  | poll => exact (Worker.timely_poll hw).bind fun _ _ => Program.timely_pure.mpr trivial

/-- What may be under way: a call of a service, a deletion that is carried out on its
own, or the worker for a number of polls. -/
inductive Activity where
  | service (call : ServiceCall)
  | finalize (payload : DeletionPayload) (trace : Option String)
  | work (polls : ℕ)

/-- What an activity asks for. -/
def Activity.program (c : ServiceSettings) (w : WorkerSettings) :
    Activity → Program Backend Unit
  | service call => call.program c w
  | finalize payload trace => do
      let _ ← Service.finalize c.blockedRetry payload trace
  | work polls => Worker.run w polls

/-- Under settings within bounds an activity asks for times that can be represented only, as
long as it is told such times. -/
theorem Activity.timely
    {c : ServiceSettings} {w : WorkerSettings} (hc : c.InBounds)
    (hw : w.blockedRetry.IsDelay) (a : Activity) :
    (a.program c w).Timely c fun _ => True := by
  cases a with
  | service call => exact call.timely hc hw
  | finalize payload trace =>
      exact (Service.timely_finalize hc.blockedRetry.toIsDelay payload trace).bind
        fun _ _ => Program.timely_pure.mpr trivial
  | work polls => exact Worker.timely_run hw polls

end AccountAuthority
