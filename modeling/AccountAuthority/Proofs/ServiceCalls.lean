import AccountAuthority.Proofs.CallHistories
import AccountAuthority.Service.Accounts
import AccountAuthority.Service.Credentials
import AccountAuthority.Service.Deletion

/-!
# What services ask for

The services that open sessions, and those that take the sessions of a user
away.  For each of them it is said what it asks of the repository and what it
must have heard before: a session is opened only for a user whom the repository
has shown to be active, and by a login only when the password has been verified
against the hash that came with the user.
-/

namespace AccountAuthority

/-- A call that opens sessions, or one that takes them away. -/
inductive AccountCall where
  | login (email password : String) (device : Device)
  | register (email password : String) (displayName : Option String)
      (device : Device)
  | exchange (provider token : String) (device : Device)
  | refresh (rawToken : String) (device : Device)
  | changeStatus (actor : Actor) (target : UserId) (status : Status)
      (reason : Option String)
  | finalize (blockedRetry : Span) (payload : DeletionPayload)
      (trace : Option String)
  | confirmReset (rawToken password : String)
  | changePassword (user : UserId) (session : Option SessionId)
      (current new : String)

/-- What such a call ends with. -/
inductive AccountResult where
  | granted (result : Except ServiceError Grant)
  | statusChanged (result : Except ServiceError LifecycleOutcome)
  | deletion (result : DeletionResult)
  | passwordReset (result : Except ServiceError Unit)
  | passwordChanged (result : Except ServiceError Nat)

/-- The call as the repository sees it. -/
def AccountCall.program
    (c : ServiceSettings) (o : Surroundings) :
    AccountCall → Program RepositoryPort AccountResult
  | login email password device =>
      .granted <$> (Service.login c email password device).run.within o 0
  | register email password displayName device =>
      .granted <$>
        (Service.register c email password displayName device).run.within o 0
  | exchange provider token device =>
      .granted <$>
        (Service.exchangeIdToken c provider token device).run.within o 0
  | refresh rawToken device =>
      .granted <$> (Service.refresh c rawToken device).run.within o 0
  | changeStatus actor target status reason =>
      .statusChanged <$>
        (Service.changeStatus actor target status reason).run.within o 0
  | finalize blockedRetry payload trace =>
      .deletion <$> (Service.finalize blockedRetry payload trace).within o 0
  | confirmReset rawToken password =>
      .passwordReset <$>
        (Service.confirmReset c rawToken password).run.within o 0
  | changePassword user session current new =>
      .passwordChanged <$>
        (Service.changePassword c user session current new).run.within o 0

/-- The user whom the repository shows a call, as they are at that time. -/
def Exchange.shownUser? : Exchange → Option User
  | ⟨.findLogin _, some record⟩ => some record.user
  | ⟨.findExternalUser .., some user⟩ => some user
  | ⟨.createUser .., .created user⟩ => some user
  | ⟨.createExternalUser .., .created user⟩
  | ⟨.createExternalUser .., .identityExists user⟩ => some user
  | _ => none

/-- A call has been shown that a user is active. -/
def History.ShowsActive (H : History) (id : UserId) : Prop :=
  ∃ e ∈ H, ∃ u, e.shownUser? = some u ∧ u.id = id ∧ u.status = .active

/-- Sessions are opened for users who have been shown to be active, new users
are active, and nobody is deleted by a change of status. -/
def forActiveUsers : Rule
  | H, .createSession x t _ => MadeTogether x t ∧ History.ShowsActive H x.user
  | _, .createUser u _ | _, .createExternalUser u _ => u.status = .active
  | _, .changeStatus _ _ status _ _ => status ≠ .deleted
  | _, _ => True

theorem opensProperly_of_forActiveUsers
    {H : History} {r : RepositoryRequest} (h : forActiveUsers H r) :
    r.OpensProperly := by
  cases r with
  | createSession x t now => exact h.1
  | _ => trivial

namespace Service

variable {c : ServiceSettings} {φ : Rule} {H : History}

/-! ## Opening a session -/

theorem ensures_issue
    {user : User} {methods : List AuthMethod} {device : Device}
    (hopen : ∀ x t now, MadeTogether x t → x.user = user.id →
      φ H (.createSession x t now)) :
    Ensures φ H (issue c user methods device) (fun _ _ => True) := by
  simp only [issue, ensures_bind, ensures_now, ensures_freshId]
  intro now id
  refine ensures_signFor fun access => ?_
  simp only [ensures_freshToken, ensures_repository, ensures_pure,
    implies_true, and_true]
  intro bytes tokenId
  exact hopen _ _ now ⟨⟨methods, device, _, now, rfl⟩, rfl⟩ rfl

theorem ensures_openFor
    {user : User} {method : AuthMethod} {device : Device}
    (hopen : user.status = .active → ∀ x t now, MadeTogether x t →
      x.user = user.id → φ H (.createSession x t now)) :
    Ensures φ H (openFor c user method device) (fun _ _ => True) := by
  unfold openFor
  split
  · exact ensures_throw
  · exact ensures_throw
  next hactive => exact ensures_issue (hopen hactive)

/-- A login reads the record of the user once, and opens a session only if the
user is active and the password belongs to the hash in that record. -/
theorem ensures_login
    {email password : String} {device : Device}
    (hread : φ H (.findLogin (Email.normalize email)))
    (hopen : ∀ record stored, record.passwordHash = some stored →
      c.hasher.verify password stored = true → record.user.status = .active →
      ∀ x t now, MadeTogether x t → x.user = record.user.id →
        φ (⟨.findLogin (Email.normalize email), some record⟩ :: H)
          (.createSession x t now)) :
    Ensures φ H (login c email password device) (fun _ _ => True) := by
  simp only [login, ensures_bind, ensures_now]
  intro now
  rw [ensures_ask (by simp)]
  intro answer
  cases answer with
  | error seconds => exact ensures_throw
  | ok =>
      simp only [ensures_bind, ensures_repository]
      refine ⟨hread, fun found _ => ?_⟩
      split
      · simp only [ensures_bind, ensures_now]
        intro time
        rw [ensures_ask (by simp)]
        exact fun _ => ensures_throw
      next record hrecord =>
        obtain ⟨rfl, hverified⟩ := Option.filter_eq_some_iff.mp hrecord
        obtain ⟨stored, hstored, hverify⟩ :
            ∃ stored, record.passwordHash = some stored ∧
              c.hasher.verify password stored = true := by
          simp only [Option.bind_some] at hverified
          cases hhash : record.passwordHash with
          | none => simp [hhash, PasswordHasher.verifyStored] at hverified
          | some stored =>
              exact ⟨stored, rfl, by
                simpa [hhash, PasswordHasher.verifyStored] using hverified⟩
        have hissue : Ensures φ
            (⟨.findLogin (Email.normalize email), some record⟩ :: H)
            (openFor c record.user .password device) fun _ _ => True :=
          ensures_openFor (hopen record stored hstored hverify)
        split
        · simp only [ensures_bind]
          rw [ensures_ask (by simp)]
          exact fun _ => hissue
        · exact hissue

/-! ## Passwords -/

theorem ensures_refuseInvalid
    {errors : List FieldError} {ψ : History → Unit → Prop} (h : ψ H ()) :
    Ensures φ H (refuseInvalid errors) ψ := by
  unfold refuseInvalid
  split
  · exact ensures_pure.mpr h
  · exact ensures_throw

@[simp] theorem ensures_hashPassword
    {password : String} {ψ : History → String → Prop} :
    Ensures φ H (hashPassword c password) ψ ↔
      ∀ salt, ψ H (c.hasher.hash salt password) := by
  rw [hashPassword, ensures_bind, ensures_ask (by simp)]
  simp only [ensures_pure]

theorem ensures_confirmReset
    {rawToken password : String} {ψ : History → Unit → Prop}
    (hreset : ∀ new now, φ H (.resetPassword (c.tokenHash rawToken) new now))
    (hdone : ∀ new now user revoked,
      ψ (⟨.resetPassword (c.tokenHash rawToken) new now,
        .reset user revoked⟩ :: H) ()) :
    Ensures φ H (confirmReset c rawToken password) ψ := by
  simp only [confirmReset, ensures_bind]
  refine ensures_refuseInvalid ?_
  simp only [ensures_hashPassword, ensures_now, ensures_repository]
  intro salt time
  refine ⟨hreset _ time, fun outcome _ => ?_⟩
  cases outcome with
  | reset user revoked => exact ensures_pure.mpr (hdone _ time user revoked)
  | invalidToken | userInactive | expired => exact ensures_throw

theorem ensures_changePassword
    {user : UserId} {session : Option SessionId} {current new : String}
    {ψ : History → ℕ → Prop}
    (hread : φ H (.findCredentials user))
    (hchange : ∀ e expected hash now,
      φ (e :: H) (.changePassword user expected hash session now))
    (hdone : ∀ e expected hash now revoked,
      ψ (⟨.changePassword user expected hash session now,
        .changed revoked⟩ :: e :: H) revoked) :
    Ensures φ H (changePassword c user session current new) ψ := by
  simp only [changePassword, ensures_bind]
  refine ensures_refuseInvalid ?_
  simp only [ensures_repository]
  refine ⟨hread, fun found _ => ?_⟩
  split
  · exact ensures_throw
  split
  · exact ensures_throw
  split
  · exact ensures_throw
  next expected _ =>
    simp only [ensures_bind, ensures_hashPassword, ensures_now,
      ensures_repository]
    intro salt time
    refine ⟨hchange _ expected _ time, fun outcome _ => ?_⟩
    cases outcome with
    | changed revoked => exact ensures_pure.mpr (hdone _ expected _ time revoked)
    | credentialChanged | userNotFound => exact ensures_throw

/-! ## Services for active users -/

end Service

theorem History.ShowsActive.cons
    {H : History} {id : UserId} (h : H.ShowsActive id) (e : Exchange) :
    History.ShowsActive (e :: H) id := by
  obtain ⟨e', he', hshown⟩ := h
  exact ⟨e', List.mem_cons_of_mem e he', hshown⟩

theorem History.showsActive_of_shown
    {H : History} {e : Exchange} {u : User} (h : e.shownUser? = some u)
    (hactive : u.status = .active) : History.ShowsActive (e :: H) u.id :=
  ⟨e, List.mem_cons_self, u, h, rfl, hactive⟩

namespace Service

variable {c : ServiceSettings} {H : History}

theorem ensures_issue_of_shown
    {user : User} {methods : List AuthMethod} {device : Device}
    (h : H.ShowsActive user.id) :
    Ensures forActiveUsers H (issue c user methods device) (fun _ _ => True) := by
  refine ensures_issue fun x t now hmade huser => ⟨hmade, ?_⟩
  rw [huser]
  exact h

theorem ensures_openFor_of_shown
    {user : User} {method : AuthMethod} {device : Device} {e : Exchange}
    (h : e.shownUser? = some user) :
    Ensures forActiveUsers (e :: H) (openFor c user method device)
      (fun _ _ => True) := by
  refine ensures_openFor fun hactive x t now hmade huser => ⟨hmade, ?_⟩
  rw [huser]
  exact History.showsActive_of_shown h hactive

theorem ensures_sendToken
    {user : User} {purpose : TokenPurpose} {ttl : Span}
    {ψ : History → Unit → Prop} (h : ∀ e, ψ (e :: H) ()) :
    Ensures forActiveUsers H (sendToken c user purpose ttl) ψ := by
  simp only [sendToken, ensures_bind, ensures_now, ensures_freshToken,
    ensures_freshId, ensures_repository, ensures_notify]
  intro time bytes id
  exact ⟨trivial, fun answer _ => h _⟩

theorem user_eq_of_created
    {user user' : User} {hash : String}
    (h : (RepositoryRequest.createUser user hash).MayAnswer (.created user')) :
    user' = user := by
  obtain ⟨s, fresh, hanswer⟩ := h
  simp only [Store.perform, Store.createUser] at hanswer
  split at hanswer
  · cases hanswer
  · exact CreateUserOutcome.created.inj hanswer

theorem ensures_register
    {email password : String} {displayName : Option String} {device : Device} :
    Ensures forActiveUsers H (register c email password displayName device)
      (fun _ _ => True) := by
  simp only [register, ensures_bind]
  refine ensures_refuseInvalid ?_
  refine ensures_refuseInvalid ?_
  simp only [ensures_hashPassword, ensures_freshId, ensures_now,
    ensures_repository]
  intro salt id time
  refine ⟨rfl, fun outcome hmay => ?_⟩
  cases outcome with
  | emailTaken => exact ensures_throw
  | created user =>
      obtain rfl := user_eq_of_created hmay
      simp only [ensures_bind]
      refine ensures_sendToken fun e => ensures_issue_of_shown ?_
      exact (History.showsActive_of_shown rfl rfl).cons e

theorem ensures_providerIdentity
    {φ : Rule} {provider token : String}
    {ψ : History → ProviderIdentity × String → Prop} (h : ∀ found, ψ H found) :
    Ensures φ H (providerIdentity provider token) ψ := by
  rw [providerIdentity, ensures_bind, ensures_ask (by simp)]
  intro answer
  split
  · exact ensures_throw
  · exact ensures_throw
  split
  · split
    · exact ensures_pure.mpr (h _)
    · exact ensures_throw
  · exact ensures_throw

theorem ensures_exchangeIdToken
    {provider token : String} {device : Device} :
    Ensures forActiveUsers H (exchangeIdToken c provider token device)
      (fun _ _ => True) := by
  simp only [exchangeIdToken, ensures_bind]
  refine ensures_providerIdentity fun found => ?_
  obtain ⟨identity, email⟩ := found
  simp only [ensures_repository]
  refine ⟨trivial, fun found _ => ?_⟩
  split
  next user => exact ensures_openFor_of_shown rfl
  simp only [ensures_bind, ensures_repository]
  refine ⟨trivial, fun found _ => ?_⟩
  split
  · simp only [ensures_bind, ensures_repository]
    refine ⟨trivial, fun found _ => ?_⟩
    split
    next user => exact ensures_openFor_of_shown rfl
    · exact ensures_throw
  · simp only [ensures_bind, ensures_now, ensures_freshId, ensures_repository]
    intro time id identityId
    refine ⟨rfl, fun outcome _ => ?_⟩
    cases outcome with
    | created user | identityExists user => exact ensures_openFor_of_shown rfl
    | emailTaken => exact ensures_throw

theorem ensures_refresh {rawToken : String} {device : Device} :
    Ensures forActiveUsers H (refresh c rawToken device) (fun _ _ => True) := by
  simp only [refresh, ensures_bind, ensures_now, ensures_repository]
  intro time
  refine ⟨trivial, fun found _ => ?_⟩
  split
  · exact ensures_throw
  split
  · exact ensures_throw
  split
  · simp only [ensures_bind, ensures_now, ensures_repository]
    exact fun _ => ⟨trivial, fun _ _ => ensures_throw⟩
  · simp only [ensures_bind]
    refine ensures_signFor fun access => ?_
    simp only [ensures_freshToken, ensures_repository]
    refine fun bytes => ⟨trivial, fun outcome _ => ?_⟩
    cases outcome with
    | rotated session token => exact ensures_pure.mpr trivial
    | notFound | expired | sessionRevoked | revokedOrReused =>
        exact ensures_throw

theorem ensures_changeStatus
    {actor : Actor} {target : UserId} {status : Status}
    {reason : Option String} :
    Ensures forActiveUsers H (changeStatus actor target status reason)
      (fun _ _ => True) := by
  unfold changeStatus
  split
  · exact ensures_throw
  next hstatus =>
    simp only [ensures_bind, ensures_now, ensures_repository]
    exact fun _ => ⟨hstatus, fun _ _ => trivial⟩

end Service

/-- All calls open sessions only for users who have been shown to be active. -/
theorem AccountCall.abides_forActiveUsers
    (c : ServiceSettings) (o : Surroundings) (call : AccountCall) :
    (call.program c o).Abides forActiveUsers (fun _ _ => True) [] := by
  cases call with
  | login email password device =>
      refine (Service.ensures_login trivial ?_).abides (fun _ _ _ => trivial) o 0
      intro record stored _ _ hactive x t now hmade huser
      refine ⟨hmade, ?_⟩
      rw [huser]
      exact History.showsActive_of_shown rfl hactive
  | register email password displayName device =>
      exact Service.ensures_register.abides (fun _ _ _ => trivial) o 0
  | exchange provider token device =>
      exact Service.ensures_exchangeIdToken.abides (fun _ _ _ => trivial) o 0
  | refresh rawToken device =>
      exact Service.ensures_refresh.abides (fun _ _ _ => trivial) o 0
  | changeStatus actor target status reason =>
      exact Service.ensures_changeStatus.abides (fun _ _ _ => trivial) o 0
  | finalize blockedRetry payload trace =>
      refine Program.Abides.map (Program.Obeys.within ?_ o 0)
      refine Program.obeys_bind.mpr ((Service.obeys_ask (by simp)).mpr ?_)
      intro time
      refine Program.obeys_bind.mpr (Service.obeys_ask_repository.mpr ?_)
      refine ⟨trivial, fun outcome _ => ?_⟩
      cases outcome <;> exact Program.obeys_done.mpr trivial
  | confirmReset rawToken password =>
      have h : Service.Ensures forActiveUsers []
          (Service.confirmReset c rawToken password) fun _ _ => True :=
        Service.ensures_confirmReset (fun _ _ => trivial) fun _ _ _ _ => trivial
      exact h.abides (fun _ _ _ => trivial) o 0
  | changePassword user session current new =>
      have h : Service.Ensures forActiveUsers []
          (Service.changePassword c user session current new) fun _ _ => True :=
        Service.ensures_changePassword trivial (fun _ _ _ _ => trivial)
          fun _ _ _ _ _ => trivial
      exact h.abides (fun _ _ _ => trivial) o 0

end AccountAuthority
