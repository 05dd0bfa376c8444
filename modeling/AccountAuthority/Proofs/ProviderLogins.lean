import AccountAuthority.Proofs.NormalForms
import AccountAuthority.Proofs.Refresh
import AccountAuthority.Service.Credentials

/-!
# A login with an identity token as the repository sees it

Once the token is verified, the login looks for the identity.  If it is bound,
the login opens a session for its user.  Otherwise it looks for the address: if
somebody has it, the login looks for the identity once more, and if nobody has
it, the login asks for a new account that the identity is bound to.
-/

namespace AccountAuthority

/-- Tokens are checked by a verifier, each at some time. -/
def Surroundings.Verifies (o : Surroundings) (v : OidcVerifier) : Prop :=
  ∀ n provider token, ∃ now,
    o n (.verifyIdToken provider token) = v.verify provider token now

/-- Whoever is verified is named by a provider in normal form. -/
theorem OidcVerifier.normalizeProvider_of_verified
    {v : OidcVerifier} {provider token : String} {now : Instant}
    {identity : ProviderIdentity}
    (h : v.verify provider token now = .verified identity) :
    normalizeProvider identity.provider = identity.provider := by
  unfold verify at h
  dsimp only at h
  split at h
  · cases h
  split at h
  · cases h
  · obtain rfl := OidcVerification.verified.inj h
    exact normalizeProvider_normalizeProvider provider

theorem Surroundings.Verifies.normalizeProvider_eq
    {o : Surroundings} {v : OidcVerifier} (h : o.Verifies v) {n : ℕ}
    {provider token : String} {identity : ProviderIdentity}
    (hverified : o n (.verifyIdToken provider token) = .verified identity) :
    normalizeProvider identity.provider = identity.provider := by
  obtain ⟨now, hnow⟩ := h n provider token
  exact OidcVerifier.normalizeProvider_of_verified (hnow.symm.trans hverified)

variable (c : ServiceSettings) (provider token : String) (device : Device)
  (o : Surroundings)

/-- A login with an identity token as the repository sees it. -/
def exchangeCall : Program RepositoryPort (Except ServiceError Grant) :=
  (Service.exchangeIdToken c provider token device).run.within o 0

/-- The opening of a session for a user, from the `n`th request of a call on. -/
def openCall (n : ℕ) (user : User) :
    Program RepositoryPort (Except ServiceError Grant) :=
  (Service.openFor c user .oidc device).run.within o n

/-- The account that a login asks for. -/
def externalUser (email : String) : User :=
  { User.create (o 4 .freshId) email none (o 3 .now) with
    emailVerifiedAt := some (o 3 .now) }

/-- The binding of an identity that a login asks for. -/
def externalBinding (identity : ProviderIdentity) (email : String) :
    ExternalIdentity :=
  .create (o 5 .freshId) identity.provider identity.subject (o 4 .freshId)
    (some email) (o 3 .now)

/-- What a login does when an account has been asked for. -/
def afterCreating :
    CreateExternalUserOutcome → Program RepositoryPort (Except ServiceError Grant)
  | .created user | .identityExists user => openCall c device o 7 user
  | .emailTaken => .done (.error .linkRequired)

/-- What a login does when the identity has been looked for once more. -/
def afterSecondLook :
    Option User → Program RepositoryPort (Except ServiceError Grant)
  | some user => openCall c device o 4 user
  | none => .done (.error .linkRequired)

variable (identity : ProviderIdentity) (email : String)

/-- What a login does when the address has been looked for. -/
def afterAddress :
    Option LoginRecord → Program RepositoryPort (Except ServiceError Grant)
  | some _ =>
      .ask (.findExternalUser identity.provider identity.subject)
        (afterSecondLook c device o)
  | none =>
      .ask (.createExternalUser (externalUser o email)
        (externalBinding o identity email)) (afterCreating c device o)

/-- What a login does when the identity has been looked for. -/
def afterFirstLook :
    Option User → Program RepositoryPort (Except ServiceError Grant)
  | some user => openCall c device o 2 user
  | none => .ask (.findLogin email) (afterAddress c device o identity email)

/-- What a login does for a verified identity with an address. -/
def identityCall : Program RepositoryPort (Except ServiceError Grant) :=
  .ask (.findExternalUser identity.provider identity.subject)
    (afterFirstLook c device o identity email)

/-- What a login does when the token has been looked at. -/
def afterVerifying :
    OidcVerification → Program RepositoryPort (Except ServiceError Grant)
  | .notConfigured => .done (.error .oidcNotConfigured)
  | .invalid => .done (.error .oidcTokenInvalid)
  | .verified identity =>
      match identity.email with
      | some email =>
          if identity.emailVerified then
            identityCall c device o identity (Email.normalize email)
          else .done (.error .oidcEmailNotVerified)
      | none => .done (.error .oidcEmailNotVerified)

theorem within_providerIdentity
    {α : Type} (n : ℕ) (k : ProviderIdentity × String → Service α) :
    ((Service.providerIdentity provider token >>= k).run).within o n =
      match o n (.verifyIdToken provider token) with
      | .notConfigured => .done (.error .oidcNotConfigured)
      | .invalid => .done (.error .oidcTokenInvalid)
      | .verified identity =>
        match identity.email with
        | some email =>
          if identity.emailVerified then
            (k (identity, Email.normalize email)).run.within o (n + 1)
          else .done (.error .oidcEmailNotVerified)
        | none => .done (.error .oidcEmailNotVerified) := by
  -- The answer of the verifier is looked at inside of three binds.
  change Program.within o (n + 1) (Program.bind (Program.bind (Program.bind
    (Program.done (o n (.verifyIdToken provider token))) _) _) _) = _
  cases o n (.verifyIdToken provider token) with
  | notConfigured => rfl
  | invalid => rfl
  | verified identity =>
      obtain ⟨name, subject, email, emailVerified⟩ := identity
      cases email with
      | none => rfl
      | some email => cases emailVerified <;> rfl

theorem exchangeCall_eq :
    exchangeCall c provider token device o =
      afterVerifying c device o (o 0 (.verifyIdToken provider token)) := by
  rw [exchangeCall, Service.exchangeIdToken, within_providerIdentity]
  cases o 0 (.verifyIdToken provider token) with
  | notConfigured => rfl
  | invalid => rfl
  | verified identity =>
      unfold afterVerifying
      dsimp only
      cases identity.email with
      | none => rfl
      | some email =>
          dsimp only
          split
          · refine (Program.within_repository ..).trans ?_
            rw [identityCall]
            congr 1
            funext found
            cases found with
            | some user => rfl
            | none =>
                rw [afterFirstLook]
                refine (Program.within_repository ..).trans ?_
                congr 1
                funext record
                cases record with
                | some record =>
                    rw [afterAddress]
                    refine (Program.within_repository ..).trans ?_
                    congr 1
                    funext found
                    cases found <;> rfl
                | none =>
                    rw [afterAddress]
                    refine (Program.within_repository ..).trans ?_
                    congr 1
                    funext outcome
                    cases outcome <;> rfl
          · rfl

/-! ## Opening a session -/

/-- A call that opens a session for a user.  If the user is active, it can only
fail because signing fails. -/
inductive Opens (user : User) :
    Program RepositoryPort (Except ServiceError Grant) → Prop
  | refused (e : ServiceError)
      (unsigned : user.status = .active →
        ∃ k r text, o k (.signAccess r) = .error text ∧ e = .internal text) :
      Opens user (.done (.error e))
  | creating (x : Session) (t : RefreshToken) (now : Instant)
      (next : CreatedSession → Program RepositoryPort (Except ServiceError Grant))
      (grants : ∀ created, ∃ g, next created = .done (.ok g) ∧ g.user = user.view) :
      Opens user (.ask (.createSession x t now) next)

theorem openCall_opens (n : ℕ) (user : User) :
    Opens o user (openCall c device o n user) := by
  unfold openCall Service.openFor
  cases hstatus : user.status with
  | deleted => exact .refused _ fun hactive => by simp [hstatus] at hactive
  | suspended => exact .refused _ fun hactive => by simp [hstatus] at hactive
  | active =>
      dsimp only
      rw [Service.issue, Program.within_now]
      change Opens o user (Program.within o (n + 2) (Service.signFor c user
        (o (n + 1) .freshId) >>= _).run)
      rw [within_signFor]
      cases hsign : o (n + 2) (.signAccess (accessRequest c user (o (n + 1) .freshId)))
        with
      | error text => exact .refused _ fun _ => ⟨_, _, text, hsign, rfl⟩
      | ok access =>
          dsimp only
          rw [Program.within_freshToken]
          exact .creating _ _ _ _ fun created => ⟨_, rfl, rfl⟩

end AccountAuthority
