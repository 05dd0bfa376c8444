import AccountAuthority.Password.Policy
import AccountAuthority.Service.Sessions

/-!
# Credentials

Registration, logins by password and through external providers, and the change and recovery of
passwords.  Nothing here tells a caller without credentials whether an account exists.
-/

namespace AccountAuthority

/-- When a verification token that is sent at `now` runs out. -/
def VerificationToken.expiry (ttl : Span) (now : Instant) : Instant :=
  now + ttl

namespace Service

variable (c : ServiceSettings)

/-- Refuse a form with errors. -/
def refuseInvalid (errors : List FieldError) : Service Unit :=
  if errors.isEmpty then pure () else throw (.validation (FieldError.render errors))

/-- The greatest number of characters of a display name. -/
def maxDisplayName : Nat := 100

/-- What is wrong with an address in normal form and a display name. -/
def registrationErrors (email : String) (displayName : Option String) : List FieldError :=
  (if Email.isValid email then [] else [⟨"email", "Invalid email address"⟩]) ++
    (if (displayName.getD "").length ≤ maxDisplayName then []
     else [⟨"display_name", "Display name must be at most 100 characters"⟩])

/-- The stored hash of a new password. -/
def hashPassword (password : String) : Service String := do
  pure (c.hasher.hash (← ask (.randomBytes PasswordHasher.saltLength)) password)

/-- Keep a new token for a user and send it. -/
def sendToken (user : User) (purpose : TokenPurpose) (ttl : Span) : Service Unit := do
  let now ← now
  let raw ← freshToken
  let token : VerificationToken := {
    id := ← freshId
    user := user.id
    purpose := purpose
    hash := c.tokenHash raw
    expiresAt := VerificationToken.expiry ttl now
    createdAt := now }
  repository (.storeVerificationToken token)
  notify ⟨purpose, user.id, user.email, raw⟩

/-- Open a session for a user with an active account. -/
def openFor (user : User) (method : AuthMethod) (device : Device) : Service Grant :=
  match user.status with
  | .deleted => throw .invalidCredentials
  | .suspended => throw .userSuspended
  | .active => issue c user [method] device

/-- Log in with a password.  A failed check counts against the address and the internet address
that the attempt came from. -/
def login (email password : String) (device : Device) : Service Grant := do
  let email := Email.normalize email
  let ip := device.ipAddress
  match ← ask (.checkLogin email ip (← now)) with
  | .error seconds => throw (.rateLimited seconds)
  | .ok () =>
    let record ← repository (.findLogin email)
    let verified := c.hasher.verifyStored password (record.bind LoginRecord.passwordHash)
    match record.filter fun _ => verified with
    | none =>
      ask (.loginFailed email ip (← now))
      throw .invalidCredentials
    | some record =>
      if record.user.status = .active then
        ask (.loginSucceeded email ip)
      openFor c record.user .password device

/-- Create an account with a password and open its first session. -/
def register (email password : String) (displayName : Option String) (device : Device) :
    Service Grant := do
  let email := Email.normalize email
  refuseInvalid (registrationErrors email displayName)
  refuseInvalid (Password.policyErrors password)
  let hash ← hashPassword c password
  let user := User.create (← freshId) email displayName (← now)
  match ← repository (.createUser user hash) with
  | .emailTaken => throw .emailAlreadyRegistered
  | .created user =>
    sendToken c user .emailVerification c.verificationTtl
    issue c user [.password] device

/-- The identity behind an identity token, with its verified address in normal form. -/
def providerIdentity (provider token : String) : Service (ProviderIdentity × String) := do
  match ← ask (.verifyIdToken provider token) with
  | .notConfigured => throw .oidcNotConfigured
  | .invalid => throw .oidcTokenInvalid
  | .verified identity =>
    match identity.email with
    | some email =>
      if identity.emailVerified then pure (identity, Email.normalize email)
      else throw .oidcEmailNotVerified
    | none => throw .oidcEmailNotVerified

/-- Log in with an identity token.  The first time an account is created; it is never joined to
an account that has the same address. -/
def exchangeIdToken (provider token : String) (device : Device) : Service Grant := do
  let (identity, email) ← providerIdentity provider token
  let find := repository (.findExternalUser identity.provider identity.subject)
  match ← find with
  | some user => openFor c user .oidc device
  | none =>
    match ← repository (.findLogin email) with
    | some _ =>
      match ← find with
      | some user => openFor c user .oidc device
      | none => throw .linkRequired
    | none =>
      let now ← now
      let user := { User.create (← freshId) email none now with emailVerifiedAt := some now }
      let external := ExternalIdentity.create (← freshId) identity.provider identity.subject user.id
        (some email) now
      match ← repository (.createExternalUser user external) with
      | .created user | .identityExists user => openFor c user .oidc device
      | .emailTaken => throw .linkRequired

/-- Bind an external identity to a user who is logged in. -/
def connectIdentity (user : UserId) (provider token : String) : Service Unit := do
  let (identity, email) ← providerIdentity provider token
  let external := ExternalIdentity.create (← freshId) identity.provider identity.subject user
    (some email) (← now)
  match ← repository (.linkIdentity external) with
  | .linked | .alreadyLinked => pure ()
  | .identityLinkedToOtherUser => throw .identityLinkedToOtherUser
  | .providerAlreadyLinked => throw .providerAlreadyLinked
  | .userNotFound => throw .userNotFound

/-- Change the password of a user who knows the present one, and revoke all other sessions; the
result is their number. -/
def changePassword (user : UserId) (session : Option SessionId) (current new : String) :
    Service Nat := do
  refuseInvalid (Password.policyErrors new)
  match ← repository (.findCredentials user) with
  | none => throw .userNotFound
  | some record =>
    if record.user.status = .deleted then throw .userNotFound
    else
      match record.passwordHash.filter fun stored => c.hasher.verify current stored with
      | none => throw .invalidCredentials
      | some expected =>
        let hash ← hashPassword c new
        match ← repository (.changePassword user expected hash session (← now)) with
        | .changed revoked => pure revoked
        | .credentialChanged => throw .invalidCredentials
        | .userNotFound => throw .userNotFound

/-- Send a reset token to the owner of an active account.  Callers cannot tell whether there is
one. -/
def requestReset (email : String) : Service Unit := do
  match ← repository (.findLogin (Email.normalize email)) with
  | none => pure ()
  | some record =>
    if record.user.status = .active then sendToken c record.user .passwordReset c.resetTtl

/-- Set a new password by a reset token. -/
def confirmReset (rawToken password : String) : Service Unit := do
  refuseInvalid (Password.policyErrors password)
  let hash ← hashPassword c password
  match ← repository (.resetPassword (c.tokenHash rawToken) hash (← now)) with
  | .reset .. => pure ()
  | .invalidToken | .userInactive => throw .invalidToken
  | .expired => throw .tokenExpired

/-- Verify the address of an account by a token; the result is the user. -/
def verifyEmail (rawToken : String) : Service UserId := do
  match ← repository (.verifyEmail (c.tokenHash rawToken) (← now)) with
  | .verified user | .alreadyVerified user => pure user
  | .invalidToken => throw .invalidToken
  | .expired => throw .tokenExpired

end Service

end AccountAuthority
