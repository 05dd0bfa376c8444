import AccountAuthority.Store.Basic

/-!
# Accounts, identities and passwords in the store

Creation and look-up of users, the binding of external identities, and what verification tokens
are used for.
-/

namespace AccountAuthority.Store

/-- Create an account with a password, unless its address is taken. -/
def createUser (s : Store) (user : User) (passwordHash : String) : CreateUserOutcome × Store :=
  if s.emailTaken user.email then (.emailTaken, s)
  else (.created user, s.insertUser user (some passwordHash))

/-- The user with an address, for a login. -/
def findLogin (s : Store) (email : String) : Option LoginRecord :=
  (s.userByEmail? email).map fun u => ⟨u, s.passwordHash? u.id⟩

def findCredentials (s : Store) (user : UserId) : Option LoginRecord :=
  (s.users.get? user).map fun u => ⟨u, s.passwordHash? user⟩

/-- The user that an external identity is bound to. -/
def findExternalUser (s : Store) (provider subject : String) : Option User :=
  (s.identity? provider subject).bind fun i => s.users.get? i.user

/-- Create an account for an external identity, unless the identity is bound or the address is
taken. -/
def createExternalUser (s : Store) (user : User) (identity : ExternalIdentity) :
    CreateExternalUserOutcome × Store :=
  match s.findExternalUser identity.provider identity.subject with
  | some existing => (.identityExists existing, s)
  | none =>
    if s.emailTaken user.email then (.emailTaken, s)
    else
      (.created user,
        { s.insertUser user none with identities := s.identities ++ [identity] })

/-- Bind an external identity to a user that is not deleted.  An identity has one user, and a
user has one identity of a provider. -/
def linkIdentity (s : Store) (identity : ExternalIdentity) : LinkOutcome × Store :=
  match s.users.get? identity.user with
  | none => (.userNotFound, s)
  | some user =>
    if user.status = .deleted then (.userNotFound, s)
    else
      match s.identity? identity.provider identity.subject with
      | some existing =>
        if existing.user = identity.user then (.alreadyLinked, s)
        else (.identityLinkedToOtherUser, s)
      | none =>
        if s.identities.any fun i => i.user = identity.user && i.provider = identity.provider then
          (.providerAlreadyLinked, s)
        else (.linked, { s with identities := s.identities ++ [identity] })

def storeVerificationToken (s : Store) (token : VerificationToken) : Store :=
  { s with verificationTokens := s.verificationTokens.insert token }

/-- Use up all unused reset tokens of a user. -/
def consumeResetTokens (s : Store) (user : UserId) (now : Instant) : Store :=
  { s with
    verificationTokens := s.verificationTokens.map
      (fun t =>
        if t.user = user ∧ t.purpose = .passwordReset ∧ t.consumedAt = none then
          { t with consumedAt := some now }
        else t)
      (by intro t; split <;> rfl) }

/-- Note that a user was changed. -/
def touchUser (s : Store) (user : UserId) (now : Instant) : Store :=
  { s with users := s.users.update user (fun u => { u with updatedAt := now }) (fun _ => rfl) }

/-- Set a new password by a reset token.  All reset tokens of the user are used up and all their
sessions revoked. -/
def resetPassword (s : Store) (tokenHash newHash : String) (now : Instant) :
    ResetPasswordOutcome × Store :=
  match s.verificationToken? tokenHash .passwordReset with
  | none => (.invalidToken, s)
  | some token =>
    if token.isConsumed then (.invalidToken, s)
    else if token.isExpired now then (.expired, s)
    else
      match s.users.get? token.user with
      | none => (.userInactive, s)
      | some user =>
        if user.status ≠ .active then (.userInactive, s)
        else
          let s := s.touchUser token.user now
          let s := { s with passwords := s.passwords.insert ⟨token.user, newHash⟩ }
          let s := s.consumeResetTokens token.user now
          let (revoked, s) := s.revokeAll token.user none .passwordReset now
          (.reset token.user revoked, s)

def consumeToken (s : Store) (token : Uuid) (now : Instant) : Store :=
  { s with
    verificationTokens := s.verificationTokens.update token
      (fun t => { t with consumedAt := some now }) (fun _ => rfl) }

/-- Note that the address of a user has been verified. -/
def markVerified (s : Store) (user : UserId) (now : Instant) : Store :=
  { s with
    users := s.users.update user
      (fun u => { u with emailVerifiedAt := some now, updatedAt := now }) (fun _ => rfl) }

/-- Verify the address of a user by a token, which is used up even if the address has been
verified before. -/
def verifyEmail (s : Store) (tokenHash : String) (now : Instant) : VerifyEmailOutcome × Store :=
  match s.verificationToken? tokenHash .emailVerification with
  | none => (.invalidToken, s)
  | some token =>
    if token.isConsumed then (.invalidToken, s)
    else if token.isExpired now then (.expired, s)
    else
      match s.users.get? token.user with
      | none => (.invalidToken, s)
      | some user =>
        if user.status = .deleted then (.invalidToken, s)
        else if user.emailVerified then
          (.alreadyVerified token.user, s.consumeToken token.id now)
        else
          (.verified token.user, (s.markVerified token.user now).consumeToken token.id now)

/-- Set a new password if the stored hash is still the expected one, and revoke all sessions of
the user but the one to keep.  The user counts as changed before the hashes are compared. -/
def changePassword (s : Store) (user : UserId) (expectedHash newHash : String)
    (keep : Option SessionId) (now : Instant) : ChangePasswordOutcome × Store :=
  match s.users.get? user with
  | none => (.userNotFound, s)
  | some u =>
    if u.status = .deleted then (.userNotFound, s)
    else
      let s := s.touchUser user now
      if s.passwordHash? user ≠ some expectedHash then (.credentialChanged, s)
      else
        let s := { s with passwords := s.passwords.insert ⟨user, newHash⟩ }
        let (revoked, s) := s.revokeAll user keep .passwordChanged now
        (.changed revoked, s)

end AccountAuthority.Store
