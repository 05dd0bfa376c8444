import AccountAuthority.Account.ExternalIdentity
import AccountAuthority.Account.VerificationToken
import AccountAuthority.Repository.Outcome

/-!
# The store

All records of the authority as one value, and the changes that several operations share: the
revocation of a session with its tokens, and that of the sessions of a user.
-/

namespace AccountAuthority

/-- The password hash of a user. -/
structure StoredPassword where
  user : UserId
  hash : String
  deriving DecidableEq, Repr

instance : Keyed StoredPassword UserId := ⟨StoredPassword.user⟩

/-- The identifiers that an operation may give to the records it makes. -/
structure FreshIds where
  token : TokenId
  event : Uuid
  nextEvent : Uuid
  deriving DecidableEq, Repr

/-- All records of the authority. -/
structure Store where
  users : Table User := ∅
  passwords : Table StoredPassword := ∅
  identities : List ExternalIdentity := []
  sessions : Table Session := ∅
  tokens : Table RefreshToken := ∅
  verificationTokens : Table VerificationToken := ∅
  audit : List AuditEvent := []

namespace Store

def empty : Store := {}

instance : Inhabited Store := ⟨empty⟩

/-- The user with an address in normal form. -/
def userByEmail? (s : Store) (email : String) : Option User :=
  s.users.find? fun u => u.email = email

def emailTaken (s : Store) (email : String) : Bool :=
  s.users.rows.any fun u => u.email = email

/-- The users that can administrate right now. -/
def activeAdmins (s : Store) : List UserId :=
  (s.users.rows.filter User.isActiveAdmin).map User.id

def passwordHash? (s : Store) (user : UserId) : Option String :=
  (s.passwords.get? user).map StoredPassword.hash

def identity? (s : Store) (provider subject : String) : Option ExternalIdentity :=
  s.identities.find? fun i => i.provider = provider && i.subject = subject

def tokenByHash? (s : Store) (hash : String) : Option RefreshToken :=
  s.tokens.find? fun t => t.hash = hash

def verificationToken? (s : Store) (hash : String) (purpose : TokenPurpose) :
    Option VerificationToken :=
  s.verificationTokens.find? fun t => t.hash = hash && t.purpose = purpose

/-- The session that holds an active key. -/
def sessionByKey? (s : Store) (key : String) : Option Session :=
  s.sessions.find? fun x => x.activeKey = some key

/-- Put in a user with or without a password, replacing what was there. -/
def insertUser (s : Store) (user : User) (passwordHash : Option String) : Store :=
  { s with
    users := s.users.insert user
    passwords := match passwordHash with
      | some hash => s.passwords.insert ⟨user.id, hash⟩
      | none => s.passwords }

/-- Add an entry to the audit trail. -/
def record (s : Store) (event : AuditEvent) : Store :=
  { s with audit := s.audit ++ [event] }

/-- Revoke the sessions that satisfy `p`, and their unrevoked tokens. -/
def revokeWhere (s : Store) (p : Session → Bool) (reason : RevocationReason) (now : Instant) :
    Store :=
  { s with
    sessions := s.sessions.map (fun x => if p x then x.revoke reason now else x)
      (by intro x; split <;> rfl)
    tokens := s.tokens.map
      (fun t =>
        if t.revokedAt = none ∧ s.sessions.rows.any fun x => p x && x.id = t.session then
          { t with revokedAt := some now }
        else t)
      (by intro t; split <;> rfl) }

/-- Revoke a session and its unrevoked tokens.  Nothing happens, and the answer is `false`, when
there is no such session or it has been revoked before. -/
def revoke (s : Store) (session : SessionId) (reason : RevocationReason) (now : Instant) :
    Bool × Store :=
  match s.sessions.get? session with
  | none => (false, s)
  | some x =>
    if x.isRevoked then (false, s)
    else (true, s.revokeWhere (fun x => x.id = session) reason now)

/-- Revoke sessions one after the other; the answer is the number of those that have been revoked
by this. -/
def revokeEach (s : Store) (reason : RevocationReason) (now : Instant) :
    List SessionId → Nat × Store
  | [] => (0, s)
  | id :: ids =>
    let (revoked, s) := s.revoke id reason now
    let (n, s) := s.revokeEach reason now ids
    (if revoked then n + 1 else n, s)

/-- The sessions of a user that are not revoked yet, but for one. -/
def unrevoked (s : Store) (user : UserId) (except : Option SessionId) : List Session :=
  s.sessions.rows.filter fun x => x.user = user && !x.isRevoked && some x.id ≠ except

/-- Revoke the unrevoked sessions of a user, but for one; the answer is their number. -/
def revokeAll (s : Store) (user : UserId) (except : Option SessionId) (reason : RevocationReason)
    (now : Instant) : Nat × Store :=
  s.revokeEach reason now ((s.unrevoked user except).map Session.id)

end Store

end AccountAuthority
