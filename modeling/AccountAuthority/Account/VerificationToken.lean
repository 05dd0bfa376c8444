import AccountAuthority.Account.User

/-!
# Verification tokens

Single-use tokens that are sent to the address of an account.  Only a keyed hash of the token is
kept.
-/

namespace AccountAuthority

inductive TokenPurpose where
  | emailVerification
  | passwordReset
  deriving DecidableEq, Repr

instance : Coded TokenPurpose where
  values := [.emailVerification, .passwordReset]
  code
    | .emailVerification => "EMAIL_VERIFICATION"
    | .passwordReset => "PASSWORD_RESET"
  noun := "token purpose"

/-- A token that was sent to a user. -/
structure VerificationToken where
  id : Uuid
  user : UserId
  purpose : TokenPurpose
  hash : String
  expiresAt : Instant
  consumedAt : Option Instant := none
  createdAt : Instant
  deriving DecidableEq, Repr

instance : Keyed VerificationToken Uuid := ⟨VerificationToken.id⟩

namespace VerificationToken

/-- Whether the token can no longer be used at an instant; its expiry is the first such. -/
def isExpired (t : VerificationToken) (now : Instant) : Bool :=
  t.expiresAt ≤ now

def isConsumed (t : VerificationToken) : Bool :=
  t.consumedAt.isSome

def fields (t : VerificationToken) : List (String × Json) := [
  ("user", t.user.toJson),
  ("purpose", .str (code t.purpose)),
  ("expiry_utc", t.expiresAt.toJson),
  ("consumed_utc", Instant.optionToJson t.consumedAt),
  ("created_utc", t.createdAt.toJson)]

end VerificationToken

end AccountAuthority
