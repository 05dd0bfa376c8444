import AccountAuthority.Account.User

/-!
# External identities

A subject of an identity provider that has been bound to a user.
-/

namespace AccountAuthority

/-- The form in which the names of providers are stored and looked up. -/
def normalizeProvider (provider : String) : String :=
  Text.lowercase (Text.trim provider)

/-- A subject of a provider and the user it belongs to. -/
structure ExternalIdentity where
  id : Uuid
  provider : String
  subject : String
  user : UserId
  emailSnapshot : Option String
  createdAt : Instant
  deriving DecidableEq, Repr

namespace ExternalIdentity

/-- A new binding; the name of the provider is put into normal form. -/
def create (id : Uuid) (provider subject : String) (user : UserId) (emailSnapshot : Option String)
    (now : Instant) : ExternalIdentity where
  id := id
  provider := normalizeProvider provider
  subject := subject
  user := user
  emailSnapshot := emailSnapshot
  createdAt := now

def fields (i : ExternalIdentity) : List (String × Json) := [
  ("provider", .str i.provider),
  ("subject", .str i.subject),
  ("user", i.user.toJson),
  ("email_snapshot", .ofText? i.emailSnapshot),
  ("created_utc", i.createdAt.toJson)]

end ExternalIdentity

end AccountAuthority
