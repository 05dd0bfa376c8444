import AccountAuthority.Account.ExternalIdentity
import AccountAuthority.Jwt.Basic

/-!
# Identity tokens of external providers

Each configured provider has one pinned key, an issuer and an audience.  A token that passes
names a subject of the provider, and perhaps an address and whether the provider has verified it.
-/

namespace AccountAuthority

/-- What a provider says about someone. -/
structure ProviderIdentity where
  provider : String
  subject : String
  email : Option String
  emailVerified : Bool
  deriving DecidableEq, Repr

/-- Of the check of an identity token. -/
inductive OidcVerification where
  | notConfigured
  | invalid
  | verified (identity : ProviderIdentity)
  deriving DecidableEq, Repr

structure OidcProvider where
  name : String
  issuer : String
  audience : String
  key : Jwt.KeyFile
  deriving DecidableEq, Repr

/-- A provider whose key has been read. -/
structure PinnedProvider where
  /-- The name in normal form. -/
  name : String
  expectation : Jwt.Expectation
  /-- The encoding of the key. -/
  key : Bytes

/-- The providers whose tokens are accepted; of two with one name the later counts. -/
structure OidcVerifier where
  providers : List PinnedProvider

/-- What an identity token says. -/
structure IdClaims where
  subject : String
  email : Option String
  emailVerified : Bool
  deriving DecidableEq, Repr

namespace IdClaims

/-- A truth value, or a text that is `true` in any case if it is to hold. -/
def flag? : Json → Option Bool
  | .bool b => some b
  | .str s => some (s.map Char.toLower == "true")
  | _ => none

/-- A flag that may be missing, but not `null`. -/
def flagField? (j : Json) (name : String) : Option Bool := do
  match ← j.members? [name] with
  | [none] => some false
  | [some value] => flag? value
  | _ => none

def ofJson? (j : Json) : Option IdClaims := do
  some {
    subject := ← Jwt.field? j "sub" Json.text?
    email := ← Jwt.optionalField? j "email" Json.text?
    emailVerified := ← flagField? j "email_verified" }

end IdClaims

namespace OidcVerifier

/-- A provider with its key read. -/
def pin (p : OidcProvider) : Except String PinnedProvider := do
  let text ← p.key.read ("OIDC key for " ++ p.name)
  match Jwt.keyContent? text with
  | none => .error ("Failed to parse OIDC key for " ++ p.name ++ ": " ++ Jwt.keyFormatMessage)
  | some key => .ok ⟨normalizeProvider p.name, ⟨p.issuer, some p.audience⟩, key⟩

/-- The verifier for providers, unless the key of one cannot be read. -/
def create (providers : List OidcProvider) : Except String OidcVerifier := do
  .ok ⟨(← providers.mapM pin).reverse⟩

def verify (v : OidcVerifier) (provider token : String) (now : Instant) : OidcVerification :=
  let name := normalizeProvider provider
  match v.providers.find? fun p => p.name = name with
  | none => .notConfigured
  | some p =>
    match Jwt.decode (Rsa.PublicKey.ofDer? p.key) p.expectation now IdClaims.ofJson? token with
    | .error _ => .invalid
    | .ok claims => .verified ⟨name, claims.subject, claims.email, claims.emailVerified⟩

end OidcVerifier

end AccountAuthority
