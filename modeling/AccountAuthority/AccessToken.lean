import AccountAuthority.Jwt.Basic
import AccountAuthority.Time.Rfc3339
import AccountAuthority.Uuid

/-!
# Access tokens

A short-lived signed token that tells other services who the user is.  Its issuer holds a private
key and publishes the public key that goes with it.
-/

namespace AccountAuthority

/-- What an access token is asked to say. -/
structure AccessRequest where
  user : Uuid
  session : Uuid
  emailVerified : Bool
  roles : List String
  ttlSeconds : Int
  deriving DecidableEq, Repr

/-- What an access token says. -/
structure AccessClaims where
  subject : String
  session : String
  emailVerified : Bool
  roles : List String
  issuer : String
  expiresAt : Int
  issuedAt : Int
  tokenId : String
  deriving DecidableEq, Repr

namespace AccessClaims

def fields (c : AccessClaims) : List (String × Json) := [
  ("sub", .str c.subject),
  ("sid", .str c.session),
  ("email_verified", .bool c.emailVerified),
  ("roles", .arr (c.roles.map .str)),
  ("iss", .str c.issuer),
  ("exp", .int c.expiresAt),
  ("iat", .int c.issuedAt),
  ("jti", .str c.tokenId)]

def ofJson? (j : Json) : Option AccessClaims := do
  some {
    subject := ← Jwt.field? j "sub" Json.text?
    session := ← Jwt.field? j "sid" Json.text?
    emailVerified := ← Jwt.field? j "email_verified" Json.bool?
    roles := ← Jwt.field? j "roles" Jwt.texts?
    issuer := ← Jwt.field? j "iss" Json.text?
    expiresAt := ← Jwt.field? j "exp" Json.int64?
    issuedAt := ← Jwt.field? j "iat" Json.int64?
    tokenId := ← Jwt.field? j "jti" Json.text? }

end AccessClaims

/-- What signs access tokens. -/
structure AccessIssuer where
  /-- The encoding of the private key, which is not looked at before something is signed. -/
  privateKey : Bytes
  publicKey : Rsa.PublicKey
  /-- The encoding of the public key as it is used to check signatures. -/
  checkingKey : Bytes
  keyId : String
  issuer : String

namespace AccessIssuer

/-- The issuer with the given key files. -/
def create (privateFile publicFile : Jwt.KeyFile) (keyId issuer : String) :
    Except String AccessIssuer := do
  let privateText ← privateFile.read "private key"
  match Jwt.keyContent? privateText with
  | none => .error ("Failed to parse private key: " ++ Jwt.keyFormatMessage)
  | some privateKey =>
    let publicText ← publicFile.read "public key"
    match Jwt.keyContent? publicText with
    | none => .error ("Failed to parse public key: " ++ Jwt.keyFormatMessage)
    | some checkingKey =>
      match Jwt.publicKey? publicText with
      | none => .error "Failed to decode RSA public key"
      | some publicKey => .ok { privateKey, publicKey, checkingKey, keyId, issuer }

def publishedKeys (i : AccessIssuer) : List Jwt.PublishedKey :=
  [⟨i.keyId, i.publicKey⟩]

/-- The claims of a token for a request; the identifier of the token is `tokenId`. -/
def claims (i : AccessIssuer) (r : AccessRequest) (tokenId : Uuid) (now : Instant) :
    AccessClaims where
  subject := toString r.user
  session := toString r.session
  emailVerified := r.emailVerified
  roles := r.roles
  issuer := i.issuer
  expiresAt := (now + Span.seconds r.ttlSeconds).seconds
  issuedAt := now.seconds
  tokenId := toString tokenId

def sign (i : AccessIssuer) (r : AccessRequest) (tokenId : Uuid) (now : Instant) :
    Except String String :=
  match Rsa.PrivateKey.ofDer i.privateKey with
  | .error e => .error ("Failed to encode access token: RSA key invalid: " ++ e.message)
  | .ok key => .ok (Jwt.sign key i.keyId (.obj (i.claims r tokenId now).fields))

/-- The claims of a token of this issuer, if it is accepted. -/
def validate (i : AccessIssuer) (token : String) (now : Instant) : Except String AccessClaims :=
  match Jwt.decode (Rsa.PublicKey.ofDer? i.checkingKey) ⟨i.issuer, none⟩ now AccessClaims.ofJson?
      token with
  | .ok c => .ok c
  | .error e => .error ("Invalid access token: " ++ e.message)

end AccessIssuer

end AccountAuthority
