import AccountAuthority.Json.Double
import AccountAuthority.Json.Parser
import AccountAuthority.Json.Printer
import AccountAuthority.Jwt.Key
import AccountAuthority.Text.Split
import AccountAuthority.Time.Instant

/-!
# Signed tokens

A token is a header, claims and a signature, each in base 64 and separated by dots.  Tokens are
signed with RS256 only.  A token is accepted when its signature is right, its claims can be read,
it has not run out, and its issuer and audience, as far as it names them, are the expected ones.
-/

namespace AccountAuthority.Jwt

open Rsa

/-- Why a token is refused. -/
inductive TokenError where
  | malformed
  | base64
  | json
  | invalidAlgorithm
  | invalidSignature
  | missingExpiry
  | expired
  | invalidIssuer
  | invalidAudience
  deriving DecidableEq, Repr

def TokenError.message : TokenError → String
  | malformed => "InvalidToken"
  | base64 => "Base64 error"
  | json => "JSON error"
  | invalidAlgorithm => "InvalidAlgorithm"
  | invalidSignature => "InvalidSignature"
  | missingExpiry => "Missing required claim: exp"
  | expired => "ExpiredSignature"
  | invalidIssuer => "InvalidIssuer"
  | invalidAudience => "InvalidAudience"

/-! ## Signing -/

def encodePart (j : Json) : String :=
  Base64.url.encode (Bytes.ofString j.render)

/-- The header of a token signed with the key `keyId`. -/
def header (keyId : String) : Json :=
  .obj [("typ", .str "JWT"), ("alg", .str "RS256"), ("kid", .str keyId)]

def sign (key : PrivateKey) (keyId : String) (claims : Json) : String :=
  let message := encodePart (header keyId) ++ "." ++ encodePart claims
  message ++ "." ++ Base64.url.encode (key.sign (Bytes.ofString message))

/-! ## Reading -/

/-- The names of the algorithms that a header may name. -/
def algorithms : List String :=
  ["HS256", "HS384", "HS512", "ES256", "ES384", "RS256", "RS384", "RS512", "PS256", "PS384",
    "PS512", "EdDSA"]

/-- The value of a field that may be missing or `null`, unless it is repeated or `read` refuses
it. -/
def optionalField? {α : Type} (j : Json) (name : String) (read : Json → Option α) :
    Option (Option α) := do
  match ← j.members? [name] with
  | [value] => Json.optional? read value
  | _ => none

/-- The value of a field, unless it is missing, repeated or `read` refuses it. -/
def field? {α : Type} (j : Json) (name : String) (read : Json → Option α) : Option α := do
  match ← j.members? [name] with
  | [some value] => read value
  | _ => none

def texts? : Json → Option (List String)
  | .arr items => items.mapM Json.text?
  | _ => none

/-- A text out of a list. -/
def oneOf? (known : List String) (j : Json) : Option String :=
  j.text?.filter known.contains

def curves : List String := ["P-256", "P-384", "P-521", "Ed25519"]

def keyAlgorithms : List String := algorithms ++ ["RSA1_5", "RSA-OAEP", "RSA-OAEP-256"]

/-- The numbers that a key of a type is made of. -/
def keyNumbers? (type : String) : Option (List String) :=
  match type with
  | "EC" => some ["x", "y"]
  | "RSA" => some ["n", "e"]
  | "oct" => some ["k"]
  | "OKP" => some ["x"]
  | _ => none

/-- The type of a key that a header carries along, if the key can be read.  The key is not used. -/
def headerKey? (j : Json) : Option String := do
  let type ← field? j "kty" Json.text?
  let _ ← (← keyNumbers? type).mapM fun name => field? j name Json.text?
  if type = "EC" ∨ type = "OKP" then
    let _ ← field? j "crv" (oneOf? curves)
  let _ ← ["use", "kid", "x5u", "x5t", "x5t#S256"].mapM fun name => optionalField? j name Json.text?
  let _ ← ["key_ops", "x5c"].mapM fun name => optionalField? j name texts?
  let _ ← optionalField? j "alg" (oneOf? keyAlgorithms)
  some type

/-- The names of the fields of a header, in their order. -/
def headerFields : List String :=
  ["typ", "alg", "cty", "jku", "jwk", "kid", "x5u", "x5c", "x5t", "x5t#S256"]

/-- The name of an algorithm, alone or as the only field of an object. -/
def algorithm? : Json → Option String
  | .obj [(name, .null)] => oneOf? algorithms (.str name)
  | j => oneOf? algorithms j

/-- The algorithm that a header names, if the header can be read. -/
def headerAlgorithm? (j : Json) : Option String := do
  match ← j.members? headerFields with
  | [typ, some alg, cty, jku, jwk, kid, x5u, x5c, x5t, x5t256] =>
    let _ ← [typ, cty, jku, kid, x5u, x5t, x5t256].mapM (Json.optional? Json.text?)
    let _ ← Json.optional? texts? x5c
    let _ ← Json.optional? headerKey? jwk
    algorithm? alg
  | _ => none

/-- The JSON value of a part. -/
def decodePart (part : List Char) : Except TokenError Json :=
  match Base64.url.decodeChars? part with
  | none => .error .base64
  | some bs =>
    match (Bytes.toString? bs).bind Json.parse? with
    | none => .error .json
    | some j => .ok j

/-- What a claim of a registered name holds. -/
inductive Claim (α : Type) where
  | absent
  | unreadable
  | value (a : α)

/-- A number of seconds between 0 and 2^64.  A decimal is read as a double before its fraction is
rounded. -/
def seconds? : Json → Option Nat
  | .int n => if 0 ≤ n ∧ n < UInt64.size then some n.toNat else none
  | .decimal mantissa exponent => do
    let x ← Json.double? mantissa exponent
    if 0 ≤ x ∧ x < 18446744073709551616 then some (Json.nearest x) else none
  | _ => none

/-- A claim that holds an instant.  A list or record that is not empty spoils the whole token. -/
def timeClaim (value : Option Json) : Except TokenError (Claim Nat) :=
  match value with
  | none => .ok .absent
  | some (.arr (_ :: _)) | some (.obj (_ :: _)) => .error .json
  | some j =>
    match seconds? j with
    | some n => .ok (.value n)
    | none => .ok .unreadable

/-- A claim that holds a name or a list of names. -/
def namesClaim (value : Option Json) : Claim (List String) :=
  match value with
  | none | some .null => .absent
  | some (.str s) => .value [s]
  | some j =>
    match texts? j with
    | some names => .value names
    | none => .unreadable

/-- What is expected of a token. -/
structure Expectation where
  issuer : String
  /-- Without an expected audience, a token may not name one. -/
  audience : Option String

/-- The number of seconds by which clocks may differ. -/
def leeway : Nat := 60

/-- Check the registered claims at an instant. -/
def validate (e : Expectation) (now : Instant) (claims : Json) : Except TokenError Unit := do
  match claims.members? ["exp", "nbf", "sub", "iss", "aud"] with
  | some [exp, nbf, _, iss, aud] =>
    let exp ← timeClaim exp
    let _ ← timeClaim nbf
    match exp with
    | .value t => if (t : Int) < now.seconds - leeway then .error .expired
    | _ => .error .missingExpiry
    match namesClaim iss with
    | .value names => if ¬names.contains e.issuer then .error .invalidIssuer
    | _ => .ok ()
    match namesClaim aud, e.audience with
    | .value _, none => .error .invalidAudience
    | .value names, some audience => if ¬names.contains audience then .error .invalidAudience
    | _, _ => .ok ()
  | _ => .error .json

/-- The claims of a token, of which `read` takes what is needed, if the token is accepted. -/
def decode {α : Type} (key : Option PublicKey) (e : Expectation) (now : Instant)
    (read : Json → Option α) (token : String) : Except TokenError α := do
  match Text.splitLast? '.' token.toList with
  | none => .error .malformed
  | some (message, signature) =>
    match Text.splitLast? '.' message with
    | none => .error .malformed
    | some (head, body) =>
      match headerAlgorithm? (← decodePart head) with
      | none => .error .json
      | some algorithm =>
        if algorithm ≠ "RS256" then .error .invalidAlgorithm
        else
          match Base64.url.decodeChars? signature with
          | none => .error .base64
          | some signature =>
            let verified : Bool := match key with
              | some key => key.verifies (Bytes.ofString (String.ofList message)) signature
              | none => false
            if ¬verified then .error .invalidSignature
            else
              let claims ← decodePart body
              match read claims with
              | none => .error .json
              | some value =>
                validate e now claims
                .ok value

end AccountAuthority.Jwt
