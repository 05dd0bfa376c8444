import AccountAuthority.Crypto.Pem
import AccountAuthority.Crypto.Rsa

/-!
# Keys for signed tokens

Keys come as PEM text, either bare or wrapped together with the name of their algorithm.
-/

namespace AccountAuthority.Jwt

open Rsa

/-- The encoding of an RSA key in a PEM text.  Whether the key is public or private is not looked
at. -/
def keyContent? (text : String) : Option Bytes := do
  let pem ← Pem.parse? text
  let tree ← Der.decode? pem.content
  if pem.label = "RSA PRIVATE KEY" ∨ pem.label = "RSA PUBLIC KEY" then some pem.content
  else if pem.label = "PRIVATE KEY" ∨ pem.label = "PUBLIC KEY" ∨ pem.label = "CERTIFICATE" then
    if Der.firstOidOf? [ecOid, rsaOid, edwardsOid] tree = some rsaOid then Der.firstStringOf? tree
    else none
  else none

/-- What is said of a text that holds no RSA key. -/
def keyFormatMessage : String := "InvalidKeyFormat"

/-- The public key of a PEM text, bare or wrapped. -/
def publicKey? (text : String) : Option PublicKey := do
  let pem ← Pem.parse? text
  if pem.label = "RSA PUBLIC KEY" then PublicKey.ofDer? pem.content
  else if pem.label = "PUBLIC KEY" then
    match Der.decode? pem.content with
    | some [.sequence [.sequence [.oid name, .null], .bits 0 content]] =>
      if name = rsaOid then PublicKey.ofDer? content else none
    | _ => none
  else none

/-- What stands for a key file: its text, or the path of a file that does not exist. -/
inductive KeyFile where
  | text (s : String)
  | missing (path : String)
  deriving DecidableEq, Repr

/-- The text of a key file; `kind` names the key in messages. -/
def KeyFile.read (kind : String) : KeyFile → Except String String
  | text s => .ok s
  | missing path =>
    .error ("Failed to read " ++ kind ++ " from " ++ path ++
      ": No such file or directory (os error 2)")

/-- A public key as it is published. -/
structure PublishedKey where
  id : String
  key : PublicKey
  deriving DecidableEq, Repr

def PublishedKey.toJson (k : PublishedKey) : Json :=
  .obj [
    ("kty", .str "RSA"),
    ("use", .str "sig"),
    ("alg", .str "RS256"),
    ("kid", .str k.id),
    ("n", .str (Base64.url.encode (Bytes.ofNatShortest k.key.modulus))),
    ("e", .str (Base64.url.encode (Bytes.ofNatShortest k.key.exponent)))]

def keySetToJson (keys : List PublishedKey) : Json :=
  .obj [("keys", .arr (keys.map PublishedKey.toJson))]

end AccountAuthority.Jwt
