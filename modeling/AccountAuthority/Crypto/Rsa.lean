import AccountAuthority.Crypto.Der
import AccountAuthority.Crypto.Sha2

/-!
# RSA signatures

Signatures with padding of PKCS #1 version 1.5 over SHA-256, and the encodings of keys.  Keys of
fewer than 2048 bits neither sign nor verify.
-/

namespace AccountAuthority.Rsa

structure PublicKey where
  modulus : Nat
  exponent : Nat
  deriving DecidableEq, Repr

/-- A private key with what the remainder theorem needs. -/
structure PrivateKey where
  modulus : Nat
  publicExponent : Nat
  exponent : Nat
  primes : Nat × Nat
  /-- The exponent modulo the primes less one. -/
  exponents : Nat × Nat
  /-- The inverse of the second prime modulo the first. -/
  coefficient : Nat

def powMod (m b e : Nat) : Nat :=
  if e = 0 then 1 % m
  else
    let rest := powMod m (b * b % m) (e / 2)
    if e % 2 = 1 then rest * b % m else rest
termination_by e

def bitLength (n : Nat) : Nat :=
  if n = 0 then 0 else n.log2 + 1

/-- The least and the greatest number of bits of a modulus that signs. -/
def signingBits : Nat × Nat := (2048, 4096)

/-- The greatest number of bits of a modulus that verifies. -/
def verifyingBits : Nat := 8192

def byteLength (modulus : Nat) : Nat :=
  (bitLength modulus + 7) / 8

/-- What names SHA-256 in front of a digest. -/
def digestHeader : Bytes :=
  [0x30, 0x31, 0x30, 0x0d, 0x06, 0x09, 0x60, 0x86, 0x48, 0x01, 0x65, 0x03, 0x04, 0x02, 0x01, 0x05,
    0x00, 0x04, 0x20]

/-- The padded digest of a message, of a number of bytes. -/
def padded (length : Nat) (message : Bytes) : Bytes :=
  let info := digestHeader ++ sha256 message
  [0x00, 0x01] ++ List.replicate (length - info.length - 3) 0xff ++ 0x00 :: info

/-- Whether the bytes sign a message. -/
def PublicKey.verifies (k : PublicKey) (message signature : Bytes) : Bool :=
  let length := byteLength k.modulus
  let s := Bytes.toNat signature
  signingBits.1 ≤ bitLength k.modulus && bitLength k.modulus ≤ verifyingBits &&
    k.exponent % 2 = 1 && 3 ≤ k.exponent &&
    signature.length = length && s < k.modulus &&
    Bytes.ofNat length (powMod k.modulus s k.exponent) == padded length message

def PrivateKey.sign (k : PrivateKey) (message : Bytes) : Bytes :=
  let length := byteLength k.modulus
  let m := Bytes.toNat (padded length message)
  let (p, q) := k.primes
  let a := powMod p (m % p) k.exponents.1
  let b := powMod q (m % q) k.exponents.2
  let h := (a + p - b % p) * k.coefficient % p
  Bytes.ofNat length (b + h * q)

/-- The last coefficient of the Euclidean algorithm, by which the first number has to be multiplied
to leave the greatest common divisor modulo the second. -/
def bezout (r₀ r₁ : Nat) (s₀ s₁ : Int) : Int :=
  if r₁ = 0 then s₀ else bezout r₁ (r₀ % r₁) s₁ (s₀ - (r₀ / r₁ : Nat) * s₁)
termination_by r₁
decreasing_by exact Nat.mod_lt _ (by omega)

/-- The inverse of `a` modulo `m`, when they have no common factor. -/
def inverseMod (a m : Nat) : Nat :=
  (bezout (a % m) m 1 0 % m).toNat

/-- The private key with two primes and a public exponent. -/
def PrivateKey.ofPrimes (p q publicExponent : Nat) : PrivateKey :=
  let exponent := inverseMod publicExponent (Nat.lcm (p - 1) (q - 1))
  { modulus := p * q
    publicExponent
    exponent
    primes := (p, q)
    exponents := (exponent % (p - 1), exponent % (q - 1))
    coefficient := inverseMod q p }

def PrivateKey.toPublic (k : PrivateKey) : PublicKey :=
  ⟨k.modulus, k.publicExponent⟩

/-! ## Encodings -/

/-- The public key with an encoding of its two numbers. -/
def PublicKey.ofDer? (bs : Bytes) : Option PublicKey :=
  match Der.decode? bs with
  | some [.sequence [.integer modulus, .integer exponent]] => some ⟨modulus, exponent⟩
  | _ => none

def PublicKey.toDer (k : PublicKey) : Bytes :=
  Der.encode (.sequence [.integer k.modulus, .integer k.exponent])

/-- Why a private key cannot be used. -/
inductive KeyError where
  | invalidEncoding
  | versionNotSupported
  | tooSmall
  | tooLarge
  | inconsistentComponents
  deriving DecidableEq, Repr

def KeyError.message : KeyError → String
  | invalidEncoding => "InvalidEncoding"
  | versionNotSupported => "VersionNotSupported"
  | tooSmall => "TooSmall"
  | tooLarge => "TooLarge"
  | inconsistentComponents => "InconsistentComponents"

/-- The private key with an encoding of its nine numbers. -/
def PrivateKey.ofDer (bs : Bytes) : Except KeyError PrivateKey :=
  match Der.decode? bs with
  | some [.sequence (.integer version :: items)] =>
    if 256 ≤ version then .error .invalidEncoding
    else if version ≠ 0 then .error .versionNotSupported
    else
      match items with
      | [.integer n, .integer e, .integer d, .integer p, .integer q, .integer dp, .integer dq,
          .integer qi] =>
        if bitLength n < signingBits.1 then .error .tooSmall
        else if signingBits.2 < bitLength n then .error .tooLarge
        else if p * q ≠ n then .error .inconsistentComponents
        else .ok ⟨n, e, d, (p, q), (dp, dq), qi⟩
      | _ => .error .invalidEncoding
  | _ => .error .invalidEncoding

def PrivateKey.toDer (k : PrivateKey) : Bytes :=
  Der.encode (.sequence (.integer 0 :: [k.modulus, k.publicExponent, k.exponent, k.primes.1,
    k.primes.2, k.exponents.1, k.exponents.2, k.coefficient].map .integer))

/-- The object identifier of RSA keys. -/
def rsaOid : Bytes := [0x2a, 0x86, 0x48, 0x86, 0xf7, 0x0d, 0x01, 0x01, 0x01]

/-- The object identifier of keys on elliptic curves. -/
def ecOid : Bytes := [0x2a, 0x86, 0x48, 0xce, 0x3d, 0x02, 0x01]

/-- The object identifier of Edwards keys. -/
def edwardsOid : Bytes := [0x2b, 0x65, 0x70]

/-- What names the algorithm of an RSA key. -/
def algorithm : Der :=
  .sequence [.oid rsaOid, .null]

/-- A public key together with the name of its algorithm. -/
def wrapPublic (content : Bytes) : Bytes :=
  Der.encode (.sequence [algorithm, .bits 0 content])

def wrapPrivate (content : Bytes) : Bytes :=
  Der.encode (.sequence [.integer 0, algorithm, .octets content])

end AccountAuthority.Rsa
