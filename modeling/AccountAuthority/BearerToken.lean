import AccountAuthority.Crypto.Base64
import AccountAuthority.Crypto.Sha2

/-!
# Bearer tokens

Refresh and verification tokens are random and say nothing.  They are kept as codes under a secret
key, so that what is kept cannot be presented.
-/

namespace AccountAuthority.BearerToken

/-- The number of random bytes of a token. -/
def length : Nat := 32

def ofBytes (bytes : Bytes) : String :=
  Base64.url.encode bytes

/-- What is kept of a token. -/
def hash (secret token : String) : String :=
  (hmacSha256 (Bytes.ofString secret) (Bytes.ofString token)).toHex

end AccountAuthority.BearerToken
