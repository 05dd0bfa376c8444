import AccountAuthority.Password.HashText

/-!
# Hashing passwords

Passwords are hashed with a salt at a fixed cost.  A check takes everything but the password from
the stored hash, and a stored hash that cannot be read matches no password.
-/

namespace AccountAuthority

/-- A way to hash passwords and to check them. -/
structure PasswordHasher where
  /-- The stored hash of a password with a salt. -/
  hash : (salt : Bytes) → (password : String) → String
  /-- Whether a password belongs to a stored hash. -/
  verify : (password stored : String) → Bool

namespace PasswordHasher

/-- The number of bytes of a new salt. -/
def saltLength : Nat := 16

/-- Whether a password belongs to a stored hash. -/
def argon2Verify (password stored : String) : Bool :=
  match (HashText.parse? stored).bind fun h => h.input? password with
  | some (input, expected) => Argon2.hash input == expected
  | none => false

def argon2Hash (cost : Argon2.Cost) (salt : Bytes) (password : String) : String :=
  let hash := Argon2.hash
    { kind := .mixed, version := 19, cost, password := Bytes.ofString password, salt, length := 32 }
  HashText.front cost ++ "$" ++ Base64.unpadded.encode salt ++ "$" ++ Base64.unpadded.encode hash

/-- The hasher of a cost, unless the cost is refused. -/
def argon2 (cost : Argon2.Cost) : Except String PasswordHasher :=
  match cost.check with
  | .ok () => .ok ⟨argon2Hash cost, argon2Verify⟩
  | .error e => .error ("Invalid Argon2 parameters: " ++ e.message)

/-- Whether a password belongs to a stored hash; if nothing is stored, it does not. -/
def verifyStored (h : PasswordHasher) (password : String) : Option String → Bool
  | some stored => h.verify password stored
  | none => false

end PasswordHasher

end AccountAuthority
