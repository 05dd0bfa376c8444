/-!
# Passwords and what is required of them

A password is never shown.  The only rule is on its number of characters; what is wrong with the
fields of a form is told as lines of a field and a message.
-/

namespace AccountAuthority

/-- A field of a form and what is wrong with it. -/
structure FieldError where
  field : String
  message : String
  deriving DecidableEq, Repr

namespace FieldError

/-- The errors of a form as lines in alphabetical order. -/
def render (errors : List FieldError) : String :=
  "\n".intercalate ((errors.map fun e => e.field ++ ": " ++ e.message).mergeSort fun a b => a ≤ b)

end FieldError

namespace Password

/-- What stands for a password in diagnostic output. -/
def shown : String := "Password(***)"

/-- What stands for a password hash in diagnostic output. -/
def hashShown : String := "PasswordHashString(***)"

/-- The least and the greatest number of characters. -/
def lengths : Nat × Nat := (8, 128)

/-- What is wrong with a new password. -/
def policyErrors (password : String) : List FieldError :=
  if lengths.1 ≤ password.length ∧ password.length ≤ lengths.2 then []
  else [⟨"password", "Password must be between 8 and 128 characters"⟩]

end Password

end AccountAuthority
