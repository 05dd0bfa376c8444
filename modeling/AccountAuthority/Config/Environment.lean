import AccountAuthority.Code
import AccountAuthority.Text.Casing

/-!
# Where the authority runs

In production nothing is left to defaults.
-/

namespace AccountAuthority

inductive Environment where
  | dev
  | prod
  deriving DecidableEq, Repr

instance : Coded Environment where
  values := [.dev, .prod]
  code
    | .dev => "dev"
    | .prod => "prod"
  noun := "environment"

/-- The environment with a code in any case, or a message. -/
def Environment.read (s : String) : Except String Environment :=
  match Coded.ofCode? (Text.lowercase s) with
  | some e => .ok e
  | none => .error (Coded.invalidMessage Environment s)

end AccountAuthority
