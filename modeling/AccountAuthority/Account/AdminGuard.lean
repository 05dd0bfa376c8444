import AccountAuthority.Account.User

/-!
# The last administrator

No change may leave the authority without an active administrator.  The guard is given all active
administrators, before one of them is demoted, suspended or deleted.
-/

namespace AccountAuthority

/-- Whether a change that takes the target out of the active administrators may go on. -/
inductive AdminGuard where
  | allowed
  | blockedLastAdmin
  deriving DecidableEq, Repr

/-- The change is blocked when the target is the only active administrator. -/
def AdminGuard.evaluate (activeAdmins : List UserId) (target : UserId) : AdminGuard :=
  if activeAdmins.length ≤ 1 ∧ target ∈ activeAdmins then .blockedLastAdmin else .allowed

end AccountAuthority
