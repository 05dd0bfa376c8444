import AccountAuthority.Store.Accounts
import AccountAuthority.Store.Lifecycle
import AccountAuthority.Store.Sessions

/-!
# The store as a repository

Every request to the repository is one step of the store.
-/

namespace AccountAuthority.Store

/-- Perform a request: its answer and the store afterwards. -/
def perform (r : RepositoryRequest) (fresh : FreshIds) (s : Store) : r.Answer × Store :=
  match r with
  | .ping => ((), s)
  | .createUser user hash => s.createUser user hash
  | .findLogin email => (s.findLogin email, s)
  | .findCredentials user => (s.findCredentials user, s)
  | .findUser user => (s.users.get? user, s)
  | .findExternalUser provider subject => (s.findExternalUser provider subject, s)
  | .createExternalUser user identity => s.createExternalUser user identity
  | .linkIdentity identity => s.linkIdentity identity
  | .storeVerificationToken token => ((), s.storeVerificationToken token)
  | .resetPassword hash newHash now => s.resetPassword hash newHash now
  | .verifyEmail hash now => s.verifyEmail hash now
  | .changePassword user expected new keep now => s.changePassword user expected new keep now
  | .createSession session token now => s.createSession session token now
  | .findRefreshContext hash => (s.findRefreshContext hash, s)
  | .rotate rotation => s.rotate rotation fresh.token
  | .revokeByToken hash reason now => s.revokeByToken hash reason now
  | .revokeSession user session reason now => s.revokeSession user session reason now
  | .revokeDevice user device reason now => s.revokeDevice user device reason now
  | .listSessions user now => (s.listSessions user now, s)
  | .setPushToken user session token platform now => s.setPushToken user session token platform now
  | .changeRole actor target role now => s.changeRole actor target role now fresh
  | .changeStatus actor target status reason now =>
    s.changeStatus actor target status reason now fresh
  | .requestDeletion actor target scheduledFor now =>
    s.requestDeletion actor target scheduledFor now fresh
  | .cancelDeletion actor target now => s.cancelDeletion actor target now fresh
  | .finalizeDeletion user trace now => s.finalizeDeletion user trace now fresh
  | .listAudit target => (s.listAudit target, s)

end AccountAuthority.Store
