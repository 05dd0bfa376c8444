import AccountAuthority.Proofs.Operations

/-!
# Work on sessions

What is asked of the repository about sessions and refresh tokens, and what is
only read, leaves all other records as they are.  This is said here once for all
of these operations, so that statements about accounts, identities or the audit
trail need only look at the others.
-/

namespace AccountAuthority

namespace Store

/-- Two stores differ at most in their sessions and refresh tokens. -/
structure SameAccounts (s s' : Store) : Prop where
  users : s'.users = s.users
  passwords : s'.passwords = s.passwords
  identities : s'.identities = s.identities
  verificationTokens : s'.verificationTokens = s.verificationTokens
  audit : s'.audit = s.audit

theorem SameAccounts.refl (s : Store) : SameAccounts s s :=
  ⟨rfl, rfl, rfl, rfl, rfl⟩

variable (s : Store)

theorem revoke_sameAccounts
    (id : SessionId) (reason : RevocationReason) (now : Instant) :
    SameAccounts s (s.revoke id reason now).2 := by
  unfold revoke
  repeat' split
  all_goals exact ⟨rfl, rfl, rfl, rfl, rfl⟩

theorem revokeFound_sameAccounts
    (id : SessionId) (reason : RevocationReason) (now : Instant) :
    SameAccounts s (s.revokeFound id reason now).2 := by
  have h := revoke_sameAccounts s id reason now
  unfold revokeFound
  split
  next hrevoke => rwa [hrevoke] at h
  next hrevoke => rwa [hrevoke] at h

theorem createSession_sameAccounts
    (x : Session) (t : RefreshToken) (now : Instant) :
    SameAccounts s (s.createSession x t now).2 := by
  unfold createSession
  dsimp only
  split
  next old _ =>
    obtain ⟨husers, hpasswords, hidentities, htokens, haudit⟩ :=
      revoke_sameAccounts s old .deviceReplaced now
    exact ⟨husers, hpasswords, hidentities, htokens, haudit⟩
  · exact ⟨rfl, rfl, rfl, rfl, rfl⟩

theorem rotate_sameAccounts (r : Rotation) (id : TokenId) :
    SameAccounts s (s.rotate r id).2 := by
  unfold rotate
  split
  · exact .refl s
  split
  · exact .refl s
  split
  · exact .refl s
  split
  · exact .refl s
  split
  · exact revoke_sameAccounts s _ _ _
  · exact ⟨rfl, rfl, rfl, rfl, rfl⟩

theorem revokeByToken_sameAccounts
    (hash : String) (reason : RevocationReason) (now : Instant) :
    SameAccounts s (s.revokeByToken hash reason now).2 := by
  unfold revokeByToken
  split
  · exact .refl s
  · exact revokeFound_sameAccounts s _ _ _

theorem revokeSession_sameAccounts
    (user : UserId) (id : SessionId) (reason : RevocationReason)
    (now : Instant) :
    SameAccounts s (s.revokeSession user id reason now).2 := by
  unfold revokeSession
  split
  · exact .refl s
  split
  · exact revokeFound_sameAccounts s _ _ _
  · exact .refl s

theorem revokeDevice_sameAccounts
    (user : UserId) (device : String) (reason : RevocationReason)
    (now : Instant) :
    SameAccounts s (s.revokeDevice user device reason now).2 := by
  unfold revokeDevice
  split
  · exact .refl s
  · exact revoke_sameAccounts s _ _ _

theorem setPushToken_sameAccounts
    (user : UserId) (id : SessionId) (token : String)
    (platform : Option String) (now : Instant) :
    SameAccounts s (s.setPushToken user id token platform now).2 := by
  unfold setPushToken
  repeat' split
  all_goals exact ⟨rfl, rfl, rfl, rfl, rfl⟩

end Store

/-- What is asked changes at most sessions and refresh tokens. -/
def RepositoryRequest.LeavesAccounts : RepositoryRequest → Prop
  | createUser .. | createExternalUser .. | linkIdentity _
  | storeVerificationToken _ | resetPassword .. | verifyEmail ..
  | changePassword .. | changeRole .. | changeStatus .. | requestDeletion ..
  | cancelDeletion .. | finalizeDeletion .. => False
  | _ => True

open Store in
theorem Operation.sameAccounts
    (op : Operation) (s : Store) (h : op.request.LeavesAccounts) :
    SameAccounts s (op.apply s) := by
  obtain ⟨r, fresh⟩ := op
  cases r with
  | createSession x t now => exact createSession_sameAccounts s x t now
  | rotate r => exact rotate_sameAccounts s r fresh.token
  | revokeByToken hash reason now =>
      exact revokeByToken_sameAccounts s hash reason now
  | revokeSession user id reason now =>
      exact revokeSession_sameAccounts s user id reason now
  | revokeDevice user device reason now =>
      exact revokeDevice_sameAccounts s user device reason now
  | setPushToken user id token platform now =>
      exact setPushToken_sameAccounts s user id token platform now
  | ping | findLogin | findCredentials | findUser | findExternalUser
  | findRefreshContext | listSessions | listAudit => exact .refl s
  | _ => exact h.elim

end AccountAuthority
