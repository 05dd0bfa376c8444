import AccountAuthority.Proofs.SessionSteps
import AccountAuthority.Proofs.SessionWork

/-!
# What operations do to users

An operation leaves the users alone, adds one, or changes one in place.  A
change of role or status and a deletion are told from the other edits, with
what the guard of the last administrator has said about them, and with what
they do to the sessions of the user.
-/

namespace AccountAuthority

open Store

@[simp] theorem key_user (u : User) : key u = u.id := rfl

/-- What one operation does to the users; the identifiers in `N` may be given to
new ones, and the status of a user may be set to one in `A`. -/
inductive UserStep (N : List UserId) (A : List Status) (s s' : Store) : Prop
  | unchanged (users : s'.users = s.users)
  | created (u : User)
      (name : u.id ∈ N)
      (users : s'.users = s.users.insert u)
  | edited (u v : User)
      (mem : s.users.get? u.id = some u)
      (id : v.id = u.id)
      (role : v.role = u.role)
      (status : v.status = u.status)
      (users : s'.users = s.users.insert v)
  | roleChanged (u : User) (role : Role) (now : Instant)
      (mem : s.users.get? u.id = some u)
      (guarded : role ≠ .admin → s.blocks u.id = false)
      (users : s'.users =
        s.users.insert { u with role := role, updatedAt := now })
  | statusChanged (u : User) (status : Status) (now : Instant)
      (mem : s.users.get? u.id = some u)
      (allowed : status ∈ A)
      (guarded : status ≠ .active → s.blocks u.id = false)
      (revoked : status = .suspended →
        ∀ x ∈ s'.sessions.rows, x.user = u.id → x.isRevoked = true)
      (users : s'.users =
        s.users.insert { u with status := status, updatedAt := now })
  | deleted (u : User) (now : Instant)
      (mem : s.users.get? u.id = some u)
      (guarded : s.blocks u.id = false)
      (gone : ∀ x ∈ s'.sessions.rows, x.user ≠ u.id)
      (users : s'.users = s.users.insert (u.scrub now))

section Performing

variable {N : List UserId} {A : List Status} (s : Store)

theorem id_of_get?_user {id : UserId} {u : User} (h : s.users.get? id = some u) :
    u.id = id :=
  (Table.get?_eq_some_iff.mp h).2

theorem get?_of_findExternalUser
    {s : Store} {provider subject : String} {u : User}
    (h : s.findExternalUser provider subject = some u) :
    s.users.get? u.id = some u := by
  obtain ⟨i, -, hu⟩ := Option.bind_eq_some_iff.mp h
  rwa [id_of_get?_user s hu]

/-- A user that is changed in place, without a change of role or status. -/
theorem userStep_of_update
    {s' : Store} {id : UserId} {u : User} (hu : s.users.get? id = some u)
    (f : User → User) (hf : ∀ u, key (f u) = key u)
    (hrole : (f u).role = u.role) (hstatus : (f u).status = u.status)
    (h : s'.users = s.users.update id f hf) :
    UserStep N A s s' := by
  obtain ⟨hmem, rfl⟩ := Table.get?_eq_some_iff.mp hu
  exact .edited u (f u) hu (hf u) hrole hstatus
    (h.trans (Table.update_eq_insert hmem f hf))

theorem createUser_userStep (u : User) (hash : String) (hN : u.id ∈ N) :
    UserStep N A s (s.createUser u hash).2 := by
  unfold createUser
  split
  · exact .unchanged rfl
  · exact .created u hN rfl

theorem createExternalUser_userStep
    (u : User) (identity : ExternalIdentity) (hN : u.id ∈ N) :
    UserStep N A s (s.createExternalUser u identity).2 := by
  unfold createExternalUser
  split
  · exact .unchanged rfl
  split
  · exact .unchanged rfl
  · exact .created u hN rfl

theorem linkIdentity_userStep (identity : ExternalIdentity) :
    UserStep N A s (s.linkIdentity identity).2 := by
  unfold linkIdentity
  repeat' split
  all_goals exact .unchanged rfl

theorem resetPassword_userStep (hash newHash : String) (now : Instant) :
    UserStep N A s (s.resetPassword hash newHash now).2 := by
  unfold resetPassword
  split
  · exact .unchanged rfl
  split
  · exact .unchanged rfl
  split
  · exact .unchanged rfl
  split
  · exact .unchanged rfl
  next user huser =>
    split
    · exact .unchanged rfl
    · exact userStep_of_update s huser (fun u => { u with updatedAt := now })
        (fun _ => rfl) rfl rfl (users_revokeAll ..)

theorem verifyEmail_userStep (hash : String) (now : Instant) :
    UserStep N A s (s.verifyEmail hash now).2 := by
  unfold verifyEmail
  split
  · exact .unchanged rfl
  split
  · exact .unchanged rfl
  split
  · exact .unchanged rfl
  split
  · exact .unchanged rfl
  next user huser =>
    split
    · exact .unchanged rfl
    split
    · exact .unchanged rfl
    · exact userStep_of_update s huser
        (fun u => { u with emailVerifiedAt := some now, updatedAt := now })
        (fun _ => rfl) rfl rfl rfl

theorem changePassword_userStep
    (user : UserId) (expected new : String) (keep : Option SessionId)
    (now : Instant) :
    UserStep N A s (s.changePassword user expected new keep now).2 := by
  unfold changePassword
  split
  · exact .unchanged rfl
  next u hu =>
    split
    · exact .unchanged rfl
    dsimp only
    split
    · exact userStep_of_update s hu (fun u => { u with updatedAt := now })
        (fun _ => rfl) rfl rfl rfl
    · exact userStep_of_update s hu (fun u => { u with updatedAt := now })
        (fun _ => rfl) rfl rfl (users_revokeAll ..)

theorem changeRole_userStep
    (actor : Actor) (target : UserId) (role : Role) (now : Instant)
    (fresh : FreshIds) :
    UserStep N A s (s.changeRole actor target role now fresh).2 := by
  unfold changeRole
  split
  · exact .unchanged rfl
  next u hu =>
    obtain rfl := id_of_get?_user s hu
    split
    · exact .unchanged rfl
    split
    · exact .unchanged rfl
    split
    · exact .unchanged rfl
    next hguard =>
      refine .roleChanged u role now hu (fun hrole => ?_) rfl
      simpa [hrole] using hguard

/-- After the revocation of the sessions of a user only the one to keep is
live. -/
theorem isRevoked_of_mem_revokeAll
    {user : UserId} {keep : Option SessionId} {reason : RevocationReason}
    {now : Instant} {x : Session}
    (hx : x ∈ (s.revokeAll user keep reason now).2.sessions.rows)
    (huser : x.user = user) (hkeep : some x.id ≠ keep) : x.isRevoked = true := by
  rw [revokeAll_eq] at hx
  obtain ⟨w, hw, rfl⟩ := List.mem_map.mp hx
  by_cases hp : (w.user = user && !w.isRevoked && some w.id ≠ keep) = true
  · rw [if_pos hp]
    rfl
  · rw [if_neg hp] at huser hkeep ⊢
    simpa [huser, hkeep] using hp

theorem changeStatus_userStep
    (actor : Actor) (target : UserId) (status : Status)
    (reason : Option String) (now : Instant) (fresh : FreshIds)
    (hA : status ∈ A) :
    UserStep N A s
      (s.changeStatus actor target status reason now fresh).2 := by
  unfold changeStatus
  split
  · exact .unchanged rfl
  next u hu =>
    obtain rfl := id_of_get?_user s hu
    split
    · exact .unchanged rfl
    split
    · exact .unchanged rfl
    split
    · exact .unchanged rfl
    next hguard =>
      have hguard : status ≠ .active → s.blocks u.id = false := by
        intro hstatus
        simpa [hstatus] using hguard
      by_cases hstatus : status = .suspended
      · subst hstatus
        simp only [if_true]
        exact .statusChanged u .suspended now hu hA hguard
          (fun _ x hx huser =>
            isRevoked_of_mem_revokeAll _ hx huser (Option.some_ne_none _))
          (users_revokeAll ..)
      · simp only [hstatus, if_false]
        exact .statusChanged u status now hu hA hguard
          (fun h => absurd h hstatus) rfl

theorem requestDeletion_userStep
    (actor : Actor) (target : UserId) (scheduledFor now : Instant)
    (fresh : FreshIds) :
    UserStep N A s
      (s.requestDeletion actor target scheduledFor now fresh).2 := by
  unfold requestDeletion
  split
  · exact .unchanged rfl
  next u hu =>
    obtain rfl := id_of_get?_user s hu
    split
    · exact .unchanged rfl
    split
    · exact .unchanged rfl
    · refine .edited u _ hu ?_ ?_ ?_ rfl <;> rfl

theorem cancelDeletion_userStep
    (actor : Actor) (target : UserId) (now : Instant) (fresh : FreshIds) :
    UserStep N A s (s.cancelDeletion actor target now fresh).2 := by
  unfold cancelDeletion
  split
  · exact .unchanged rfl
  next u hu =>
    obtain rfl := id_of_get?_user s hu
    split
    · exact .unchanged rfl
    split
    · exact .unchanged rfl
    · refine .edited u _ hu ?_ ?_ ?_ rfl <;> rfl

theorem finalizeDeletion_userStep
    (user : UserId) (trace : Option String) (now : Instant)
    (fresh : FreshIds) :
    UserStep N A s (s.finalizeDeletion user trace now fresh).2 := by
  unfold finalizeDeletion
  split
  · exact .unchanged rfl
  next u hu =>
    obtain rfl := id_of_get?_user s hu
    split
    · exact .unchanged rfl
    split
    · exact .unchanged rfl
    split
    · exact .unchanged rfl
    dsimp only
    split
    · exact .unchanged rfl
    next hguard =>
      refine .deleted u now hu (by simpa using hguard) (fun x hx => ?_) rfl
      simpa using (List.mem_filter.mp hx).2

end Performing

theorem Operation.apply_userStep (op : Operation) (s : Store) :
    UserStep op.newUsers op.request.statuses s (op.apply s) := by
  by_cases hleaves : op.request.LeavesAccounts
  · exact .unchanged (op.sameAccounts s hleaves).users
  obtain ⟨r, fresh⟩ := op
  cases r with
  | createUser u hash => exact createUser_userStep s u hash (by simp [newUsers])
  | createExternalUser u identity =>
      exact createExternalUser_userStep s u identity (by simp [newUsers])
  | linkIdentity identity => exact linkIdentity_userStep s identity
  | storeVerificationToken => exact .unchanged rfl
  | resetPassword hash newHash now =>
      exact resetPassword_userStep s hash newHash now
  | verifyEmail hash now => exact verifyEmail_userStep s hash now
  | changePassword user expected new keep now =>
      exact changePassword_userStep s user expected new keep now
  | changeRole actor target role now =>
      exact changeRole_userStep s actor target role now fresh
  | changeStatus actor target status reason now =>
      exact changeStatus_userStep s actor target status reason now fresh
        (by simp [RepositoryRequest.statuses])
  | requestDeletion actor target scheduledFor now =>
      exact requestDeletion_userStep s actor target scheduledFor now fresh
  | cancelDeletion actor target now =>
      exact cancelDeletion_userStep s actor target now fresh
  | finalizeDeletion user trace now =>
      exact finalizeDeletion_userStep s user trace now fresh
  | _ => exact absurd trivial hleaves

/-! ## Identifiers that are drawn once -/

/-- No step makes a user with an identifier that it may not give. -/
theorem UserStep.get?_eq_none
    {N : List UserId} {A : List Status} {s s' : Store} (h : UserStep N A s s') {id : UserId}
    (hnone : s.users.get? id = none) (hid : id ∉ N) :
    s'.users.get? id = none := by
  -- A user that is changed in place has another identifier.
  have hchanged {u v : User} (hu : s.users.get? u.id = some u)
      (husers : s'.users = s.users.insert v) (hvid : v.id = u.id) :
      s'.users.get? id = none := by
    rw [husers, Table.get?_insert, if_neg, hnone]
    intro hidv
    have hidu : id = u.id := hidv.trans hvid
    simp [← hidu, hnone] at hu
  cases h with
  | unchanged husers => rw [husers, hnone]
  | created u hname husers =>
      rw [husers, Table.get?_insert, if_neg, hnone]
      intro hidu
      exact hid (hidu.symm ▸ hname)
  | edited u v hu hvid _ _ husers => exact hchanged hu husers hvid
  | roleChanged u role now hu _ husers => exact hchanged hu husers rfl
  | statusChanged u status now hu _ _ _ husers => exact hchanged hu husers rfl
  | deleted u now hu _ _ husers => exact hchanged hu husers rfl

namespace Store

variable {s : Store}

theorem get?_user_run_eq_none
    {ops : List Operation} {id : UserId} (hnone : s.users.get? id = none)
    (hid : id ∉ drawnUsers ops) : (s.run ops).users.get? id = none := by
  induction ops using List.reverseRecOn with
  | nil => exact hnone
  | append_singleton ops op ih =>
      rw [drawnUsers_concat, List.mem_append, not_or] at hid
      rw [run_concat]
      exact (op.apply_userStep _).get?_eq_none (ih hid.1) hid.2

/-- When no identifier is drawn twice, an operation of a run draws identifiers
that no user has. -/
theorem get?_newUser_of_split
    {ops pre post : List Operation} {op : Operation}
    (hsplit : ops = pre ++ op :: post)
    (hnew : ∀ id ∈ drawnUsers ops, s.users.get? id = none)
    (hnodup : (drawnUsers ops).Nodup) :
    ∀ id ∈ op.newUsers, (s.run pre).users.get? id = none := by
  subst hsplit
  have hids : drawnUsers (pre ++ op :: post) =
      drawnUsers pre ++ (op.newUsers ++ drawnUsers post) :=
    drawnUsers_append pre (op :: post)
  rw [hids] at hnew hnodup
  intro id hid
  refine get?_user_run_eq_none (hnew id (by simp [hid])) fun hpre => ?_
  exact (List.nodup_append.mp hnodup).2.2 id hpre id (by simp [hid]) rfl

/-- When no identifier is drawn twice, a second run draws identifiers that no
user has after the first one. -/
theorem get?_drawnUser_of_append
    {ops₀ ops₁ : List Operation} (hnodup : (drawnUsers (ops₀ ++ ops₁)).Nodup) :
    ∀ id ∈ drawnUsers ops₁, (Store.empty.run ops₀).users.get? id = none := by
  rw [drawnUsers_append] at hnodup
  intro id hid
  refine get?_user_run_eq_none rfl fun hpre => ?_
  exact (List.nodup_append.mp hnodup).2.2 id hpre id hid rfl

end Store

end AccountAuthority
