import AccountAuthority.Proofs.CallHistories
import AccountAuthority.Proofs.UserSteps

/-!
# What operations make of the record of a user

A user is never removed.  An operation keeps the record of a user, or it changes
it in one of six ways, and each of them asks first that the account has not been
deleted.  So the record of a deleted account is final.  A request for deletion,
its withdrawal and a deletion are told with what the repository was asked and has
answered, since later statements are about these answers.
-/

namespace AccountAuthority

open Store

/-- A run that is one operation longer is divided at that operation or before. -/
theorem split_concat
    {α : Type} {l pre post : List α} {a b : α}
    (h : l ++ [b] = pre ++ a :: post) :
    (pre = l ∧ a = b ∧ post = []) ∨
      ∃ init, post = init ++ [b] ∧ l = pre ++ a :: init := by
  rcases List.eq_nil_or_concat' post with rfl | ⟨init, last, rfl⟩
  · obtain ⟨rfl, hlast⟩ := List.append_inj' h rfl
    exact Or.inl ⟨rfl, (List.singleton_inj.mp hlast).symm, rfl⟩
  · rw [← List.cons_append, ← List.append_assoc] at h
    obtain ⟨hinit, hlast⟩ := List.append_inj' h rfl
    exact Or.inr ⟨init, by rw [List.singleton_inj.mp hlast], hinit⟩

/-- What an operation asks, and what it is answered in a store. -/
def Operation.exchange (op : Operation) (s : Store) : Exchange :=
  ⟨op.request, (s.perform op.request op.fresh).1⟩

/-- The record of a user whose deletion has been scheduled. -/
def User.scheduled (u : User) (actor : Actor) (scheduledFor now : Instant) :
    User :=
  { u with
    deletionRequestedAt := some now
    deletionScheduledFor := some scheduledFor
    deletionSession := actor.session
    deletionTrace := actor.trace
    updatedAt := now }

/-- The record of a user whose request for deletion has been withdrawn. -/
def User.unscheduled (u : User) (now : Instant) : User :=
  { u with
    deletionRequestedAt := none
    deletionScheduledFor := none
    deletionSession := none
    deletionTrace := none
    updatedAt := now }

/-- What one exchange with the repository makes of the record of a user. -/
inductive RecordStep (e : Exchange) (u : User) : User → Prop
  | kept : RecordStep e u u
  | noted (verifiedAt : Option Instant) (now : Instant)
      (live : u.status ≠ .deleted) :
      RecordStep e u { u with emailVerifiedAt := verifiedAt, updatedAt := now }
  | roleSet (role : Role) (now : Instant) (live : u.status ≠ .deleted) :
      RecordStep e u { u with role := role, updatedAt := now }
  | statusSet (status : Status) (now : Instant) (live : u.status ≠ .deleted)
      (asked : status ∈ e.request.statuses) :
      RecordStep e u { u with status := status, updatedAt := now }
  | scheduled (actor : Actor) (scheduledFor now : Instant)
      (live : u.status ≠ .deleted)
      (exchange : e = ⟨.requestDeletion actor u.id scheduledFor now,
        .requested (u.scheduled actor scheduledFor now)⟩) :
      RecordStep e u (u.scheduled actor scheduledFor now)
  | withdrawn (actor : Actor) (now : Instant) (live : u.status ≠ .deleted)
      (exchange : e = ⟨.cancelDeletion actor u.id now,
        .cancelled (u.unscheduled now)⟩) :
      RecordStep e u (u.unscheduled now)
  | scrubbed (trace : Option String) (scheduledFor now : Instant)
      (live : u.status ≠ .deleted)
      (scheduled : u.deletionScheduledFor = some scheduledFor)
      (due : ¬now < scheduledFor)
      (request : e.request = .finalizeDeletion u.id trace now) :
      RecordStep e u (u.scrub now)

namespace RecordStep

variable {e : Exchange} {u v : User}

theorem id_eq (h : RecordStep e u v) : v.id = u.id := by
  cases h <;> rfl

/-- The record of a deleted account is final. -/
theorem eq_of_deleted (h : RecordStep e u v) (hu : u.status = .deleted) :
    v = u := by
  cases h with
  | kept => rfl
  | noted _ _ live | roleSet _ _ live | statusSet _ _ live
  | scheduled _ _ _ live | withdrawn _ _ live | scrubbed _ _ _ live =>
      exact absurd hu live

/-- Whoever comes to be deleted, other than by a change of status, was due. -/
theorem exists_due (h : RecordStep e u v) (hstatus : e.request.SetsLiveStatus)
    (hu : u.status ≠ .deleted) (hv : v.status = .deleted) :
    ∃ trace scheduledFor now, u.deletionScheduledFor = some scheduledFor ∧
      ¬now < scheduledFor ∧
      e.request = .finalizeDeletion u.id trace now ∧ v = u.scrub now := by
  cases h with
  | kept | noted | roleSet | scheduled | withdrawn => exact absurd hv hu
  | statusSet status now live asked =>
      have hdeleted : status = .deleted := hv
      exact absurd (hdeleted ▸ asked) hstatus
  | scrubbed trace scheduledFor now live hscheduled due request =>
      exact ⟨trace, scheduledFor, now, hscheduled, due, request, rfl⟩

end RecordStep

/-! ## Every operation is such a step -/

/-- All users but those in `N` stay, and an exchange makes of their records at
most what it may. -/
def Store.RecordsStep (N : List UserId) (e : Exchange) (s s' : Store) : Prop :=
  ∀ id u, id ∉ N → s.users.get? id = some u →
    ∃ v, s'.users.get? id = some v ∧ RecordStep e u v

namespace Store

variable {N : List UserId} {e : Exchange} {s s' : Store}

theorem RecordsStep.of_users_eq (h : s'.users = s.users) :
    RecordsStep N e s s' := by
  intro id u _ hu
  exact ⟨u, by rw [h, hu], .kept⟩

/-- A user who is not there yet is put in. -/
theorem RecordsStep.of_created
    {w : User} (hN : w.id ∈ N) (h : s'.users = s.users.insert w) :
    RecordsStep N e s s' := by
  intro id u hid hu
  refine ⟨u, ?_, .kept⟩
  rw [h, Table.get?_insert, if_neg, hu]
  rintro rfl
  exact hid hN

/-- One user is changed. -/
theorem RecordsStep.of_insert
    {id : UserId} {w v : User} (hw : s.users.get? id = some w)
    (hstep : RecordStep e w v) (h : s'.users = s.users.insert v) :
    RecordsStep N e s s' := by
  intro id' u _ hu
  obtain rfl := id_of_get?_user s hw
  rw [h, Table.get?_insert]
  by_cases heq : id' = key v
  · have hid : id' = w.id := heq.trans hstep.id_eq
    rw [hid, hw] at hu
    obtain rfl := Option.some.inj hu
    exact ⟨v, if_pos heq, hstep⟩
  · exact ⟨u, by rw [if_neg heq, hu], .kept⟩

theorem RecordsStep.of_update
    {id : UserId} {w : User} (hw : s.users.get? id = some w) (f : User → User)
    (hf : ∀ u, key (f u) = key u) (hstep : RecordStep e w (f w))
    (h : s'.users = s.users.update id f hf) : RecordsStep N e s s' := by
  obtain ⟨hmem, rfl⟩ := Table.get?_eq_some_iff.mp hw
  exact .of_insert hw hstep (h.trans (Table.update_eq_insert hmem f hf))

variable (s)

theorem createUser_recordsStep (u : User) (hash : String) (hN : u.id ∈ N) :
    RecordsStep N e s (s.createUser u hash).2 := by
  unfold createUser
  split
  · exact .of_users_eq rfl
  · exact .of_created hN rfl

theorem createExternalUser_recordsStep
    (u : User) (identity : ExternalIdentity) (hN : u.id ∈ N) :
    RecordsStep N e s (s.createExternalUser u identity).2 := by
  unfold createExternalUser
  split
  · exact .of_users_eq rfl
  split
  · exact .of_users_eq rfl
  · exact .of_created hN rfl

theorem resetPassword_recordsStep (hash newHash : String) (now : Instant) :
    RecordsStep N e s (s.resetPassword hash newHash now).2 := by
  unfold resetPassword
  split
  · exact .of_users_eq rfl
  split
  · exact .of_users_eq rfl
  split
  · exact .of_users_eq rfl
  split
  · exact .of_users_eq rfl
  next w hw =>
    split
    · exact .of_users_eq rfl
    next hactive =>
      have hlive : w.status ≠ .deleted := by
        intro hdeleted
        simp [hdeleted] at hactive
      exact .of_update hw (fun u => { u with updatedAt := now }) (fun _ => rfl)
        (.noted w.emailVerifiedAt now hlive) (users_revokeAll ..)

theorem verifyEmail_recordsStep (hash : String) (now : Instant) :
    RecordsStep N e s (s.verifyEmail hash now).2 := by
  unfold verifyEmail
  split
  · exact .of_users_eq rfl
  split
  · exact .of_users_eq rfl
  split
  · exact .of_users_eq rfl
  split
  · exact .of_users_eq rfl
  next w hw =>
    split
    · exact .of_users_eq rfl
    next hlive =>
      split
      · exact .of_users_eq rfl
      · exact .of_update hw
          (fun u => { u with emailVerifiedAt := some now, updatedAt := now })
          (fun _ => rfl) (.noted (some now) now hlive) rfl

theorem changePassword_recordsStep
    (user : UserId) (expected new : String) (keep : Option SessionId)
    (now : Instant) :
    RecordsStep N e s (s.changePassword user expected new keep now).2 := by
  unfold changePassword
  split
  · exact .of_users_eq rfl
  next w hw =>
    split
    · exact .of_users_eq rfl
    next hlive =>
      dsimp only
      split
      · exact .of_update hw (fun u => { u with updatedAt := now }) (fun _ => rfl)
          (.noted w.emailVerifiedAt now hlive) rfl
      · exact .of_update hw (fun u => { u with updatedAt := now }) (fun _ => rfl)
          (.noted w.emailVerifiedAt now hlive) (users_revokeAll ..)

theorem changeRole_recordsStep
    (actor : Actor) (target : UserId) (role : Role) (now : Instant)
    (fresh : FreshIds) :
    RecordsStep N e s (s.changeRole actor target role now fresh).2 := by
  unfold changeRole
  split
  · exact .of_users_eq rfl
  next w hw =>
    split
    · exact .of_users_eq rfl
    next hlive =>
      split
      · exact .of_users_eq rfl
      split
      · exact .of_users_eq rfl
      · exact .of_insert hw (.roleSet role now hlive) rfl

theorem changeStatus_recordsStep
    (actor : Actor) (target : UserId) (status : Status) (reason : Option String)
    (now : Instant) (fresh : FreshIds) (hasked : status ∈ e.request.statuses) :
    RecordsStep N e s
      (s.changeStatus actor target status reason now fresh).2 := by
  unfold changeStatus
  split
  · exact .of_users_eq rfl
  next w hw =>
    split
    · exact .of_users_eq rfl
    next hlive =>
      split
      · exact .of_users_eq rfl
      split
      · exact .of_users_eq rfl
      · refine .of_insert hw (.statusSet status now hlive hasked) ?_
        by_cases hsuspended : status = .suspended
        · simp only [hsuspended, if_true]
          exact users_revokeAll ..
        · simp only [hsuspended, if_false]
          rfl

end Store

/-- A request for deletion schedules it, or leaves all records as they are. -/
theorem requestDeletion_recordsStep
    {N : List UserId} (s : Store) (actor : Actor) (target : UserId)
    (scheduledFor now : Instant) (fresh : FreshIds) :
    RecordsStep N
      (Operation.exchange ⟨.requestDeletion actor target scheduledFor now, fresh⟩ s)
      s (s.requestDeletion actor target scheduledFor now fresh).2 := by
  simp only [Operation.exchange, perform, requestDeletion]
  split
  · exact .of_users_eq rfl
  next w hw =>
    obtain rfl := id_of_get?_user s hw
    split
    · exact .of_users_eq rfl
    next hlive =>
      split
      · exact .of_users_eq rfl
      · exact .of_insert hw (.scheduled actor scheduledFor now hlive rfl) rfl

/-- The withdrawal of a request takes the schedule away, or leaves all records
as they are. -/
theorem cancelDeletion_recordsStep
    {N : List UserId} (s : Store) (actor : Actor) (target : UserId)
    (now : Instant) (fresh : FreshIds) :
    RecordsStep N
      (Operation.exchange ⟨.cancelDeletion actor target now, fresh⟩ s)
      s (s.cancelDeletion actor target now fresh).2 := by
  simp only [Operation.exchange, perform, cancelDeletion]
  split
  · exact .of_users_eq rfl
  next w hw =>
    obtain rfl := id_of_get?_user s hw
    split
    · exact .of_users_eq rfl
    next hlive =>
      split
      · exact .of_users_eq rfl
      · exact .of_insert hw (.withdrawn actor now hlive rfl) rfl

theorem finalizeDeletion_recordsStep
    {N : List UserId} {e : Exchange} (s : Store) (user : UserId)
    (trace : Option String) (now : Instant) (fresh : FreshIds)
    (hrequest : e.request = .finalizeDeletion user trace now) :
    RecordsStep N e s (s.finalizeDeletion user trace now fresh).2 := by
  unfold finalizeDeletion
  split
  · exact .of_users_eq rfl
  next w hw =>
    obtain rfl := id_of_get?_user s hw
    split
    · exact .of_users_eq rfl
    next hlive =>
      split
      · exact .of_users_eq rfl
      next scheduledFor hscheduled =>
        split
        · exact .of_users_eq rfl
        next hdue =>
          dsimp only
          split
          · exact .of_users_eq rfl
          · exact .of_insert hw
              (.scrubbed trace scheduledFor now hlive hscheduled hdue hrequest) rfl

theorem Operation.recordsStep (op : Operation) (s : Store) :
    RecordsStep op.newUsers (op.exchange s) s (op.apply s) := by
  by_cases hleaves : op.request.LeavesAccounts
  · exact .of_users_eq (op.sameAccounts s hleaves).users
  obtain ⟨r, fresh⟩ := op
  cases r with
  | createUser u hash =>
      exact createUser_recordsStep s u hash (by simp [newUsers])
  | createExternalUser u identity =>
      exact createExternalUser_recordsStep s u identity (by simp [newUsers])
  | linkIdentity identity =>
      refine .of_users_eq ?_
      simp only [apply, perform, linkIdentity]
      repeat' split
      all_goals rfl
  | storeVerificationToken => exact .of_users_eq rfl
  | resetPassword hash newHash now =>
      exact resetPassword_recordsStep s hash newHash now
  | verifyEmail hash now => exact verifyEmail_recordsStep s hash now
  | changePassword user expected new keep now =>
      exact changePassword_recordsStep s user expected new keep now
  | changeRole actor target role now =>
      exact changeRole_recordsStep s actor target role now fresh
  | changeStatus actor target status reason now =>
      exact changeStatus_recordsStep s actor target status reason now fresh
        (List.mem_singleton_self status)
  | requestDeletion actor target scheduledFor now =>
      exact requestDeletion_recordsStep s actor target scheduledFor now fresh
  | cancelDeletion actor target now =>
      exact cancelDeletion_recordsStep s actor target now fresh
  | finalizeDeletion user trace now =>
      exact finalizeDeletion_recordsStep s user trace now fresh rfl
  | _ => exact absurd trivial hleaves

/-! ## Where records come from -/

/-- An account that is neither deleted nor scheduled for deletion. -/
structure User.Stays (u : User) : Prop where
  live : u.status ≠ .deleted
  unscheduled : u.deletionScheduledFor = none

theorem User.stays_create
    (id : UserId) (email : String) (displayName : Option String) (now : Instant) :
    (User.create id email displayName now).Stays where
  live := by simp [User.create]
  unscheduled := rfl

/-- The users that a request may put in. -/
def RepositoryRequest.newAccounts : RepositoryRequest → List User
  | createUser u _ | createExternalUser u _ => [u]
  | _ => []

theorem Operation.newUsers_eq (op : Operation) :
    op.newUsers = op.request.newAccounts.map User.id := by
  obtain ⟨r, fresh⟩ := op
  cases r <;> rfl

/-- A user who is put in has an address that nobody had. -/
theorem Operation.mem_users_of_newAccount
    {op : Operation} {s : Store} {w v : User} (hw : w ∈ op.request.newAccounts)
    (hv : v ∈ (op.apply s).users.rows) :
    (v = w ∧ s.emailTaken w.email = false) ∨ v ∈ s.users.rows := by
  obtain ⟨r, fresh⟩ := op
  cases r with
  | createUser u hash =>
      obtain rfl : w = u := by simpa [RepositoryRequest.newAccounts] using hw
      simp only [apply, perform, createUser] at hv
      split at hv
      · exact Or.inr hv
      next hfree =>
        rcases Table.mem_rows_insert.mp hv with rfl | ⟨hv, -⟩
        · exact Or.inl ⟨rfl, by simpa using hfree⟩
        · exact Or.inr hv
  | createExternalUser u identity =>
      obtain rfl : w = u := by simpa [RepositoryRequest.newAccounts] using hw
      simp only [apply, perform, createExternalUser] at hv
      split at hv
      · exact Or.inr hv
      split at hv
      · exact Or.inr hv
      next hfree =>
        rcases Table.mem_rows_insert.mp hv with rfl | ⟨hv, -⟩
        · exact Or.inl ⟨rfl, by simpa using hfree⟩
        · exact Or.inr hv
  | _ => exact absurd hw List.not_mem_nil

/-- A record is that of a new user, or it has come from one that was there. -/
theorem Operation.user_origin
    {op : Operation} {s : Store} {v : User}
    (hv : v ∈ (op.apply s).users.rows) :
    (v ∈ op.request.newAccounts ∧ s.emailTaken v.email = false) ∨
      ∃ u ∈ s.users.rows, RecordStep (op.exchange s) u v := by
  cases hnew : op.request.newAccounts with
  | nil =>
      have hids : op.newUsers = [] := by rw [op.newUsers_eq, hnew]; rfl
      have hget : (op.apply s).users.get? v.id = some v := Table.get?_key hv
      cases hu : s.users.get? v.id with
      | none =>
          have hnone := (op.apply_userStep s).get?_eq_none hu (by simp [hids])
          rw [hnone] at hget
          cases hget
      | some u =>
          obtain ⟨v', hv', hstep⟩ := op.recordsStep s v.id u (by simp [hids]) hu
          rw [hget] at hv'
          obtain rfl := Option.some.inj hv'
          exact Or.inr ⟨u, (Table.get?_eq_some_iff.mp hu).1, hstep⟩
  | cons w rest =>
      have hw : w ∈ op.request.newAccounts := by simp [hnew]
      rcases op.mem_users_of_newAccount hw hv with ⟨rfl, hfree⟩ | hold
      · exact Or.inl ⟨by simp, hfree⟩
      · exact Or.inr ⟨v, hold, .kept⟩

end AccountAuthority
