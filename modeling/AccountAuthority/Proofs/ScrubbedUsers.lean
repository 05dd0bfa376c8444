import AccountAuthority.Proofs.DueDeletions
import AccountAuthority.Proofs.FinalRevocation
import AccountAuthority.Proofs.ProperCalls
import AccountAuthority.Proofs.UuidText

/-!
# What is left of deleted users

A deletion removes all that belongs to a user.  Afterwards nobody attaches
anything to them again: whatever an operation puts in belongs to a new user or
to one who has not been deleted.  So after any calls that run one after the
other, nothing is left of a deleted user but a scrubbed record.
-/

namespace AccountAuthority

open Store

namespace Store

/-- The users to whom identities, verification tokens and passwords belong. -/
def holders (s : Store) : List UserId :=
  s.identities.map ExternalIdentity.user ++
    s.verificationTokens.rows.map VerificationToken.user ++
    s.passwords.rows.map StoredPassword.user

/-- The account of a user is there and has not been deleted. -/
def Live (s : Store) (id : UserId) : Prop :=
  ∃ u, s.users.get? id = some u ∧ u.status ≠ .deleted

theorem mem_holders {s : Store} {id : UserId} :
    id ∈ s.holders ↔
      (∃ i ∈ s.identities, i.user = id) ∨
        (∃ t ∈ s.verificationTokens.rows, t.user = id) ∨
        ∃ p ∈ s.passwords.rows, p.user = id := by
  simp [holders]

theorem mem_holders_of_identity
    {s : Store} {i : ExternalIdentity} (h : i ∈ s.identities) :
    i.user ∈ s.holders :=
  mem_holders.mpr (Or.inl ⟨i, h, rfl⟩)

theorem mem_holders_of_verificationToken
    {s : Store} {t : VerificationToken} (h : t ∈ s.verificationTokens.rows) :
    t.user ∈ s.holders :=
  mem_holders.mpr (Or.inr (Or.inl ⟨t, h, rfl⟩))

theorem mem_holders_of_password
    {s : Store} {p : StoredPassword} (h : p ∈ s.passwords.rows) :
    p.user ∈ s.holders :=
  mem_holders.mpr (Or.inr (Or.inr ⟨p, h, rfl⟩))

/-! ## What is put in for whom -/

/-- What is put in belongs to the users in `N`, or to users who are live. -/
def HoldersStep (N : List UserId) (s s' : Store) : Prop :=
  ∀ id ∈ s'.holders, id ∈ s.holders ∨ s.Live id ∨ id ∈ N

section

variable {N : List UserId} {s s' : Store}

theorem HoldersStep.of_subset (h : s'.holders ⊆ s.holders) :
    HoldersStep N s s' :=
  fun _ hid => Or.inl (h hid)

theorem HoldersStep.of_eq (h : s'.holders = s.holders) : HoldersStep N s s' :=
  .of_subset fun _ hid => h ▸ hid

/-- One user gets one thing. -/
theorem HoldersStep.of_one
    {user : UserId} (huser : s.Live user ∨ user ∈ N)
    (hidentities : ∀ i ∈ s'.identities, i ∈ s.identities ∨ i.user = user)
    (htokens : ∀ t ∈ s'.verificationTokens.rows,
      (∃ t' ∈ s.verificationTokens.rows, t'.user = t.user) ∨ t.user = user)
    (hpasswords : ∀ p ∈ s'.passwords.rows, p ∈ s.passwords.rows ∨ p.user = user) :
    HoldersStep N s s' := by
  intro id hid
  rcases mem_holders.mp hid with ⟨i, hi, rfl⟩ | ⟨t, ht, rfl⟩ | ⟨p, hp, rfl⟩
  · rcases hidentities i hi with hold | hnew
    · exact Or.inl (mem_holders_of_identity hold)
    · exact Or.inr (hnew ▸ huser)
  · rcases htokens t ht with ⟨t', hold, hsame⟩ | hnew
    · exact Or.inl (hsame ▸ mem_holders_of_verificationToken hold)
    · exact Or.inr (hnew ▸ huser)
  · rcases hpasswords p hp with hold | hnew
    · exact Or.inl (mem_holders_of_password hold)
    · exact Or.inr (hnew ▸ huser)

theorem mem_insert_password
    {t : Table StoredPassword} {user : UserId} {hash : String}
    {p : StoredPassword} (hp : p ∈ (t.insert ⟨user, hash⟩).rows) :
    p ∈ t.rows ∨ p.user = user := by
  rcases Table.mem_rows_insert.mp hp with rfl | ⟨hold, -⟩
  · exact Or.inr rfl
  · exact Or.inl hold

variable (s)

theorem createUser_holdersStep (u : User) (hash : String) (hN : u.id ∈ N) :
    HoldersStep N s (s.createUser u hash).2 := by
  unfold createUser
  split
  · exact .of_eq rfl
  · exact .of_one (Or.inr hN) (fun _ hi => Or.inl hi)
      (fun t ht => Or.inl ⟨t, ht, rfl⟩) fun _ => mem_insert_password

theorem createExternalUser_holdersStep
    (u : User) (identity : ExternalIdentity) (hN : identity.user ∈ N) :
    HoldersStep N s (s.createExternalUser u identity).2 := by
  unfold createExternalUser
  split
  · exact .of_eq rfl
  split
  · exact .of_eq rfl
  · refine .of_one (Or.inr hN) (fun i hi => ?_)
      (fun t ht => Or.inl ⟨t, ht, rfl⟩) fun _ hp => Or.inl hp
    rcases List.mem_append.mp hi with hold | hnew
    · exact Or.inl hold
    · exact Or.inr (by rw [List.mem_singleton.mp hnew])

theorem linkIdentity_holdersStep (identity : ExternalIdentity) :
    HoldersStep N s (s.linkIdentity identity).2 := by
  unfold linkIdentity
  split
  · exact .of_eq rfl
  next user huser =>
    split
    · exact .of_eq rfl
    next hlive =>
      split
      · split <;> exact .of_eq rfl
      split
      · exact .of_eq rfl
      · refine .of_one (Or.inl ⟨user, huser, hlive⟩) (fun i hi => ?_)
          (fun t ht => Or.inl ⟨t, ht, rfl⟩) fun _ hp => Or.inl hp
        rcases List.mem_append.mp hi with hold | hnew
        · exact Or.inl hold
        · exact Or.inr (by rw [List.mem_singleton.mp hnew])

theorem storeVerificationToken_holdersStep
    (token : VerificationToken) (huser : s.Active token.user) :
    HoldersStep N s (s.storeVerificationToken token) := by
  obtain ⟨u, hu, hactive⟩ := huser
  have hlive : s.Live token.user := ⟨u, hu, by simp [hactive]⟩
  refine .of_one (Or.inl hlive) (fun _ hi => Or.inl hi) (fun t ht => ?_)
    fun _ hp => Or.inl hp
  rcases Table.mem_rows_insert.mp ht with rfl | ⟨hold, -⟩
  · exact Or.inr rfl
  · exact Or.inl ⟨t, hold, rfl⟩

theorem resetPassword_holdersStep (hash newHash : String) (now : Instant) :
    HoldersStep N s (s.resetPassword hash newHash now).2 := by
  unfold resetPassword
  split
  · exact .of_eq rfl
  next token _ =>
  split
  · exact .of_eq rfl
  split
  · exact .of_eq rfl
  split
  · exact .of_eq rfl
  next user huser =>
    split
    · exact .of_eq rfl
    next hactive =>
      have hlive : s.Live token.user := by
        refine ⟨user, huser, fun hdeleted => ?_⟩
        simp [hdeleted] at hactive
      simp only [revokeAll_eq]
      refine .of_one (Or.inl hlive) (fun _ hi => Or.inl hi) (fun t ht => ?_)
        fun _ => mem_insert_password
      obtain ⟨t', ht', rfl⟩ := List.mem_map.mp ht
      refine Or.inl ⟨t', ht', ?_⟩
      split <;> rfl

theorem consumeToken_holders (token : Uuid) (now : Instant) :
    (s.consumeToken token now).holders = s.holders := by
  have hrows : (s.consumeToken token now).verificationTokens.rows.map
      VerificationToken.user =
        s.verificationTokens.rows.map VerificationToken.user := by
    rw [consumeToken, Table.rows_update, List.map_map]
    refine List.map_congr_left fun t _ => ?_
    simp only [Function.comp]
    split <;> rfl
  rw [holders, hrows]
  rfl

theorem verifyEmail_holders (hash : String) (now : Instant) :
    (s.verifyEmail hash now).2.holders = s.holders := by
  unfold verifyEmail
  split
  · rfl
  split
  · rfl
  split
  · rfl
  split
  · rfl
  split
  · rfl
  split
  · exact consumeToken_holders ..
  · exact consumeToken_holders ..

theorem changePassword_holdersStep
    (user : UserId) (expected new : String) (keep : Option SessionId)
    (now : Instant) :
    HoldersStep N s (s.changePassword user expected new keep now).2 := by
  unfold changePassword
  split
  · exact .of_eq rfl
  next u hu =>
    split
    · exact .of_eq rfl
    next hlive =>
      simp only [revokeAll_eq]
      split
      · exact .of_eq rfl
      · exact .of_one (Or.inl ⟨u, hu, hlive⟩) (fun _ hi => Or.inl hi)
          (fun t ht => Or.inl ⟨t, ht, rfl⟩) fun _ => mem_insert_password

theorem removeBelongings_holders_subset (user : UserId) :
    (s.removeBelongings user).holders ⊆ s.holders := by
  intro id hid
  rcases mem_holders.mp hid with ⟨i, hi, rfl⟩ | ⟨t, ht, rfl⟩ | ⟨p, hp, rfl⟩
  · exact mem_holders_of_identity (List.mem_filter.mp hi).1
  · exact mem_holders_of_verificationToken (List.mem_filter.mp ht).1
  · exact mem_holders_of_password (List.mem_filter.mp hp).1

theorem not_mem_holders_removeBelongings (user : UserId) :
    user ∉ (s.removeBelongings user).holders := by
  intro hid
  rcases mem_holders.mp hid with ⟨i, hi, rfl⟩ | ⟨t, ht, rfl⟩ | ⟨p, hp, rfl⟩
  · simpa using (List.mem_filter.mp hi).2
  · simpa using (List.mem_filter.mp ht).2
  · have hne : ¬key p = p.user := by simpa using (List.mem_filter.mp hp).2
    exact hne rfl

theorem finalizeDeletion_holdersStep
    (user : UserId) (trace : Option String) (now : Instant) (fresh : FreshIds) :
    HoldersStep N s (s.finalizeDeletion user trace now fresh).2 := by
  unfold finalizeDeletion
  split
  · exact .of_eq rfl
  split
  · exact .of_eq rfl
  split
  · exact .of_eq rfl
  split
  · exact .of_eq rfl
  dsimp only
  split
  · exact .of_eq rfl
  · exact .of_subset (removeBelongings_holders_subset s user)

/-! ## Work on sessions puts in nothing else -/

theorem SameAccounts.holders {s' : Store} (h : SameAccounts s s') :
    s'.holders = s.holders := by
  rw [Store.holders, h.identities, h.verificationTokens, h.passwords, Store.holders]

theorem changeRole_holders
    (actor : Actor) (target : UserId) (role : Role) (now : Instant)
    (fresh : FreshIds) :
    (s.changeRole actor target role now fresh).2.holders = s.holders := by
  unfold changeRole
  repeat' split
  all_goals rfl

theorem changeStatus_holders
    (actor : Actor) (target : UserId) (status : Status)
    (reason : Option String) (now : Instant) (fresh : FreshIds) :
    (s.changeStatus actor target status reason now fresh).2.holders =
      s.holders := by
  unfold changeStatus
  split
  · rfl
  split
  · rfl
  split
  · rfl
  split
  · rfl
  · by_cases hsuspended : status = .suspended
    · simp only [hsuspended, if_true, revokeAll_eq]
      rfl
    · simp only [hsuspended, if_false]
      rfl

theorem requestDeletion_holders
    (actor : Actor) (target : UserId) (scheduledFor now : Instant)
    (fresh : FreshIds) :
    (s.requestDeletion actor target scheduledFor now fresh).2.holders =
      s.holders := by
  unfold requestDeletion
  repeat' split
  all_goals rfl

theorem cancelDeletion_holders
    (actor : Actor) (target : UserId) (now : Instant) (fresh : FreshIds) :
    (s.cancelDeletion actor target now fresh).2.holders = s.holders := by
  unfold cancelDeletion
  repeat' split
  all_goals rfl

end

end Store

/-- When no call is overtaken, nothing is put in for a deleted user. -/
theorem Operation.holdersStep
    {op : Operation} {s : Store} (hproper : op.request.ProperIn s) :
    HoldersStep op.newUsers s (op.apply s) := by
  by_cases hleaves : op.request.LeavesAccounts
  · exact .of_eq (op.sameAccounts s hleaves).holders
  obtain ⟨r, fresh⟩ := op
  cases r with
  | createUser u hash => exact createUser_holdersStep s u hash (by simp [newUsers])
  | createExternalUser u identity =>
      refine createExternalUser_holdersStep s u identity ?_
      simp [newUsers, hproper.2]
  | linkIdentity identity => exact linkIdentity_holdersStep s identity
  | storeVerificationToken token =>
      exact storeVerificationToken_holdersStep s token hproper
  | resetPassword hash newHash now =>
      exact resetPassword_holdersStep s hash newHash now
  | verifyEmail hash now => exact .of_eq (verifyEmail_holders s hash now)
  | changePassword user expected new keep now =>
      exact changePassword_holdersStep s user expected new keep now
  | changeRole actor target role now =>
      exact .of_eq (changeRole_holders s actor target role now fresh)
  | changeStatus actor target status reason now =>
      exact .of_eq (changeStatus_holders s actor target status reason now fresh)
  | requestDeletion actor target scheduledFor now =>
      exact .of_eq
        (requestDeletion_holders s actor target scheduledFor now fresh)
  | cancelDeletion actor target now =>
      exact .of_eq (cancelDeletion_holders s actor target now fresh)
  | finalizeDeletion user trace now =>
      exact finalizeDeletion_holdersStep s user trace now fresh
  | _ => exact absurd trivial hleaves

/-! ## Everything is removed for good -/

/-- Nothing belongs to a user. -/
structure Store.Removed (s : Store) (id : UserId) : Prop where
  sessions : ∀ x ∈ s.sessions.rows, x.user ≠ id
  holders : id ∉ s.holders

theorem Store.Removed.step
    {op : Operation} {s : Store} {id : UserId} (h : s.Removed id)
    (hproper : op.request.ProperIn s) (hlive : ¬s.Live id)
    (hnew : id ∉ op.newUsers) : (op.apply s).Removed id where
  sessions := by
    intro y hy hid
    rcases Operation.opened_or_later hproper.opensProperly hy with
      ⟨t, now, hrequest⟩ | ⟨x, hx, hxy⟩
    · rw [hrequest] at hproper
      obtain ⟨u, hu, hactive⟩ := hproper.2
      exact hlive ⟨u, hid ▸ hu, by simp [hactive]⟩
    · exact h.sessions x hx (hxy.user.symm.trans hid)
  holders := by
    intro hid
    rcases Operation.holdersStep hproper id hid with hold | hlive' | hmem
    · exact h.holders hold
    · exact hlive hlive'
    · exact hnew hmem

/-- A deletion that is carried out removes everything. -/
theorem Store.removed_of_finalizeDeletion
    {s : Store} {u : User} (hu : s.users.get? u.id = some u)
    (hlive : u.status ≠ .deleted) {trace : Option String} {now : Instant}
    {fresh : FreshIds}
    (hdeleted : (s.finalizeDeletion u.id trace now fresh).2.Deleted u.id) :
    (s.finalizeDeletion u.id trace now fresh).2.Removed u.id := by
  have hkept : ¬s.Deleted u.id := by
    rintro ⟨v, hv, hstatus⟩
    rw [hu] at hv
    exact hlive (Option.some.inj hv ▸ hstatus)
  unfold finalizeDeletion at hdeleted ⊢
  simp only [hu, if_neg hlive] at hdeleted ⊢
  split at hdeleted
  · exact absurd hdeleted hkept
  next scheduledFor _ =>
    split at hdeleted
    · exact absurd hdeleted hkept
    next hdue =>
      split at hdeleted
      · exact absurd hdeleted hkept
      next hguard =>
        simp only [if_neg hdue, if_neg hguard]
        refine ⟨fun x hx => ?_, not_mem_holders_removeBelongings s u.id⟩
        simpa using (List.mem_filter.mp hx).2

/-- Nothing is left of deleted users but scrubbed records. -/
def Store.DeletedScrubbed (s : Store) : Prop :=
  ∀ u ∈ s.users.rows, u.status = .deleted →
    s.Removed u.id ∧ ∃ w now, u = User.scrub w now

theorem Operation.deletedScrubbed
    {op : Operation} {s : Store} (hproper : op.request.ProperIn s)
    (hnew : ∀ id ∈ op.newUsers, s.users.get? id = none)
    (hs : s.DeletedScrubbed) : (op.apply s).DeletedScrubbed := by
  intro v hv hdeleted
  rcases op.user_origin hv with ⟨hmade, -⟩ | ⟨u, hu, hstep⟩
  · exact absurd hdeleted (hproper.stays v hmade).live
  have hget : s.users.get? u.id = some u := Table.get?_key hu
  by_cases hlive : u.status = .deleted
  · obtain rfl := hstep.eq_of_deleted hlive
    obtain ⟨hremoved, hscrub⟩ := hs v hu hlive
    refine ⟨hremoved.step hproper ?_ fun hid => ?_, hscrub⟩
    · rintro ⟨w, hw, hstatus⟩
      rw [hget] at hw
      exact hstatus (Option.some.inj hw ▸ hlive)
    · rw [hnew v.id hid] at hget
      cases hget
  · obtain ⟨trace, scheduledFor, now, -, -, hrequest, rfl⟩ :=
      hstep.exists_due hproper.setsLiveStatus hlive hdeleted
    refine ⟨?_, u, now, rfl⟩
    obtain ⟨r, fresh⟩ := op
    obtain rfl : r = .finalizeDeletion u.id trace now := hrequest
    exact removed_of_finalizeDeletion hget hlive
      ⟨u.scrub now, Table.get?_key (a := u.scrub now) hv, hdeleted⟩

/-- Along a run of proper operations in which every new user gets a new
identifier, nothing is left of deleted users. -/
theorem ProperRun.deletedScrubbed
    {ops : List Operation} (h : ProperRun ops) (hnodup : (drawnUsers ops).Nodup) :
    (Store.empty.run ops).DeletedScrubbed := by
  refine run_induction (fun _ hu => absurd hu List.not_mem_nil) ?_
  intro pre op post hsplit hpre
  exact Operation.deletedScrubbed (h pre op post hsplit)
    (get?_newUser_of_split hsplit (fun _ _ => rfl) hnodup) hpre

/-! ## The tokens of former sessions -/

theorem ProperRun.opensProperly
    {ops : List Operation} (h : ProperRun ops) :
    ∀ op ∈ ops, op.request.OpensProperly := by
  intro op hop
  obtain ⟨pre, post, hsplit⟩ := List.append_of_mem hop
  exact (h pre op post hsplit).opensProperly

/-- A user without sessions has no tokens left of the sessions they once had. -/
theorem Store.not_mem_tokens_of_former
    {pre post : List Operation}
    (hopen : ∀ op ∈ pre ++ post, op.request.OpensProperly)
    (hnodup : (drawnNames (pre ++ post)).Nodup) {id : UserId}
    (hnone : ∀ y ∈ (Store.empty.run (pre ++ post)).sessions.rows, y.user ≠ id)
    {x : Session} (hx : x ∈ (Store.empty.run pre).sessions.rows)
    (huser : x.user = id) :
    ∀ t ∈ (Store.empty.run (pre ++ post)).tokens.rows, t.session ≠ x.id := by
  intro t ht hsession
  have hchained : (Store.empty.run (pre ++ post)).Chained :=
    chained_empty.run hopen (fun n _ => not_uses_empty n) hnodup
  obtain ⟨y, hy, hid⟩ := hchained.owned t ht
  have hdrawn : .session x.id ∉ drawnNames post := fun hmem =>
    not_uses_of_append hopen hnodup _ hmem ⟨x, hx, rfl⟩
  have hlater : x.Later y := by
    refine later_of_mem_sessions_run (fun op hop => hopen op (by simp [hop]))
      hx hdrawn ?_ (hid.trans hsession)
    rwa [← run_append]
  exact hnone y hy (hlater.user.trans huser)

/-! ## Deleted users -/

/-- Nothing is left of a user but a record without anything personal, and the
time of the deletion. -/
structure Store.Scrubbed (s : Store) (u : User) : Prop where
  sessions : ∀ x ∈ s.sessions.rows, x.user ≠ u.id
  identities : ∀ i ∈ s.identities, i.user ≠ u.id
  verificationTokens : ∀ t ∈ s.verificationTokens.rows, t.user ≠ u.id
  password : s.passwordHash? u.id = none
  email : u.email = Email.tombstone u.id
  role : u.role = .user
  displayName : u.displayName = none
  avatarUrl : u.avatarUrl = none
  deletionRequestedAt : u.deletionRequestedAt = none
  deletionScheduledFor : u.deletionScheduledFor = none
  deletionSession : u.deletionSession = none
  deletionTrace : u.deletionTrace = none
  deletedAt : u.deletedAt.isSome = true

theorem Store.Removed.scrubbed
    {s : Store} {w : User} {now : Instant} (h : s.Removed (w.scrub now).id) :
    s.Scrubbed (w.scrub now) where
  sessions := h.sessions
  identities i hi heq := h.holders (heq ▸ mem_holders_of_identity hi)
  verificationTokens t ht heq :=
    h.holders (heq ▸ mem_holders_of_verificationToken ht)
  password := by
    rw [passwordHash?, Option.map_eq_none_iff, Table.get?_eq_none_iff]
    exact fun p hp heq => h.holders (heq ▸ mem_holders_of_password hp)
  email := rfl
  role := rfl
  displayName := rfl
  avatarUrl := rfl
  deletionRequestedAt := rfl
  deletionScheduledFor := rfl
  deletionSession := rfl
  deletionTrace := rfl
  deletedAt := rfl

/-- After any calls that run one after the other, in which no identifier is
drawn twice: nothing is left of a deleted user but a scrubbed record, and no
refresh token is left of any session that they have ever had. -/
theorem deleted_users_scrubbed
    (c : ServiceSettings) (w : WorkerSettings) (errands : List Errand) :
    let b := Books.empty.run c w errands
    (drawnUsers b.log).Nodup → (drawnNames b.log).Nodup →
      ∀ u ∈ b.store.users.rows, u.status = .deleted →
        b.store.Scrubbed u ∧
        ∀ pre post, b.log = pre ++ post →
          ∀ x ∈ (Store.empty.run pre).sessions.rows, x.user = u.id →
            ∀ t ∈ b.store.tokens.rows, t.session ≠ x.id := by
  intro b husers hnames u hu hdeleted
  have hproper : b.Proper := Books.proper_run errands
  rw [hproper.store] at hu ⊢
  obtain ⟨hremoved, v, now, rfl⟩ :=
    hproper.log.deletedScrubbed husers u hu hdeleted
  refine ⟨hremoved.scrubbed, fun pre post hsplit x hx huser => ?_⟩
  have hopen := hproper.log.opensProperly
  have hnone := hremoved.sessions
  rw [hsplit] at hopen hnames hnone ⊢
  exact not_mem_tokens_of_former hopen hnames hnone hx huser

/-- Somebody registers and asks to be deleted at once. -/
def registeredAndDeleted : List Errand := [
  ⟨.register "a@e.com" "correct horse battery" none {}, .numbered 0 ⟨0, 0⟩⟩,
  ⟨.requestDeletion {} ⟨1⟩, .numbered 20 ⟨10, 0⟩⟩,
  ⟨.poll, .numbered 40 ⟨20, 0⟩⟩]

theorem deleted_users_scrubbed_sample :
    let b := Books.empty.run plainSettings sampleWorker registeredAndDeleted
    (drawnUsers b.log).Nodup ∧ (drawnNames b.log).Nodup ∧
      ∃ u ∈ b.store.users.rows, u.status = .deleted ∧ b.store.Scrubbed u := by
  intro b
  have husers : (drawnUsers b.log).Nodup := by decide +kernel
  have hnames : (drawnNames b.log).Nodup := by decide +kernel
  have hdeleted : ∃ u ∈ b.store.users.rows, u.status = .deleted := by
    decide +kernel
  obtain ⟨u, hu, hstatus⟩ := hdeleted
  exact ⟨husers, hnames, u, hu, hstatus,
    (deleted_users_scrubbed plainSettings sampleWorker registeredAndDeleted
      husers hnames u hu hstatus).1⟩

end AccountAuthority
