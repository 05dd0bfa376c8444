import AccountAuthority.Proofs.ScrubbedUsers
import AccountAuthority.Proofs.SessionWork

/-!
# Who external identities belong to

An identity is bound by the creation of an account, or by a link to one that is
there.  Either looks first whether the identity is free and whether the user has
one of the provider already, and a deletion takes the identities of the user
along.  So in every state that operations lead to, identities are told apart by
provider and subject, a user has at most one of a provider, and their owners are
there and have not been deleted.
-/

namespace AccountAuthority

open Store

/-- The accounts that a request may open for external identities. -/
def RepositoryRequest.externalAccounts :
    RepositoryRequest → List (User × ExternalIdentity)
  | createExternalUser user identity => [(user, identity)]
  | _ => []

/-- An account that is opened for an external identity is not deleted, and the
identity is its own. -/
def RepositoryRequest.OpensOwn (r : RepositoryRequest) : Prop :=
  ∀ a ∈ r.externalAccounts, a.1.status ≠ .deleted ∧ a.2.user = a.1.id

instance (r : RepositoryRequest) : Decidable r.OpensOwn :=
  inferInstanceAs (Decidable (∀ a ∈ r.externalAccounts, _))

namespace Store

/-- Identities are told apart by provider and subject, as well as by user and
provider; they belong to live users, and passwords to users who are there. -/
structure Bound (s : Store) : Prop where
  subjects : (s.identities.map fun i => (i.provider, i.subject)).Nodup
  providers : (s.identities.map fun i => (i.user, i.provider)).Nodup
  owners : ∀ i ∈ s.identities, s.Live i.user
  passwords : ∀ p ∈ s.passwords.rows, ∃ u, s.users.get? p.user = some u

theorem bound_empty : Store.empty.Bound where
  subjects := List.nodup_nil
  providers := List.nodup_nil
  owners _ hi := absurd hi List.not_mem_nil
  passwords _ hp := absurd hp List.not_mem_nil

/-! ## What operations do to identities -/

/-- Identities may go, and one may be added that is free, to a live user who has
none of its provider. -/
inductive IdentityStep (s s' : Store) : Prop
  | dropped (identities : s'.identities.Sublist s.identities)
  | added (i : ExternalIdentity)
      (identities : s'.identities = s.identities ++ [i])
      (free : ∀ j ∈ s.identities,
        (j.provider, j.subject) ≠ (i.provider, i.subject))
      (single : ∀ j ∈ s.identities, (j.user, j.provider) ≠ (i.user, i.provider))
      (owner : s'.Live i.user)

section

variable {s s' : Store}

theorem IdentityStep.of_eq (h : s'.identities = s.identities) :
    IdentityStep s s' :=
  .dropped (h ▸ List.Sublist.refl _)

theorem nodup_map_concat
    {α β : Type} {f : α → β} {l : List α} {a : α} (hl : (l.map f).Nodup)
    (ha : ∀ b ∈ l, f b ≠ f a) : ((l ++ [a]).map f).Nodup := by
  rw [List.map_append, List.nodup_append]
  refine ⟨hl, List.nodup_singleton _, fun b hb c hc hbc => ?_⟩
  obtain ⟨b, hmem, rfl⟩ := List.mem_map.mp hb
  exact ha b hmem (hbc.trans (List.mem_singleton.mp hc))

theorem IdentityStep.subjects_nodup
    (h : IdentityStep s s')
    (hs : (s.identities.map fun i => (i.provider, i.subject)).Nodup) :
    (s'.identities.map fun i => (i.provider, i.subject)).Nodup := by
  cases h with
  | dropped hidentities => exact hs.sublist (hidentities.map _)
  | added i hidentities hfree _ _ =>
      rw [hidentities]
      exact nodup_map_concat hs hfree

theorem IdentityStep.providers_nodup
    (h : IdentityStep s s')
    (hs : (s.identities.map fun i => (i.user, i.provider)).Nodup) :
    (s'.identities.map fun i => (i.user, i.provider)).Nodup := by
  cases h with
  | dropped hidentities => exact hs.sublist (hidentities.map _)
  | added i hidentities _ hsingle _ =>
      rw [hidentities]
      exact nodup_map_concat hs hsingle

theorem identity?_eq_none_iff {provider subject : String} :
    s.identity? provider subject = none ↔
      ∀ j ∈ s.identities, (j.provider, j.subject) ≠ (provider, subject) := by
  simp [identity?]

theorem identity?_eq_some
    {provider subject : String} {i : ExternalIdentity}
    (h : s.identity? provider subject = some i) :
    i ∈ s.identities ∧ i.provider = provider ∧ i.subject = subject := by
  have hi := List.find?_some h
  exact ⟨List.mem_of_find?_eq_some h, by simpa using hi⟩

/-- When identities belong to users who are there, one that leads to nobody is
free. -/
theorem identity?_of_findExternalUser_eq_none
    {provider subject : String} (howners : ∀ i ∈ s.identities, s.Live i.user)
    (h : s.findExternalUser provider subject = none) :
    s.identity? provider subject = none := by
  cases hi : s.identity? provider subject with
  | none => rfl
  | some i =>
      obtain ⟨u, hu, -⟩ := howners i (identity?_eq_some hi).1
      rw [findExternalUser, hi, Option.bind_some, hu] at h
      cases h

variable (s)

theorem createExternalUser_identityStep
    (u : User) (identity : ExternalIdentity)
    (howners : ∀ i ∈ s.identities, s.Live i.user)
    (hnew : s.users.get? u.id = none) (hlive : u.status ≠ .deleted)
    (hown : identity.user = u.id) :
    IdentityStep s (s.createExternalUser u identity).2 := by
  unfold createExternalUser
  split
  · exact .of_eq rfl
  next hnobody =>
    split
    · exact .of_eq rfl
    · refine .added identity rfl (identity?_eq_none_iff.mp
        (identity?_of_findExternalUser_eq_none howners hnobody)) ?_ ?_
      · intro j hj heq
        obtain ⟨w, hw, -⟩ := howners j hj
        rw [(Prod.mk.inj heq).1, hown, hnew] at hw
        cases hw
      · exact ⟨u, by rw [hown]; exact (Table.get?_insert ..).trans (if_pos rfl), hlive⟩

theorem linkIdentity_identityStep (identity : ExternalIdentity) :
    IdentityStep s (s.linkIdentity identity).2 := by
  unfold linkIdentity
  split
  · exact .of_eq rfl
  next u hu =>
    split
    · exact .of_eq rfl
    next hlive =>
      split
      · split <;> exact .of_eq rfl
      next hfree =>
        split
        · exact .of_eq rfl
        next hsingle =>
          refine .added identity rfl (identity?_eq_none_iff.mp hfree) ?_
            ⟨u, hu, hlive⟩
          simpa using hsingle

theorem finalizeDeletion_identityStep
    (user : UserId) (trace : Option String) (now : Instant) (fresh : FreshIds) :
    IdentityStep s (s.finalizeDeletion user trace now fresh).2 := by
  unfold finalizeDeletion
  split
  · exact .of_eq rfl
  split
  · exact .of_eq rfl
  split
  · exact .of_eq rfl
  split
  · exact .of_eq rfl
  dsimp only
  split
  · exact .of_eq rfl
  · exact .dropped List.filter_sublist

end

end Store

theorem Operation.identityStep
    (op : Operation) (s : Store) (howners : ∀ i ∈ s.identities, s.Live i.user)
    (hnew : ∀ id ∈ op.newUsers, s.users.get? id = none)
    (hopens : op.request.OpensOwn) : IdentityStep s (op.apply s) := by
  by_cases hleaves : op.request.LeavesAccounts
  · exact .of_eq (op.sameAccounts s hleaves).identities
  obtain ⟨r, fresh⟩ := op
  cases r with
  | createExternalUser u identity =>
      obtain ⟨hlive, hown⟩ := hopens (u, identity) (List.mem_singleton_self _)
      exact createExternalUser_identityStep s u identity howners
        (hnew u.id (List.mem_singleton_self _)) hlive hown
  | linkIdentity identity => exact linkIdentity_identityStep s identity
  | finalizeDeletion user trace now =>
      exact finalizeDeletion_identityStep s user trace now fresh
  | createUser | storeVerificationToken | resetPassword | verifyEmail
  | changePassword | changeRole | changeStatus | requestDeletion
  | cancelDeletion =>
      refine .of_eq ?_
      simp only [apply, perform, createUser, resetPassword, verifyEmail,
        changePassword, changeRole, changeStatus, requestDeletion, cancelDeletion,
        revokeAll_eq]
      repeat' split
      all_goals rfl
  | _ => exact absurd trivial hleaves

/-! ## Whom passwords belong to -/

/-- A password belonged to its user before, or the user is there. -/
theorem Operation.password_origin
    {op : Operation} {s : Store} {p : StoredPassword}
    (hp : p ∈ (op.apply s).passwords.rows) :
    p ∈ s.passwords.rows ∨ (∃ u, s.users.get? p.user = some u) ∨
      ∃ u, (op.apply s).users.get? p.user = some u := by
  by_cases hleaves : op.request.LeavesAccounts
  · rw [(op.sameAccounts s hleaves).passwords] at hp
    exact Or.inl hp
  obtain ⟨r, fresh⟩ := op
  cases r with
  | createUser u hash =>
      simp only [apply, perform, createUser] at hp ⊢
      split at hp
      · exact Or.inl hp
      next hfree =>
        rcases mem_insert_password hp with hold | huser
        · exact Or.inl hold
        · refine Or.inr (Or.inr ⟨u, ?_⟩)
          rw [if_neg hfree, huser]
          exact (Table.get?_insert ..).trans (if_pos rfl)
  | resetPassword hash newHash now =>
      simp only [apply, perform, resetPassword, revokeAll_eq] at hp
      split at hp
      · exact Or.inl hp
      split at hp
      · exact Or.inl hp
      split at hp
      · exact Or.inl hp
      split at hp
      · exact Or.inl hp
      next u hu =>
        split at hp
        · exact Or.inl hp
        · rcases mem_insert_password hp with hold | huser
          · exact Or.inl hold
          · exact Or.inr (Or.inl ⟨u, huser ▸ hu⟩)
  | changePassword user expected new keep now =>
      simp only [apply, perform, changePassword, revokeAll_eq] at hp
      split at hp
      · exact Or.inl hp
      next u hu =>
        split at hp
        · exact Or.inl hp
        split at hp
        · exact Or.inl hp
        · rcases mem_insert_password hp with hold | huser
          · exact Or.inl hold
          · exact Or.inr (Or.inl ⟨u, huser ▸ hu⟩)
  | finalizeDeletion user trace now =>
      simp only [apply, perform, finalizeDeletion] at hp
      repeat' split at hp
      all_goals first
        | exact Or.inl hp
        | exact Or.inl (List.mem_filter.mp hp).1
  | createExternalUser | linkIdentity | storeVerificationToken | verifyEmail
  | changeRole | changeStatus | requestDeletion | cancelDeletion =>
      simp only [apply, perform, createExternalUser, linkIdentity, verifyEmail,
        changeRole, changeStatus, requestDeletion, cancelDeletion, revokeAll_eq] at hp
      repeat' split at hp
      all_goals exact Or.inl hp
  | _ => exact absurd trivial hleaves

/-! ## Every reachable state -/

section

variable {op : Operation} {s : Store} {id : UserId}

theorem Operation.exists_user
    (hnew : ∀ id ∈ op.newUsers, s.users.get? id = none) {u : User}
    (hu : s.users.get? id = some u) : ∃ v, (op.apply s).users.get? id = some v := by
  obtain ⟨v, hv, -⟩ := op.recordsStep s id u (fun hid => by simp [hnew id hid] at hu) hu
  exact ⟨v, hv⟩

/-- A user stays live, or is deleted and loses everything. -/
theorem Operation.live_or_removed
    (hnew : ∀ id ∈ op.newUsers, s.users.get? id = none)
    (hstatus : op.request.SetsLiveStatus) (hlive : s.Live id) :
    (op.apply s).Live id ∨ (op.apply s).Removed id := by
  obtain ⟨u, hu, hkept⟩ := hlive
  obtain rfl := id_of_get?_user s hu
  obtain ⟨v, hv, hstep⟩ :=
    op.recordsStep s u.id u (fun hid => by simp [hnew u.id hid] at hu) hu
  by_cases hdeleted : v.status = .deleted
  · obtain ⟨trace, scheduledFor, now, -, -, hrequest, -⟩ :=
      hstep.exists_due hstatus hkept hdeleted
    obtain ⟨r, fresh⟩ := op
    obtain rfl : r = .finalizeDeletion u.id trace now := hrequest
    exact Or.inr (removed_of_finalizeDeletion hu hkept ⟨v, hv, hdeleted⟩)
  · exact Or.inl ⟨v, hv, hdeleted⟩

theorem Operation.bound
    (hnew : ∀ id ∈ op.newUsers, s.users.get? id = none)
    (hopens : op.request.OpensOwn) (hstatus : op.request.SetsLiveStatus)
    (hs : s.Bound) : (op.apply s).Bound := by
  have hstep := op.identityStep s hs.owners hnew hopens
  refine ⟨hstep.subjects_nodup hs.subjects, hstep.providers_nodup hs.providers,
    fun i hi => ?_, fun p hp => ?_⟩
  · have hold (hmem : i ∈ s.identities) : (op.apply s).Live i.user := by
      rcases op.live_or_removed hnew hstatus (hs.owners i hmem) with hlive | hremoved
      · exact hlive
      · exact absurd (mem_holders_of_identity hi) hremoved.holders
    cases hstep with
    | dropped hidentities => exact hold (hidentities.mem hi)
    | added j hidentities _ _ howner =>
        rw [hidentities, List.mem_append, List.mem_singleton] at hi
        rcases hi with hmem | rfl
        · exact hold hmem
        · exact howner
  · rcases Operation.password_origin hp with hold | ⟨u, hu⟩ | hthere
    · obtain ⟨u, hu⟩ := hs.passwords p hold
      exact Operation.exists_user hnew hu
    · exact Operation.exists_user hnew hu
    · exact hthere

end

theorem Store.bound_run
    {ops : List Operation} (hnodup : (drawnUsers ops).Nodup)
    (hopens : ∀ op ∈ ops, op.request.OpensOwn)
    (hstatus : ∀ op ∈ ops, op.request.SetsLiveStatus) :
    (Store.empty.run ops).Bound := by
  refine run_induction bound_empty fun pre op post hsplit hpre => ?_
  have hmem : op ∈ ops := by simp [hsplit]
  exact Operation.bound (get?_newUser_of_split hsplit (fun _ _ => rfl) hnodup)
    (hopens op hmem) (hstatus op hmem) hpre

end AccountAuthority
