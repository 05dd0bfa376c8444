import AccountAuthority.Proofs.AcceptedTokens
import AccountAuthority.Proofs.ExternalIdentities
import AccountAuthority.Proofs.ProviderLogins

/-!
# Accounts are not joined by their addresses

A login with an identity token leads to the user that the identity is bound to,
or to a new one.  That somebody has the address of the identity never makes the
identity theirs: then the login fails.
-/

namespace AccountAuthority

open Store

namespace Store

/-- The identities of a user. -/
def identitiesOf (s : Store) (user : UserId) : List ExternalIdentity :=
  s.identities.filter fun i => i.user = user

/-- An identity of a provider is bound to a user. -/
def Binds (s : Store) (provider subject : String) (user : UserId) : Prop :=
  ∃ i ∈ s.identities, i.provider = provider ∧ i.subject = subject ∧ i.user = user

instance (s : Store) (id : UserId) : Decidable (s.Live id) :=
  decidable_of_iff ((s.users.get? id).any fun u => u.status ≠ .deleted) (by
    cases h : s.users.get? id <;> simp [Live, h])

theorem binds_of_findExternalUser
    {s : Store} {provider subject : String} {u : User}
    (h : s.findExternalUser provider subject = some u) :
    s.Binds provider subject u.id := by
  obtain ⟨i, hi, hu⟩ := Option.bind_eq_some_iff.mp h
  obtain ⟨hmem, hprovider, hsubject⟩ := identity?_eq_some hi
  exact ⟨i, hmem, hprovider, hsubject, (id_of_get?_user s hu).symm⟩

section

variable {s : Store} {u : User} {identity : ExternalIdentity}

theorem createExternalUser_of_found
    {existing : User}
    (h : s.findExternalUser identity.provider identity.subject = some existing) :
    s.createExternalUser u identity = (.identityExists existing, s) := by
  rw [createExternalUser, h]

theorem createExternalUser_of_taken
    (h : s.findExternalUser identity.provider identity.subject = none)
    (htaken : s.emailTaken u.email = true) :
    s.createExternalUser u identity = (.emailTaken, s) := by
  rw [createExternalUser, h]
  exact if_pos htaken

theorem createExternalUser_of_free
    (h : s.findExternalUser identity.provider identity.subject = none)
    (hfree : s.emailTaken u.email = false) :
    s.createExternalUser u identity = (.created u,
      { s.insertUser u none with identities := s.identities ++ [identity] }) := by
  rw [createExternalUser, h]
  exact if_neg (by simp [hfree])

end

end Store

/-! ## What a login does to the store -/

/-- A login for an identity that ends with a session of the user `u` has found
the user bound to the identity, or has made the user with the identifier it has
drawn. -/
inductive LoggedIn
    (identity : ProviderIdentity) (drawn : UserId) (s s' : Store) (u : User) : Prop
  | found
      (bound : s.findExternalUser identity.provider identity.subject = some u)
      (same : SameAccounts s s')
  | made (x : ExternalIdentity) (id : u.id = drawn)
      (binding : x.provider = normalizeProvider identity.provider ∧
        x.subject = identity.subject ∧ x.user = u.id)
      (free : ∀ w ∈ s.users.rows, w.email ≠ u.email)
      (users : s'.users = s.users.insert u)
      (passwords : s'.passwords = s.passwords)
      (identities : s'.identities = s.identities ++ [x])

section

variable {c : ServiceSettings} {provider token : String} {device : Device}
  {o : Surroundings} {fresh : FreshIds} {s s' : Store} {g : Grant}

theorem Program.runAlone_ask
    {α : Type} (r : RepositoryRequest)
    (next : r.Answer → Program RepositoryPort α) :
    (Program.ask r next).runAlone fresh s =
      (next (s.perform r fresh).1).runAlone fresh (s.perform r fresh).2 :=
  rfl

theorem runAlone_openCall
    {n : ℕ} {user : User}
    (h : (openCall c device o n user).runAlone fresh s = (.ok g, s')) :
    g.user = user.view ∧ SameAccounts s s' := by
  have hopens := openCall_opens c device o n user
  generalize openCall c device o n user = p at h hopens
  cases hopens with
  | refused e _ => cases h
  | creating x t now next hgrants =>
      obtain ⟨g', hg', huser⟩ := hgrants (s.createSession x t now).1
      change (next (s.createSession x t now).1).runAlone fresh
        (s.createSession x t now).2 = (.ok g, s') at h
      rw [hg'] at h
      cases h
      exact ⟨huser, createSession_sameAccounts s x t now⟩

theorem runAlone_identityCall
    {identity : ProviderIdentity} {email : String}
    (hname : normalizeProvider identity.provider = identity.provider)
    (h : (identityCall c device o identity email).runAlone fresh s = (.ok g, s')) :
    ∃ u, g.user = u.view ∧ LoggedIn identity (o 4 .freshId) s s' u := by
  rw [identityCall, Program.runAlone_ask] at h
  change (afterFirstLook c device o identity email
    (s.findExternalUser identity.provider identity.subject)).runAlone fresh s = _ at h
  cases hfirst : s.findExternalUser identity.provider identity.subject with
  | some u =>
      rw [hfirst] at h
      obtain ⟨hview, hsame⟩ := runAlone_openCall h
      exact ⟨u, hview, .found hfirst hsame⟩
  | none =>
      rw [hfirst, afterFirstLook, Program.runAlone_ask] at h
      change (afterAddress c device o identity email (s.findLogin email)).runAlone
        fresh s = _ at h
      cases haddress : s.findLogin email with
      | some record =>
          rw [haddress, afterAddress, Program.runAlone_ask] at h
          change (afterSecondLook c device o
            (s.findExternalUser identity.provider identity.subject)).runAlone
              fresh s = _ at h
          rw [hfirst] at h
          cases h
      | none =>
          rw [haddress, afterAddress, Program.runAlone_ask] at h
          change (afterCreating c device o (s.createExternalUser (externalUser o email)
            (externalBinding o identity email)).1).runAlone fresh
              (s.createExternalUser (externalUser o email)
                (externalBinding o identity email)).2 = _ at h
          have hnobody : s.findExternalUser (externalBinding o identity email).provider
              (externalBinding o identity email).subject = none := by
            rw [← hfirst, ← hname]
            rfl
          cases hfree : s.emailTaken (externalUser o email).email with
          | true =>
              rw [createExternalUser_of_taken hnobody hfree] at h
              cases h
          | false =>
              rw [createExternalUser_of_free hnobody hfree] at h
              obtain ⟨hview, hsame⟩ := runAlone_openCall h
              refine ⟨externalUser o email, hview,
                .made (externalBinding o identity email) rfl ⟨rfl, rfl, rfl⟩ ?_
                  hsame.users hsame.passwords hsame.identities⟩
              simpa [emailTaken] using hfree

theorem runAlone_exchangeCall
    {v : OidcVerifier} (hverifies : o.Verifies v)
    (h : (exchangeCall c provider token device o).runAlone fresh s = (.ok g, s')) :
    ∃ identity u, o 0 (.verifyIdToken provider token) = .verified identity ∧
      normalizeProvider identity.provider = identity.provider ∧
      g.user = u.view ∧ LoggedIn identity (o 4 .freshId) s s' u := by
  rw [exchangeCall_eq] at h
  cases hverified : o 0 (.verifyIdToken provider token) with
  | notConfigured =>
      rw [hverified] at h
      cases h
  | invalid =>
      rw [hverified] at h
      cases h
  | verified identity =>
      have hname := hverifies.normalizeProvider_eq hverified
      rw [hverified, afterVerifying] at h
      split at h
      next email _ =>
        split at h
        · obtain ⟨u, hview, hlogged⟩ := runAlone_identityCall hname h
          exact ⟨identity, u, rfl, hname, hview, hlogged⟩
        · cases h
      · cases h

end

/-! ## Whose identities are whose -/

section

variable {identity : ProviderIdentity} {drawn : UserId} {s s' : Store} {u : User}

theorem LoggedIn.binds
    (h : LoggedIn identity drawn s s' u)
    (hname : normalizeProvider identity.provider = identity.provider) :
    s'.Binds identity.provider identity.subject u.id := by
  cases h with
  | found hbound hsame =>
      obtain ⟨i, hi, hbinds⟩ := binds_of_findExternalUser hbound
      exact ⟨i, hsame.identities ▸ hi, hbinds⟩
  | made x _ hbinding _ _ _ hidentities =>
      refine ⟨x, by simp [hidentities], ?_, hbinding.2⟩
      rw [hbinding.1, hname]

theorem LoggedIn.identitiesOf_eq
    (h : LoggedIn identity drawn s s' u) {user : UserId} (hne : user ≠ u.id) :
    s'.identitiesOf user = s.identitiesOf user := by
  cases h with
  | found _ hsame => rw [identitiesOf, hsame.identities, identitiesOf]
  | made x _ hbinding _ _ _ hidentities =>
      have hother : ¬(x.user = user) := fun heq => hne (heq.symm.trans hbinding.2.2)
      rw [identitiesOf, hidentities, List.filter_append, identitiesOf]
      simp [hother]

/-- A login leads to a user who was bound to the identity before, or to one who
was not there before and has nothing else. -/
theorem LoggedIn.known_or_new
    (h : LoggedIn identity drawn s s' u) (hs : s.Bound)
    (hdrawn : s.users.get? drawn = none) :
    (s.users.get? u.id = some u ∧ s'.identities = s.identities ∧
      s.Binds identity.provider identity.subject u.id) ∨
    (s.users.get? u.id = none ∧ s'.users.rows = s.users.rows ++ [u] ∧
      (∃ x, s'.identitiesOf u.id = [x]) ∧ (∀ w ∈ s.users.rows, w.email ≠ u.email) ∧
      s'.passwordHash? u.id = none) := by
  cases h with
  | found hbound hsame =>
      exact Or.inl ⟨get?_of_findExternalUser hbound, hsame.identities,
        binds_of_findExternalUser hbound⟩
  | made x hid hbinding hfree husers hpasswords hidentities =>
      rw [← hid] at hdrawn
      refine Or.inr ⟨hdrawn, ?_, ⟨x, ?_⟩, hfree, ?_⟩
      · rw [husers, Table.rows_insert_of_get?_eq_none hdrawn]
      · have hnone : s.identitiesOf u.id = [] := by
          refine List.filter_eq_nil_iff.mpr fun i hi heq => ?_
          obtain ⟨w, hw, -⟩ := hs.owners i hi
          rw [of_decide_eq_true heq, hdrawn] at hw
          cases hw
        rw [identitiesOf] at hnone
        rw [identitiesOf, hidentities, List.filter_append, hnone]
        simp [hbinding.2.2]
      · rw [passwordHash?, hpasswords, Option.map_eq_none_iff, Table.get?_eq_none_iff]
        intro p hp heq
        obtain ⟨w, hw⟩ := hs.passwords p hp
        have hkey : p.user = u.id := heq
        rw [hkey, hdrawn] at hw
        cases hw

end

/-- Let operations run in any order, in which no user identifier is drawn twice,
an account that is opened for an identity is its owner and not deleted, and no
change of status deletes a user.  Then identities are told apart by provider and
subject, nobody has two of one provider, and their owners are there and not
deleted.  A login with an identity token that succeeds afterwards leads to a
user to whom the identity is bound.  If the user was there before, so was the
binding; otherwise they are new, with this identity alone, an address that
nobody had, and no password.  The identities of all other users stay as they
are. -/
theorem identities_unique_and_accounts_separate
    (ops : List Operation) (hnodup : (drawnUsers ops).Nodup)
    (hopens : ∀ op ∈ ops, op.request.OpensOwn)
    (hstatus : ∀ op ∈ ops, op.request.SetsLiveStatus) :
    let s := Store.empty.run ops
    (s.identities.map fun i => (i.provider, i.subject)).Nodup ∧
      (s.identities.map fun i => (i.user, i.provider)).Nodup ∧
      (∀ i ∈ s.identities, ∃ u, s.users.get? i.user = some u ∧ u.status ≠ .deleted) ∧
      ∀ c v provider token device o fresh g s', o.Verifies v →
        (∀ n, s.users.get? (o n .freshId) = none) →
        (exchangeCall c provider token device o).runAlone fresh s = (.ok g, s') →
        ∃ identity, o 0 (.verifyIdToken provider token) = .verified identity ∧
          s'.Binds identity.provider identity.subject g.user.id ∧
          (((∃ u, s.users.get? g.user.id = some u) ∧ s'.identities = s.identities ∧
              s.Binds identity.provider identity.subject g.user.id) ∨
            (s.users.get? g.user.id = none ∧
              ∃ u x, s'.users.rows = s.users.rows ++ [u] ∧ u.id = g.user.id ∧
                s'.identitiesOf u.id = [x] ∧
                (∀ w ∈ s.users.rows, w.email ≠ u.email) ∧
                s'.passwordHash? u.id = none)) ∧
          ∀ user, user ≠ g.user.id → s'.identitiesOf user = s.identitiesOf user := by
  intro s
  have hs : s.Bound := bound_run hnodup hopens hstatus
  refine ⟨hs.subjects, hs.providers, hs.owners, ?_⟩
  intro c v provider token device o fresh g s' hverifies hfresh h
  obtain ⟨identity, u, hverified, hname, hview, hlogged⟩ :=
    runAlone_exchangeCall hverifies h
  have hid : g.user.id = u.id := by rw [hview]; rfl
  rw [hid]
  refine ⟨identity, hverified, hlogged.binds hname, ?_,
    fun user hne => hlogged.identitiesOf_eq hne⟩
  rcases hlogged.known_or_new hs (hfresh 4) with
    ⟨hu, hidentities, hbinds⟩ | ⟨hu, husers, ⟨x, hx⟩, hfree, hpassword⟩
  · exact Or.inl ⟨⟨u, hu⟩, hidentities, hbinds⟩
  · exact Or.inr ⟨hu, u, x, husers, rfl, hx, hfree, hpassword⟩

/-- Surroundings in which the clock stands still, a login with the sample token
goes through, and one identifier is drawn. -/
def signingIn (id : Uuid) : Surroundings
  | _, .verifyIdToken provider token => sampleVerifier.verify provider token ⟨0, 0⟩
  | _, .freshId => id
  | n, r => Surroundings.still ⟨0, 0⟩ [] n r

theorem verifies_signingIn (id : Uuid) : (signingIn id).Verifies sampleVerifier :=
  fun _ _ _ => ⟨⟨0, 0⟩, rfl⟩

theorem exchangeCall_signingIn (c : ServiceSettings) (device : Device) (id : Uuid) :
    exchangeCall c "google" sampleIdToken.text device (signingIn id) =
      identityCall c device (signingIn id) sampleIdentity
        (Email.normalize "a@b.c") := by
  rw [exchangeCall_eq]
  change afterVerifying c device (signingIn id)
    (sampleVerifier.verify "google" sampleIdToken.text ⟨0, 0⟩) = _
  rw [sampleVerifier_verify]
  rfl

/-- Somebody has an account, and an identity is bound to it. -/
def sampleLinks : List Operation := [
  ⟨.createUser sampleUser "hash", .zero⟩,
  ⟨.linkIdentity (.create ⟨9⟩ "google" "s-2" sampleUser.id none ⟨0, 0⟩), .zero⟩]

theorem identities_unique_and_accounts_separate_sample :
    let s := Store.empty.run sampleLinks
    (drawnUsers sampleLinks).Nodup ∧
      (∀ op ∈ sampleLinks, op.request.OpensOwn) ∧
      (∀ op ∈ sampleLinks, op.request.SetsLiveStatus) ∧
      (signingIn ⟨100⟩).Verifies sampleVerifier ∧
      (∀ n, s.users.get? (signingIn ⟨100⟩ n .freshId) = none) ∧
      ∃ g s', (exchangeCall sampleSettings "google" sampleIdToken.text {}
          (signingIn ⟨100⟩)).runAlone .zero s = (.ok g, s') ∧
        s'.Binds "google" "s-1" g.user.id ∧
        s'.identitiesOf sampleUser.id = s.identitiesOf sampleUser.id := by
  intro s
  have hnodup : (drawnUsers sampleLinks).Nodup := by decide
  have hopens : ∀ op ∈ sampleLinks, op.request.OpensOwn := by decide
  have hstatus : ∀ op ∈ sampleLinks, op.request.SetsLiveStatus := by decide
  have hfresh : ∀ n, s.users.get? (signingIn ⟨100⟩ n .freshId) = none :=
    fun _ => (by decide : s.users.get? ⟨100⟩ = none)
  have hid : ((exchangeCall sampleSettings "google" sampleIdToken.text {}
      (signingIn ⟨100⟩)).runAlone .zero s).1.toOption.map (fun g => g.user.id) =
        some ⟨100⟩ := by
    rw [exchangeCall_signingIn]
    decide +kernel
  generalize hrun : (exchangeCall sampleSettings "google" sampleIdToken.text {}
    (signingIn ⟨100⟩)).runAlone .zero s = result at hid
  obtain ⟨answer, s'⟩ := result
  cases answer with
  | error e => cases hid
  | ok g =>
      have hid : g.user.id = ⟨100⟩ := Option.some.inj hid
      obtain ⟨identity, hverified, hbinds, -, hothers⟩ :=
        (identities_unique_and_accounts_separate sampleLinks hnodup hopens
          hstatus).2.2.2 _ _ _ _ _ _ _ _ _ (verifies_signingIn ⟨100⟩) hfresh hrun
      obtain rfl := OidcVerification.verified.inj
        (sampleVerifier_verify.symm.trans hverified)
      exact ⟨hnodup, hopens, hstatus, verifies_signingIn ⟨100⟩, hfresh, g, s', rfl, hbinds,
        hothers sampleUser.id (by rw [hid]; decide)⟩

/-! ## What the conditions on the operations are for -/

/-- An account is opened for an identity. -/
def openedFor (status : Status) (owner : UserId) : Operation :=
  ⟨.createExternalUser { sampleUser with status := status }
    (.create ⟨9⟩ "google" "s-1" owner none ⟨0, 0⟩), .zero⟩

/-- The owner of an identity need not be live if a change of status may delete
them, if they may be deleted when their account is opened, or if an account may
be opened for an identity of somebody else. -/
theorem not_owners_live :
    (¬∀ ops : List Operation, (drawnUsers ops).Nodup →
      (∀ op ∈ ops, op.request.OpensOwn) →
      ∀ i ∈ (Store.empty.run ops).identities, (Store.empty.run ops).Live i.user) ∧
    (¬∀ ops : List Operation, (drawnUsers ops).Nodup →
      (∀ op ∈ ops, op.request.SetsLiveStatus) →
      (∀ op ∈ ops, ∀ a ∈ op.request.externalAccounts, a.2.user = a.1.id) →
      ∀ i ∈ (Store.empty.run ops).identities, (Store.empty.run ops).Live i.user) ∧
    ¬∀ ops : List Operation, (drawnUsers ops).Nodup →
      (∀ op ∈ ops, op.request.SetsLiveStatus) →
      (∀ op ∈ ops, ∀ a ∈ op.request.externalAccounts, a.1.status ≠ .deleted) →
      ∀ i ∈ (Store.empty.run ops).identities, (Store.empty.run ops).Live i.user := by
  refine ⟨fun h => ?_, fun h => ?_, fun h => ?_⟩
  · have hlive := h
      [openedFor .active sampleUser.id,
        ⟨.changeStatus {} sampleUser.id .deleted none ⟨0, 0⟩, .zero⟩]
      (by decide) (by decide)
    revert hlive
    decide +kernel
  · have hlive := h [openedFor .deleted sampleUser.id] (by decide) (by decide) (by decide)
    revert hlive
    decide +kernel
  · have hlive := h [openedFor .active ⟨7⟩] (by decide) (by decide) (by decide)
    revert hlive
    decide +kernel

end AccountAuthority
