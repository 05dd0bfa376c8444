import AccountAuthority.Proofs.SeparateAccounts

/-!
# Concurrent first logins of one identity meet in one account

Many calls log in with the same identity token, whose identity is not bound and
whose address nobody has.  The first call whose account is created decides which
it is.  Any other call may by then have found nothing, or neither an identity nor
an address, but whatever it does next leads it to that account: it is told that
the identity exists, or it finds the address and looks for the identity once
more.
-/

namespace AccountAuthority

open Store

/-- Signing succeeds. -/
def Surroundings.Signs (o : Surroundings) : Prop :=
  ∀ k r, ∃ access, o k (.signAccess r) = .ok access

/-! ## The store once the account is there -/

namespace Store

theorem findExternalUser_of_identity?_eq_none
    {s : Store} {provider subject : String}
    (h : s.identity? provider subject = none) :
    s.findExternalUser provider subject = none := by
  rw [findExternalUser, h]
  rfl

theorem findLogin_eq_none_iff {s : Store} {email : String} :
    s.findLogin email = none ↔ s.emailTaken email = false := by
  simp [findLogin, userByEmail?, emailTaken, Table.find?]

end Store

/-- An account has been made for an identity, with the address of the identity;
nothing else has happened to the accounts in the store `s₀`. -/
structure Made
    (s₀ : Store) (identity : ProviderIdentity) (email : String)
    (u : User) (x : ExternalIdentity) (s : Store) : Prop where
  new : s₀.users.get? u.id = none
  address : u.email = email
  active : u.status = .active
  provider : x.provider = identity.provider
  subject : x.subject = identity.subject
  owner : x.user = u.id
  users : s.users = s₀.users.insert u
  identities : s.identities = s₀.identities ++ [x]

section

variable {s₀ s s' : Store} {identity : ProviderIdentity} {email : String} {u : User}
  {x : ExternalIdentity}

theorem Made.of_sameAccounts
    (h : Made s₀ identity email u x s) (hsame : SameAccounts s s') :
    Made s₀ identity email u x s' :=
  { h with
    users := hsame.users.trans h.users
    identities := hsame.identities.trans h.identities }

theorem Made.findExternalUser_eq
    (h : Made s₀ identity email u x s)
    (hunbound : s₀.identity? identity.provider identity.subject = none) :
    s.findExternalUser identity.provider identity.subject = some u := by
  have hfound : s.identity? identity.provider identity.subject = some x := by
    rw [identity?] at hunbound ⊢
    rw [h.identities, List.find?_append, hunbound]
    simp [h.provider, h.subject]
  rw [findExternalUser, hfound, Option.bind_some, h.users, h.owner]
  exact (Table.get?_insert ..).trans (if_pos rfl)

theorem Made.exists_findLogin (h : Made s₀ identity email u x s) :
    ∃ record, s.findLogin email = some record := by
  refine Option.ne_none_iff_exists'.mp fun hnone => ?_
  rw [findLogin_eq_none_iff, emailTaken, h.users,
    Table.rows_insert_of_get?_eq_none h.new] at hnone
  simp [h.address] at hnone

/-- The first account that is asked for is made. -/
theorem exists_made_createExternalUser
    {o : Surroundings}
    (hunbound : s₀.identity? identity.provider identity.subject = none)
    (hfree : s₀.findLogin email = none)
    (hname : normalizeProvider identity.provider = identity.provider)
    (hemail : Email.normalize email = email)
    (hnew : s₀.users.get? (o 4 .freshId) = none) :
    ∃ s', s₀.createExternalUser (externalUser o email)
        (externalBinding o identity email) = (.created (externalUser o email), s') ∧
      Made s₀ identity email (externalUser o email)
        (externalBinding o identity email) s' := by
  have hprovider : (externalBinding o identity email).provider = identity.provider :=
    hname
  have haddress : (externalUser o email).email = email := hemail
  refine ⟨_, createExternalUser_of_free ?_ ?_,
    hnew, haddress, rfl, hprovider, rfl, rfl, rfl, rfl⟩
  · rw [hprovider]
    exact findExternalUser_of_identity?_eq_none hunbound
  · rw [haddress]
    exact findLogin_eq_none_iff.mp hfree

theorem Made.createExternalUser_eq
    (h : Made s₀ identity email u x s)
    (hunbound : s₀.identity? identity.provider identity.subject = none)
    (hname : normalizeProvider identity.provider = identity.provider)
    (o : Surroundings) :
    s.createExternalUser (externalUser o email) (externalBinding o identity email) =
      (.identityExists u, s) := by
  refine createExternalUser_of_found ?_
  rw [← h.findExternalUser_eq hunbound, ← hname]
  rfl

end

/-! ## The calls -/

section

variable {n : ℕ} (c : ServiceSettings) (provider token : String)
  (device : Fin n → Device) (around : Fin n → Surroundings)
  (identity : ProviderIdentity) (email : String)

/-- Calls that log in with the same identity token. -/
def signIns (s : Store) : Pool (Fin n) (Except ServiceError Grant) where
  calls i := exchangeCall c provider token (device i) (around i)
  store := s

/-- A call that has found nobody so far. -/
inductive Looking (i : Fin n) :
    Program RepositoryPort (Except ServiceError Grant) → Prop
  | start : Looking i (identityCall c (device i) (around i) identity email)
  | addressing : Looking i
      (.ask (.findLogin email) (afterAddress c (device i) (around i) identity email))
  | creating : Looking i
      (.ask (.createExternalUser (externalUser (around i) email)
          (externalBinding (around i) identity email))
        (afterCreating c (device i) (around i)))

/-- A call that is going to find the user `u`, or has found them. -/
inductive Joining (u : User) (i : Fin n) :
    Program RepositoryPort (Except ServiceError Grant) → Prop
  | looking {q} (h : Looking c device around identity email i q) : Joining u i q
  | again : Joining u i
      (.ask (.findExternalUser identity.provider identity.subject)
        (afterSecondLook c (device i) (around i)))
  | opening {q} (h : Opens (around i) u q) : Joining u i q
  | joined (g : Grant) (user : g.user = u.view) : Joining u i (.done (.ok g))

/-- How far the logins have come: everybody is looking, or an account has been
made and everybody is on their way to it. -/
inductive Meeting (s₀ : Store) (p : Pool (Fin n) (Except ServiceError Grant)) : Prop
  | unmade
      (store : p.store = s₀)
      (calls : ∀ i, Looking c device around identity email i (p.calls i))
  | made (u : User) (x : ExternalIdentity)
      (made : Made s₀ identity email u x p.store)
      (calls : ∀ i, Joining c device around identity email u i (p.calls i))

variable {c provider token device around identity email} {s₀ : Store}
  {p : Pool (Fin n) (Except ServiceError Grant)}

theorem Looking.not_done
    {i : Fin n} {a : Except ServiceError Grant}
    (h : Looking c device around identity email i (.done a)) : False := by
  generalize hq : Program.done a = q at h
  cases h <;> cases hq

/-! ## One turn -/

section

variable (hunbound : s₀.identity? identity.provider identity.subject = none)
  (hfree : s₀.findLogin email = none)
  (hname : normalizeProvider identity.provider = identity.provider)
  (hemail : Email.normalize email = email)
  (hnew : ∀ i, s₀.users.get? (around i 4 .freshId) = none)

include hunbound hfree hname hemail hnew in
/-- Until there is an account, a call finds nothing, or makes the account. -/
theorem Meeting.turn_of_unmade
    {t : Turn (Fin n)} (hstore : p.store = s₀)
    (hcalls : ∀ i, Looking c device around identity email i (p.calls i)) :
    Meeting c device around identity email s₀ (p.turn t) := by
  have hlooking := hcalls t.call
  generalize hq : p.calls t.call = q at hlooking
  -- A call that only reads goes on looking.
  have hread (hkept : (p.turn t).store = p.store)
      (hself : Looking c device around identity email t.call
        ((p.turn t).calls t.call)) :
      Meeting c device around identity email s₀ (p.turn t) :=
    .unmade (hkept.trans hstore) (Pool.forall_calls_turn hcalls hself)
  cases hlooking with
  | start =>
      rw [identityCall] at hq
      have hself := Pool.turn_calls_self hq
      simp only [perform, hstore, findExternalUser_of_identity?_eq_none hunbound]
        at hself
      exact hread (Pool.turn_store hq) (hself ▸ .addressing)
  | addressing =>
      have hself := Pool.turn_calls_self hq
      simp only [perform, hstore, hfree] at hself
      exact hread (Pool.turn_store hq) (hself ▸ .creating)
  | creating =>
      obtain ⟨s', hcreate, hmade⟩ := exists_made_createExternalUser hunbound hfree hname
        hemail (hnew t.call)
      have hself := Pool.turn_calls_self hq
      have hstore' := Pool.turn_store hq
      simp only [perform, hstore, hcreate] at hself hstore'
      refine .made _ _ (hstore' ▸ hmade)
        (Pool.forall_calls_turn (fun i => .looking (hcalls i)) ?_)
      rw [hself]
      exact .opening (openCall_opens ..)

include hunbound hname in
/-- Once there is an account, every call gets closer to it, and it stays the only
one. -/
theorem Meeting.turn_of_made
    {t : Turn (Fin n)} {u : User} {x : ExternalIdentity}
    (hmade : Made s₀ identity email u x p.store)
    (hcalls : ∀ i, Joining c device around identity email u i (p.calls i)) :
    Meeting c device around identity email s₀ (p.turn t) := by
  have hjoining := hcalls t.call
  generalize hq : p.calls t.call = q at hjoining
  have hnext (hmade' : Made s₀ identity email u x (p.turn t).store)
      (hself : Joining c device around identity email u t.call
        ((p.turn t).calls t.call)) :
      Meeting c device around identity email s₀ (p.turn t) :=
    .made u x hmade' (Pool.forall_calls_turn hcalls hself)
  -- A call that has ended does nothing with its turn.
  have hdone {a : Except ServiceError Grant} (hq : p.calls t.call = .done a) :
      Meeting c device around identity email s₀ (p.turn t) := by
    rw [Pool.turn_of_done hq]
    exact .made u x hmade hcalls
  have hfound := hmade.findExternalUser_eq hunbound
  cases hjoining with
  | looking h =>
      cases h with
      | start =>
          rw [identityCall] at hq
          have hself := Pool.turn_calls_self hq
          simp only [perform, hfound] at hself
          refine hnext (Pool.turn_store hq ▸ hmade) ?_
          rw [hself]
          exact .opening (openCall_opens ..)
      | addressing =>
          obtain ⟨record, hrecord⟩ := hmade.exists_findLogin
          have hself := Pool.turn_calls_self hq
          simp only [perform, hrecord] at hself
          exact hnext (Pool.turn_store hq ▸ hmade) (hself ▸ .again)
      | creating =>
          have hcreate := hmade.createExternalUser_eq hunbound hname (around t.call)
          have hself := Pool.turn_calls_self hq
          have hstore := Pool.turn_store hq
          simp only [perform, hcreate] at hself hstore
          refine hnext (hstore ▸ hmade) ?_
          rw [hself]
          exact .opening (openCall_opens ..)
  | again =>
      have hself := Pool.turn_calls_self hq
      simp only [perform, hfound] at hself
      refine hnext (Pool.turn_store hq ▸ hmade) ?_
      rw [hself]
      exact .opening (openCall_opens ..)
  | opening h =>
      cases h with
      | refused e _ => exact hdone hq
      | creating x t' now next hgrants =>
          have hself := Pool.turn_calls_self hq
          have hstore := Pool.turn_store hq
          obtain ⟨g, hg, huser⟩ := hgrants (p.store.createSession x t' now).1
          refine hnext (hmade.of_sameAccounts ?_) ?_
          · rw [hstore]
            exact createSession_sameAccounts p.store x t' now
          · exact (hself.trans hg) ▸ .joined g huser
  | joined g _ => exact hdone hq

include hunbound hfree hname hemail hnew in
theorem Meeting.turn
    (h : Meeting c device around identity email s₀ p) (t : Turn (Fin n)) :
    Meeting c device around identity email s₀ (p.turn t) := by
  cases h with
  | unmade hstore hcalls =>
      exact turn_of_unmade hunbound hfree hname hemail hnew hstore hcalls
  | made u x hmade hcalls => exact turn_of_made hunbound hname hmade hcalls

end

/-! ## The outcome -/

theorem openCall_asksAtMost (d : Device) (o : Surroundings) (k : ℕ) (u : User) :
    (openCall c d o k u).AsksAtMost 1 := by
  have hopens := openCall_opens c d o k u
  generalize openCall c d o k u = q at hopens
  cases hopens with
  | refused e _ => exact .done 1 _
  | creating x t now next hgrants =>
      refine .ask _ fun created => ?_
      obtain ⟨g, hg, -⟩ := hgrants created
      rw [hg]
      exact .done 0 _

theorem exchangeCall_asksAtMost (d : Device) (o : Surroundings) :
    (exchangeCall c provider token d o).AsksAtMost 4 := by
  rw [exchangeCall_eq]
  unfold afterVerifying
  split
  · exact .done 4 _
  · exact .done 4 _
  split
  · split
    · refine .ask _ fun found => ?_
      cases found with
      | some u => exact (openCall_asksAtMost ..).mono (by decide)
      | none =>
          refine .ask _ fun record => ?_
          cases record with
          | some record =>
              refine .ask _ fun found => ?_
              cases found with
              | some u => exact openCall_asksAtMost ..
              | none => exact .done 1 _
          | none =>
              refine .ask _ fun outcome => ?_
              cases outcome with
              | created u => exact openCall_asksAtMost ..
              | identityExists u => exact openCall_asksAtMost ..
              | emailTaken => exact .done 1 _
    · exact .done 4 _
  · exact .done 4 _

variable (around identity email s₀ p) in
/-- One account has been made, with the address, and one identity, which is bound
to it.  All calls have logged in to it, but for calls for which signing failed. -/
structure OneAccount : Prop where
  account : ∃ u x, p.store.users.rows = s₀.users.rows ++ [u] ∧ u.email = email ∧
    p.store.identities = s₀.identities ++ [x] ∧
    x.provider = identity.provider ∧ x.subject = identity.subject ∧ x.user = u.id ∧
    ∀ i, (around i).Signs → ∃ g, p.result? i = some (.ok g) ∧ g.user.id = u.id
  linkless : ∀ i, p.result? i ≠ some (.error .linkRequired)

theorem Joining.result
    {i : Fin n} {u : User} (hactive : u.status = .active)
    {a : Except ServiceError Grant}
    (h : Joining c device around identity email u i (.done a)) :
    (∃ g, a = .ok g ∧ g.user = u.view) ∨
      (¬(around i).Signs ∧ ∃ text, a = .error (.internal text)) := by
  generalize hq : Program.done a = q at h
  cases h with
  | looking h =>
      subst hq
      exact h.not_done.elim
  | again => cases hq
  | opening h =>
      cases h with
      | refused e hunsigned =>
          cases hq
          obtain ⟨k, r, text, hsign, rfl⟩ := hunsigned hactive
          refine Or.inr ⟨fun hsigns => ?_, text, rfl⟩
          obtain ⟨access, haccess⟩ := hsigns k r
          rw [hsign] at haccess
          cases haccess
      | creating _ _ _ _ _ => cases hq
  | joined g huser =>
      cases hq
      exact Or.inl ⟨g, rfl, huser⟩

theorem Meeting.oneAccount
    (h : Meeting c device around identity email s₀ p) (hn : 1 ≤ n)
    (hended : p.Finished) : OneAccount around identity email s₀ p := by
  cases h with
  | unmade _ hcalls =>
      obtain ⟨a, ha⟩ := Option.isSome_iff_exists.mp (hended ⟨0, hn⟩)
      have hlooking := hcalls ⟨0, hn⟩
      rw [Pool.result?_eq_some_iff.mp ha] at hlooking
      exact hlooking.not_done.elim
  | made u x hmade hcalls =>
      have hresult (i : Fin n) : ∃ a, p.result? i = some a ∧
          ((∃ g, a = .ok g ∧ g.user = u.view) ∨
            (¬(around i).Signs ∧ ∃ text, a = .error (.internal text))) := by
        obtain ⟨a, ha⟩ := Option.isSome_iff_exists.mp (hended i)
        have hjoining := hcalls i
        rw [Pool.result?_eq_some_iff.mp ha] at hjoining
        exact ⟨a, ha, hjoining.result hmade.active⟩
      refine ⟨⟨u, x, ?_, hmade.address, hmade.identities, hmade.provider,
        hmade.subject, hmade.owner, fun i hsigns => ?_⟩, fun i hlink => ?_⟩
      · rw [hmade.users, Table.rows_insert_of_get?_eq_none hmade.new]
      · obtain ⟨_, ha, ⟨g, rfl, huser⟩ | ⟨hunsigned, -⟩⟩ := hresult i
        · exact ⟨g, ha, by rw [huser]; rfl⟩
        · exact absurd hsigns hunsigned
      · obtain ⟨_, ha, ⟨g, rfl, -⟩ | ⟨-, text, rfl⟩⟩ := hresult i
        · cases ha.symm.trans hlink
        · cases ha.symm.trans hlink

end

/-- Let calls log in with one identity token, on any devices, in a store where
the identity is not bound and nobody has its verified address.  However their
requests follow on each other, every call ends with its fourth request, and when
all have ended they have made one account, with the address, and one identity,
which is bound to it; all of them for which signing succeeds have logged in to
that account, and none has been told to link it. -/
theorem firstSignIns_meet
    (s : Store) (c : ServiceSettings) (v : OidcVerifier) (provider token : String)
    (identity : ProviderIdentity) (address : String)
    (haddress : identity.email = some address)
    (hverified : identity.emailVerified = true)
    (hfree : s.userByEmail? (Email.normalize address) = none)
    (hunbound : s.identity? identity.provider identity.subject = none)
    (n : ℕ) (hn : 1 ≤ n) (device : Fin n → Device) (around : Fin n → Surroundings)
    (hverifies : ∀ i, (around i).Verifies v)
    (htoken : ∀ i, around i 0 (.verifyIdToken provider token) = .verified identity)
    (hnew : ∀ i k, s.users.get? (around i k .freshId) = none)
    (ts : List (Turn (Fin n))) :
    (∀ i, (4 ≤ ts.countP fun t => t.call = i) →
        (((signIns c provider token device around s).run ts).result? i).isSome =
          true) ∧
      (((signIns c provider token device around s).run ts).Finished →
        OneAccount around identity (Email.normalize address) s
          ((signIns c provider token device around s).run ts)) := by
  constructor
  · intro i hturns
    exact Pool.isSome_result?_run (exchangeCall_asksAtMost ..) hturns
  · have hcall (i : Fin n) : exchangeCall c provider token (device i) (around i) =
        identityCall c (device i) (around i) identity (Email.normalize address) := by
      rw [exchangeCall_eq, htoken, afterVerifying, haddress]
      exact if_pos hverified
    have hstart : Meeting c device around identity (Email.normalize address) s
        (signIns c provider token device around s) := by
      refine .unmade rfl fun i => ?_
      change Looking c device around identity _ i
        (exchangeCall c provider token (device i) (around i))
      rw [hcall]
      exact .start
    have hname := (hverifies ⟨0, hn⟩).normalizeProvider_eq (htoken ⟨0, hn⟩)
    have hnobody : s.findLogin (Email.normalize address) = none := by
      rw [findLogin, hfree]
      rfl
    have hend : Meeting c device around identity (Email.normalize address) s
        ((signIns c provider token device around s).run ts) :=
      Pool.run_induction hstart fun t _ p hp =>
        hp.turn hunbound hnobody hname (Email.normalize_normalize address)
          (fun i => hnew i 4) t
    exact hend.oneAccount hn

/-- Two calls take turns: they look for the identity, then for its address, and
then both of them ask for an account. -/
def sampleMeeting : List (Turn (Fin 2)) :=
  (List.replicate 4 (List.finRange 2)).flatten.map fun i => ⟨i, .zero⟩

theorem signs_signingIn (id : Uuid) : (signingIn id).Signs :=
  fun _ _ => ⟨"", rfl⟩

theorem firstSignIns_meet_sample :
    let around (i : Fin 2) := signingIn ⟨100 + i.val⟩
    sampleIdentity.email = some "a@b.c" ∧ sampleIdentity.emailVerified = true ∧
      Store.empty.userByEmail? (Email.normalize "a@b.c") = none ∧
      Store.empty.identity? sampleIdentity.provider sampleIdentity.subject = none ∧
      (∀ i, (around i).Verifies sampleVerifier) ∧
      (∀ i, around i 0 (.verifyIdToken "google" sampleIdToken.text) =
        .verified sampleIdentity) ∧
      (∀ i k, Store.empty.users.get? (around i k .freshId) = none) ∧
      (∀ i, (around i).Signs) ∧
      OneAccount around sampleIdentity (Email.normalize "a@b.c") Store.empty
        ((signIns sampleSettings "google" sampleIdToken.text (fun _ => {}) around
          Store.empty).run sampleMeeting) := by
  intro around
  have hverifies (i : Fin 2) := verifies_signingIn ⟨100 + i.val⟩
  have htoken (i : Fin 2) :
      around i 0 (.verifyIdToken "google" sampleIdToken.text) =
        .verified sampleIdentity := sampleVerifier_verify
  obtain ⟨hended, houtcome⟩ := firstSignIns_meet Store.empty sampleSettings
    sampleVerifier "google" sampleIdToken.text sampleIdentity "a@b.c" rfl rfl rfl rfl
    2 (by decide) (fun _ => {}) around hverifies htoken (fun _ _ => rfl) sampleMeeting
  exact ⟨rfl, rfl, rfl, rfl, hverifies, htoken, fun _ _ => rfl,
    fun i => signs_signingIn _, houtcome fun i => hended i (by decide +revert)⟩

end AccountAuthority
